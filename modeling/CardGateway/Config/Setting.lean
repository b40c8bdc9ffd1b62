import CardGateway.Number.Shortest
import CardGateway.Text.Blank
import CardGateway.Text.Quoted
import CardGateway.Text.Split
import CardGateway.Toml.Scalar
import CardGateway.Toml.Text

/-!
# Values of settings

What a setting is given as, in a file or in an environment variable. Variables hold words, numbers,
quoted texts, lists and records; whatever reads as none of them is a text as it stands.
-/

namespace CardGateway

open CardGateway.Number CardGateway.Text

inductive Setting where
  | flag (b : Bool)
  /-- A number without sign. -/
  | natural (n : Nat)
  /-- A number that may have a sign. -/
  | integer (n : Int)
  | real (x : Toml.Real)
  | text (s : String)
  | list (items : List Setting)
  | record

namespace Setting

/-- Decimals without an exponent. -/
def realText : Toml.Real → String
  | .finite negative x => (if negative then "-" else "") ++ (Decimal.shortest x).plain
  | .infinite negative => if negative then "-inf" else "inf"
  | .nan => "NaN"

def name : Setting → String
  | .flag b => s!"bool {b}"
  | .natural n => s!"unsigned int `{n}`"
  | .integer n => s!"signed int `{n}`"
  | .real x => s!"float `{realText x}`"
  | .text s => s!"string {Quoted.quote s}"
  | .list _ => "sequence"
  | .record => "map"

mutual

def ofToml : Toml.Value → Setting
  | .text s => .text s
  | .integer n => .integer n
  | .real x => .real x
  | .flag b => .flag b
  | .date => .record
  | .list items => .list (ofTomlItems items)
  | .tables items => .list (items.map fun _ => .record)
  | .table _ _ => .record

def ofTomlItems : List Toml.Value → List Setting
  | [] => []
  | item :: rest => ofToml item :: ofTomlItems rest

end

def isBlank (c : Char) : Bool := c.isWhitespace || c == '\x0c'

def isSeparator (c : Char) : Bool := [',', '\x7b', '\x7d', '[', ']'].contains c

def isDigits (text : List Char) : Bool := !text.isEmpty && text.all Char.isDigit

def digitsOf (text : List Char) : List Nat := text.map fun c => c.toNat - 48

/-- A number of 64 bits, written with a minus or not. -/
def integer? (text : List Char) : Option Setting := do
  let (negative, digits) := Toml.splitSign text
  guard (isDigits digits)
  let n := Toml.valueOf 10 (digitsOf digits)
  if negative then if n ≤ 0x8000000000000000 then some (.integer (-n)) else none
  else if n < 0x10000000000000000 then some (.natural n) else none

/-- Digits before or behind the point, and an exponent or none. -/
def real? (text : List Char) : Option Setting := do
  let (negative, rest) := Toml.splitSign text
  let (mantissa, power) := Toml.cutAt (fun c => c == 'e' || c == 'E') rest
  let (before, after) := Toml.cutAt (· == '.') mantissa
  let after ← after
  let digits := before ++ after
  guard (isDigits digits)
  let power : Int ← match power with
    | some text => do
        let (down, text) := Toml.splitSign text
        guard (isDigits text)
        let n : Int := Toml.valueOf 10 (digitsOf text)
        some (if down then -n else n)
    | none => some 0
  return .real (Toml.realOf negative (digitsOf digits) (power - after.length))

def ofWord (word : List Char) : Setting :=
  let word := trimChars word
  ((real? word <|> integer? word)).getD (.text (String.ofList word))

/-- The content of a quoted text, behind its opening quote, escapes being as they stand. -/
def quoted? : List Char → Option (List Char × List Char)
  | [] => none
  | '"' :: rest => some ([], rest)
  | '\\' :: c :: rest => do
      let (chars, rest) ← quoted? rest
      return ('\\' :: c :: chars, rest)
  | c :: rest => do
      let (chars, rest) ← quoted? rest
      return (c :: chars, rest)

def quotedText? (text : List Char) : Option (String × List Char) := do
  let (raw, rest) ← quoted? text
  let (chars, _) ← Toml.basic? (raw.length + 1) (raw ++ ['"'])
  return (String.ofList chars, rest)

/-- The key in front of a value of a record. -/
def key? (text : List Char) : Option (List Char) :=
  match text.dropWhile isBlank with
  | '"' :: rest => (quotedText? rest).map (·.2)
  | chars =>
      if (chars.takeWhile Toml.isBareChar).isEmpty then none
      else some (chars.dropWhile Toml.isBareChar)

/-- The text behind a word that stands at the front. -/
def behind? (word : List Char) (text : List Char) : Option (List Char) :=
  if word.isPrefixOf text then some (text.drop word.length) else none

mutual

def value? : Nat → List Char → Option (Setting × List Char)
  | 0, _ => none
  | steps + 1, chars => do
      let text := chars.dropWhile isBlank
      let (value, rest) ←
        match behind? ['t', 'r', 'u', 'e'] text, behind? ['f', 'a', 'l', 's', 'e'] text with
        | some rest, _ => some (.flag true, rest)
        | none, some rest => some (.flag false, rest)
        | none, none =>
            match text with
            | '\x7b' :: rest => (members? steps rest).map fun rest => (.record, rest)
            | '[' :: rest => (items? steps rest).map fun (items, rest) => (.list items, rest)
            | '"' :: rest => (quotedText? rest).map fun (s, rest) => (.text s, rest)
            | ['\''] | ['\'', _] => none
            | '\'' :: c :: close :: rest =>
                if close == '\'' then some (.text (String.ofList [c]), rest) else none
            | chars =>
                some (ofWord (chars.takeWhile fun c => !isSeparator c),
                  chars.dropWhile fun c => !isSeparator c)
      return (value, rest.dropWhile isBlank)

def items? : Nat → List Char → Option (List Setting × List Char)
  | 0, _ => none
  | _ + 1, ']' :: rest => some ([], rest)
  | steps + 1, chars => do
      let (first, rest) ← value? steps chars
      match rest with
      | ',' :: rest =>
          let (items, rest) ← items? steps rest
          return (first :: items, rest)
      | ']' :: rest => return ([first], rest)
      | _ => none

def members? : Nat → List Char → Option (List Char)
  | 0, _ => none
  | _ + 1, '\x7d' :: rest => some rest
  | steps + 1, chars => do
      let rest ← key? chars
      match rest.dropWhile isBlank with
      | '=' :: rest =>
          let (_, rest) ← value? steps rest
          match rest with
          | ',' :: rest => members? steps rest
          | '\x7d' :: rest => return rest
          | _ => none
      | _ => none

end

/-- The value of an environment variable. -/
def ofText (text : String) : Setting :=
  match value? (3 * text.length + 3) text.toList with
  | some (value, []) => value
  | _ => .text text

end Setting

end CardGateway
