/-!
# TOML strings and keys

Strings in one or three quotes, single quotes taking everything as it stands. All readers start behind
the opening quotes and give the rest of the text; none means that the text is not TOML.
-/

namespace CardGateway.Toml

def isBlank (c : Char) : Bool := c == ' ' || c == '\t'

/-- Characters of a line, comments included. -/
def isPrintable (c : Char) : Bool := c == '\t' || (' ' ≤ c && c ≤ '~') || '\x80' ≤ c

def hexDigit? (c : Char) : Option Nat :=
  if c.isDigit then some (c.toNat - 48)
  else if 'a' ≤ c && c ≤ 'f' then some (c.toNat - 87)
  else if 'A' ≤ c && c ≤ 'F' then some (c.toNat - 55)
  else none

/-- The character with the number that `count` digits give. -/
def numbered? (count : Nat) (text : List Char) : Option (Char × List Char) := do
  let digits ← (text.take count).mapM hexDigit?
  guard (digits.length = count)
  let n := digits.foldl (fun n d => n * 16 + d) 0
  guard (n.isValidChar)
  return (Char.ofNat n, text.drop count)

/-- What stands behind a backslash. -/
def escape? : List Char → Option (Char × List Char)
  | 'b' :: rest => some ('\x08', rest)
  | 't' :: rest => some ('\t', rest)
  | 'n' :: rest => some ('\n', rest)
  | 'f' :: rest => some ('\x0c', rest)
  | 'r' :: rest => some ('\r', rest)
  | '"' :: rest => some ('"', rest)
  | '\\' :: rest => some ('\\', rest)
  | 'u' :: rest => numbered? 4 rest
  | 'U' :: rest => numbered? 8 rest
  | _ => none

def newline? : List Char → Option (List Char)
  | '\n' :: rest => some rest
  | '\r' :: '\n' :: rest => some rest
  | _ => none

def literal? : List Char → Option (List Char × List Char)
  | [] => none
  | '\'' :: rest => some ([], rest)
  | c :: rest => do
      guard (isPrintable c)
      let (chars, rest) ← literal? rest
      return (c :: chars, rest)

/-- One character or escape a step. -/
def basic? : Nat → List Char → Option (List Char × List Char)
  | 0, _ => none
  | _ + 1, [] => none
  | _ + 1, '"' :: rest => some ([], rest)
  | steps + 1, '\\' :: rest => do
      let (c, rest) ← escape? rest
      let (chars, rest) ← basic? steps rest
      return (c :: chars, rest)
  | steps + 1, c :: rest => do
      guard (isPrintable c)
      let (chars, rest) ← basic? steps rest
      return (c :: chars, rest)

/-- A run of quotes in a string of several lines: up to two are content, three close it, and two more
may stand before those. -/
def quoteRun? (mark : Char) (text : List Char) : Option (List Char × Bool × List Char) :=
  let run := text.takeWhile (· == mark)
  let rest := text.dropWhile (· == mark)
  if run.length < 3 then some (run, false, rest)
  else if run.length ≤ 5 then some (run.drop 3, true, rest)
  else none

/-- Skips blanks and line breaks. -/
def skipLines : Nat → List Char → List Char
  | 0, text => text
  | steps + 1, text =>
      let text := text.dropWhile isBlank
      match newline? text with
      | some rest => skipLines steps rest
      | none => text

/-- A backslash at the end of a line joins it to the next text. -/
def joined? (text : List Char) : Option (List Char) := do
  let rest ← newline? (text.dropWhile isBlank)
  return skipLines rest.length rest

/-- Content of several lines in the quotes `mark`, with escapes or without. -/
def lines? (mark : Char) (escapes : Bool) : Nat → List Char → Option (List Char × List Char)
  | 0, _ => none
  | _ + 1, [] => none
  | steps + 1, c :: rest =>
      if c == mark then do
        let (content, closed, rest) ← quoteRun? mark (c :: rest)
        if closed then return (content, rest)
        let (chars, rest) ← lines? mark escapes steps rest
        return (content ++ chars, rest)
      else match newline? (c :: rest) with
        | some rest => do
            let (chars, rest) ← lines? mark escapes steps rest
            return ('\n' :: chars, rest)
        | none =>
            if escapes && c == '\\' then
              match joined? rest with
              | some rest => lines? mark escapes steps rest
              | none => do
                  let (c, rest) ← escape? rest
                  let (chars, rest) ← lines? mark escapes steps rest
                  return (c :: chars, rest)
            else do
              guard (isPrintable c)
              let (chars, rest) ← lines? mark escapes steps rest
              return (c :: chars, rest)

/-- A string of several lines, a line break right behind the quotes being dropped. -/
def multiline? (mark : Char) (escapes : Bool) (text : List Char) :
    Option (List Char × List Char) :=
  let text := (newline? text).getD text
  lines? mark escapes (text.length + 1) text

def string? : List Char → Option (String × List Char)
  | '"' :: '"' :: '"' :: rest => do
      let (chars, rest) ← multiline? '"' true rest
      return (String.ofList chars, rest)
  | '\'' :: '\'' :: '\'' :: rest => do
      let (chars, rest) ← multiline? '\'' false rest
      return (String.ofList chars, rest)
  | '"' :: rest => do
      let (chars, rest) ← basic? (rest.length + 1) rest
      return (String.ofList chars, rest)
  | '\'' :: rest => do
      let (chars, rest) ← literal? rest
      return (String.ofList chars, rest)
  | _ => none

def isBareChar (c : Char) : Bool := c.isAlphanum || c == '_' || c == '-'

/-- One part of a key. Quoted parts stay on their line. -/
def keyPart? (text : List Char) : Option (String × List Char) :=
  match text with
  | '"' :: rest => do
      let (chars, rest) ← basic? (rest.length + 1) rest
      return (String.ofList chars, rest)
  | '\'' :: rest => do
      let (chars, rest) ← literal? rest
      return (String.ofList chars, rest)
  | _ =>
      match text.takeWhile isBareChar with
      | [] => none
      | chars => some (String.ofList chars, text.dropWhile isBareChar)

/-- Nesting and dotted keys stay below this. -/
def depthLimit : Nat := 80

/-- The parts of a dotted key, blanks around each of them. -/
def keyParts? : Nat → List Char → Option (List String × List Char)
  | 0, _ => none
  | steps + 1, text => do
      let (part, rest) ← keyPart? (text.dropWhile isBlank)
      match rest.dropWhile isBlank with
      | '.' :: rest =>
          let (parts, rest) ← keyParts? steps rest
          return (part :: parts, rest)
      | rest => return ([part], rest)

def key? (text : List Char) : Option (List String × List Char) :=
  keyParts? (depthLimit - 1) text

end CardGateway.Toml
