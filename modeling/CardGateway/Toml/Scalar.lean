import CardGateway.Toml.Value

/-!
# TOML numbers, words and dates

A scalar outside of quotes is a run of letters, digits and signs, judged as a whole. Only a date and a
time of day may have a blank between them.
-/

namespace CardGateway.Toml

open CardGateway.Number

def isTokenChar (c : Char) : Bool :=
  c.isAlphanum || c == '+' || c == '-' || c == '.' || c == ':' || c == '_'

/-- The value of a digit in bases up to sixteen. -/
def digit? (base : Nat) (c : Char) : Option Nat := do
  let n ←
    if c.isDigit then some (c.toNat - 48)
    else if 'a' ≤ c && c ≤ 'f' then some (c.toNat - 87)
    else if 'A' ≤ c && c ≤ 'F' then some (c.toNat - 55)
    else none
  if n < base then some n else none

/-- Digits with single underscores between them. -/
def digits? (base : Nat) : List Char → Option (List Nat)
  | [] => none
  | [c] => do return [← digit? base c]
  | c :: '_' :: rest => do return (← digit? base c) :: (← digits? base rest)
  | c :: rest => do return (← digit? base c) :: (← digits? base rest)

def valueOf (base : Nat) (digits : List Nat) : Nat :=
  digits.foldl (fun n d => n * base + d) 0

/-- Decimal digits without a leading zero. -/
def whole? (text : List Char) : Option (List Nat) := do
  let digits ← digits? 10 text
  guard (digits.length = 1 ∨ digits.head? ≠ some 0)
  return digits

def splitSign : List Char → Bool × List Char
  | '-' :: rest => (true, rest)
  | '+' :: rest => (false, rest)
  | rest => (false, rest)

/-- Integers have 64 bits. -/
def inRange? (n : Int) : Option Int :=
  if -0x8000000000000000 ≤ n ∧ n < 0x8000000000000000 then some n else none

def integer? (token : List Char) : Option Int :=
  match token with
  | '0' :: 'x' :: rest => do inRange? (valueOf 16 (← digits? 16 rest))
  | '0' :: 'o' :: rest => do inRange? (valueOf 8 (← digits? 8 rest))
  | '0' :: 'b' :: rest => do inRange? (valueOf 2 (← digits? 2 rest))
  | _ => do
      let (negative, rest) := splitSign token
      let n : Int := valueOf 10 (← whole? rest)
      inRange? (if negative then -n else n)

/-- The text before the first of some marks, and the text behind it. -/
def cutAt (isMark : Char → Bool) (text : List Char) : List Char × Option (List Char) :=
  match text.dropWhile fun c => !isMark c with
  | [] => (text, none)
  | _ :: rest => (text.takeWhile fun c => !isMark c, some rest)

/-- The number `digits * 10 ^ exponent`; past the greatest double it is infinite. -/
def realOf (negative : Bool) (digits : List Nat) (exponent : Int) : Real :=
  let n := valueOf 10 digits
  let magnitude : Int := digits.length + exponent
  if n = 0 ∨ magnitude < -400 then .finite negative Binary64.zero
  else if 400 < exponent + digits.length - (digits.takeWhile (· == 0)).length then .infinite negative
  else
    let rounded :=
      if 0 ≤ exponent then Binary64.ofRatio (n * Nat.pow 10 exponent.toNat) 1
      else Binary64.ofRatio n (Nat.pow 10 exponent.natAbs)
    match rounded with
    | some x => .finite negative x
    | none => .infinite negative

/-- Decimals with a fraction or an exponent. One too great is refused, but not one too far below
zero. -/
def real? (token : List Char) : Option Real := do
  let (negative, rest) := splitSign token
  if rest = ['i', 'n', 'f'] then return .infinite negative
  if rest = ['n', 'a', 'n'] then return .nan
  let (mantissa, power) := cutAt (fun c => c == 'e' || c == 'E') rest
  let (before, after) := cutAt (· == '.') mantissa
  guard (power.isSome || after.isSome)
  let before ← whole? before
  let after ← match after with
    | some text => digits? 10 text
    | none => some []
  let power : Int ← match power with
    | some text => do
        let (down, text) := splitSign text
        let n : Int := valueOf 10 (← digits? 10 text)
        some (if down then -n else n)
    | none => some 0
  match realOf negative (before ++ after) (power - after.length) with
  | .infinite false => none
  | x => return x

/-- A number of exactly `count` digits at the front. -/
def fixed? (count : Nat) (text : List Char) : Option (Nat × List Char) := do
  let chars := text.take count
  guard (chars.length = count ∧ chars.all Char.isDigit)
  return (chars.foldl (fun n c => n * 10 + (c.toNat - 48)) 0, text.drop count)

def mark? (marks : List Char) : List Char → Option (List Char)
  | c :: rest => if marks.contains c then some rest else none
  | [] => none

def daysIn (year month : Nat) : Nat :=
  if month = 2 then
    if year % 4 = 0 ∧ (year % 100 ≠ 0 ∨ year % 400 = 0) then 29 else 28
  else if [4, 6, 9, 11].contains month then 30
  else 31

def day? (text : List Char) : Option (List Char) := do
  let (year, rest) ← fixed? 4 text
  let (month, rest) ← fixed? 2 (← mark? ['-'] rest)
  let (day, rest) ← fixed? 2 (← mark? ['-'] rest)
  guard (1 ≤ month ∧ month ≤ 12 ∧ 1 ≤ day ∧ day ≤ daysIn year month)
  return rest

def time? (text : List Char) : Option (List Char) := do
  let (hour, rest) ← fixed? 2 text
  let (minute, rest) ← fixed? 2 (← mark? [':'] rest)
  let (second, rest) ← fixed? 2 (← mark? [':'] rest)
  guard (hour ≤ 23 ∧ minute ≤ 59 ∧ second ≤ 60)
  match rest with
  | '.' :: rest =>
      guard (rest.head?.any Char.isDigit)
      return rest.dropWhile Char.isDigit
  | rest => return rest

/-- Whether the rest of a time is its distance from universal time, or nothing. -/
def isOffset (text : List Char) : Bool :=
  match text with
  | [] | ['Z'] | ['z'] => true
  | sign :: rest =>
      (sign == '+' || sign == '-') &&
        (do
          let (hour, rest) ← fixed? 2 rest
          let (minute, rest) ← fixed? 2 (← mark? [':'] rest)
          guard (hour ≤ 23 ∧ minute ≤ 59 ∧ rest.isEmpty)).isSome

/-- A time of day that may follow a date. -/
def isZonedTime (text : List Char) : Bool := (time? text).any isOffset

def isDate (token : List Char) : Bool :=
  match day? token with
  | some [] => true
  | some (c :: rest) => (c == 'T' || c == 't') && isZonedTime rest
  | none => (time? token).any List.isEmpty

def ofToken? (token : List Char) : Option Value :=
  if token = ['t', 'r', 'u', 'e'] then some (.flag true)
  else if token = ['f', 'a', 'l', 's', 'e'] then some (.flag false)
  else if isDate token then some .date
  else match integer? token with
    | some n => some (.integer n)
    | none => (real? token).map .real

/-- A scalar at the front. -/
def scalar? (text : List Char) : Option (Value × List Char) :=
  let token := text.takeWhile isTokenChar
  let rest := text.dropWhile isTokenChar
  match rest, day? token with
  | ' ' :: after, some [] =>
      if isZonedTime (after.takeWhile isTokenChar) then
        some (.date, after.dropWhile isTokenChar)
      else some (.date, rest)
  | _, _ => (ofToken? token).map fun value => (value, rest)

end CardGateway.Toml
