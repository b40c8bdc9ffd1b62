import CardGateway.Json.Fault
import CardGateway.Text.Utf8

/-!
# JSON numbers

`scanNumber` splits a number off a text into its parts. `NumberText.value` gives what it denotes:
an integer if it is written as one and fits 64 bits, else a double, computed from the first digits
that fit 64 bits and one scaling by a power of ten.
-/

namespace CardGateway.Json

open CardGateway.Number

/-- The parts of a number as written, digits as their values. -/
structure NumberText where
  negative : Bool
  whole : List Nat
  fraction : Option (List Nat)
  exponent : Option (Bool × List Nat)
  deriving DecidableEq, Repr

inductive NumberStop where
  | complete
  /-- The text ends inside. -/
  | cut
  | malformed
  deriving DecidableEq, Repr

def isDigit (b : UInt8) : Bool := 0x30 ≤ b && b ≤ 0x39

/-- The values of the digits at the front, and what follows them. -/
def scanDigits : Bytes → List Nat × Bytes
  | [] => ([], [])
  | b :: rest =>
      if isDigit b then
        let (digits, tail) := scanDigits rest
        ((b.toNat - 48) :: digits, tail)
      else ([], b :: rest)

def noDigits : Bytes → NumberStop
  | [] => .cut
  | _ :: _ => .malformed

def scanSign : Bytes → Bool × Bytes
  | [] => (false, [])
  | b :: rest => if b == 0x2D then (true, rest) else if b == 0x2B then (false, rest)
      else (false, b :: rest)

def scanExponent (number : NumberText) (text : Bytes) : NumberText × NumberStop × Bytes :=
  match text with
  | [] => (number, .complete, [])
  | b :: rest =>
      if b == 0x65 || b == 0x45 then
        let (negative, tail) := scanSign rest
        match scanDigits tail with
        | ([], tail) => (number, noDigits tail, tail)
        | (digits, tail) => ({ number with exponent := some (negative, digits) }, .complete, tail)
      else (number, .complete, b :: rest)

def scanFraction (number : NumberText) (text : Bytes) : NumberText × NumberStop × Bytes :=
  match text with
  | [] => (number, .complete, [])
  | b :: rest =>
      if b == 0x2E then
        match scanDigits rest with
        | ([], tail) => (number, noDigits tail, tail)
        | (digits, tail) => scanExponent { number with fraction := some digits } tail
      else scanExponent number (b :: rest)

/-- No digit follows a leading zero. -/
def scanNumber (text : Bytes) : NumberText × NumberStop × Bytes :=
  let (negative, text) := match text with
    | [] => (false, [])
    | b :: rest => if b == 0x2D then (true, rest) else (false, b :: rest)
  match scanDigits text with
  | ([], tail) => (⟨negative, [], none, none⟩, noDigits tail, tail)
  | (0 :: d :: digits, tail) => (⟨negative, 0 :: d :: digits, none, none⟩, .malformed, tail)
  | (digits, tail) => scanFraction ⟨negative, digits, none, none⟩ tail

inductive Number where
  | natural (n : Nat)
  /-- The integer `-n`, with `n` positive. -/
  | negative (n : Nat)
  | float (negative : Bool) (magnitude : Binary64)
  deriving DecidableEq, Repr

namespace Number

def naturalLimit : Nat := 0x10000000000000000

def negativeLimit : Nat := 0x8000000000000000

/-- Takes digits up to the first that leads past 64 bits; the rest is returned. -/
def gather : Nat → List Nat → Nat × List Nat
  | n, [] => (n, [])
  | n, d :: rest =>
      if n * 10 + d < naturalLimit then gather (n * 10 + d) rest else (n, d :: rest)

/-- Divides by `10 ^ k`, by `10 ^ 308` at a time. -/
def lower (x : Binary64) (k : Nat) : Nat → Option Binary64
  | 0 => (Binary64.tenPower k).bind x.div
  | steps + 1 =>
      if k ≤ 308 then (Binary64.tenPower k).bind x.div
      else if x.isZero then some x
      else do lower (← x.div (← Binary64.tenPower 308)) (k - 308) steps

def raise (x : Binary64) (k : Nat) : Option Binary64 :=
  if k ≤ 308 then (Binary64.tenPower k).bind x.mul else if x.isZero then some x else none

/-- The double for `n * 10 ^ exponent`, none past the greatest. -/
def scale (n : Nat) (exponent : Int) : Option Binary64 := do
  let x ← Binary64.ofNat? n
  if 0 ≤ exponent then raise x exponent.toNat
  else lower x exponent.natAbs (exponent.natAbs / 308)

def exponentLimit : Nat := 0x80000000

def digitsValue (digits : List Nat) : Nat :=
  digits.foldl (fun n d => n * 10 + d) 0

def float? (text : NumberText) : Option Binary64 :=
  let (n, dropped) := gather 0 text.whole
  let fraction := text.fraction.getD []
  let (n, left) := gather n fraction
  let point : Int := (dropped.length : Int) - ((fraction.length - left.length : Nat) : Int)
  match text.exponent with
  | none => scale n point
  | some (down, digits) =>
      let e := digitsValue digits
      if exponentLimit ≤ e then
        if n ≠ 0 && !down then none else some Binary64.zero
      else scale n (if down then point - e else point + e)

/-- A negative zero is a double. -/
def ofText (text : NumberText) : Except Fault Number :=
  let n := digitsValue text.whole
  let integer : Option Number :=
    if text.fraction.isSome || text.exponent.isSome then none
    else if text.negative then
      if 0 < n && n ≤ negativeLimit then some (.negative n) else none
    else if n < naturalLimit then some (.natural n) else none
  match integer with
  | some n => .ok n
  | none =>
      match float? text with
      | some x => .ok (.float text.negative x)
      | none => .error .numberRange

def found : Number → Found
  | .natural n => .integer n
  | .negative n => .integer (-n)
  | .float minus x => .float minus x

end Number

end CardGateway.Json
