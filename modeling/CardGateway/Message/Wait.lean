import CardGateway.Json.Record
import CardGateway.Text.Blank
import CardGateway.Time.Race

/-!
# Wait budgets

Requests say how many seconds an answer may take. Any number is understood: one below zero is zero,
one too large for 64 bits is the largest, and one with a fraction counts as no number at all. The
budget is an hour at most.
-/

namespace CardGateway

open CardGateway.Number CardGateway.Text

namespace Wait

def secondsOf (n : Nat) : UInt64 :=
  if n < 0x10000000000000000 then n.toUInt64 else 0xFFFFFFFFFFFFFFFF

def ofNumber : Json.Number → Option UInt64
  | .natural n => some (secondsOf n)
  | .negative _ => some 0
  | .float negative x =>
      if !x.isWhole then none
      else if negative then some 0
      else some (secondsOf x.floor)

def isDecimal (digits : List Char) : Bool :=
  !digits.isEmpty && digits.all Char.isDigit

def decimalValue (digits : List Char) : Nat :=
  digits.foldl (fun n c => n * 10 + (c.toNat - 48)) 0

/-- Digits with a sign or none, in blanks or not. -/
def ofText (s : String) : Option UInt64 :=
  let chars := trimChars s.toList
  let (negative, digits) := match chars with
    | '-' :: rest => (true, rest)
    | '+' :: rest => (false, rest)
    | rest => (false, rest)
  if !isDecimal digits then none
  else if negative then some 0
  else some (secondsOf (decimalValue digits))

def expected : String := "a number of seconds"

def read : Json.Node → Except Json.Fault (Option UInt64)
  | .null => .ok none
  | .number digits stop => do return ofNumber (← Json.readNumber digits stop)
  | .text raw => do
      let s ← Json.readText raw
      match ofText s with
      | some n => return some n
      | none => throw (.wrongValue (.text (trim s)) expected)
  | node => node.mismatch expected

def field : Json.Field (Option UInt64) where
  name := "MaxWaitSeconds"
  read := read
  absent := some none
  trails := true
  write value := value.map fun n => .natural n.toNat

def limitSeconds : Nat := 3600

def budget : Option UInt64 → Millis
  | some n => if n.toNat < limitSeconds then n.toNat * 1000 else limitSeconds * 1000
  | none => limitSeconds * 1000

theorem budget_le (wait : Option UInt64) : budget wait ≤ limitSeconds * 1000 := by
  unfold budget
  split
  · split
    · exact Nat.mul_le_mul_right _ (Nat.le_of_lt (by assumption))
    · exact Nat.le_refl _
  · exact Nat.le_refl _

end Wait

end CardGateway
