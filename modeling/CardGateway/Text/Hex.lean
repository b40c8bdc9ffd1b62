import CardGateway.Text.Quoted

/-!
# Hexadecimal texts

Two digits a byte. Writing uses one letter case, reading takes either.
-/

namespace CardGateway.Text.Hex

inductive Fault where
  | oddLength
  | digit (byte : UInt8) (position : Nat)
  deriving DecidableEq, Repr

/-- A byte that is no digit is named as the character with its number. -/
def Fault.message : Fault → String
  | .oddLength => "Odd number of digits"
  | .digit byte position =>
      s!"Invalid character {Quoted.quoteChar (Char.ofNat byte.toNat)} at position {position}"

def digitValue (b : UInt8) : Option UInt8 :=
  if 0x30 ≤ b && b ≤ 0x39 then some (b - 0x30)
  else if 0x41 ≤ b && b ≤ 0x46 then some (b - 0x41 + 10)
  else if 0x61 ≤ b && b ≤ 0x66 then some (b - 0x61 + 10)
  else none

/-- Reads pairs of digits, the first of them standing at `position`. -/
def decodePairs (position : Nat) : Bytes → Except Fault Bytes
  | high :: low :: rest => do
      let some h := digitValue high | throw (.digit high position)
      let some l := digitValue low | throw (.digit low (position + 1))
      return (h * 16 + l) :: (← decodePairs (position + 2) rest)
  | _ => .ok []

/-- The length is judged before any digit. -/
def decode (text : Bytes) : Except Fault Bytes :=
  if text.length % 2 = 1 then .error .oddLength else decodePairs 0 text

def lowerDigit (n : UInt8) : Char :=
  if n < 10 then Char.ofNat (48 + n.toNat) else Char.ofNat (87 + n.toNat)

def upperDigit (n : UInt8) : Char :=
  if n < 10 then Char.ofNat (48 + n.toNat) else Char.ofNat (55 + n.toNat)

def encodeWith (digit : UInt8 → Char) (bytes : Bytes) : String :=
  String.ofList (bytes.flatMap fun b => [digit (b / 16), digit (b % 16)])

def encodeLower : Bytes → String := encodeWith lowerDigit

def encodeUpper : Bytes → String := encodeWith upperDigit

end CardGateway.Text.Hex
