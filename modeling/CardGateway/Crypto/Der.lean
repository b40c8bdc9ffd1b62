import CardGateway.Crypto.Pieces

/-!
# Distinguished encodings

A sequence of two natural numbers, each in the fewest bytes that keep its sign. Every length is below
128 and takes one byte.
-/

namespace CardGateway.Crypto.Der

/-- The content of a tag and the bytes behind it. -/
def split? (tag : UInt8) : Bytes → Option (Bytes × Bytes)
  | t :: length :: rest =>
      if t = tag ∧ length < 0x80 ∧ length.toNat ≤ rest.length then
        some (rest.take length.toNat, rest.drop length.toNat)
      else none
  | _ => none

/-- A leading zero stands only before a byte whose highest bit is set. -/
def natural? : Bytes → Option Nat
  | [] => none
  | [b] => if b < 0x80 then some b.toNat else none
  | a :: b :: rest =>
      if a = 0 then
        if b < 0x80 then none else some (natOfBytes (b :: rest))
      else if a < 0x80 then some (natOfBytes (a :: b :: rest))
      else none

def pair? (bytes : Bytes) : Option (Nat × Nat) := do
  let (content, rest) ← split? 0x30 bytes
  guard rest.isEmpty
  let (first, content) ← split? 0x02 content
  let (second, content) ← split? 0x02 content
  guard content.isEmpty
  return (← natural? first, ← natural? second)

/-- The fewest bytes of a number below `256 ^ count`, at least one. -/
def fewest : Nat → Nat → Bytes
  | 0, n => [n.toUInt8]
  | count + 1, n =>
      if n < 256 then [n.toUInt8] else fewest count (n / 256) ++ [(n % 256).toUInt8]

def natural (n : Nat) : Bytes :=
  let bytes := fewest 33 n
  let bytes := if bytes.head?.any (0x80 ≤ ·) then 0 :: bytes else bytes
  0x02 :: bytes.length.toUInt8 :: bytes

def pair (first second : Nat) : Bytes :=
  let content := natural first ++ natural second
  0x30 :: content.length.toUInt8 :: content

end CardGateway.Crypto.Der
