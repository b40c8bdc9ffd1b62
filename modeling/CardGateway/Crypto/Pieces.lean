import CardGateway.Text.Utf8

/-!
# Bytes as numbers and as pieces

Numbers of a fixed count of bytes, and byte strings cut into pieces of one size.
-/

namespace CardGateway.Crypto

/-- The number of a byte string, its first byte being the highest. -/
def natOfBytes (bytes : Bytes) : Nat :=
  bytes.foldl (fun n b => n * 256 + b.toNat) 0

/-- The lowest `count` bytes of a number, the highest of them first. -/
def bytesOfNat : Nat → Nat → Bytes
  | 0, _ => []
  | count + 1, n => (n / Nat.pow 256 count % 256).toUInt8 :: bytesOfNat count n

/-- The pieces of `size` bytes, the last one perhaps shorter. -/
def pieces (size : Nat) (bytes : Bytes) : List Bytes :=
  if bytes = [] ∨ size = 0 then [] else bytes.take size :: pieces size (bytes.drop size)
termination_by bytes.length
decreasing_by
  rename_i h
  have : bytes.length ≠ 0 := by simpa using fun e => h (Or.inl e)
  simp only [List.length_drop]
  omega

theorem flatten_pieces {size : Nat} (positive : 0 < size) (bytes : Bytes) :
    (pieces size bytes).flatten = bytes := by
  induction h : bytes.length using Nat.strongRecOn generalizing bytes with
  | ind n ih =>
      subst h
      rw [pieces]
      split
      · next h => rcases h with rfl | h
                  · rfl
                  · omega
      · next h =>
          have : bytes.length ≠ 0 := by simpa using fun e => h (Or.inl e)
          rw [List.flatten_cons, ih _ (by simp only [List.length_drop]; omega) _ rfl,
            List.take_append_drop]

end CardGateway.Crypto
