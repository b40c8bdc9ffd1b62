import Mathlib.Algebra.Group.Nat.Defs
import CardGateway.Crypto.Pieces

/-!
# Numbers in a fixed count of bytes

Bytes of one length are told apart by their numbers, and a number that is small enough has one string
of each length.
-/

namespace CardGateway.Crypto

theorem foldl_bytes (n : Nat) (bytes : Bytes) :
    bytes.foldl (fun n b => n * 256 + b.toNat) n = n * 256 ^ bytes.length + natOfBytes bytes := by
  unfold natOfBytes
  induction bytes generalizing n with
  | nil => simp
  | cons b rest ih =>
      rw [List.foldl_cons, ih, List.foldl_cons, ih (0 * 256 + b.toNat), List.length_cons,
        Nat.pow_succ', Nat.add_mul, Nat.mul_assoc, Nat.zero_mul, Nat.zero_add, Nat.add_assoc]

theorem natOfBytes_cons (b : UInt8) (rest : Bytes) :
    natOfBytes (b :: rest) = b.toNat * 256 ^ rest.length + natOfBytes rest := by
  rw [natOfBytes, List.foldl_cons, foldl_bytes, Nat.zero_mul, Nat.zero_add]

theorem natOfBytes_concat (front : Bytes) (b : UInt8) :
    natOfBytes (front ++ [b]) = natOfBytes front * 256 + b.toNat := by
  simp [natOfBytes]

theorem natOfBytes_lt (bytes : Bytes) : natOfBytes bytes < 256 ^ bytes.length := by
  induction bytes with
  | nil => exact Nat.one_pos
  | cons b rest ih =>
      have digit : b.toNat + 1 ≤ 256 := b.toNat_lt
      calc natOfBytes (b :: rest)
          < b.toNat * 256 ^ rest.length + 256 ^ rest.length := by
            rw [natOfBytes_cons]
            exact Nat.add_lt_add_left ih _
        _ = (b.toNat + 1) * 256 ^ rest.length := (Nat.succ_mul _ _).symm
        _ ≤ 256 * 256 ^ rest.length := Nat.mul_le_mul_right _ digit
        _ = 256 ^ (b :: rest).length := Nat.pow_succ'.symm

theorem natOfBytes_inj {bytes others : Bytes} (length : bytes.length = others.length)
    (same : natOfBytes bytes = natOfBytes others) : bytes = others := by
  induction bytes generalizing others with
  | nil => exact (List.length_eq_zero_iff.mp length.symm).symm
  | cons b rest ih =>
      obtain _ | ⟨c, more⟩ := others
      · cases length
      · have length : rest.length = more.length := Nat.succ.inj length
        have low := natOfBytes_lt rest
        have other := natOfBytes_lt more
        rw [← length] at other
        rw [natOfBytes_cons, natOfBytes_cons, ← length] at same
        have high : b.toNat = c.toNat := by
          have positive : 0 < 256 ^ rest.length := Nat.pow_pos (by decide)
          have quotient := congrArg (· / 256 ^ rest.length) same
          simpa only [Nat.mul_comm _ (256 ^ rest.length), Nat.mul_add_div positive,
            Nat.div_eq_of_lt low, Nat.div_eq_of_lt other, Nat.add_zero] using quotient
        rw [high] at same
        rw [UInt8.toNat_inj.mp high, ih length (Nat.add_left_cancel same)]

theorem bytesOfNat_length (count n : Nat) : (bytesOfNat count n).length = count := by
  induction count with
  | zero => rfl
  | succ count ih => rw [bytesOfNat, List.length_cons, ih]

theorem natOfBytes_bytesOfNat (count n : Nat) :
    natOfBytes (bytesOfNat count n) = n % 256 ^ count := by
  induction count with
  | zero => exact (Nat.mod_one n).symm
  | succ count ih =>
      have digit : (n / 256 ^ count % 256).toUInt8.toNat = n / 256 ^ count % 256 :=
        UInt8.toNat_ofNat_of_lt' (Nat.mod_lt _ (by decide))
      have cut : n % (256 ^ count * 256) =
          n % 256 ^ count + 256 ^ count * (n / 256 ^ count % 256) := Nat.mod_mul
      rw [bytesOfNat, natOfBytes_cons, bytesOfNat_length, ih, Nat.pow_succ, cut]
      show (n / 256 ^ count % 256).toUInt8.toNat * 256 ^ count + n % 256 ^ count = _
      rw [digit, Nat.mul_comm, Nat.add_comm]

/-- The fixed form of a number is the only string of its length with that number. -/
theorem eq_bytesOfNat_iff {count n : Nat} {bytes : Bytes} (small : n < 256 ^ count) :
    bytes = bytesOfNat count n ↔ bytes.length = count ∧ natOfBytes bytes = n := by
  have value : natOfBytes (bytesOfNat count n) = n := by
    rw [natOfBytes_bytesOfNat, Nat.mod_eq_of_lt small]
  constructor
  · rintro rfl
    exact ⟨bytesOfNat_length count n, value⟩
  · rintro ⟨length, same⟩
    exact natOfBytes_inj (length.trans (bytesOfNat_length count n).symm) (same.trans value.symm)

/-- Two numbers side by side are found in the two halves. -/
theorem eq_bytesOfNat_append_iff {count m n : Nat} {bytes : Bytes} (small : m < 256 ^ count)
    (other : n < 256 ^ count) : bytes = bytesOfNat count m ++ bytesOfNat count n ↔
      bytes.length = count + count ∧ natOfBytes (bytes.take count) = m ∧
        natOfBytes (bytes.drop count) = n := by
  constructor
  · rintro rfl
    rw [List.take_left' (bytesOfNat_length count m), List.drop_left' (bytesOfNat_length count m),
      List.length_append, bytesOfNat_length, bytesOfNat_length]
    exact ⟨rfl, ((eq_bytesOfNat_iff small).mp rfl).2, ((eq_bytesOfNat_iff other).mp rfl).2⟩
  · rintro ⟨length, first, second⟩
    have front : bytes.take count = bytesOfNat count m :=
      (eq_bytesOfNat_iff small).mpr ⟨by simp [length], first⟩
    have back : bytes.drop count = bytesOfNat count n :=
      (eq_bytesOfNat_iff other).mpr ⟨by simp [length], second⟩
    rw [← front, ← back, List.take_append_drop]

theorem natOfBytes_append (front back : Bytes) :
    natOfBytes (front ++ back) = natOfBytes front * 256 ^ back.length + natOfBytes back := by
  rw [natOfBytes, List.foldl_append, foldl_bytes]
  rfl

/-- The bytes in front are the number without the lower bytes. -/
theorem natOfBytes_append_div (front back : Bytes) :
    natOfBytes (front ++ back) / 256 ^ back.length = natOfBytes front := by
  have positive : 0 < 256 ^ back.length := Nat.pow_pos (by decide)
  rw [natOfBytes_append, Nat.mul_comm, Nat.mul_add_div positive, Nat.div_eq_of_lt (natOfBytes_lt back),
    Nat.add_zero]

end CardGateway.Crypto
