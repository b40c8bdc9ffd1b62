import Mathlib.FieldTheory.Finite.Basic
import CardGateway.Crypto.Ecdsa
import CardGateway.Proofs.ByteNumbers
import CardGateway.Proofs.FieldPrime

/-!
# Points written as bytes

A point is found again from its abscissa and the parity of its ordinate, since a number and its opposite
are the only roots of a square and one of them is odd. So a public key is read from exactly the bytes
that a point of the curve is written as.
-/

namespace CardGateway.Crypto

open Secp256k1

namespace Secp256k1

instance : Fact (Nat.Prime prime) := ⟨prime_prime⟩

variable {x y : Nat} {odd : Bool} {point : Point}

theorem Point.isOnCurve_iff : point.isOnCurve = true ↔
    point.x < prime ∧ point.y < prime ∧ point.y * point.y % prime = cubic point.x := by
  simp only [Point.isOnCurve, Bool.and_eq_true, decide_eq_true_eq, beq_iff_eq, and_assoc]

/-- A square to this power is one of its roots. -/
theorem root_pow_two (a : ZMod prime) : ((a * a) ^ ((prime + 1) / 4)) ^ 2 = a ^ 2 := by
  by_cases zero : a = 0
  · rw [zero, zero_mul, zero_pow (by decide)]
  · have unit := ZMod.pow_card_sub_one_eq_one zero
    calc ((a * a) ^ ((prime + 1) / 4)) ^ 2
        = a ^ (2 * ((prime + 1) / 4) * 2) := by rw [← pow_two, ← pow_mul, ← pow_mul, mul_assoc]
      _ = a ^ (prime - 1 + 2) := congrArg (a ^ ·) (by decide)
      _ = a ^ 2 := by rw [pow_add, unit, one_mul]

/-- The root that is found of a square is its number or the opposite one. -/
theorem root_eq_or_opposite (small : y < prime) (square : y * y % prime = cubic x) :
    power prime (cubic x) 256 ((prime + 1) / 4) = y ∨
      (power prime (cubic x) 256 ((prime + 1) / 4) + y) % prime = 0 := by
  have below : power prime (cubic x) 256 ((prime + 1) / 4) < prime := power_lt (by decide)
  have cast : ((power prime (cubic x) 256 ((prime + 1) / 4) : Nat) : ZMod prime) =
      ((y : ZMod prime) * y) ^ ((prime + 1) / 4) := by
    rw [natCast_power (by decide), ← square, ZMod.natCast_mod, Nat.cast_mul]
  generalize power prime (cubic x) 256 ((prime + 1) / 4) = root at below cast ⊢
  have squares : (root : ZMod prime) ^ 2 = (y : ZMod prime) ^ 2 := by rw [cast, root_pow_two]
  rcases sq_eq_sq_iff_eq_or_eq_neg.mp squares with same | opposite
  · left
    have values := congrArg ZMod.val same
    rwa [ZMod.val_natCast_of_lt below, ZMod.val_natCast_of_lt small] at values
  · right
    have sum : ((root + y : Nat) : ZMod prime) = 0 := by
      rw [Nat.cast_add, opposite, neg_add_cancel]
    exact Nat.mod_eq_zero_of_dvd ((ZMod.natCast_eq_zero_iff _ _).mp sum)

/-- The root that is found, or its opposite, as one is asked for. -/
def chosenRoot (x : Nat) (odd : Bool) : Nat :=
  let root := power prime (cubic x) 256 ((prime + 1) / 4)
  if (root % 2 == 1) == odd then root else prime - root

theorem chosenRoot_parity (x : Nat) (odd : Bool) : (chosenRoot x odd % 2 == 1) = odd := by
  have below : power prime (cubic x) 256 ((prime + 1) / 4) < prime := power_lt (by decide)
  unfold chosenRoot
  generalize power prime (cubic x) 256 ((prime + 1) / 4) = root at below ⊢
  have unpaired : prime % 2 = 1 := by decide
  rcases Nat.mod_two_eq_zero_or_one root with even | uneven
  · have opposite : (prime - root) % 2 = 1 := by omega
    cases odd <;> simp [even, opposite]
  · have opposite : (prime - root) % 2 = 0 := by omega
    cases odd <;> simp [uneven, opposite]

/-- Parity tells the two roots of a square apart. -/
theorem chosenRoot_eq (small : y < prime) (square : y * y % prime = cubic x)
    (parity : (y % 2 == 1) = odd) : chosenRoot x odd = y := by
  have below : power prime (cubic x) 256 ((prime + 1) / 4) < prime := power_lt (by decide)
  have either := root_eq_or_opposite small square
  unfold chosenRoot
  generalize power prime (cubic x) 256 ((prime + 1) / 4) = root at below either ⊢
  have unpaired : prime % 2 = 1 := by decide
  by_cases same : root = y
  · simp only [same, parity, beq_self_eq_true, if_true]
  · have opposite : prime - root = y := by
      have zero := either.resolve_left same
      have multiple := Nat.div_add_mod (root + y) prime
      have few : (root + y) / prime < 2 := Nat.div_lt_of_lt_mul (by omega)
      rw [zero] at multiple
      interval_cases (root + y) / prime <;> omega
    have apart : (root % 2 == 1) ≠ odd := by
      rw [← parity, ne_eq, Bool.eq_iff_iff, beq_iff_eq, beq_iff_eq]
      omega
    simp only [beq_eq_false_iff_ne.mpr apart, Bool.false_eq_true, if_false]
    exact opposite

theorem Point.ofAbscissa?_eq_some_iff : Point.ofAbscissa? x odd = some point ↔
    point.isOnCurve = true ∧ point.x = x ∧ (point.y % 2 == 1) = odd := by
  have chosen : Point.ofAbscissa? x odd =
      if (Point.mk x (chosenRoot x odd)).isOnCurve then some ⟨x, chosenRoot x odd⟩ else none := rfl
  rw [chosen]
  constructor
  · intro found
    split at found
    · next onCurve =>
        obtain rfl := Option.some.inj found
        exact ⟨onCurve, rfl, chosenRoot_parity x odd⟩
    · cases found
  · rintro ⟨onCurve, rfl, parity⟩
    obtain ⟨-, small, square⟩ := Point.isOnCurve_iff.mp onCurve
    rw [chosenRoot_eq small square parity, if_pos onCurve]

end Secp256k1

namespace Ecdsa.PublicKey

/-- The bytes that a point is written as: in full, by its abscissa and the parity of its ordinate, or by
its abscissa alone where the ordinate is even. -/
inductive Encodes (point : Point) : Bytes → Prop where
  | full : Encodes point (0x04 :: (bytesOfNat 32 point.x ++ bytesOfNat 32 point.y))
  | even (even : point.y % 2 = 0) : Encodes point (0x02 :: bytesOfNat 32 point.x)
  | odd (odd : point.y % 2 = 1) : Encodes point (0x03 :: bytesOfNat 32 point.x)
  | abscissa (even : point.y % 2 = 0) : Encodes point (0x05 :: bytesOfNat 32 point.x)

variable {bytes rest : Bytes} {key : PublicKey} {mark : UInt8}

theorem coordinate_lt (key : PublicKey) :
    key.point.x < 256 ^ 32 ∧ key.point.y < 256 ^ 32 := by
  obtain ⟨x, y, -⟩ := Point.isOnCurve_iff.mp key.onCurve
  exact ⟨Nat.lt_trans x (by decide), Nat.lt_trans y (by decide)⟩

theorem ofPoint?_eq_some_iff {point : Point} : ofPoint? point = some key ↔ key.point = point := by
  unfold ofPoint?
  split
  · next onCurve =>
      constructor
      · rintro ⟨⟩
        rfl
      · rintro rfl
        rfl
  · next off =>
      refine iff_of_false nofun ?_
      rintro rfl
      exact off key.onCurve

theorem ofBytes?_full (length : rest.length = 64) :
    ofBytes? (0x04 :: rest) = some key ↔
      rest = bytesOfNat 32 key.point.x ++ bytesOfNat 32 key.point.y := by
  obtain ⟨x, y⟩ := key.coordinate_lt
  have read : ofBytes? (0x04 :: rest) =
      ofPoint? ⟨natOfBytes (rest.take 32), natOfBytes (rest.drop 32)⟩ := by
    rw [ofBytes?, if_pos ⟨rfl, length⟩]
  rw [read, ofPoint?_eq_some_iff, eq_bytesOfNat_append_iff x y]
  constructor
  · intro point
    rw [point]
    exact ⟨length, rfl, rfl⟩
  · rintro ⟨-, first, second⟩
    rw [first, second]

theorem ofBytes?_short (other : ¬ (mark = 0x04 ∧ rest.length = 64)) :
    ofBytes? (mark :: rest) = some key ↔ (mark = 0x02 ∨ mark = 0x03 ∨ mark = 0x05) ∧
      rest = bytesOfNat 32 key.point.x ∧ (key.point.y % 2 == 1) = (mark == 0x03) := by
  have spelled : rest = bytesOfNat 32 key.point.x ↔ rest.length = 32 ∧ natOfBytes rest = key.point.x :=
    eq_bytesOfNat_iff key.coordinate_lt.1
  simp only [ofBytes?, if_neg other, Option.guard_eq_some', Option.bind_eq_bind,
    Option.bind_eq_some_iff, ofPoint?_eq_some_iff, Point.ofAbscissa?_eq_some_iff, spelled]
  constructor
  · rintro ⟨-, ⟨length, -⟩, -, marked, point, ⟨-, abscissa, parity⟩, rfl⟩
    rw [List.take_of_length_le length.le] at abscissa
    exact ⟨marked, ⟨length, abscissa.symm⟩, parity⟩
  · rintro ⟨marked, ⟨length, abscissa⟩, parity⟩
    rw [List.take_of_length_le length.le, abscissa]
    have inside := (Point.isOnCurve_iff.mp key.onCurve).1
    exact ⟨(), ⟨length, inside⟩, (), marked, key.point, ⟨key.onCurve, rfl, parity⟩, rfl⟩

/-- A public key is read from the bytes that its point is written as, and from no others. -/
theorem ofBytes?_eq_some_iff : ofBytes? bytes = some key ↔ Encodes key.point bytes := by
  constructor
  · intro read
    obtain _ | ⟨mark, rest⟩ := bytes
    · cases read
    by_cases full : mark = 0x04 ∧ rest.length = 64
    · obtain ⟨rfl, length⟩ := full
      rw [(ofBytes?_full length).mp read]
      exact .full
    · obtain ⟨marked, rfl, parity⟩ := (ofBytes?_short full).mp read
      rcases marked with rfl | rfl | rfl
      · exact .even (by simpa using parity)
      · exact .odd (by simpa using parity)
      · exact .abscissa (by simpa using parity)
  · intro encodes
    cases encodes with
    | full => exact (ofBytes?_full (by simp [bytesOfNat_length])).mpr rfl
    | even even => exact (ofBytes?_short (by simp)).mpr ⟨by simp, rfl, by simp [even]⟩
    | odd odd => exact (ofBytes?_short (by simp)).mpr ⟨by simp, rfl, by simp [odd]⟩
    | abscissa even => exact (ofBytes?_short (by simp)).mpr ⟨by simp, rfl, by simp [even]⟩

end Ecdsa.PublicKey

end CardGateway.Crypto
