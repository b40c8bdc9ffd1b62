import Mathlib.Data.Option.Basic
import CardGateway.Crypto.Ecdsa
import CardGateway.Proofs.ByteNumbers

/-!
# The forms of a signature

A number is read from bytes only where they are as few as can be, or where there are as many of them
as are asked for. So a signature has one distinguished encoding and one fixed form, and is read from
no other bytes.
-/

namespace CardGateway.Crypto

namespace Der

/-- Some bytes, of which the first is not zero unless it is the only one. -/
structure Tight (bytes : Bytes) : Prop where
  filled : bytes ≠ []
  lead : ∀ b rest, bytes ≠ 0 :: b :: rest

namespace Tight

theorem single (b : UInt8) : Tight [b] := ⟨by simp, by simp⟩

theorem of_lead {b : UInt8} (lead : b ≠ 0) (rest : Bytes) : Tight (b :: rest) :=
  ⟨by simp, fun _ _ same => lead (List.cons.inj same).1⟩

variable {bytes others : Bytes}

theorem concat (tight : Tight bytes) (positive : natOfBytes bytes ≠ 0) (b : UInt8) :
    Tight (bytes ++ [b]) := by
  refine ⟨by simp, fun c rest same => ?_⟩
  obtain _ | ⟨first, _ | ⟨second, more⟩⟩ := bytes
  · exact tight.filled rfl
  · obtain rfl : first = 0 := (List.cons.inj same).1
    exact positive rfl
  · obtain rfl : first = 0 := (List.cons.inj same).1
    exact tight.lead second more rfl

theorem pow_le (tight : Tight bytes) (long : 1 < bytes.length) :
    256 ^ (bytes.length - 1) ≤ natOfBytes bytes := by
  obtain _ | ⟨first, _ | ⟨second, rest⟩⟩ := bytes
  · cases long
  · simp at long
  · have positive : 0 < first.toNat := by
      refine Nat.pos_of_ne_zero fun zero => ?_
      obtain rfl : first = 0 := UInt8.toNat_inj.mp zero
      exact tight.lead second rest rfl
    rw [natOfBytes_cons]
    exact Nat.le_trans (Nat.le_mul_of_pos_left _ positive) (Nat.le_add_right _ _)

theorem length_le {k : Nat} (tight : Tight bytes) (positive : 0 < k)
    (small : natOfBytes bytes < 256 ^ k) : bytes.length ≤ k := by
  by_cases long : 1 < bytes.length
  · have powers := Nat.lt_of_le_of_lt (tight.pow_le long) small
    have less := (Nat.pow_lt_pow_iff_right (by decide)).mp powers
    omega
  · omega

theorem inj (tight : Tight bytes) (second : Tight others)
    (same : natOfBytes bytes = natOfBytes others) : bytes = others := by
  have positive : 0 < bytes.length ∧ 0 < others.length :=
    ⟨List.length_pos_iff.mpr tight.filled, List.length_pos_iff.mpr second.filled⟩
  refine natOfBytes_inj (Nat.le_antisymm ?_ ?_) same
  · exact tight.length_le positive.2 (same ▸ natOfBytes_lt others)
  · exact second.length_le positive.1 (same ▸ natOfBytes_lt bytes)

end Tight

/-- The fewest bytes are tight, and have the number. -/
theorem fewest_spec {k n : Nat} (small : n < 256 ^ (k + 1)) :
    Tight (fewest k n) ∧ natOfBytes (fewest k n) = n := by
  have single {n : Nat} (digit : n < 256) : natOfBytes [n.toUInt8] = n := by
    simpa [natOfBytes] using Nat.mod_eq_of_lt digit
  induction k generalizing n with
  | zero => exact ⟨.single _, single small⟩
  | succ k ih =>
      rw [fewest]
      split
      · next digit => exact ⟨.single _, single digit⟩
      · next large =>
          obtain ⟨tight, value⟩ := ih (Nat.div_lt_of_lt_mul (by rwa [← Nat.pow_succ']))
          have positive : n / 256 ≠ 0 := by omega
          refine ⟨tight.concat (by rwa [value]) _, ?_⟩
          have digit : (n % 256).toUInt8.toNat = n % 256 :=
            UInt8.toNat_ofNat_of_lt' (Nat.mod_lt _ (by decide))
          rw [natOfBytes_concat, value, digit]
          exact Nat.div_add_mod' n 256

/-- The bytes of a number, kept from being read as negative. -/
def signed (bytes : Bytes) : Bytes :=
  if bytes.head?.any (0x80 ≤ ·) then 0 :: bytes else bytes

theorem signed_of_high {b : UInt8} (high : 0x80 ≤ b) (rest : Bytes) :
    signed (b :: rest) = 0 :: b :: rest :=
  if_pos (by simpa using high)

theorem signed_of_low {b : UInt8} (low : b < 0x80) (rest : Bytes) :
    signed (b :: rest) = b :: rest :=
  if_neg (by simpa using low)

theorem natural?_signed {bytes : Bytes} (tight : Tight bytes) :
    natural? (signed bytes) = some (natOfBytes bytes) := by
  obtain ⟨b, rest, rfl⟩ := List.exists_cons_of_ne_nil tight.filled
  by_cases low : b < 0x80
  · rw [signed_of_low low]
    cases rest with
    | nil => simp [natural?, low, natOfBytes]
    | cons c more =>
        have lead : b ≠ 0 := by
          rintro rfl
          exact tight.lead c more rfl
        simp [natural?, low, lead]
  · rw [signed_of_high (UInt8.not_lt.mp low)]
    simp [natural?, low]

theorem exists_signed {bytes : Bytes} {n : Nat} (read : natural? bytes = some n) :
    ∃ own, Tight own ∧ natOfBytes own = n ∧ bytes = signed own := by
  unfold natural? at read
  split at read
  · cases read
  · next b =>
      split at read
      · next low =>
          obtain rfl := Option.some.inj read
          exact ⟨[b], .single b, by simp [natOfBytes], (signed_of_low low []).symm⟩
      · cases read
  · next a b rest =>
      split at read
      · next zero =>
          split at read
          · cases read
          · next high =>
              have lead : b ≠ 0 := by
                rintro rfl
                exact high (by decide)
              obtain rfl := Option.some.inj read
              exact ⟨b :: rest, .of_lead lead rest, rfl,
                zero ▸ (signed_of_high (UInt8.not_lt.mp high) rest).symm⟩
      · next lead =>
          split at read
          · next low =>
              obtain rfl := Option.some.inj read
              exact ⟨a :: b :: rest, .of_lead lead _, rfl, (signed_of_low low _).symm⟩
          · cases read

/-- The content of a number's encoding. -/
def octets (n : Nat) : Bytes := signed (fewest 33 n)

theorem natural_eq (n : Nat) : natural n = 0x02 :: (octets n).length.toUInt8 :: octets n := rfl

/-- A number is read from its octets, and from no other bytes. -/
theorem natural?_eq_some_iff {bytes : Bytes} {n : Nat} (small : n < 256 ^ 34) :
    natural? bytes = some n ↔ bytes = octets n := by
  obtain ⟨tight, value⟩ := fewest_spec (k := 33) small
  constructor
  · intro read
    obtain ⟨own, fewest, same, rfl⟩ := exists_signed read
    rw [fewest.inj tight (same.trans value.symm)]
    rfl
  · rintro rfl
    rw [octets, natural?_signed tight, value]

theorem octets_length_le {n : Nat} (small : n < 256 ^ 32) : (octets n).length ≤ 33 := by
  obtain ⟨tight, value⟩ := fewest_spec (k := 33)
    (Nat.lt_of_lt_of_le small (Nat.pow_le_pow_right (by decide) (by decide)))
  have short := tight.length_le (k := 32) (by decide) (by rwa [value])
  rw [octets, signed]
  split
  · exact Nat.succ_le_succ short
  · exact Nat.le_succ_of_le short

/-- Content of a short length stands behind its tag and the length. -/
theorem split?_eq_some_iff {tag : UInt8} {bytes content rest : Bytes} :
    split? tag bytes = some (content, rest) ↔ content.length < 0x80 ∧
      bytes = tag :: content.length.toUInt8 :: (content ++ rest) := by
  constructor
  · intro read
    obtain _ | ⟨t, _ | ⟨length, more⟩⟩ := bytes
    · cases read
    · cases read
    · rw [split?] at read
      by_cases fits : t = tag ∧ length < 0x80 ∧ length.toNat ≤ more.length
      · rw [if_pos fits] at read
        obtain ⟨rfl, short, enough⟩ := fits
        obtain ⟨rfl, rfl⟩ := Prod.mk.inj (Option.some.inj read)
        have same : (more.take length.toNat).length = length.toNat := by
          rw [List.length_take, Nat.min_eq_left enough]
        rw [same, List.take_append_drop]
        exact ⟨UInt8.lt_iff_toNat_lt.mp short, by simp⟩
      · rw [if_neg fits] at read
        cases read
  · rintro ⟨short, rfl⟩
    have own : content.length.toUInt8.toNat = content.length :=
      UInt8.toNat_ofNat_of_lt' (Nat.lt_trans short (by decide))
    have low : content.length.toUInt8 < 0x80 := by
      rw [UInt8.lt_iff_toNat_lt, own]
      exact short
    rw [split?, own, if_pos ⟨rfl, low, by simp⟩]
    simp

/-- Two numbers are read from two contents inside one. -/
theorem pair?_eq_some_iff_split {bytes : Bytes} {first second : Nat} :
    pair? bytes = some (first, second) ↔ ∃ content one more two,
      split? 0x30 bytes = some (content, []) ∧ split? 0x02 content = some (one, more) ∧
        split? 0x02 more = some (two, []) ∧ natural? one = some first ∧
          natural? two = some second := by
  simp only [pair?, Option.guard_eq_some', List.isEmpty_iff, Option.bind_eq_bind,
    Option.bind_eq_some_iff, Prod.exists, Option.pure_def, Option.some.injEq, Prod.mk.injEq]
  constructor
  · rintro ⟨content, _, whole, _, rfl, one, more, left, two, _, right, _, rfl, _, low, _, high, rfl,
      rfl⟩
    exact ⟨content, one, more, two, whole, left, right, low, high⟩
  · rintro ⟨content, one, more, two, whole, left, right, low, high⟩
    exact ⟨content, [], whole, (), rfl, one, more, left, two, [], right, (), rfl, first, low,
      second, high, rfl, rfl⟩

/-- Two numbers are read from their encoding, and from no other bytes. -/
theorem pair?_eq_some_iff {bytes : Bytes} {first second : Nat} (small : first < 256 ^ 32)
    (other : second < 256 ^ 32) :
    pair? bytes = some (first, second) ↔ bytes = pair first second := by
  have fits {n : Nat} (small : n < 256 ^ 32) {bytes : Bytes} :
      natural? bytes = some n ↔ bytes = octets n :=
    natural?_eq_some_iff (Nat.lt_of_lt_of_le small (Nat.pow_le_pow_right (by decide) (by decide)))
  have short := octets_length_le small
  have brief := octets_length_le other
  simp only [pair?_eq_some_iff_split, split?_eq_some_iff, fits small, fits other, List.append_nil]
  constructor
  · rintro ⟨_, _, _, _, ⟨-, rfl⟩, ⟨-, rfl⟩, ⟨-, rfl⟩, rfl, rfl⟩
    rfl
  · rintro rfl
    refine ⟨natural first ++ natural second, octets first, natural second, octets second,
      ⟨?_, rfl⟩, ⟨Nat.lt_of_le_of_lt short (by decide), rfl⟩,
      ⟨Nat.lt_of_le_of_lt brief (by decide), rfl⟩, rfl, rfl⟩
    simp only [natural_eq, List.length_append, List.length_cons]
    omega

end Der

namespace Ecdsa.Signature

open Secp256k1

def InRange (signature : Signature) : Prop :=
  isScalar signature.r = true ∧ isScalar signature.s = true

/-- The signature that bytes stand for. The fixed form counts only where the bytes are no
distinguished encoding. -/
inductive Spelled : Bytes → Signature → Prop where
  | distinguished {signature : Signature} (ranged : signature.InRange) :
      Spelled signature.toDer signature
  | fixed {signature : Signature} (ranged : signature.InRange)
      (other : ∀ second : Signature, second.InRange → signature.toFixed ≠ second.toDer) :
      Spelled signature.toFixed signature

theorem lt_of_isScalar {n : Nat} (scalar : isScalar n = true) : n < 256 ^ 32 := by
  simp only [isScalar, Bool.and_eq_true, decide_eq_true_eq] at scalar
  exact Nat.lt_trans scalar.2 (by decide)

theorem ofScalars?_eq_some_iff {r s : Nat} {signature : Signature} :
    ofScalars? r s = some signature ↔ signature.InRange ∧ signature = ⟨r, s⟩ := by
  unfold ofScalars?
  split
  · next ranged =>
      simp only [Bool.and_eq_true] at ranged
      constructor
      · rintro ⟨⟩
        exact ⟨ranged, rfl⟩
      · rintro ⟨-, rfl⟩
        rfl
  · next ranged =>
      refine iff_of_false (by rintro ⟨⟩) ?_
      rintro ⟨⟨r, s⟩, rfl⟩
      exact ranged (by rw [r, s]; rfl)

theorem ofDer?_eq_some_iff {bytes : Bytes} {signature : Signature} :
    ofDer? bytes = some signature ↔ signature.InRange ∧ bytes = signature.toDer := by
  have encoded (ranged : signature.InRange) :
      Der.pair? bytes = some (signature.r, signature.s) ↔ bytes = signature.toDer :=
    Der.pair?_eq_some_iff (lt_of_isScalar ranged.1) (lt_of_isScalar ranged.2)
  have split : ofDer? bytes = some signature ↔
      ∃ r s, Der.pair? bytes = some (r, s) ∧ ofScalars? r s = some signature := by
    simp only [ofDer?, Option.bind_eq_bind, Option.bind_eq_some_iff, Prod.exists]
  simp only [split, ofScalars?_eq_some_iff]
  constructor
  · rintro ⟨r, s, read, ranged, rfl⟩
    exact ⟨ranged, (encoded ranged).mp read⟩
  · rintro ⟨ranged, written⟩
    exact ⟨signature.r, signature.s, (encoded ranged).mpr written, ranged, rfl⟩

theorem ofFixed?_eq_some_iff {bytes : Bytes} {signature : Signature} :
    ofFixed? bytes = some signature ↔ signature.InRange ∧ bytes = signature.toFixed := by
  have halves (ranged : signature.InRange) : bytes = signature.toFixed ↔ bytes.length = 64 ∧
      natOfBytes (bytes.take 32) = signature.r ∧ natOfBytes (bytes.drop 32) = signature.s :=
    eq_bytesOfNat_append_iff (lt_of_isScalar ranged.1) (lt_of_isScalar ranged.2)
  unfold ofFixed?
  split
  · next length =>
      rw [ofScalars?_eq_some_iff]
      refine and_congr_right fun ranged => ?_
      rw [halves ranged]
      constructor
      · rintro rfl
        exact ⟨length, rfl, rfl⟩
      · rintro ⟨-, low, high⟩
        rw [low, high]
  · next length =>
      refine iff_of_false (by rintro ⟨⟩) ?_
      rintro ⟨ranged, written⟩
      exact length ((halves ranged).mp written).1

/-- Bytes are read as the signature that they stand for. -/
theorem ofBytes?_eq_some_iff {bytes : Bytes} {signature : Signature} :
    ofBytes? bytes = some signature ↔ Spelled bytes signature := by
  have unread : ofDer? bytes = none ↔
      ∀ second : Signature, second.InRange → bytes ≠ second.toDer := by
    rw [Option.eq_none_iff_forall_ne_some]
    simp only [ne_eq, ofDer?_eq_some_iff, not_and]
  have either : ofBytes? bytes = some signature ↔ ofDer? bytes = some signature ∨
      ofDer? bytes = none ∧ ofFixed? bytes = some signature := by
    rw [ofBytes?]
    cases ofDer? bytes <;> simp
  rw [either, unread, ofDer?_eq_some_iff, ofFixed?_eq_some_iff]
  constructor
  · rintro (⟨ranged, rfl⟩ | ⟨other, ranged, rfl⟩)
    · exact .distinguished ranged
    · exact .fixed ranged other
  · rintro (ranged | ⟨ranged, other⟩)
    · exact .inl ⟨ranged, rfl⟩
    · exact .inr ⟨other, ranged, rfl⟩

end Ecdsa.Signature

end CardGateway.Crypto
