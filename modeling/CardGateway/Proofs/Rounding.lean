import Mathlib.Algebra.Group.Nat.Defs
import CardGateway.Number.Binary64

/-!
# Ratios rounded to doubles

A ratio of 2 ^ 53 at least has an exponent of zero at least, so it is rounded to a whole number. It
has no double exactly from half a unit past the greatest double on.
-/

namespace CardGateway.Number.Binary64

section Rounding

variable {num den : Nat}

theorem roundHalfEven_eq (num den : Nat) :
    roundHalfEven num den = num / den ∧ 2 * (num % den) ≤ den ∨
      roundHalfEven num den = num / den + 1 ∧ den ≤ 2 * (num % den) := by
  simp only [roundHalfEven]
  split
  · next less => exact .inl ⟨rfl, Nat.le_of_lt less⟩
  split
  · next more => exact .inr ⟨rfl, Nat.le_of_lt more⟩
  split
  · exact .inl ⟨rfl, by omega⟩
  · exact .inr ⟨rfl, by omega⟩

theorem div_le_roundHalfEven (num den : Nat) : num / den ≤ roundHalfEven num den := by
  rcases roundHalfEven_eq num den with ⟨same, -⟩ | ⟨same, -⟩
  · exact Nat.le_of_eq same.symm
  · exact same ▸ Nat.le_succ _

theorem roundHalfEven_le (num den : Nat) : roundHalfEven num den ≤ num / den + 1 := by
  rcases roundHalfEven_eq num den with ⟨same, -⟩ | ⟨same, -⟩
  · exact same ▸ Nat.le_succ _
  · exact Nat.le_of_eq same

theorem roundHalfEven_mono {more : Nat} (le : num ≤ more) :
    roundHalfEven num den ≤ roundHalfEven more den := by
  rcases Nat.lt_or_eq_of_le (Nat.div_le_div_right (c := den) le) with less | same
  · exact Nat.le_trans (roundHalfEven_le num den)
      (Nat.le_trans less (div_le_roundHalfEven more den))
  · have rest : num % den ≤ more % den := by
      have whole := Nat.div_add_mod num den
      have other := Nat.div_add_mod more den
      rw [← same] at other
      omega
    simp only [roundHalfEven, ← same]
    repeat' split
    all_goals omega

/-- An even number is reached half a unit below it. -/
theorem le_roundHalfEven_iff {k : Nat} (positive : 0 < den) (even : k % 2 = 0) :
    k ≤ roundHalfEven num den ↔ (2 * k - 1) * den ≤ 2 * num := by
  have whole := Nat.div_add_mod' num den
  have rest := Nat.mod_lt num positive
  rcases Nat.lt_trichotomy k (num / den + 1) with less | same | more
  · have low : k * den ≤ num / den * den := Nat.mul_le_mul_right _ (Nat.le_of_lt_succ less)
    have below := div_le_roundHalfEven num den
    rw [Nat.sub_mul, Nat.mul_assoc]
    exact iff_of_true (by omega) (by omega)
  · have product : (2 * k - 1) * den = 2 * (num / den * den) + den := by
      rw [same, show 2 * (num / den + 1) - 1 = 2 * (num / den) + 1 by omega, Nat.succ_mul,
        Nat.mul_assoc]
    have up : k ≤ roundHalfEven num den ↔ den ≤ 2 * (num % den) := by
      simp only [roundHalfEven]
      repeat' split
      all_goals omega
    rw [up, product]
    omega
  · have high : (num / den + 2) * den ≤ k * den := Nat.mul_le_mul_right _ more
    have above := roundHalfEven_le num den
    rw [Nat.add_mul] at high
    rw [Nat.sub_mul, Nat.mul_assoc]
    exact iff_of_false (by omega) (by omega)

end Rounding

structure Fits (num den exponent : Nat) : Prop where
  least : den * 2 ^ (exponent + 52) ≤ num
  below : num < den * 2 ^ (exponent + 53)

section Large

variable {num den exponent : Nat} {x : Binary64}

/-- Half the span between the greatest doubles. -/
@[irreducible]
def halfUnit : Nat := 2 ^ 970

/-- The least number that has no double, half a unit past the greatest double. -/
@[irreducible]
def overflow : Nat := (2 * 2 ^ 53 - 1) * halfUnit

theorem scaled_natCast (num den exponent : Nat) :
    scaled num den exponent = (num, den * 2 ^ exponent) := by
  simp [scaled]

theorem ratio_natCast (mantissa exponent : Nat) :
    ratio ⟨mantissa, exponent⟩ = (mantissa * 2 ^ exponent, 1) := by
  simp [ratio]

theorem isZero_eq_false (positive : 0 < x.ratio.1) : x.isZero = false := by
  rw [isZero, beq_eq_false_iff_ne]
  intro zero
  simp only [ratio, zero, Nat.zero_mul] at positive
  split at positive <;> exact Nat.lt_irrefl 0 positive

theorem exponentOf_of_large (positive : 0 < den) (large : den * 2 ^ 53 ≤ num) :
    ∃ exponent : Nat, exponentOf num den = exponent ∧ Fits num den exponent := by
  have nonzero : num ≠ 0 :=
    Nat.ne_of_gt (Nat.lt_of_lt_of_le (Nat.mul_pos positive (Nat.two_pow_pos _)) large)
  have numLow := Nat.log2_self_le nonzero
  have numHigh := Nat.lt_log2_self (n := num)
  have denLow := Nat.log2_self_le (Nat.ne_of_gt positive)
  have denHigh := Nat.lt_log2_self (n := den)
  have apart : den.log2 + 53 ≤ num.log2 := by
    have less : 2 ^ (den.log2 + 53) < 2 ^ (num.log2 + 1) := by
      rw [Nat.pow_add]
      exact Nat.lt_of_le_of_lt (Nat.le_trans (Nat.mul_le_mul_right _ denLow) large) numHigh
    exact Nat.le_of_lt_succ ((Nat.pow_lt_pow_iff_right (by decide)).mp less)
  obtain ⟨e, gap⟩ := Nat.exists_eq_add_of_le apart
  have guess : (num.log2 : Int) - (den.log2 : Int) - 53 = (e : Int) := by omega
  have bits : num / (den * 2 ^ e) < 0x20000000000000 ↔ num < den * 2 ^ (e + 53) := by
    rw [Nat.div_lt_iff_lt_mul (Nat.mul_pos positive (Nat.two_pow_pos _)), Nat.pow_add,
      Nat.mul_comm, Nat.mul_assoc]
  simp only [exponentOf, guess, scaled_natCast, bits]
  split
  · next small =>
      refine ⟨e, by simp only [leastExponent]; omega, ?_, small⟩
      have low : den * 2 ^ (e + 52) ≤ 2 ^ (den.log2 + 1) * 2 ^ (e + 52) :=
        Nat.mul_le_mul_right _ (Nat.le_of_lt denHigh)
      rw [← Nat.pow_add, show den.log2 + 1 + (e + 52) = num.log2 by omega] at low
      exact Nat.le_trans low numLow
  · next great =>
      refine ⟨e + 1, by simp only [leastExponent]; omega, ?_, ?_⟩
      · exact Nat.not_lt.mp great
      · have high : 2 ^ den.log2 * 2 ^ (e + 1 + 53) ≤ den * 2 ^ (e + 1 + 53) :=
          Nat.mul_le_mul_right _ denLow
        rw [← Nat.pow_add, show den.log2 + (e + 1 + 53) = num.log2 + 1 by omega] at high
        exact Nat.lt_of_lt_of_le numHigh high

namespace Fits

variable (h : Fits num den exponent)

include h

theorem div_bounds (positive : 0 < den) :
    2 ^ 52 ≤ num / (den * 2 ^ exponent) ∧ num / (den * 2 ^ exponent) < 2 ^ 53 := by
  have scale : 0 < den * 2 ^ exponent := Nat.mul_pos positive (Nat.two_pow_pos _)
  constructor
  · rw [Nat.le_div_iff_mul_le scale, Nat.mul_comm, Nat.mul_assoc, ← Nat.pow_add]
    exact h.least
  · rw [Nat.div_lt_iff_lt_mul scale, Nat.mul_comm, Nat.mul_assoc, ← Nat.pow_add]
    exact h.below

theorem roundHalfEven_le (positive : 0 < den) :
    roundHalfEven num (den * 2 ^ exponent) ≤ 2 ^ 53 :=
  Nat.le_trans (Binary64.roundHalfEven_le _ _) (h.div_bounds positive).2

theorem le_roundHalfEven (positive : 0 < den) :
    2 ^ 52 ≤ roundHalfEven num (den * 2 ^ exponent) :=
  Nat.le_trans (h.div_bounds positive).1 (div_le_roundHalfEven _ _)

/-- The greatest exponent is exceeded, by the carry of a rounding at least, from the overflow on. -/
theorem overflow_le_iff (positive : 0 < den) :
    den * overflow ≤ num ↔
      971 < exponent ∨ exponent = 971 ∧ roundHalfEven num (den * 2 ^ exponent) = 2 ^ 53 := by
  have carry : roundHalfEven num (den * 2 ^ exponent) = 2 ^ 53 ↔
      (2 * 2 ^ 53 - 1) * (den * 2 ^ exponent) ≤ 2 * num := by
    rw [← le_roundHalfEven_iff (Nat.mul_pos positive (Nat.two_pow_pos _)) (by decide)]
    exact ⟨Nat.le_of_eq ∘ Eq.symm, Nat.le_antisymm (h.roundHalfEven_le positive)⟩
  rcases Nat.lt_trichotomy exponent 971 with low | same | high
  · have within : ¬ (971 < exponent ∨ exponent = 971 ∧
        roundHalfEven num (den * 2 ^ exponent) = 2 ^ 53) := by omega
    have below : 2 ^ (exponent + 53) ≤ overflow :=
      Nat.le_trans (Nat.pow_le_pow_right (by decide) (show exponent + 53 ≤ 1023 by omega))
        (by decide +kernel)
    refine iff_of_false (Nat.not_le.mpr ?_) within
    exact Nat.lt_of_lt_of_le h.below (Nat.mul_le_mul_left _ below)
  · -- Here only the carry is past the greatest double, and it begins half a unit above.
    have moved (c u : Nat) : c * (den * (2 * u)) = 2 * (den * (c * u)) := by
      rw [Nat.mul_left_comm den, Nat.mul_left_comm c, Nat.mul_left_comm c]
    have unit : 2 ^ exponent = 2 * halfUnit := by
      rw [same]
      decide +kernel
    rw [carry, unit, moved, ← overflow, Nat.mul_le_mul_left_iff (by decide)]
    exact ⟨fun beyond => .inr ⟨same, beyond⟩, fun either =>
      either.elim (fun less => absurd same (Nat.ne_of_gt less)) And.right⟩
  · have above : overflow ≤ 2 ^ (exponent + 52) := by
      refine Nat.le_trans ?_ (Nat.pow_le_pow_right (by decide)
        (show 1024 ≤ exponent + 52 by omega))
      decide +kernel
    exact iff_of_true (Nat.le_trans (Nat.mul_le_mul_left _ above) h.least) (.inl high)

end Fits

/-- What a large ratio is rounded to, unless there is no double for it. -/
theorem ofRatio_of_large (positive : 0 < den) (large : den * 2 ^ 53 ≤ num) :
    ∃ exponent, Fits num den exponent ∧
      (ofRatio num den = none ↔ den * overflow ≤ num) ∧
      ∀ x, ofRatio num den = some x →
        x.ratio = (roundHalfEven num (den * 2 ^ exponent) * 2 ^ exponent, 1) := by
  obtain ⟨exponent, found, fits⟩ := exponentOf_of_large positive large
  have nonzero : num ≠ 0 :=
    Nat.ne_of_gt (Nat.lt_of_lt_of_le (Nat.mul_pos positive (Nat.two_pow_pos _)) large)
  refine ⟨exponent, fits, ?_⟩
  rw [fits.overflow_le_iff positive]
  simp only [ofRatio, if_neg nonzero, found, scaled_natCast]
  generalize roundHalfEven num (den * 2 ^ exponent) = q
  by_cases carry : q = 0x20000000000000
  · subst carry
    have power : 0x10000000000000 * 2 ^ (exponent + 1) = 0x20000000000000 * 2 ^ exponent := by
      rw [Nat.pow_succ', ← Nat.mul_assoc]
    have next : (exponent : Int) + 1 = (exponent + 1 : Nat) := rfl
    simp only [if_true, next, ← power, ← ratio_natCast, ite_eq_right_iff, reduceCtorEq,
      imp_false, Option.ite_none_right_eq_some, Option.some.injEq, greatestExponent]
    refine ⟨by omega, ?_⟩
    rintro x ⟨-, rfl⟩
    rfl
  · simp only [if_neg carry, ← ratio_natCast, ite_eq_right_iff, reduceCtorEq,
      imp_false, Option.ite_none_right_eq_some, Option.some.injEq, greatestExponent]
    refine ⟨by omega, ?_⟩
    rintro x ⟨-, rfl⟩
    rfl

end Large

end CardGateway.Number.Binary64
