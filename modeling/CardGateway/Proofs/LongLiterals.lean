import Mathlib.Algebra.Group.Nat.Defs
import CardGateway.Json.Number
import CardGateway.Proofs.Rounding

/-!
# Doubles for integer literals

An integer literal past 64 bits stands for a double: that of its first digits, as many as fit 64
bits, times that of a power of ten. Whether there is one depends on the integer alone.
-/

namespace CardGateway.Json.Number

open CardGateway.Number CardGateway.Number.Binary64

section Digits

theorem foldl_digits (n : Nat) (digits : List Nat) :
    digits.foldl (fun n d => n * 10 + d) n = n * 10 ^ digits.length + digitsValue digits := by
  induction digits generalizing n with
  | nil => simp [digitsValue]
  | cons d rest ih =>
      rw [digitsValue, List.foldl_cons, List.foldl_cons, ih, ih, Nat.zero_mul, Nat.zero_add,
        List.length_cons, Nat.pow_succ', Nat.add_mul, Nat.mul_assoc, Nat.add_assoc]

theorem digitsValue_append (front rest : List Nat) :
    digitsValue (front ++ rest) = digitsValue front * 10 ^ rest.length + digitsValue rest := by
  rw [digitsValue, List.foldl_append, foldl_digits, ← digitsValue]

theorem digitsValue_lt {digits : List Nat} (decimal : ∀ d ∈ digits, d < 10) :
    digitsValue digits < 10 ^ digits.length := by
  induction digits with
  | nil => exact Nat.one_pos
  | cons d rest ih =>
      have low := ih fun e member => decimal e (List.mem_cons_of_mem _ member)
      have first := decimal d List.mem_cons_self
      have value := digitsValue_append [d] rest
      have high : (d + 1) * 10 ^ rest.length ≤ 10 * 10 ^ rest.length :=
        Nat.mul_le_mul_right _ first
      rw [List.singleton_append, show digitsValue [d] = d from Nat.zero_add d] at value
      rw [value, List.length_cons, Nat.pow_succ']
      rw [Nat.add_mul] at high
      omega

/-- Digits are taken for as long as they fit 64 bits. -/
theorem gather_eq (n : Nat) (digits : List Nat) (small : n < naturalLimit) :
    ∃ taken rest, digits = taken ++ rest ∧
      gather n digits = (taken.foldl (fun n d => n * 10 + d) n, rest) ∧
      (gather n digits).1 < naturalLimit ∧
      ∀ d more, rest = d :: more → naturalLimit ≤ (gather n digits).1 * 10 + d := by
  induction digits generalizing n with
  | nil => exact ⟨[], [], rfl, rfl, small, nofun⟩
  | cons d digits ih =>
      rw [gather]
      split
      · next fits =>
          obtain ⟨taken, rest, split, gathered, low, full⟩ := ih _ fits
          exact ⟨d :: taken, rest, by rw [split]; rfl, gathered, low, full⟩
      · next beyond =>
          refine ⟨[], d :: digits, rfl, rfl, small, ?_⟩
          rintro e more ⟨⟩
          exact Nat.not_lt.mp beyond

structure Leads (n front left : Nat) : Prop where
  small : front < naturalLimit
  low : front * 10 ^ left ≤ n
  high : n < (front + 1) * 10 ^ left
  full : left ≠ 0 → naturalLimit ≤ front * 10 + 9

theorem exists_leads {whole : List Nat} (decimal : ∀ d ∈ whole, d < 10) :
    ∃ front rest, gather 0 whole = (front, rest) ∧ Leads (digitsValue whole) front rest.length := by
  obtain ⟨taken, rest, split, gathered, small, full⟩ := gather_eq 0 whole (by decide)
  have below : digitsValue rest < 10 ^ rest.length :=
    digitsValue_lt fun d member => decimal d (split ▸ List.mem_append_right _ member)
  refine ⟨digitsValue taken, rest, gathered, ?_⟩
  rw [gathered] at small full
  have value : digitsValue whole = digitsValue taken * 10 ^ rest.length + digitsValue rest := by
    rw [split, digitsValue_append]
  refine ⟨small, by omega, by rw [Nat.add_mul]; omega, ?_⟩
  intro filled
  cases rest with
  | nil => exact absurd rfl filled
  | cons d more =>
      have digit : d < 10 := decimal d (by simp [split])
      have beyond := full d more rfl
      exact Nat.le_trans beyond (Nat.add_le_add_left (Nat.le_of_lt_succ digit) _)

end Digits

theorem float?_integer {whole rest : List Nat} {front : Nat} (negative : Bool)
    (gathered : gather 0 whole = (front, rest)) :
    float? ⟨negative, whole, none, none⟩ =
      (ofNat? front).bind fun x => raise x rest.length := by
  have point : ((rest.length : Int) - ((0 - 0 : Nat) : Int)) = rest.length := by omega
  simp only [float?, gathered, Option.getD_none, gather, List.length_nil, point, scale,
    Int.natCast_nonneg, if_true, Int.toNat_natCast]
  rfl

/-- What the first digits of an integer next to the greatest double count. -/
@[irreducible]
def edgeUnit : Nat := 10 ^ 289

/-- The first digits from which on such an integer is rounded past the greatest double. -/
def edge : Nat := 17976931348623156225

/-- The least integer whose literal has no double. -/
@[irreducible]
def literalLimit : Nat := edge * edgeUnit

section Powers

/-- What the double of `10 ^ k` leaves room for. -/
structure Power (k : Nat) (x : Binary64) : Prop where
  positive : 0 < x.ratio.2
  whole : x.ratio.2 ≤ x.ratio.1
  room : k < 289 → (2 ^ 64 + 2 ^ 11) * x.ratio.1 < x.ratio.2 * overflow
  tight : k = 289 → (2 ^ 63 + 2 ^ 11) * x.ratio.1 < x.ratio.2 * overflow ∧
    roundHalfEven (edge - 1) 2048 * 2048 * x.ratio.1 < x.ratio.2 * overflow ∧
      x.ratio.2 * overflow ≤ roundHalfEven edge 2048 * 2048 * x.ratio.1
  beyond : 289 < k → x.ratio.2 * overflow ≤ 18 * 10 ^ 17 * x.ratio.1

instance (k : Nat) (x : Binary64) : Decidable (Power k x) :=
  decidable_of_iff (0 < x.ratio.2 ∧ x.ratio.2 ≤ x.ratio.1 ∧
      (k < 289 → (2 ^ 64 + 2 ^ 11) * x.ratio.1 < x.ratio.2 * overflow) ∧
      (k = 289 → (2 ^ 63 + 2 ^ 11) * x.ratio.1 < x.ratio.2 * overflow ∧
        roundHalfEven (edge - 1) 2048 * 2048 * x.ratio.1 < x.ratio.2 * overflow ∧
          x.ratio.2 * overflow ≤ roundHalfEven edge 2048 * 2048 * x.ratio.1) ∧
      (289 < k → x.ratio.2 * overflow ≤ 18 * 10 ^ 17 * x.ratio.1))
    ⟨fun ⟨positive, whole, room, tight, beyond⟩ => ⟨positive, whole, room, tight, beyond⟩,
      fun ⟨positive, whole, room, tight, beyond⟩ => ⟨positive, whole, room, tight, beyond⟩⟩

theorem exists_power {k : Nat} (small : k ≤ 308) : ∃ x, tenPower k = some x ∧ Power k x := by
  -- The doubles of the powers are rounded, with no pattern, so each of them is looked at.
  have checked : ∀ k < 309, (tenPower k).any fun x => decide (Power k x) := by
    decide +kernel
  have found := checked k (Nat.lt_succ_of_le small)
  rw [Option.any_eq_true] at found
  obtain ⟨x, power, fits⟩ := found
  exact ⟨x, power, of_decide_eq_true fits⟩

end Powers

section Doubles

variable {n : Nat}

/-- A large number that fits 64 bits has a whole double near it. -/
theorem exists_ofNat? (large : 2 ^ 60 ≤ n) (small : n < naturalLimit) :
    ∃ x m, ofNat? n = some x ∧ x.ratio = (m, 1) ∧ n ≤ m + 2 ^ 11 ∧ m ≤ n + 2 ^ 11 ∧
      (2 ^ 63 ≤ n → m = roundHalfEven n 2048 * 2048) := by
  have within : n < 2 ^ 64 := small
  obtain ⟨e, fits, overflows, rounds⟩ :=
    ofRatio_of_large Nat.one_pos (show 1 * 2 ^ 53 ≤ n by omega)
  simp only [Nat.one_mul] at overflows rounds
  have low : 2 ^ (e + 52) ≤ n := by simpa using fits.least
  have high : n < 2 ^ (e + 53) := by simpa using fits.below
  have least : e + 52 < 64 :=
    (Nat.pow_lt_pow_iff_right (by decide)).mp (Nat.lt_of_le_of_lt low within)
  have unit : 2 ^ e ≤ 2 ^ 11 := Nat.pow_le_pow_right (by decide) (by omega)
  obtain ⟨x, found⟩ : ∃ x, ofRatio n 1 = some x := by
    refine Option.ne_none_iff_exists'.mp fun beyond => ?_
    have past : 2 ^ 64 ≤ overflow := by decide +kernel
    exact Nat.not_le.mpr (Nat.lt_of_lt_of_le within past) (overflows.mp beyond)
  refine ⟨x, _, found, rounds x found, ?_, ?_, ?_⟩
  · have below := Nat.mul_le_mul_right (2 ^ e) (div_le_roundHalfEven n (2 ^ e))
    have whole := Nat.div_add_mod' n (2 ^ e)
    have rest := Nat.mod_lt n (Nat.two_pow_pos e)
    omega
  · have above := Nat.mul_le_mul_right (2 ^ e) (roundHalfEven_le n (2 ^ e))
    have whole := Nat.div_add_mod' n (2 ^ e)
    rw [Nat.succ_mul] at above
    omega
  · intro half
    have most : 63 < e + 53 :=
      (Nat.pow_lt_pow_iff_right (by decide)).mp (Nat.lt_of_le_of_lt half high)
    obtain rfl : e = 11 := by omega
    rfl

/-- A product of doubles that are large and one at least is whole, unless it is past all doubles. -/
theorem mul_of_large {x y : Binary64} {m : Nat} (whole : x.ratio = (m, 1)) (large : 2 ^ 53 ≤ m)
    (positive : 0 < y.ratio.2) (one : y.ratio.2 ≤ y.ratio.1) :
    (x.mul y = none ↔ y.ratio.2 * overflow ≤ m * y.ratio.1) ∧
      ∀ z, x.mul y = some z → z.isWhole = true ∧ 2 ^ 52 ≤ z.floor := by
  have product : x.mul y = ofRatio (m * y.ratio.1) y.ratio.2 := by
    simp only [mul, whole, Nat.one_mul]
  have great : y.ratio.2 * 2 ^ 53 ≤ m * y.ratio.1 := by
    rw [Nat.mul_comm]
    exact Nat.mul_le_mul large one
  obtain ⟨e, fits, overflows, rounds⟩ := ofRatio_of_large positive great
  rw [product]
  refine ⟨overflows, fun z found => ?_⟩
  have ratio := rounds z found
  have bits := fits.le_roundHalfEven positive
  simp only [isWhole, floor, ratio, Nat.mod_one, beq_self_eq_true, Nat.div_one, true_and]
  exact Nat.le_trans bits (Nat.le_mul_of_pos_right _ (Nat.two_pow_pos _))

end Doubles

section Limit

variable {n front left m : Nat} (leads : Leads n front left)

include leads

theorem Leads.front_ge (large : 2 ^ 63 ≤ n) : 18 * 10 ^ 17 + 2 ^ 11 ≤ front := by
  by_cases whole : left = 0
  · have high := leads.high
    rw [whole] at high
    omega
  · have full := leads.full whole
    simp only [naturalLimit] at full
    omega

theorem Leads.limit_le (many : 289 < left) (large : 18 * 10 ^ 17 ≤ front) : literalLimit ≤ n := by
  have more := Nat.mul_le_mul large (Nat.pow_le_pow_right (n := 10) (by decide) many)
  refine Nat.le_trans ?_ (Nat.le_trans more leads.low)
  decide +kernel

theorem Leads.lt_limit (few : left < 289) : n < literalLimit := by
  have less := Nat.mul_le_mul leads.small
    (Nat.pow_le_pow_right (n := 10) (by decide) (Nat.le_of_lt_succ few))
  refine Nat.lt_of_lt_of_le leads.high (Nat.le_trans less ?_)
  decide +kernel

theorem Leads.limit_le_iff (same : left = 289) : literalLimit ≤ n ↔ edge ≤ front := by
  have unit : edgeUnit = 10 ^ left := by
    rw [same]
    decide +kernel
  rw [literalLimit, unit]
  constructor
  · intro past
    refine Nat.le_of_not_lt fun less => Nat.not_lt.mpr past ?_
    exact Nat.lt_of_lt_of_le leads.high (Nat.mul_le_mul_right _ less)
  · intro past
    exact Nat.le_trans (Nat.mul_le_mul_right _ past) leads.low

/-- The product of the doubles is past all doubles just where the integer is past the limit. -/
theorem Leads.overflow_le_iff {x : Binary64} (power : Power left x)
    (large : 18 * 10 ^ 17 + 2 ^ 11 ≤ front) (low : front ≤ m + 2 ^ 11) (high : m ≤ front + 2 ^ 11)
    (rounded : 2 ^ 63 ≤ front → m = roundHalfEven front 2048 * 2048) :
    x.ratio.2 * overflow ≤ m * x.ratio.1 ↔ literalLimit ≤ n := by
  have small : front < 2 ^ 64 := leads.small
  rcases Nat.lt_trichotomy left 289 with few | same | many
  · refine iff_of_false (Nat.not_le.mpr ?_) (Nat.not_le.mpr (leads.lt_limit few))
    refine Nat.lt_of_le_of_lt (Nat.mul_le_mul_right _ ?_) (power.room few)
    omega
  · -- The product is monotone in the first digits, so the two values next to the edge tell.
    rw [leads.limit_le_iff same]
    obtain ⟨half, below, past⟩ := power.tight same
    by_cases upper : 2 ^ 63 ≤ front
    · rw [rounded upper]
      constructor
      · intro beyond
        refine Nat.le_of_not_lt fun less => Nat.not_lt.mpr beyond ?_
        refine Nat.lt_of_le_of_lt (Nat.mul_le_mul_right _ (Nat.mul_le_mul_right _ ?_)) below
        exact roundHalfEven_mono (Nat.le_sub_one_of_lt less)
      · intro reached
        exact Nat.le_trans past
          (Nat.mul_le_mul_right _ (Nat.mul_le_mul_right _ (roundHalfEven_mono reached)))
    · have short : front < edge := Nat.lt_of_lt_of_le (Nat.not_le.mp upper) (by decide)
      refine iff_of_false (Nat.not_le.mpr ?_) (Nat.not_le.mpr short)
      refine Nat.lt_of_le_of_lt (Nat.mul_le_mul_right _ ?_) half
      omega
  · refine iff_of_true ?_ (leads.limit_le many (by omega))
    refine Nat.le_trans (power.beyond many) (Nat.mul_le_mul_right _ ?_)
    omega

end Limit

/-- A large integer literal has a double just below the limit, and that is large and whole. -/
theorem float?_of_large {whole : List Nat} (decimal : ∀ d ∈ whole, d < 10)
    (large : 2 ^ 63 ≤ digitsValue whole) (negative : Bool) :
    (float? ⟨negative, whole, none, none⟩ = none ↔ literalLimit ≤ digitsValue whole) ∧
      ∀ z, float? ⟨negative, whole, none, none⟩ = some z → z.isWhole = true ∧ 2 ^ 52 ≤ z.floor := by
  obtain ⟨front, rest, gathered, leads⟩ := exists_leads decimal
  have great := leads.front_ge large
  obtain ⟨x, m, first, ratio, low, high, rounded⟩ := exists_ofNat? (by omega) leads.small
  rw [float?_integer negative gathered, first, Option.bind_some, raise]
  split
  · next small =>
      obtain ⟨y, power, fits⟩ := exists_power small
      rw [power, Option.bind_some, ← leads.overflow_le_iff fits great low high rounded]
      exact mul_of_large ratio (by omega) fits.positive fits.whole
  · next many =>
      have solid : x.isZero = false := isZero_eq_false (by rw [ratio]; show 0 < m; omega)
      rw [solid]
      exact ⟨iff_of_true rfl (leads.limit_le (by omega) (by omega)), nofun⟩

/-- Zero with a sign is a double. -/
theorem float?_of_zero {whole : List Nat} (decimal : ∀ d ∈ whole, d < 10)
    (zero : digitsValue whole = 0) (negative : Bool) :
    ∃ x, float? ⟨negative, whole, none, none⟩ = some x ∧ x.isWhole = true := by
  obtain ⟨front, rest, gathered, leads⟩ := exists_leads decimal
  rw [zero] at leads
  have first : front = 0 := by
    refine Nat.eq_zero_of_not_pos fun positive => ?_
    exact Nat.not_lt.mpr leads.low (Nat.mul_pos positive (Nat.pow_pos (by decide)))
  have short : rest.length = 0 := by
    refine Decidable.by_contra fun longer => ?_
    have full := leads.full longer
    rw [first] at full
    exact absurd full (by decide)
  rw [float?_integer negative gathered, first, short]
  exact ⟨.zero, by decide +kernel, by decide +kernel⟩

theorem lt_literalLimit {n : Nat} (small : n < naturalLimit) : n < literalLimit :=
  Nat.lt_of_lt_of_le small (by decide +kernel)

/-- What an integer literal is read as: itself if 64 bits hold it, a double if there is one. -/
inductive Reading : Bool → Nat → Except Fault Number → Prop where
  | natural {n : Nat} (small : n < naturalLimit) : Reading false n (.ok (.natural n))
  | negative {n : Nat} (small : n ≤ negativeLimit) : Reading true n (.ok (.negative n))
  | zero {x : Binary64} (solid : x.isWhole = true) : Reading true 0 (.ok (.float true x))
  | double {negative : Bool} {n : Nat} {x : Binary64} (large : negativeLimit ≤ n)
      (below : n < literalLimit) (solid : x.isWhole = true) (great : 2 ^ 52 ≤ x.floor) :
      Reading negative n (.ok (.float negative x))
  | past {negative : Bool} {n : Nat} (beyond : literalLimit ≤ n) :
      Reading negative n (.error .numberRange)

section Literals

variable {whole : List Nat} (decimal : ∀ d ∈ whole, d < 10) (negative : Bool)

include decimal

theorem reading_of_large (large : negativeLimit ≤ digitsValue whole) {read : Except Fault Number}
    (missing : float? ⟨negative, whole, none, none⟩ = none → read = .error .numberRange)
    (found : ∀ x, float? ⟨negative, whole, none, none⟩ = some x → read = .ok (.float negative x)) :
    Reading negative (digitsValue whole) read := by
  obtain ⟨beyond, double⟩ := float?_of_large decimal large negative
  cases rounded : float? ⟨negative, whole, none, none⟩ with
  | none => exact missing rounded ▸ .past (beyond.mp rounded)
  | some x =>
      have below : ¬ literalLimit ≤ digitsValue whole := by
        intro past
        rw [beyond.mpr past] at rounded
        cases rounded
      obtain ⟨solid, great⟩ := double x rounded
      exact found x rounded ▸ .double large (Nat.not_le.mp below) solid great

theorem reading_ofText :
    Reading negative (digitsValue whole) (ofText ⟨negative, whole, none, none⟩) := by
  cases negative with
  | false =>
      by_cases small : digitsValue whole < naturalLimit
      · have own : ofText ⟨false, whole, none, none⟩ = .ok (.natural (digitsValue whole)) := by
          simp [ofText, small]
        exact own ▸ .natural small
      · have large : negativeLimit ≤ digitsValue whole :=
          Nat.le_trans (by decide) (Nat.not_lt.mp small)
        exact reading_of_large decimal false large (fun missing => by simp [ofText, small, missing])
          fun x found => by simp [ofText, small, found]
  | true =>
      by_cases zero : digitsValue whole = 0
      · obtain ⟨x, found, solid⟩ := float?_of_zero decimal zero true
        have double : ofText ⟨true, whole, none, none⟩ = .ok (.float true x) := by
          simp [ofText, zero, found]
        rw [double, zero]
        exact .zero solid
      · by_cases small : digitsValue whole ≤ negativeLimit
        · have own : ofText ⟨true, whole, none, none⟩ = .ok (.negative (digitsValue whole)) := by
            simp [ofText, small, Nat.pos_of_ne_zero zero]
          exact own ▸ .negative small
        · exact reading_of_large decimal true (Nat.le_of_lt (Nat.not_le.mp small))
            (fun missing => by simp [ofText, small, missing])
            fun x found => by simp [ofText, small, found]

end Literals

end CardGateway.Json.Number
