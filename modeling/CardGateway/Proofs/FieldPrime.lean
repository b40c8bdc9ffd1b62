import Mathlib.Data.List.Prime
import Mathlib.NumberTheory.LucasPrimality
import Mathlib.Tactic.NormNum.Prime
import CardGateway.Crypto.Secp256k1

/-!
# The field of the curve

Its number of elements is prime. A number is prime if some other has as many powers modulo it as there
are numbers from one on below it, which the prime factors of that count decide. These are smaller, so
they can be shown to be prime before it.
-/

namespace CardGateway.Crypto.Secp256k1

/-- A power by the bits of its exponent is the power. -/
theorem power_mod {m base bits exponent : Nat} (small : exponent < 2 ^ bits) :
    power m base bits exponent % m = base ^ exponent % m := by
  induction bits generalizing exponent with
  | zero =>
      obtain rfl : exponent = 0 := by simpa using small
      rfl
  | succ bits ih =>
      have half : exponent / 2 < 2 ^ bits := by
        rw [Nat.pow_succ] at small
        omega
      have square : power m base bits (exponent / 2) * power m base bits (exponent / 2) % m =
          base ^ (exponent / 2 * 2) % m := by
        rw [Nat.mul_mod, ih half, ← Nat.mul_mod, ← Nat.pow_add, Nat.mul_two]
      rw [power]
      simp only [square]
      split
      · next odd =>
          rw [Nat.mod_mod, Nat.mod_mul_mod, ← Nat.pow_succ]
          congr 2
          omega
      · next even =>
          rw [Nat.mod_mod]
          congr 2
          omega

theorem power_lt {m base bits exponent : Nat} (positive : 0 < m) :
    power m base (bits + 1) exponent < m := by
  rw [power]
  split
  · exact Nat.mod_lt _ positive
  · exact Nat.mod_lt _ positive

theorem natCast_power {m base bits exponent : Nat} (small : exponent < 2 ^ bits) :
    (power m base bits exponent : ZMod m) = (base : ZMod m) ^ exponent := by
  rw [← ZMod.natCast_mod, power_mod small, ZMod.natCast_mod, Nat.cast_pow]

theorem natCast_pow_eq_one_iff {m base exponent : Nat} (large : 1 < m) (small : exponent < 2 ^ 256) :
    (base : ZMod m) ^ exponent = 1 ↔ power m base 256 exponent = 1 := by
  have below : power m base 256 exponent < m := power_lt (Nat.lt_trans Nat.one_pos large)
  have : Fact (1 < m) := ⟨large⟩
  rw [← natCast_power small]
  constructor
  · intro one
    have values := congrArg ZMod.val one
    rwa [ZMod.val_natCast_of_lt below, ZMod.val_one] at values
  · intro one
    rw [one, Nat.cast_one]

/-- A number, another that is to have as many powers as there can be, and the prime factors of the
count of these. -/
structure Rung where
  number : Nat
  base : Nat
  factors : List Nat

namespace Rung

/-- What has to hold where the factors are among the numbers that are known to be prime. -/
def holds (rung : Rung) (known : List Nat) : Bool :=
  1 < rung.number && rung.number ≤ 2 ^ 256 &&
    rung.factors.all known.contains && rung.factors.prod == rung.number - 1 &&
    power rung.number rung.base 256 (rung.number - 1) == 1 &&
    rung.factors.all fun q => power rung.number rung.base 256 ((rung.number - 1) / q) != 1

theorem prime_of_holds {rung : Rung} {known : List Nat} (primes : ∀ q ∈ known, q.Prime)
    (holds : rung.holds known = true) : rung.number.Prime := by
  simp only [Rung.holds, Bool.and_eq_true, decide_eq_true_eq, List.all_eq_true, List.contains_iff_mem,
    beq_iff_eq, bne_iff_ne, ne_eq] at holds
  obtain ⟨⟨⟨⟨⟨large, small⟩, listed⟩, product⟩, whole⟩, parts⟩ := holds
  have bound {n : Nat} (below : n ≤ rung.number - 1) : n < 2 ^ 256 := by omega
  refine lucas_primality rung.number (rung.base : ZMod rung.number) ?_ ?_
  · exact (natCast_pow_eq_one_iff large (bound le_rfl)).mpr whole
  · intro q prime divides
    rw [← product] at divides
    obtain ⟨factor, member, divides⟩ := (Prime.dvd_prod_iff prime.prime).mp divides
    obtain rfl := (Nat.prime_dvd_prime_iff_eq prime (primes factor (listed factor member))).mp divides
    rw [ne_eq, natCast_pow_eq_one_iff large (bound (Nat.div_le_self _ _))]
    exact parts q member

/-- Each rung rests on numbers that are known to be prime and on the rungs before it. -/
def climbs : List Nat → List Rung → Bool
  | _, [] => true
  | known, rung :: rest => rung.holds known && climbs (rung.number :: known) rest

theorem prime_of_climbs {known : List Nat} {rungs : List Rung} (primes : ∀ q ∈ known, q.Prime)
    (climbs : climbs known rungs = true) : ∀ rung ∈ rungs, rung.number.Prime := by
  induction rungs generalizing known with
  | nil => exact nofun
  | cons rung rest ih =>
      obtain ⟨holds, climbs⟩ := Bool.and_eq_true_iff.mp climbs
      have prime := prime_of_holds primes holds
      refine List.forall_mem_cons.mpr ⟨prime, ih ?_ climbs⟩
      exact List.forall_mem_cons.mpr ⟨prime, primes⟩

end Rung

def smallPrimes : List Nat :=
  [2, 3, 5, 7, 11, 29, 31, 53, 971, 1373, 1627, 2621, 2657, 4423, 5323, 7723, 13441, 20113, 24809,
    41201, 96557]

theorem prime_of_mem_smallPrimes : ∀ q ∈ smallPrimes, q.Prime := by
  simp only [smallPrimes, List.forall_mem_cons]
  norm_num

/-- The way up to the number of elements. -/
def ladder : List Rung :=
  [⟨1206781, 10, [2, 2, 3, 5, 20113]⟩,
    ⟨7240687, 3, [2, 3, 1206781]⟩,
    ⟨107590001, 3, [2, 2, 2, 2, 5, 5, 5, 5, 7, 29, 53]⟩,
    ⟨13331831, 13, [2, 5, 971, 1373]⟩,
    ⟨173378833005251801, 6, [2, 2, 2, 5, 5, 2621, 24809, 13331831]⟩,
    ⟨22149492674086928081353, 5, [2, 2, 2, 3, 5323, 173378833005251801]⟩,
    ⟨132896956044521568488119, 6, [2, 3, 22149492674086928081353]⟩,
    ⟨255515944373312847190720520512484175977, 3,
      [2, 2, 2, 7, 7, 11, 1627, 2657, 4423, 41201, 96557, 7240687, 107590001]⟩,
    ⟨205115282021455665897114700593932402728804164701536103180137503955397371, 10,
      [2, 3, 5, 29, 29, 31, 7723, 132896956044521568488119,
        255515944373312847190720520512484175977]⟩,
    ⟨prime, 3, [2, 3, 7, 13441,
      205115282021455665897114700593932402728804164701536103180137503955397371]⟩]

theorem prime_prime : Nat.Prime prime := by
  have climbs : Rung.climbs smallPrimes ladder = true := by decide +kernel
  have primes := Rung.prime_of_climbs prime_of_mem_smallPrimes climbs
  exact primes ⟨prime, 3, _⟩ (List.mem_of_getLast? rfl)

end CardGateway.Crypto.Secp256k1
