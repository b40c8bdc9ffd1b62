/-!
# Double precision numbers

The non-negative finite numbers of binary64, as exact values. `ofRatio` rounds a ratio of naturals to
the nearest of them, and products and quotients are rounded ratios.
-/

namespace CardGateway.Number

/-- The number `mantissa * 2 ^ exponent`. -/
structure Binary64 where
  mantissa : Nat
  exponent : Int
  deriving DecidableEq, Repr

namespace Binary64

def leastExponent : Int := -1074

def greatestExponent : Int := 971

def zero : Binary64 := ⟨0, leastExponent⟩

def isZero (x : Binary64) : Bool := x.mantissa == 0

def scaled (num den : Nat) (e : Int) : Nat × Nat :=
  if 0 ≤ e then (num, den * Nat.pow 2 e.toNat) else (num * Nat.pow 2 (-e).toNat, den)

/-- The quotient to the nearest natural, a half to the even one. -/
def roundHalfEven (num den : Nat) : Nat :=
  let q := num / den
  let r := num % den
  if 2 * r < den then q
  else if den < 2 * r then q + 1
  else if q % 2 = 0 then q else q + 1

/-- The exponent at which `num / den` has 53 bits before the point, or the least one. -/
def exponentOf (num den : Nat) : Int :=
  let e : Int := (Nat.log2 num : Int) - (Nat.log2 den : Int) - 53
  let (n, d) := scaled num den e
  let e := if n / d < 0x20000000000000 then e else e + 1
  max e leastExponent

/-- The nearest number to `num / den`, of two the one with even mantissa; none from half a unit past
the greatest one on. -/
def ofRatio (num den : Nat) : Option Binary64 :=
  if num = 0 then some zero
  else
    let e := exponentOf num den
    let (n, d) := scaled num den e
    let q := roundHalfEven n d
    let (q, e) := if q = 0x20000000000000 then (0x10000000000000, e + 1) else (q, e)
    if e ≤ greatestExponent then some ⟨q, e⟩ else none

def ratio (x : Binary64) : Nat × Nat :=
  if 0 ≤ x.exponent then (x.mantissa * Nat.pow 2 x.exponent.toNat, 1)
  else (x.mantissa, Nat.pow 2 (-x.exponent).toNat)

def ofNat? (n : Nat) : Option Binary64 := ofRatio n 1

def mul (x y : Binary64) : Option Binary64 :=
  let (a, b) := x.ratio
  let (c, d) := y.ratio
  ofRatio (a * c) (b * d)

def div (x y : Binary64) : Option Binary64 :=
  let (a, b) := x.ratio
  let (c, d) := y.ratio
  ofRatio (a * d) (b * c)

/-- The number nearest to `10 ^ k`. -/
def tenPower (k : Nat) : Option Binary64 := ofRatio (Nat.pow 10 k) 1

def isWhole (x : Binary64) : Bool :=
  let (a, b) := x.ratio
  a % b == 0

def floor (x : Binary64) : Nat :=
  let (a, b) := x.ratio
  a / b

end Binary64

end CardGateway.Number
