import CardGateway.Number.Binary64

/-!
# Shortest decimals

The decimal with the fewest digits that rounds to a given double, and of those the nearest one. The
grids of one, two, up to seventeen digits are tried in turn; on each only the two neighbours of the
number can be meant.
-/

namespace CardGateway.Number

/-- The decimal `digits * 10 ^ exponent`. -/
structure Decimal where
  digits : Nat
  exponent : Int
  deriving DecidableEq, Repr

namespace Decimal

def digitCount (n : Nat) : Nat := (Nat.toDigits 10 n).length

/-- The place of the point: the least `p` with `num / den < 10 ^ p`. -/
def pointOf (num den : Nat) : Int :=
  if den ≤ num then digitCount (num / den)
  else
    let d := digitCount (den / num)
    if num * Nat.pow 10 (d - 1) = den then 2 - (d : Int) else 1 - (d : Int)

def scaled (num den : Nat) (k : Int) : Nat × Nat :=
  if 0 ≤ k then (num, den * Nat.pow 10 k.toNat) else (num * Nat.pow 10 (-k).toNat, den)

/-- The doubles are four units apart, the numbers that round to the middle one reach two units to
each side, and one unit down where the spacing below is half as wide. -/
structure Interval where
  low : Nat
  middle : Nat
  high : Nat
  /-- The units in one. -/
  scale : Nat
  closed : Bool

def intervalOf (x : Binary64) : Interval :=
  let narrow := x.mantissa == 0x10000000000000 && Binary64.leastExponent < x.exponent
  let (a, b) := Binary64.ratio ⟨1, x.exponent - 2⟩
  { low := (4 * x.mantissa - (if narrow then 1 else 2)) * a
    middle := 4 * x.mantissa * a
    high := (4 * x.mantissa + 2) * a
    scale := b
    closed := x.mantissa % 2 == 0 }

def Interval.holds (i : Interval) (c : Nat) (k : Int) : Bool :=
  let (a, b) : Nat × Nat := if 0 ≤ k then (c * Nat.pow 10 k.toNat, 1) else (c, Nat.pow 10 (-k).toNat)
  let value := a * i.scale
  if i.closed then i.low * b ≤ value && value ≤ i.high * b
  else i.low * b < value && value < i.high * b

/-- The grid with spacing `10 ^ k`. -/
def onGrid (i : Interval) (k : Int) : Option Decimal :=
  let (n, d) := scaled i.middle i.scale k
  let c := n / d
  let r := n % d
  match i.holds c k, i.holds (c + 1) k with
  | true, true => some ⟨if 2 * r < d || (2 * r == d && c % 2 == 0) then c else c + 1, k⟩
  | true, false => some ⟨c, k⟩
  | false, true => some ⟨c + 1, k⟩
  | false, false => none

def stripped (x : Decimal) : Decimal :=
  strip x.digits x.exponent (digitCount x.digits)
where
  strip (n : Nat) (k : Int) : Nat → Decimal
    | 0 => ⟨n, k⟩
    | fuel + 1 => if n ≠ 0 && n % 10 = 0 then strip (n / 10) (k + 1) fuel else ⟨n, k⟩

def shortest (x : Binary64) : Decimal :=
  if x.isZero then ⟨0, 0⟩
  else
    let i := intervalOf x
    let point := pointOf i.middle i.scale
    let grids := (List.range 17).map fun n => onGrid i (point - (n + 1 : Nat))
    stripped ((grids.findSome? id).getD ⟨0, 0⟩)

/-- Written with a point and without an exponent; `.0` ends a whole number. -/
def positional (x : Decimal) : String :=
  let digits := Nat.toDigits 10 x.digits
  if 0 ≤ x.exponent then
    String.ofList (digits ++ List.replicate x.exponent.toNat '0' ++ ['.', '0'])
  else
    let places := (-x.exponent).toNat
    let padded := List.replicate (places + 1 - digits.length) '0' ++ digits
    let split := padded.length - places
    String.ofList (padded.take split ++ '.' :: padded.drop split)

/-- Written without an exponent, and with a point only before a fraction. -/
def plain (x : Decimal) : String :=
  if 0 ≤ x.exponent then
    String.ofList (Nat.toDigits 10 x.digits ++ List.replicate x.exponent.toNat '0')
  else x.positional

/-- Written with one digit before the point, and the exponent with a sign and two digits at least. -/
def scientific (x : Decimal) : String :=
  let digits := Nat.toDigits 10 x.digits
  let exponent := x.exponent + (digits.length - 1 : Nat)
  let fraction := match digits.drop 1 with
    | [] => []
    | rest => '.' :: rest
  let power := Nat.toDigits 10 exponent.natAbs
  let power := if power.length < 2 then '0' :: power else power
  String.ofList (digits.take 1 ++ fraction ++ 'e' :: (if exponent < 0 then '-' else '+') :: power)

/-- Positional between `10 ^ (-5)` and `10 ^ 16`, scientific elsewhere. -/
def text (x : Decimal) : String :=
  let exponent := x.exponent + (digitCount x.digits - 1 : Nat)
  if x.digits = 0 || (-5 ≤ exponent && exponent ≤ 15) then x.positional else x.scientific

end Decimal

end CardGateway.Number
