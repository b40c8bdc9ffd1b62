/-!
# The curve secp256k1

Points satisfy `y² = x³ + 7` over the field of `prime` elements, and the generator has `order`
multiples. Sums are formed in Jacobian coordinates, in which `⟨x, y, z⟩` stands for the point
`(x/z², y/z³)` and a zero `z` for the point at infinity.
-/

namespace CardGateway.Crypto.Secp256k1

def prime : Nat := 0xFFFFFFFFFFFFFFFFFFFFFFFFFFFFFFFFFFFFFFFFFFFFFFFFFFFFFFFEFFFFFC2F

def order : Nat := 0xFFFFFFFFFFFFFFFFFFFFFFFFFFFFFFFEBAAEDCE6AF48A03BBFD25E8CD0364141

/-- A power modulo `m`, by the bits of an exponent below `2 ^ bits`. -/
def power (m base : Nat) : Nat → Nat → Nat
  | 0, _ => 1
  | bits + 1, exponent =>
      let root := power m base bits (exponent / 2)
      let square := root * root % m
      if exponent % 2 = 1 then square * base % m else square

/-- The inverse modulo a prime below `2 ^ 256`. -/
def inverse (m n : Nat) : Nat := power m n 256 (m - 2)

def sub (a b : Nat) : Nat := (a + (prime - b % prime)) % prime

structure Point where
  x : Nat
  y : Nat
  deriving DecidableEq, Repr

def cubic (x : Nat) : Nat := (x * x % prime * x + 7) % prime

def Point.isOnCurve (point : Point) : Bool :=
  point.x < prime && point.y < prime && point.y * point.y % prime == cubic point.x

/-- The point with this abscissa whose ordinate is odd or even as asked. -/
def Point.ofAbscissa? (x : Nat) (odd : Bool) : Option Point :=
  let root := power prime (cubic x) 256 ((prime + 1) / 4)
  let y := if (root % 2 == 1) == odd then root else prime - root
  let point := Point.mk x y
  if point.isOnCurve then some point else none

def generator : Point where
  x := 0x79BE667EF9DCBBAC55A06295CE870B07029BFCDB2DCE28D959F2815B16F81798
  y := 0x483ADA7726A3C4655DA4FBFC0E1108A8FD17B448A68554199C47D08FFB10D4B8

structure Jacobian where
  x : Nat
  y : Nat
  z : Nat

namespace Jacobian

def infinity : Jacobian := ⟨1, 1, 0⟩

def ofPoint (point : Point) : Jacobian := ⟨point.x, point.y, 1⟩

def toPoint? (p : Jacobian) : Option Point :=
  if p.z = 0 then none
  else
    let w := inverse prime p.z
    let w2 := w * w % prime
    some ⟨p.x * w2 % prime, p.y * w2 % prime * w % prime⟩

def double (p : Jacobian) : Jacobian :=
  let y2 := p.y * p.y % prime
  let s := 4 * p.x * y2 % prime
  let m := 3 * p.x * p.x % prime
  let x := sub (m * m) (2 * s)
  ⟨x, sub (m * sub s x) (8 * y2 * y2), 2 * p.y * p.z % prime⟩

def add (p q : Jacobian) : Jacobian :=
  if p.z = 0 then q
  else if q.z = 0 then p
  else
    let pz2 := p.z * p.z % prime
    let qz2 := q.z * q.z % prime
    let u := p.x * qz2 % prime
    let v := q.x * pz2 % prime
    let s := p.y * qz2 % prime * q.z % prime
    let t := q.y * pz2 % prime * p.z % prime
    if u = v then
      if s = t then double p else infinity
    else
      let h := sub v u
      let r := sub t s
      let h2 := h * h % prime
      let h3 := h2 * h % prime
      let uh2 := u * h2 % prime
      let x := sub (r * r) (h3 + 2 * uh2)
      ⟨x, sub (r * sub uh2 x) (s * h3), p.z * q.z % prime * h % prime⟩

/-- A multiple by the bits of a factor below `2 ^ bits`. -/
def multiply (p : Jacobian) : Nat → Nat → Jacobian
  | 0, _ => infinity
  | bits + 1, factor =>
      let twice := double (multiply p bits (factor / 2))
      if factor % 2 = 1 then add twice p else twice

end Jacobian

def multiple (factor : Nat) (point : Point) : Option Point :=
  ((Jacobian.ofPoint point).multiply 256 factor).toPoint?

def combination (a : Nat) (p : Point) (b : Nat) (q : Point) : Option Point :=
  (((Jacobian.ofPoint p).multiply 256 a).add ((Jacobian.ofPoint q).multiply 256 b)).toPoint?

end CardGateway.Crypto.Secp256k1
