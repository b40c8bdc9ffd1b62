import CardGateway.Crypto.Der
import CardGateway.Crypto.Hmac
import CardGateway.Crypto.Secp256k1

/-!
# Signatures on secp256k1

Over the SHA-256 value of a message. A signature and the one with the complement of its second number
are the same for every key; the lower of the two is in use.
-/

namespace CardGateway.Crypto.Ecdsa

open Secp256k1

structure PublicKey where
  point : Point
  onCurve : point.isOnCurve = true

namespace PublicKey

def ofPoint? (point : Point) : Option PublicKey :=
  if h : point.isOnCurve = true then some ⟨point, h⟩ else none

/-- A point is written in full, with the parity of its ordinate, or by its abscissa alone, which then
has an even ordinate. -/
def ofBytes? : Bytes → Option PublicKey
  | [] => none
  | mark :: rest => do
      let x := natOfBytes (rest.take 32)
      if mark = 0x04 ∧ rest.length = 64 then
        ofPoint? ⟨x, natOfBytes (rest.drop 32)⟩
      else
        guard (rest.length = 32 ∧ x < prime)
        guard (mark = 0x02 ∨ mark = 0x03 ∨ mark = 0x05)
        ofPoint? (← Point.ofAbscissa? x (mark == 0x03))

end PublicKey

structure Signature where
  r : Nat
  s : Nat
  deriving DecidableEq, Repr

def isScalar (n : Nat) : Bool := 1 ≤ n && n < order

namespace Signature

def ofScalars? (r s : Nat) : Option Signature :=
  if isScalar r && isScalar s then some ⟨r, s⟩ else none

def ofDer? (bytes : Bytes) : Option Signature := do
  let (r, s) ← Der.pair? bytes
  ofScalars? r s

def ofFixed? (bytes : Bytes) : Option Signature :=
  if bytes.length = 64 then ofScalars? (natOfBytes (bytes.take 32)) (natOfBytes (bytes.drop 32))
  else none

/-- Either form; the fixed one counts only where the bytes are no distinguished encoding. -/
def ofBytes? (bytes : Bytes) : Option Signature := ofDer? bytes <|> ofFixed? bytes

def toDer (signature : Signature) : Bytes := Der.pair signature.r signature.s

def toFixed (signature : Signature) : Bytes :=
  bytesOfNat 32 signature.r ++ bytesOfNat 32 signature.s

/-- The one of the two equivalent signatures with the lower second number. -/
def lowered (signature : Signature) : Signature :=
  ⟨signature.r, min signature.s (order - signature.s)⟩

/-- The other signature that is as good, the one with the larger value. -/
def raised (signature : Signature) : Signature :=
  ⟨signature.r, max signature.s (order - signature.s)⟩

end Signature

def messageNumber (message : Bytes) : Nat := natOfBytes (sha256.digest message) % order

def verify (key : PublicKey) (message : Bytes) (signature : Signature) : Bool :=
  let w := inverse order signature.s
  let a := messageNumber message * w % order
  let b := signature.r * w % order
  match combination a generator b key.point with
  | some point => point.x % order == signature.r
  | none => false

structure PrivateKey where
  scalar : Nat
  inRange : isScalar scalar = true

/-- At least 24 bytes, and at most 32. -/
def PrivateKey.ofBytes? (bytes : Bytes) : Option PrivateKey :=
  let n := natOfBytes bytes
  if h : isScalar n = true then
    if 24 ≤ bytes.length ∧ bytes.length ≤ 32 then some ⟨n, h⟩ else none
  else none

/-- The key and the chaining value from which nonces are drawn. -/
structure Draw where
  key : Bytes
  chain : Bytes

def Draw.update (draw : Draw) (separator : UInt8) (input : Bytes) : Draw :=
  let key := sha256.hmac draw.key (draw.chain ++ separator :: input)
  ⟨key, sha256.hmac key draw.chain⟩

def Draw.start (input : Bytes) : Draw :=
  ((Draw.mk (List.replicate 32 0) (List.replicate 32 1)).update 0 input).update 1 input

/-- The first drawn number in range. One out of range is as good as impossible, `tries` of them more
so. -/
def Draw.nonce : Nat → Draw → Nat
  | 0, _ => 1
  | tries + 1, draw =>
      let chain := sha256.hmac draw.key draw.chain
      let n := natOfBytes chain
      if isScalar n then n else nonce tries (Draw.update ⟨draw.key, chain⟩ 0 [])

/-- The nonce is drawn from the key and the message, so signing twice gives the same signature. -/
def sign (key : PrivateKey) (message : Bytes) : Signature :=
  let z := messageNumber message
  let k := (Draw.start (bytesOfNat 32 key.scalar ++ sha256.digest message)).nonce 64
  let r := ((multiple k generator).map (·.x % order)).getD 0
  Signature.lowered ⟨r, inverse order k * (z + r * key.scalar) % order⟩

end CardGateway.Crypto.Ecdsa
