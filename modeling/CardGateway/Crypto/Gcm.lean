import CardGateway.Crypto.Aes

/-!
# Counted blocks with a tag

The text is added to the enciphered values of a counter, and a polynomial over the sealed text and the
data beside it gives the tag. Initial values have twelve bytes.
-/

namespace CardGateway.Crypto.Gcm

abbrev Element := BitVec 128

/-- Bits stand in the order of the bytes, the highest of a byte first. -/
def Element.ofBytes (bytes : Bytes) : Element :=
  BitVec.ofNat 128 (natOfBytes (bytes ++ List.replicate (16 - bytes.length) 0))

def Element.toBytes (x : Element) : Bytes := bytesOfNat 16 x.toNat

/-- The product, from the lowest `count` bits of `x` down, `v` being due at the highest of them. -/
def productFrom (x : Element) : Nat → Element → Element → Element
  | 0, sum, _ => sum
  | count + 1, sum, v =>
      let sum := if x.getLsbD count then sum ^^^ v else sum
      let v := if v.getLsbD 0 then v >>> 1 ^^^ (0xE1#128 <<< 120) else v >>> 1
      productFrom x count sum v

def product (x y : Element) : Element := productFrom x 128 0 y

def lengthBytes (bytes : Bytes) : Bytes := bytesOfNat 8 (bytes.length * 8)

/-- Data and sealed text, each filled up to whole blocks, and their lengths in bits. -/
def hashInput (data sealed : Bytes) : List Bytes :=
  pieces 16 data ++ pieces 16 sealed ++ [lengthBytes data ++ lengthBytes sealed]

def hash (h : Element) (input : List Bytes) : Element :=
  input.foldl (fun y piece => product (y ^^^ Element.ofBytes piece) h) 0

def counterBlock (iv : Bytes) (counter : Nat) : Block :=
  Block.ofBytes (iv ++ bytesOfNat 4 counter)

/-- Adds the key stream from `counter` on. -/
def crypt (cipher : Block → Block) (iv : Bytes) : Nat → List Bytes → Bytes
  | _, [] => []
  | counter, piece :: rest =>
      List.zipWith (· ^^^ ·) piece (cipher (counterBlock iv counter)).toBytes ++
        crypt cipher iv (counter + 1) rest

def tag (cipher : Block → Block) (iv data sealed : Bytes) : Bytes :=
  let h := Element.ofBytes (cipher (Block.ofBytes [])).toBytes
  let mask := Element.ofBytes (cipher (counterBlock iv 1)).toBytes
  (hash h (hashInput data sealed) ^^^ mask).toBytes

def encrypt (cipher : Block → Block) (iv data text : Bytes) : Bytes × Bytes :=
  let sealed := crypt cipher iv 2 (pieces 16 text)
  (sealed, tag cipher iv data sealed)

def decrypt? (cipher : Block → Block) (iv data sealed expected : Bytes) : Option Bytes :=
  if expected = tag cipher iv data sealed then
    some (crypt cipher iv 2 (pieces 16 sealed))
  else none

end CardGateway.Crypto.Gcm
