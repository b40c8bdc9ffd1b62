import CardGateway.Crypto.Pieces

/-!
# Hash functions of the SHA-2 family

One compression for 32-bit and 64-bit words. `Rules` holds what the word size decides.
-/

namespace CardGateway.Crypto

structure HashFunction where
  /-- Bytes of a block, which the key of an authentication code fills. -/
  blockBytes : Nat
  digest : Bytes → Bytes

namespace Sha2

structure Rules (α : Type) where
  wordBytes : Nat
  ofNat : Nat → α
  toNat : α → Nat
  rotate : α → Nat → α
  shift : α → Nat → α
  /-- Two rotations and a rotation or shift, for the schedule and for the state. -/
  small0 : Nat × Nat × Nat
  small1 : Nat × Nat × Nat
  big0 : Nat × Nat × Nat
  big1 : Nat × Nat × Nat
  constants : List α

structure State (α : Type) where
  a : α
  b : α
  c : α
  d : α
  e : α
  f : α
  g : α
  h : α

variable {α : Type} [Add α] [AndOp α] [XorOp α] [Complement α]

def Rules.small (rules : Rules α) (amounts : Nat × Nat × Nat) (x : α) : α :=
  rules.rotate x amounts.1 ^^^ rules.rotate x amounts.2.1 ^^^ rules.shift x amounts.2.2

def Rules.big (rules : Rules α) (amounts : Nat × Nat × Nat) (x : α) : α :=
  rules.rotate x amounts.1 ^^^ rules.rotate x amounts.2.1 ^^^ rules.rotate x amounts.2.2

def State.add (s t : State α) : State α :=
  ⟨s.a + t.a, s.b + t.b, s.c + t.c, s.d + t.d, s.e + t.e, s.f + t.f, s.g + t.g, s.h + t.h⟩

def State.toList (s : State α) : List α := [s.a, s.b, s.c, s.d, s.e, s.f, s.g, s.h]

def Rules.words (rules : Rules α) (block : Bytes) : Array α :=
  Array.ofFn fun i : Fin 16 =>
    rules.ofNat (natOfBytes ((block.drop (i.val * rules.wordBytes)).take rules.wordBytes))

def Rules.extend (rules : Rules α) : Nat → Array α → Array α
  | 0, words => words
  | count + 1, words =>
      let back (k : Nat) : α := words.getD (words.size - k) (rules.ofNat 0)
      rules.extend count (words.push
        (rules.small rules.small1 (back 2) + back 7 + rules.small rules.small0 (back 15) + back 16))

def Rules.round (rules : Rules α) (s : State α) (constant word : α) : State α :=
  let t1 := s.h + rules.big rules.big1 s.e + ((s.e &&& s.f) ^^^ (~~~s.e &&& s.g)) + constant + word
  let t2 := rules.big rules.big0 s.a + ((s.a &&& s.b) ^^^ (s.a &&& s.c) ^^^ (s.b &&& s.c))
  ⟨t1 + t2, s.a, s.b, s.c, s.d + t1, s.e, s.f, s.g⟩

def Rules.compress (rules : Rules α) (s : State α) (block : Bytes) : State α :=
  let schedule := (rules.extend (rules.constants.length - 16) (rules.words block)).toList
  s.add ((rules.constants.zip schedule).foldl (fun t (k, w) => rules.round t k w) s)

/-- One bit, zeros, and the number of bits, up to whole blocks. -/
def pad (blockBytes : Nat) (message : Bytes) : Bytes :=
  let lengthBytes := blockBytes / 8
  let filled := message.length + 1 + lengthBytes
  let zeros := (blockBytes - filled % blockBytes) % blockBytes
  message ++ 0x80 :: List.replicate zeros 0 ++ bytesOfNat lengthBytes (message.length * 8)

def Rules.digest (rules : Rules α) (start : State α) (message : Bytes) : Bytes :=
  let blockBytes := 16 * rules.wordBytes
  let s := (pieces blockBytes (pad blockBytes message)).foldl rules.compress start
  s.toList.flatMap fun w => bytesOfNat rules.wordBytes (rules.toNat w)

end Sha2

open Sha2

def Sha2.rules32 : Rules UInt32 where
  wordBytes := 4
  ofNat := Nat.toUInt32
  toNat := UInt32.toNat
  rotate x n := x >>> n.toUInt32 ||| x <<< (32 - n).toUInt32
  shift x n := x >>> n.toUInt32
  small0 := (7, 18, 3)
  small1 := (17, 19, 10)
  big0 := (2, 13, 22)
  big1 := (6, 11, 25)
  constants := [
    0x428A2F98, 0x71374491, 0xB5C0FBCF, 0xE9B5DBA5, 0x3956C25B, 0x59F111F1, 0x923F82A4, 0xAB1C5ED5,
    0xD807AA98, 0x12835B01, 0x243185BE, 0x550C7DC3, 0x72BE5D74, 0x80DEB1FE, 0x9BDC06A7, 0xC19BF174,
    0xE49B69C1, 0xEFBE4786, 0x0FC19DC6, 0x240CA1CC, 0x2DE92C6F, 0x4A7484AA, 0x5CB0A9DC, 0x76F988DA,
    0x983E5152, 0xA831C66D, 0xB00327C8, 0xBF597FC7, 0xC6E00BF3, 0xD5A79147, 0x06CA6351, 0x14292967,
    0x27B70A85, 0x2E1B2138, 0x4D2C6DFC, 0x53380D13, 0x650A7354, 0x766A0ABB, 0x81C2C92E, 0x92722C85,
    0xA2BFE8A1, 0xA81A664B, 0xC24B8B70, 0xC76C51A3, 0xD192E819, 0xD6990624, 0xF40E3585, 0x106AA070,
    0x19A4C116, 0x1E376C08, 0x2748774C, 0x34B0BCB5, 0x391C0CB3, 0x4ED8AA4A, 0x5B9CCA4F, 0x682E6FF3,
    0x748F82EE, 0x78A5636F, 0x84C87814, 0x8CC70208, 0x90BEFFFA, 0xA4506CEB, 0xBEF9A3F7, 0xC67178F2
  ]

def Sha2.rules64 : Rules UInt64 where
  wordBytes := 8
  ofNat := Nat.toUInt64
  toNat := UInt64.toNat
  rotate x n := x >>> n.toUInt64 ||| x <<< (64 - n).toUInt64
  shift x n := x >>> n.toUInt64
  small0 := (1, 8, 7)
  small1 := (19, 61, 6)
  big0 := (28, 34, 39)
  big1 := (14, 18, 41)
  constants := [
    0x428A2F98D728AE22, 0x7137449123EF65CD, 0xB5C0FBCFEC4D3B2F, 0xE9B5DBA58189DBBC,
    0x3956C25BF348B538, 0x59F111F1B605D019, 0x923F82A4AF194F9B, 0xAB1C5ED5DA6D8118,
    0xD807AA98A3030242, 0x12835B0145706FBE, 0x243185BE4EE4B28C, 0x550C7DC3D5FFB4E2,
    0x72BE5D74F27B896F, 0x80DEB1FE3B1696B1, 0x9BDC06A725C71235, 0xC19BF174CF692694,
    0xE49B69C19EF14AD2, 0xEFBE4786384F25E3, 0x0FC19DC68B8CD5B5, 0x240CA1CC77AC9C65,
    0x2DE92C6F592B0275, 0x4A7484AA6EA6E483, 0x5CB0A9DCBD41FBD4, 0x76F988DA831153B5,
    0x983E5152EE66DFAB, 0xA831C66D2DB43210, 0xB00327C898FB213F, 0xBF597FC7BEEF0EE4,
    0xC6E00BF33DA88FC2, 0xD5A79147930AA725, 0x06CA6351E003826F, 0x142929670A0E6E70,
    0x27B70A8546D22FFC, 0x2E1B21385C26C926, 0x4D2C6DFC5AC42AED, 0x53380D139D95B3DF,
    0x650A73548BAF63DE, 0x766A0ABB3C77B2A8, 0x81C2C92E47EDAEE6, 0x92722C851482353B,
    0xA2BFE8A14CF10364, 0xA81A664BBC423001, 0xC24B8B70D0F89791, 0xC76C51A30654BE30,
    0xD192E819D6EF5218, 0xD69906245565A910, 0xF40E35855771202A, 0x106AA07032BBD1B8,
    0x19A4C116B8D2D0C8, 0x1E376C085141AB53, 0x2748774CDF8EEB99, 0x34B0BCB5E19B48A8,
    0x391C0CB3C5C95A63, 0x4ED8AA4AE3418ACB, 0x5B9CCA4F7763E373, 0x682E6FF3D6B2B8A3,
    0x748F82EE5DEFB2FC, 0x78A5636F43172F60, 0x84C87814A1F0AB72, 0x8CC702081A6439EC,
    0x90BEFFFA23631E28, 0xA4506CEBDE82BDE9, 0xBEF9A3F7B2C67915, 0xC67178F2E372532B,
    0xCA273ECEEA26619C, 0xD186B8C721C0C207, 0xEADA7DD6CDE0EB1E, 0xF57D4F7FEE6ED178,
    0x06F067AA72176FBA, 0x0A637DC5A2C898A6, 0x113F9804BEF90DAE, 0x1B710B35131C471B,
    0x28DB77F523047D84, 0x32CAAB7B40C72493, 0x3C9EBE0A15C9BEBC, 0x431D67C49C100D4C,
    0x4CC5D4BECB3E42B6, 0x597F299CFC657E2A, 0x5FCB6FAB3AD6FAEC, 0x6C44198C4A475817
  ]

def sha256 : HashFunction where
  blockBytes := 64
  digest := Sha2.rules32.digest
    ⟨0x6A09E667, 0xBB67AE85, 0x3C6EF372, 0xA54FF53A, 0x510E527F, 0x9B05688C, 0x1F83D9AB, 0x5BE0CD19⟩

def sha384 : HashFunction where
  blockBytes := 128
  digest message := (Sha2.rules64.digest
    ⟨0xCBBB9D5DC1059ED8, 0x629A292A367CD507, 0x9159015A3070DD17, 0x152FECD8F70E5939,
      0x67332667FFC00B31, 0x8EB44A8768581511, 0xDB0C2E0D64F98FA7, 0x47B5481DBEFA4FA4⟩
    message).take 48

def sha512 : HashFunction where
  blockBytes := 128
  digest := Sha2.rules64.digest
    ⟨0x6A09E667F3BCC908, 0xBB67AE8584CAA73B, 0x3C6EF372FE94F82B, 0xA54FF53A5F1D36F1,
      0x510E527FADE682D1, 0x9B05688C2B3E6C1F, 0x1F83D9ABFB41BD6B, 0x5BE0CD19137E2179⟩

end CardGateway.Crypto
