import CardGateway.Crypto.Cbc
import CardGateway.Crypto.Gcm
import CardGateway.Crypto.Hmac
import CardGateway.Jwe.Fault

/-!
# Content encryptions

Six ways to seal a text under a key together with data that stays in the open. Three chain blocks and
add an authentication code over everything, under a key whose first half serves the code; three count
blocks.
-/

namespace CardGateway.ContentEncryption

open CardGateway.Crypto

/-- Whether blocks are counted rather than chained. -/
def isCounted : ContentEncryption → Bool
  | .a128Gcm | .a192Gcm | .a256Gcm => true
  | _ => false

def ivBytes (enc : ContentEncryption) : Nat := if enc.isCounted then 12 else 16

/-- The encryption to seal with under a key of this size. -/
def ofKeyBytes? : Nat → Option ContentEncryption
  | 16 => some .a128Gcm
  | 24 => some .a192Gcm
  | 32 => some .a128CbcHs256
  | 48 => some .a192CbcHs384
  | 64 => some .a256CbcHs512
  | _ => none

theorem keyBytes_of_ofKeyBytes? {count : Nat} {enc : ContentEncryption}
    (h : ofKeyBytes? count = some enc) : enc.keyBytes = count := by
  unfold ofKeyBytes? at h
  split at h <;> cases h <;> rfl

theorem ofKeyBytes?_keyBytes (enc : ContentEncryption) :
    (ofKeyBytes? enc.keyBytes).isSome = true := by
  cases enc <;> rfl

def hash : ContentEncryption → HashFunction
  | .a192CbcHs384 => sha384
  | .a256CbcHs512 => sha512
  | _ => sha256

/-- The authentication code of chained blocks, cut to the size of the code's key. -/
def code (enc : ContentEncryption) (codeKey data iv sealed : Bytes) : Bytes :=
  (enc.hash.hmac codeKey (data ++ iv ++ sealed ++ bytesOfNat 8 (data.length * 8))).take
    (enc.keyBytes / 2)

def codeKey (key : Bytes) : Bytes := key.take (key.length / 2)

def cipherKey (key : Bytes) : Bytes := key.drop (key.length / 2)

def encrypt (enc : ContentEncryption) (key data iv text : Bytes) : Bytes × Bytes :=
  if enc.isCounted then Gcm.encrypt (Aes.encrypt (Aes.roundKeys key)) iv data text
  else
    let sealed := Cbc.encrypt (Aes.encrypt (Aes.roundKeys (cipherKey key))) iv text
    (sealed, enc.code (codeKey key) data iv sealed)

def tagBytes (enc : ContentEncryption) : Nat := if enc.isCounted then 16 else enc.keyBytes / 2

def cipherKeyBytes : ContentEncryption → Nat
  | .a128CbcHs256 | .a128Gcm => 16
  | .a192CbcHs384 | .a192Gcm => 24
  | .a256CbcHs512 | .a256Gcm => 32

def decryptCounted (enc : ContentEncryption) (key data iv sealed tag : Bytes) :
    Except Jwe.Fault Bytes := do
  if key.length ≠ enc.cipherKeyBytes then throw (.key .counted)
  match Gcm.decrypt? (Aes.encrypt (Aes.roundKeys key)) iv data sealed tag with
  | some text => return text
  | none => throw .authentication

def decryptChained (enc : ContentEncryption) (key iv sealed : Bytes) : Except Jwe.Fault Bytes := do
  if key.length ≠ enc.cipherKeyBytes ∨ iv.length ≠ 16 then throw (.key .chained)
  match Cbc.decrypt? (Aes.decrypt (Aes.roundKeys key)) iv sealed with
  | some text => return text
  | none => throw .decryption

/-- Nothing is deciphered before the tag is found to be right. -/
def decrypt (enc : ContentEncryption) (key data iv sealed tag : Bytes) : Except Jwe.Fault Bytes := do
  if key.length ≠ enc.keyBytes then throw (.key (.misfit key.length enc))
  if iv.length ≠ enc.ivBytes then throw .decryption
  if tag.length ≠ enc.tagBytes then throw .authentication
  if enc.isCounted then enc.decryptCounted key data iv sealed tag
  else
    if tag ≠ enc.code (codeKey key) data iv sealed then throw .authentication
    enc.decryptChained (cipherKey key) iv sealed

end CardGateway.ContentEncryption
