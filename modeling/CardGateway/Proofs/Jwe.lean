import CardGateway.Jwe.Compact
import CardGateway.Proofs.ByteNumbers
import CardGateway.Proofs.Faults

/-!
# What opens an encrypted text

An encrypted text opens under a key exactly where its five parts, its header, its sizes and its tag
are as they have to be and nothing is wrong with the padding.
-/

namespace CardGateway

open CardGateway.Text

namespace Crypto

theorem Sha2.Rules.digest_length {α : Type} [Add α] [AndOp α] [XorOp α] [Complement α]
    (rules : Sha2.Rules α) (start : Sha2.State α) (message : Bytes) :
    (rules.digest start message).length = 8 * rules.wordBytes := by
  simp [Sha2.Rules.digest, Sha2.State.toList, bytesOfNat_length]
  omega

theorem sha256_length (message : Bytes) : (sha256.digest message).length = 32 :=
  Sha2.rules32.digest_length _ message

theorem sha384_length (message : Bytes) : (sha384.digest message).length = 48 := by
  have whole := Sha2.rules64.digest_length
  simp only [sha384, List.length_take, whole]
  rfl

theorem sha512_length (message : Bytes) : (sha512.digest message).length = 64 :=
  Sha2.rules64.digest_length _ message

end Crypto

namespace ContentEncryption

open CardGateway.Crypto

variable {enc : ContentEncryption} {key data iv sealed tag plain : Bytes}

theorem ofName?_eq_some_iff {name : String} : ofName? name = some enc ↔ name = enc.name := by
  constructor
  · intro found
    have same := List.find?_some found
    exact (beq_iff_eq.mp same).symm
  · rintro rfl
    exact ofName?_name enc

theorem name_inj {other : ContentEncryption} : other.name = enc.name ↔ other = enc := by
  constructor
  · intro same
    have found := ofName?_name other
    rw [same, ofName?_name] at found
    exact (Option.some.inj found).symm
  · rintro rfl
    rfl

def authTag (enc : ContentEncryption) (key data iv sealed : Bytes) : Bytes :=
  if enc.isCounted then Gcm.tag (Aes.encrypt (Aes.roundKeys key)) iv data sealed
  else enc.code (codeKey key) data iv sealed

/-- What a sealed text is deciphered to, whatever its tag; none where its blocks or its padding are
wrong. -/
def decipher? (enc : ContentEncryption) (key iv sealed : Bytes) : Option Bytes :=
  if enc.isCounted then
    some (Gcm.crypt (Aes.encrypt (Aes.roundKeys key)) iv 2 (pieces 16 sealed))
  else Cbc.decrypt? (Aes.decrypt (Aes.roundKeys (cipherKey key))) iv sealed

theorem code_length (enc : ContentEncryption) (codeKey data iv sealed : Bytes) :
    (enc.code codeKey data iv sealed).length = enc.keyBytes / 2 := by
  rw [code, List.length_take, HashFunction.hmac]
  apply Nat.min_eq_left
  cases enc with
  | a192CbcHs384 => exact Nat.le_trans (by decide) (Nat.le_of_eq (sha384_length _).symm)
  | a256CbcHs512 => exact Nat.le_trans (by decide) (Nat.le_of_eq (sha512_length _).symm)
  | _ => exact Nat.le_trans (by decide) (Nat.le_of_eq (sha256_length _).symm)

theorem authTag_length (enc : ContentEncryption) (key data iv sealed : Bytes) :
    (enc.authTag key data iv sealed).length = enc.tagBytes := by
  unfold authTag tagBytes
  split
  · exact bytesOfNat_length 16 _
  · exact enc.code_length _ data iv sealed

/-- Counted blocks use the whole key for the cipher. -/
theorem cipherKeyBytes_of_counted (counted : enc.isCounted = true) :
    enc.cipherKeyBytes = enc.keyBytes := by
  cases enc <;> first | rfl | cases counted

/-- Chained blocks leave the cipher a half of the key, which is of its size. -/
theorem cipherKey_length (chained : enc.isCounted = false) (fits : key.length = enc.keyBytes) :
    (cipherKey key).length = enc.cipherKeyBytes := by
  rw [cipherKey, List.length_drop, fits]
  cases enc <;> first | rfl | cases chained

/-! Which step of opening a sealed text fails. The ciphers are set up with keys and initial values of
their own sizes each time that they are reached. -/

theorem decrypt_misfit (misfit : key.length ≠ enc.keyBytes) :
    enc.decrypt key data iv sealed tag = .error (.key (.misfit key.length enc)) := by
  rw [decrypt, if_pos misfit]
  rfl

theorem decrypt_misstart (fits : key.length = enc.keyBytes) (misstart : iv.length ≠ enc.ivBytes) :
    enc.decrypt key data iv sealed tag = .error .decryption := by
  rw [decrypt, if_neg (not_not_intro fits), if_pos misstart]
  rfl

theorem decrypt_forged (fits : key.length = enc.keyBytes) (start : iv.length = enc.ivBytes)
    (forged : tag ≠ enc.authTag key data iv sealed) :
    enc.decrypt key data iv sealed tag = .error .authentication := by
  unfold decrypt
  by_cases size : tag.length = enc.tagBytes
  case neg => simp [fits, start, size]
  unfold authTag at forged
  cases counted : enc.isCounted with
  | true =>
      rw [counted, if_pos rfl] at forged
      have whole := fits.trans (cipherKeyBytes_of_counted counted).symm
      simp [fits, start, size, decryptCounted, ← whole, Gcm.decrypt?, forged]
  | false =>
      rw [counted, if_neg Bool.false_ne_true] at forged
      simp [fits, start, size, forged]

theorem decrypt_authentic (fits : key.length = enc.keyBytes) (start : iv.length = enc.ivBytes)
    (authentic : tag = enc.authTag key data iv sealed) :
    enc.decrypt key data iv sealed tag =
      match enc.decipher? key iv sealed with
      | some text => .ok text
      | none => .error .decryption := by
  have size : tag.length = enc.tagBytes := authentic ▸ enc.authTag_length key data iv sealed
  unfold authTag at authentic
  unfold decrypt decipher?
  cases counted : enc.isCounted with
  | true =>
      rw [counted, if_pos rfl] at authentic
      have whole := fits.trans (cipherKeyBytes_of_counted counted).symm
      simp [fits, start, size, decryptCounted, ← whole, Gcm.decrypt?, ← authentic]
  | false =>
      rw [counted, if_neg Bool.false_ne_true] at authentic
      have half := cipherKey_length counted fits
      have block : enc.ivBytes = 16 := by rw [ivBytes, counted]; rfl
      simp only [fits, start, size, decryptChained, half, block]
      cases Cbc.decrypt? (Aes.decrypt (Aes.roundKeys (cipherKey key))) iv sealed with
      | none => simp [← authentic]
      | some text => simp [← authentic]

/-- A sealed text is opened if the key and the initial value have the right sizes, the tag is the one
that it has to be, and the text can be deciphered. -/
theorem decrypt_eq_ok_iff : enc.decrypt key data iv sealed tag = .ok plain ↔
    key.length = enc.keyBytes ∧ iv.length = enc.ivBytes ∧ tag = enc.authTag key data iv sealed ∧
      enc.decipher? key iv sealed = some plain := by
  by_cases fits : key.length = enc.keyBytes
  case neg => simp [decrypt_misfit fits, fits]
  by_cases start : iv.length = enc.ivBytes
  case neg => simp [decrypt_misstart fits start, start]
  by_cases authentic : tag = enc.authTag key data iv sealed
  case neg => simp [decrypt_forged fits start authentic, authentic]
  rw [decrypt_authentic fits start authentic]
  cases enc.decipher? key iv sealed with
  | none => simp
  | some text => simp [fits, start, authentic]

end ContentEncryption

namespace Jwe

variable {key plain : Bytes} {text : String} {part : List Char} {enc : ContentEncryption}

theorem Compact.ofText?_eq_some_iff {jwe : Compact} :
    Compact.ofText? text = some jwe ↔ splitOn '.' (trimChars text.toList) = jwe.parts := by
  unfold Compact.ofText? Compact.parts
  constructor
  · intro read
    split at read
    · next parts =>
        obtain rfl := Option.some.inj read
        exact parts
    · cases read
  · intro parts
    rw [parts]

/-- A header names the direct use of the key and a content encryption. -/
theorem readHeader_eq_ok_iff : readHeader part = .ok enc ↔
    ∃ bytes, decodePart part = .ok bytes ∧ Header.codec.decode bytes = .ok ⟨"dir", enc.name⟩ := by
  unfold readHeader
  rw [bind_eq_ok_iff]
  refine exists_congr fun bytes => and_congr_right fun _ => ?_
  rcases Header.codec.decode bytes with fault | ⟨algorithm, encryption⟩
  · simp
  · by_cases direct : algorithm = "dir"
    · cases found : ContentEncryption.ofName? encryption with
      | none =>
          have unnamed : encryption ≠ enc.name := by
            rintro rfl
            simp [ContentEncryption.ofName?_name] at found
          simp [direct, found, unnamed]
      | some other =>
          obtain rfl := ContentEncryption.ofName?_eq_some_iff.mp found
          simp [direct, found, ContentEncryption.name_inj]
    · simp [direct]

/-- An encrypted text opens under a key to a byte sequence. -/
inductive Opens (key : Bytes) (text : String) (plain : Bytes) : Prop where
  | intro {header iv sealed tag : List Char}
      (parts : splitOn '.' (trimChars text.toList) = [header, [], iv, sealed, tag])
      {headerBytes ivBytes sealedBytes tagBytes : Bytes} {enc : ContentEncryption}
      (readHeader : decodePart header = .ok headerBytes)
      (names : Header.codec.decode headerBytes = .ok ⟨"dir", enc.name⟩)
      (readIv : decodePart iv = .ok ivBytes) (readSealed : decodePart sealed = .ok sealedBytes)
      (readTag : decodePart tag = .ok tagBytes) (fits : key.length = enc.keyBytes)
      (start : ivBytes.length = enc.ivBytes)
      (authentic : tagBytes =
        enc.authTag key (header.flatMap Utf8.encodeChar) ivBytes sealedBytes)
      (opened : enc.decipher? key ivBytes sealedBytes = some plain) : Opens key text plain

theorem decrypt_eq_ok_iff : decrypt text key = .ok plain ↔ Opens key text plain := by
  unfold decrypt
  constructor
  · intro done
    cases parsed : Compact.ofText? text with
    | none => simp [parsed] at done
    | some jwe =>
        have parts := Compact.ofText?_eq_some_iff.mp parsed
        rw [parsed] at done
        obtain ⟨enc, header, done⟩ := bind_eq_ok_iff.mp done
        obtain ⟨headerBytes, readHeader, names⟩ := readHeader_eq_ok_iff.mp header
        by_cases agreed : jwe.encryptedKey = []
        case neg => simp [agreed] at done
        simp only [agreed, List.isEmpty_nil, Bool.not_true, Bool.false_eq_true, if_false] at done
        obtain ⟨ivBytes, readIv, done⟩ := bind_eq_ok_iff.mp done
        obtain ⟨sealedBytes, readSealed, done⟩ := bind_eq_ok_iff.mp done
        obtain ⟨tagBytes, readTag, done⟩ := bind_eq_ok_iff.mp done
        obtain ⟨fits, start, authentic, opened⟩ :=
          ContentEncryption.decrypt_eq_ok_iff.mp done
        rw [Compact.parts, agreed] at parts
        exact .intro parts readHeader names readIv readSealed readTag fits start authentic opened
  · intro opens
    cases opens with
    | @intro header iv sealed tag parts _ ivBytes sealedBytes tagBytes enc readHeader names readIv
        readSealed readTag fits start authentic opened =>
        have parsed : Compact.ofText? text = some ⟨header, [], iv, sealed, tag⟩ :=
          Compact.ofText?_eq_some_iff.mpr parts
        have header := readHeader_eq_ok_iff.mpr ⟨_, readHeader, names⟩
        have done := ContentEncryption.decrypt_eq_ok_iff.mpr ⟨fits, start, authentic, opened⟩
        simp only [parsed]
        refine bind_eq_ok_iff.mpr ⟨enc, header, ?_⟩
        simp only [List.isEmpty_nil, Bool.not_true, Bool.false_eq_true, if_false]
        refine bind_eq_ok_iff.mpr ⟨ivBytes, readIv, ?_⟩
        refine bind_eq_ok_iff.mpr ⟨sealedBytes, readSealed, ?_⟩
        exact bind_eq_ok_iff.mpr ⟨tagBytes, readTag, done⟩

end Jwe

end CardGateway
