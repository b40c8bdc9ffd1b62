import Mathlib.Data.List.DropRight
import CardGateway.Proofs.Encryption
import CardGateway.Proofs.RemotePin

/-!
# PINs and their keys from end to end

A key is taken, raw or from a JSON Web Key, exactly if there is an encryption of its size, and then it
can encrypt. What it encrypts is unwrapped to a PIN with the characters of the text.
-/

namespace CardGateway

open CardGateway.Text

namespace ContentEncryption

theorem any_keyBytes_iff {count : Nat} :
    (all.any fun enc => enc.keyBytes == count) = true ↔
      ∃ enc : ContentEncryption, enc.keyBytes = count := by
  rw [List.any_eq_true]
  constructor
  · rintro ⟨enc, -, fits⟩
    exact ⟨enc, beq_iff_eq.mp fits⟩
  · rintro ⟨enc, fits⟩
    exact ⟨enc, mem_all enc, beq_iff_eq.mpr fits⟩

/-- The table from sizes to encryptions has the sizes that the encryptions have. -/
theorem exists_ofKeyBytes?_iff {count : Nat} :
    (∃ enc, ofKeyBytes? count = some enc) ↔ ∃ enc : ContentEncryption, enc.keyBytes = count := by
  constructor
  · rintro ⟨enc, chosen⟩
    exact ⟨enc, keyBytes_of_ofKeyBytes? chosen⟩
  · rintro ⟨enc, rfl⟩
    exact Option.isSome_iff_exists.mp (ofKeyBytes?_keyBytes enc)

end ContentEncryption

namespace Jwe

variable {key iv plain : Bytes} {enc : ContentEncryption}

theorem exists_encryptWith_iff :
    (∃ jwe, encryptWith enc key iv plain = .ok jwe) ↔ key.length = enc.keyBytes := by
  by_cases fits : key.length = enc.keyBytes
  · exact iff_of_true ⟨_, by rw [encryptWith, if_neg (not_not_intro fits)]; rfl⟩ fits
  · refine iff_of_false ?_ fits
    rintro ⟨jwe, made⟩
    rw [encryptWith, if_pos fits] at made
    cases made

/-- A key of any size that an encryption has can encrypt, and no other key can. -/
theorem exists_encrypt_iff {draw : Nat → Bytes} :
    (∃ jwe, encrypt key draw plain = .ok jwe) ↔
      ∃ enc : ContentEncryption, enc.keyBytes = key.length := by
  rw [← ContentEncryption.exists_ofKeyBytes?_iff]
  cases chosen : ContentEncryption.ofKeyBytes? key.length with
  | none => simp [encrypt, chosen]
  | some enc =>
      have fits := (ContentEncryption.keyBytes_of_ofKeyBytes? chosen).symm
      have made : encrypt key draw plain = encryptWith enc key (draw enc.ivBytes) plain := by
        rw [encrypt, chosen]
      rw [made, exists_encryptWith_iff]
      exact iff_of_true fits ⟨enc, rfl⟩

end Jwe

namespace PinKey

variable {key : PinKey} {bytes : Bytes} {text value : String} {chars : List Char}

theorem exists_ofBytes_iff :
    (∃ key, ofBytes bytes = .ok key) ↔ ∃ enc : ContentEncryption, enc.keyBytes = bytes.length := by
  rw [← ContentEncryption.any_keyBytes_iff]
  constructor
  · rintro ⟨key, made⟩
    rw [ofBytes_eq_ok_iff.mp made]
    exact key.fits
  · intro fits
    exact ⟨⟨bytes, fits⟩, ofBytes_eq_ok_iff.mpr rfl⟩

theorem exists_fits (key : PinKey) : ∃ enc : ContentEncryption, enc.keyBytes = key.length :=
  ContentEncryption.any_keyBytes_iff.mp key.fits

def padded (text : String) (count : Nat) : String :=
  text ++ String.ofList (List.replicate count '=')

/-- However many paddings there are, they are dropped, and nothing else is. -/
theorem unpadded_eq_iff (solid : '=' ∉ text.toList) :
    unpadded value = text.toList ↔ ∃ count, value = padded text count := by
  constructor
  · intro dropped
    have pads : ∀ c ∈ value.toList.rtakeWhile (· == '='), c = '=' :=
      fun c member => by simpa using List.mem_rtakeWhile_imp member
    obtain ⟨count, behind⟩ : ∃ count, value.toList.rtakeWhile (· == '=') =
        List.replicate count '=' := ⟨_, List.eq_replicate_of_mem pads⟩
    refine ⟨count, String.toList_inj.mp ?_⟩
    calc value.toList
        = unpadded value ++ value.toList.rtakeWhile (· == '=') :=
          List.rdropWhile_append_rtakeWhile.symm
      _ = text.toList ++ List.replicate count '=' := by rw [dropped, behind]
      _ = (padded text count).toList := by rw [padded, String.toList_append, String.toList_ofList]
  · rintro ⟨count, rfl⟩
    show (padded text count).toList.rdropWhile (· == '=') = text.toList
    rw [padded, String.toList_append, String.toList_ofList]
    induction count with
    | zero =>
        rw [List.replicate_zero, List.append_nil, List.rdropWhile_eq_self_iff]
        intro filled last
        exact solid (beq_iff_eq.mp last ▸ List.getLast_mem filled)
    | succ count ih =>
        rw [List.replicate_succ', ← List.append_assoc, List.rdropWhile_concat_pos _ _ _ rfl, ih]

/-- A key value is read as the bytes that it is written for, paddings behind it aside. -/
theorem decode_unpadded_iff :
    Base64.decode .urlSafe ((unpadded value).flatMap Utf8.encodeChar) = .ok bytes ↔
      ∃ count, value = padded (Base64.encodeText .urlSafe bytes) count := by
  rw [← unpadded_eq_iff (Base64.encodeText_unpadded bytes), Base64.decode_eq_ok_iff,
    ← Base64.encode_encodeText, Utf8.encode]
  constructor
  · exact Utf8.encodeChar_flatMap_inj
  · intro same
    rw [same]

theorem Jwk.codec_faithful : Jwk.codec.Faithful fun _ => True := by
  have fields : Jwk.fields.Faithful _ :=
    .cons (Json.Field.required_faithful _ Json.Codec.text_faithful) (by decide) <|
    .cons (Json.Field.optional_faithful _ Json.Codec.text_faithful) (by decide) .nil
  exact fields.codec (fun _ => rfl) (fun _ => by simp) fun _ => trivial

theorem Jwk.decode_toText (jwk : Jwk) :
    Jwk.codec.decode (Utf8.encode (Jwk.codec.write jwk).toText) = .ok jwk := by
  have written : Utf8.encode (Jwk.codec.write jwk).toText = Jwk.codec.encode jwk := rfl
  rw [written]
  exact Jwk.codec_faithful.decode_encode trivial

/-- A JSON Web Key for byte strings gives the key that its value gives raw. -/
theorem ofJwk_eq_ofBytes (octets : Jwk.codec.decode (Utf8.encode text) = .ok ⟨"oct", some value⟩)
    {count : Nat} (written : value = padded (Base64.encodeText .urlSafe bytes) count) :
    ofJwk text = ofBytes bytes := by
  have read := decode_unpadded_iff.mpr ⟨count, written⟩
  simp [ofJwk, octets, read]

/-- Only such a JSON Web Key gives a key. -/
theorem exists_of_ofJwk (made : ofJwk text = .ok key) :
    ∃ value count, Jwk.codec.decode (Utf8.encode text) = .ok ⟨"oct", some value⟩ ∧
      value = padded (Base64.encodeText .urlSafe key.bytes) count := by
  obtain ⟨value, octets, read⟩ := ofJwk_eq_ok_iff.mp made
  obtain ⟨count, written⟩ := decode_unpadded_iff.mp read
  exact ⟨value, count, octets, written⟩

/-- What is encrypted under a key is granted as a PIN under it, unless it is empty. -/
theorem exists_encryptWith {enc : ContentEncryption} {iv : Bytes} (fits : key.length = enc.keyBytes)
    (start : iv.length = enc.ivBytes) (text : String) :
    ∃ jwe, key.encryptWith enc iv text = .ok jwe ∧
      PinPolicy.Grants ⟨true, some key⟩ (some jwe.toText)
        (if text = "" then none else some (.ofText text)) := by
  obtain ⟨jwe, made, opened⟩ : ∃ jwe, key.encryptWith enc iv text = .ok jwe ∧
      Jwe.decrypt jwe.toText key.bytes = .ok (Utf8.encode text) := Jwe.decrypt_encryptWith fits start
  have opens := Jwe.decrypt_eq_ok_iff.mp opened
  refine ⟨jwe, made, ?_⟩
  by_cases empty : text = ""
  · subst empty
    exact .empty rfl rfl opens
  · rw [if_neg empty]
    exact .of_text rfl rfl opens fun blank => empty (String.toList_inj.mp blank)

/-- A key is taken if some encryption has its size, which is when encrypting under it is possible, and a
JSON Web Key gives just such a key, whatever paddings stand behind its value. A text that is encrypted
under a key, as any encryption of its size does it, is unwrapped to a PIN that consists of its
characters and that erasing fills with blanks; an empty text is unwrapped to none. -/
theorem pins_come_back (bytes : Bytes) :
    ((∃ key, ofBytes bytes = .ok key) ↔ ∃ enc : ContentEncryption, enc.keyBytes = bytes.length) ∧
    (∀ draw plain, (∃ jwe, Jwe.encrypt bytes draw plain = .ok jwe) ↔
      ∃ enc : ContentEncryption, enc.keyBytes = bytes.length) ∧
    (∀ text value count, Jwk.codec.decode (Utf8.encode text) = .ok ⟨"oct", some value⟩ →
      value = padded (Base64.encodeText .urlSafe bytes) count → ofJwk text = ofBytes bytes) ∧
    (∀ text key, ofJwk text = .ok key →
      ∃ value count, Jwk.codec.decode (Utf8.encode text) = .ok ⟨"oct", some value⟩ ∧
        value = padded (Base64.encodeText .urlSafe key.bytes) count ∧
        ∃ enc : ContentEncryption, enc.keyBytes = key.bytes.length) ∧
    ∀ key, ofBytes bytes = .ok key → ∀ text (enc : ContentEncryption) iv,
      enc.keyBytes = key.length → iv.length = enc.ivBytes →
      ∃ jwe, key.encryptWith enc iv text = .ok jwe ∧
        (text = "" → PinPolicy.unwrap ⟨true, some key⟩ (some jwe.toText) = .ok none) ∧
        (text ≠ "" → ∃ pin, PinPolicy.unwrap ⟨true, some key⟩ (some jwe.toText) = .ok (some pin) ∧
          pin.chars = text.toList ∧ pin.expose = text ∧ pin.length = text.toList.length ∧
          pin.erase.chars = List.replicate pin.length Pin.filler) := by
  refine ⟨exists_ofBytes_iff, fun draw plain => Jwe.exists_encrypt_iff, ?_, ?_, ?_⟩
  · intro text value count octets written
    exact ofJwk_eq_ofBytes octets written
  · intro text key made
    obtain ⟨value, count, octets, written⟩ := exists_of_ofJwk made
    exact ⟨value, count, octets, written, key.exists_fits⟩
  · intro key made text enc iv fits start
    obtain ⟨jwe, encrypted, granted⟩ := exists_encryptWith fits.symm start text
    refine ⟨jwe, encrypted, fun empty => ?_, fun filled => ⟨.ofText text, ?_, rfl, ?_, rfl, ?_⟩⟩
    · rw [if_pos empty] at granted
      exact granted.unwrap_eq
    · rw [if_neg filled] at granted
      exact granted.unwrap_eq
    · exact Pin.expose_ofText text
    · exact List.map_const'

/-- A PIN of five characters in ten bytes, under a key of 32 bytes that comes with two paddings and that
both encryptions of this size could use. -/
theorem umlauts_come_back :
    let bytes := List.replicate 32 7
    let jwk := (Jwk.codec.write
      ⟨"oct", some (padded (Base64.encodeText .urlSafe bytes) 2)⟩).toText
    ∃ key jwe pin, ofBytes bytes = .ok key ∧ ofJwk jwk = .ok key ∧
      key.encryptWith .a256Gcm (List.replicate 12 0) "1 äß€" = .ok jwe ∧
      PinPolicy.unwrap ⟨true, some key⟩ (some jwe.toText) = .ok (some pin) ∧
      pin.chars = ['1', ' ', 'ä', 'ß', '€'] := by
  intro bytes jwk
  obtain ⟨sized, -, given, -, back⟩ := pins_come_back bytes
  obtain ⟨key, made⟩ := sized.mpr ⟨.a256Gcm, rfl⟩
  have octets := Jwk.decode_toText ⟨"oct", some (padded (Base64.encodeText .urlSafe bytes) 2)⟩
  have size : ContentEncryption.a256Gcm.keyBytes = key.length := by
    rw [length, ← ofBytes_eq_ok_iff.mp made]
    rfl
  obtain ⟨jwe, encrypted, -, filled⟩ := back key made "1 äß€" .a256Gcm (List.replicate 12 0) size rfl
  obtain ⟨pin, unwrapped, chars, -⟩ := filled (by decide)
  exact ⟨key, jwe, pin, made, (given jwk _ 2 octets rfl).trans made, encrypted, unwrapped, chars⟩

end PinKey

end CardGateway
