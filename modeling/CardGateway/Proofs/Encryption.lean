import CardGateway.Proofs.Base64
import CardGateway.Proofs.JsonRecord
import CardGateway.Proofs.Sealing

/-!
# Encrypted texts are opened to what was encrypted

A text is opened under a key exactly if its parts are what sealing under that key gives, each written
in the one form that there is for it. So nothing is opened but what could have been encrypted, and
whatever is encrypted is opened.
-/

namespace CardGateway.Jwe

open CardGateway.Json CardGateway.Text

variable {key plain iv bytes : Bytes} {text other : String} {part : List Char}
  {enc : ContentEncryption}

/-- There is one part that is read as some bytes. -/
theorem decodePart_eq_ok_iff : decodePart part = .ok bytes ↔ part = encodePart bytes := by
  have read : decodePart part = .ok bytes ↔
      Base64.decode .urlSafe (part.flatMap Utf8.encodeChar) = .ok bytes := by
    rw [decodePart]
    cases Base64.decode .urlSafe (part.flatMap Utf8.encodeChar) with
    | error fault => simp
    | ok found => simp
  have written : (encodePart bytes).flatMap Utf8.encodeChar = Base64.encode .urlSafe bytes :=
    Base64.encode_encodeText bytes
  rw [read, Base64.decode_eq_ok_iff, ← written]
  constructor
  · exact Utf8.encodeChar_flatMap_inj
  · rintro rfl
    rfl

theorem encodePart_inj {first second : Bytes} (same : encodePart first = encodePart second) :
    first = second := by
  have read : decodePart (encodePart first) = .ok first := decodePart_eq_ok_iff.mpr rfl
  rw [same, decodePart_eq_ok_iff.mpr rfl] at read
  exact (Except.ok.inj read).symm

theorem encodePart_solid {c : Char} (member : c ∈ encodePart bytes) :
    isBlank c = false ∧ c ≠ '.' :=
  Base64.encodeText_solid member

theorem Header.codec_faithful : Header.codec.Faithful fun _ => True := by
  have fields : Header.fields.Faithful _ :=
    .cons (Field.required_faithful _ Codec.text_faithful) (by decide) <|
    .cons (Field.required_faithful _ Codec.text_faithful) (by decide) .nil
  exact fields.codec (fun _ => rfl) (fun _ => by simp) fun _ => trivial

/-- The parts of a text are found again if none of them has blanks or dots in it. -/
theorem Compact.splitOn_toText {jwe : Compact}
    (solid : ∀ part ∈ jwe.parts, ∀ c ∈ part, isBlank c = false ∧ c ≠ '.') :
    splitOn '.' (trimChars jwe.toText.toList) = jwe.parts := by
  obtain ⟨header, encryptedKey, iv, sealed, tag⟩ := jwe
  simp only [Compact.parts, List.mem_cons, List.not_mem_nil, or_false, forall_eq_or_imp, forall_eq]
    at solid
  obtain ⟨first, second, third, fourth, fifth⟩ := solid
  have unblank : ∀ c ∈ (Compact.toText ⟨header, encryptedKey, iv, sealed, tag⟩).toList,
      isBlank c = false := by
    intro c member
    simp only [Compact.toText, String.toList_ofList, List.mem_append, List.mem_cons] at member
    rcases member with (((inside | rfl | inside) | rfl | inside) | rfl | inside) | rfl | inside
    · exact (first c inside).1
    · rfl
    · exact (second c inside).1
    · rfl
    · exact (third c inside).1
    · rfl
    · exact (fourth c inside).1
    · rfl
    · exact (fifth c inside).1
  have dotless {part : List Char} (solid : ∀ c ∈ part, isBlank c = false ∧ c ≠ '.') : '.' ∉ part :=
    fun member => (solid '.' member).2 rfl
  rw [trimChars_eq_self unblank, Compact.toText, String.toList_ofList]
  simp only [List.append_assoc, List.cons_append]
  rw [splitOn_append (dotless first), splitOn_append (dotless second), splitOn_append (dotless third),
    splitOn_append (dotless fourth), splitOn_of_notMem (dotless fifth)]
  rfl

theorem splitOn_encoded (header iv sealed tag : Bytes) :
    splitOn '.' (trimChars (Compact.toText ⟨encodePart header, [], encodePart iv, encodePart sealed,
      encodePart tag⟩).toList) =
        [encodePart header, [], encodePart iv, encodePart sealed, encodePart tag] := by
  let jwe : Compact :=
    ⟨encodePart header, [], encodePart iv, encodePart sealed, encodePart tag⟩
  have solid : ∀ part ∈ jwe.parts, ∀ c ∈ part, isBlank c = false ∧ c ≠ '.' := by
    intro part member c inside
    simp only [jwe, Compact.parts, List.mem_cons, List.not_mem_nil, or_false] at member
    rcases member with rfl | rfl | rfl | rfl | rfl
    · exact encodePart_solid inside
    · cases inside
    · exact encodePart_solid inside
    · exact encodePart_solid inside
    · exact encodePart_solid inside
  exact Compact.splitOn_toText solid

/-- The parts of a text that opens under a key to some bytes. -/
theorem decrypt_eq_ok_iff_sealed : decrypt text key = .ok plain ↔
    ∃ (header iv sealed tag : Bytes) (enc : ContentEncryption),
      splitOn '.' (trimChars text.toList) =
        [encodePart header, [], encodePart iv, encodePart sealed, encodePart tag] ∧
      Header.codec.decode header = .ok ⟨"dir", enc.name⟩ ∧
      key.length = enc.keyBytes ∧ iv.length = enc.ivBytes ∧
      enc.encrypt key ((encodePart header).flatMap Utf8.encodeChar) iv plain = (sealed, tag) := by
  rw [decrypt_eq_ok_iff]
  constructor
  · intro opens
    cases opens with
    | @intro header iv sealed tag parts headerBytes ivBytes sealedBytes tagBytes enc readHeader names
        readIv readSealed readTag fits start authentic opened =>
        obtain rfl := decodePart_eq_ok_iff.mp readHeader
        obtain rfl := decodePart_eq_ok_iff.mp readIv
        obtain rfl := decodePart_eq_ok_iff.mp readSealed
        obtain rfl := decodePart_eq_ok_iff.mp readTag
        have done := ContentEncryption.decrypt_eq_ok_iff.mpr ⟨fits, start, authentic, opened⟩
        obtain ⟨-, -, made⟩ := ContentEncryption.decrypt_eq_ok_iff_encrypt.mp done
        exact ⟨headerBytes, ivBytes, sealedBytes, tagBytes, enc, parts, names, fits, start, made⟩
  · rintro ⟨header, iv, sealed, tag, enc, parts, names, fits, start, made⟩
    have done := ContentEncryption.decrypt_eq_ok_iff_encrypt.mpr ⟨fits, start, made⟩
    obtain ⟨-, -, authentic, opened⟩ := ContentEncryption.decrypt_eq_ok_iff.mp done
    exact .intro parts (decodePart_eq_ok_iff.mpr rfl) names (decodePart_eq_ok_iff.mpr rfl)
      (decodePart_eq_ok_iff.mpr rfl) (decodePart_eq_ok_iff.mpr rfl) fits start authentic opened

/-- Whatever is encrypted under a key and an initial value of the right sizes is decrypted. -/
theorem decrypt_encryptWith (fits : key.length = enc.keyBytes) (start : iv.length = enc.ivBytes) :
    ∃ jwe, encryptWith enc key iv plain = .ok jwe ∧ decrypt jwe.toText key = .ok plain := by
  let header := Header.codec.encode ⟨"dir", enc.name⟩
  have names : Header.codec.decode header = .ok ⟨"dir", enc.name⟩ :=
    Header.codec_faithful.decode_encode trivial
  cases made : enc.encrypt key ((encodePart header).flatMap Utf8.encodeChar) iv plain with
  | mk sealed tag =>
      refine ⟨⟨encodePart header, [], encodePart iv, encodePart sealed, encodePart tag⟩, ?_, ?_⟩
      · rw [encryptWith, if_neg (not_not_intro fits), headerPart]
        dsimp only [header] at made
        simp only [made]
        rfl
      · exact decrypt_eq_ok_iff_sealed.mpr
          ⟨header, iv, sealed, tag, enc, splitOn_encoded header iv sealed tag, names, fits, start, made⟩

theorem decrypt_encrypt {draw : Nat → Bytes} (drawn : ∀ count, (draw count).length = count)
    (known : ∃ enc : ContentEncryption, key.length = enc.keyBytes) :
    ∃ jwe, encrypt key draw plain = .ok jwe ∧ decrypt jwe.toText key = .ok plain := by
  obtain ⟨any, size⟩ := known
  have chosen := ContentEncryption.ofKeyBytes?_keyBytes any
  rw [← size] at chosen
  obtain ⟨enc, chosen⟩ := Option.isSome_iff_exists.mp chosen
  have fits := (ContentEncryption.keyBytes_of_ofKeyBytes? chosen).symm
  obtain ⟨jwe, made, opened⟩ : ∃ jwe, encryptWith enc key (draw enc.ivBytes) plain = .ok jwe ∧
      decrypt jwe.toText key = .ok plain :=
    decrypt_encryptWith fits (drawn enc.ivBytes)
  refine ⟨jwe, ?_, opened⟩
  rw [encrypt, chosen]
  exact made

/-- Header, initial value and key leave one text for what is encrypted. -/
theorem trim_eq_of_decrypt {jwe jwe' : Compact} (opens : decrypt text key = .ok plain)
    (opens' : decrypt other key = .ok plain) (read : Compact.ofText? text = some jwe)
    (read' : Compact.ofText? other = some jwe') (header : jwe.header = jwe'.header)
    (start : decodePart jwe.iv = decodePart jwe'.iv) : trim text = trim other := by
  obtain ⟨headerBytes, iv, sealed, tag, enc, parts, names, -, -, made⟩ :=
    decrypt_eq_ok_iff_sealed.mp opens
  obtain ⟨headerBytes', iv', sealed', tag', enc', parts', names', -, -, made'⟩ :=
    decrypt_eq_ok_iff_sealed.mp opens'
  rw [Compact.ofText?_eq_some_iff, parts, Compact.parts] at read
  rw [Compact.ofText?_eq_some_iff, parts', Compact.parts] at read'
  simp only [List.cons.injEq] at read read'
  rw [← read.1, ← read'.1] at header
  rw [← read.2.2.1, ← read'.2.2.1, decodePart_eq_ok_iff.mpr rfl, decodePart_eq_ok_iff.mpr rfl] at start
  obtain rfl := encodePart_inj header
  obtain rfl := Except.ok.inj start
  rw [names] at names'
  have name : enc.name = enc'.name := (Header.mk.inj (Except.ok.inj names')).2
  obtain rfl := ContentEncryption.name_inj.mp name
  rw [made] at made'
  obtain ⟨rfl, rfl⟩ := Prod.mk.inj made'
  have same : trimChars text.toList = trimChars other.toList := splitOn_inj (parts.trans parts'.symm)
  rw [trim, trim, same]

/-- A text is decrypted to some bytes if, and only if, it has the five parts that encrypting these
bytes under the key gives, with some header that names the encryption and some initial value. So what
is encrypted is decrypted again, the encryption being given or chosen by the size of the key, and
header and initial value leave one text, blanks around it aside. -/
theorem decrypt_inverts_encrypt (key plain : Bytes) :
    (∀ text, decrypt text key = .ok plain ↔
      ∃ (header iv sealed tag : Bytes) (enc : ContentEncryption),
        splitOn '.' (trimChars text.toList) =
          [encodePart header, [], encodePart iv, encodePart sealed, encodePart tag] ∧
        Header.codec.decode header = .ok ⟨"dir", enc.name⟩ ∧
        key.length = enc.keyBytes ∧ iv.length = enc.ivBytes ∧
        enc.encrypt key ((encodePart header).flatMap Utf8.encodeChar) iv plain = (sealed, tag)) ∧
    (∀ (enc : ContentEncryption) iv, key.length = enc.keyBytes → iv.length = enc.ivBytes →
      ∃ jwe, encryptWith enc key iv plain = .ok jwe ∧ decrypt jwe.toText key = .ok plain) ∧
    (∀ draw : Nat → Bytes, (∀ count, (draw count).length = count) →
      (∃ enc : ContentEncryption, key.length = enc.keyBytes) →
      ∃ jwe, encrypt key draw plain = .ok jwe ∧ decrypt jwe.toText key = .ok plain) ∧
    ∀ text other jwe jwe', decrypt text key = .ok plain → decrypt other key = .ok plain →
      Compact.ofText? text = some jwe → Compact.ofText? other = some jwe' →
      jwe.header = jwe'.header → decodePart jwe.iv = decodePart jwe'.iv → trim text = trim other := by
  refine ⟨fun text => decrypt_eq_ok_iff_sealed, ?_, ?_, ?_⟩
  · intro enc iv fits start
    exact decrypt_encryptWith fits start
  · intro draw drawn known
    exact decrypt_encrypt drawn known
  · intro text other jwe jwe' opens opens' read read' header start
    exact trim_eq_of_decrypt opens opens' read read' header start

/-- A PIN under a key that chains blocks, its initial value being all zero. -/
theorem pin_decrypted_again :
    ∃ jwe, encrypt (List.replicate 32 7) (List.replicate · 0) (Utf8.encode "123456") = .ok jwe ∧
      decrypt jwe.toText (List.replicate 32 7) = .ok (Utf8.encode "123456") := by
  have drawn : ∀ count, (List.replicate count (0 : UInt8)).length = count :=
    fun _ => List.length_replicate
  have known : ∃ enc : ContentEncryption, (List.replicate 32 (7 : UInt8)).length = enc.keyBytes :=
    ⟨.a128CbcHs256, rfl⟩
  exact (decrypt_inverts_encrypt (List.replicate 32 7) (Utf8.encode "123456")).2.2.1
    (List.replicate · 0) drawn known

end CardGateway.Jwe
