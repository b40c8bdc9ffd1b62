import Mathlib.Control.Monad.Basic
import CardGateway.Proofs.Encryption

/-!
# The order in which an encrypted text is checked

What is wrong first is what is told. Nothing depends on the deciphered bytes unless the tag is right,
so a text with a wrong tag says nothing about how its blocks would have been padded.
-/

namespace CardGateway.Jwe

open CardGateway.Crypto CardGateway.Json CardGateway.Text

inductive Check where
  /-- There are five parts between dots. -/
  | parts
  /-- The first part is written as bytes are. -/
  | headerText
  /-- It holds a header. -/
  | header
  /-- The key is used as it is. -/
  | algorithm
  /-- The content encryption has a known name. -/
  | encryption
  /-- No key comes with the text. -/
  | agreement
  /-- Initial value, sealed text and tag are written as bytes are. -/
  | bodies
  | keySize
  | ivSize
  | tagSize
  | tag
  /-- Chained blocks are whole. -/
  | blocks
  | padding
  deriving DecidableEq, Repr

def Check.order : List Check :=
  [.parts, .headerText, .header, .algorithm, .encryption, .agreement, .bodies, .keySize, .ivSize,
    .tagSize, .tag, .blocks, .padding]

/-- The parts of a text, blanks around it aside. -/
def Parted (text : String) (jwe : Compact) : Prop :=
  splitOn '.' (trimChars text.toList) = jwe.parts

inductive Headed (text : String) (header : Header) : Prop where
  | intro {jwe : Compact} (parted : Parted text jwe) {bytes : Bytes}
      (written : jwe.header = encodePart bytes) (read : Header.codec.decode bytes = .ok header) :
      Headed text header

/-- The bytes that are to be opened, and the data beside them. -/
structure Content where
  data : Bytes
  iv : Bytes
  sealed : Bytes
  tag : Bytes

/-- The bytes that are written in the last three parts of a text, the header as it is written being the
data beside them. -/
inductive Carried (text : String) (content : Content) : Prop where
  | intro {jwe : Compact} (parted : Parted text jwe)
      (data : content.data = jwe.header.flatMap Utf8.encodeChar)
      (iv : jwe.iv = encodePart content.iv) (sealed : jwe.sealed = encodePart content.sealed)
      (tag : jwe.tag = encodePart content.tag) : Carried text content

/-- A text names a content encryption and carries bytes that are to be opened by it. -/
structure Offers (text : String) (enc : ContentEncryption) (content : Content) : Prop where
  named : ∃ header, Headed text header ∧ header.encryption = enc.name
  carried : Carried text content

/-- The bytes that chained blocks are deciphered to, padding included. -/
def deciphered (key iv sealed : Bytes) : Bytes :=
  (Cbc.decryptBlocks (Aes.decrypt (Aes.roundKeys (ContentEncryption.cipherKey key)))
    (Block.ofBytes iv) (Cbc.blocks sealed)).flatMap Block.toBytes

/-- A check that a text does not pass under a key, and what is told of it. -/
inductive Fails (text : String) (key : Bytes) : Check → Fault → Prop where
  | parts (other : ∀ jwe, ¬ Parted text jwe) : Fails text key .parts .malformed
  | headerText {jwe : Compact} (parted : Parted text jwe)
      (other : ∀ bytes, jwe.header ≠ encodePart bytes) : Fails text key .headerText .malformed
  | header {jwe : Compact} (parted : Parted text jwe) {bytes : Bytes}
      (written : jwe.header = encodePart bytes)
      (other : ∀ header, Header.codec.decode bytes ≠ .ok header) : Fails text key .header .header
  | algorithm {header : Header} (headed : Headed text header) (other : header.algorithm ≠ "dir") :
      Fails text key .algorithm (.algorithm header.algorithm)
  | encryption {header : Header} (headed : Headed text header)
      (other : ∀ enc : ContentEncryption, header.encryption ≠ enc.name) :
      Fails text key .encryption (.encryption header.encryption)
  | agreement {jwe : Compact} (parted : Parted text jwe) (other : jwe.encryptedKey ≠ []) :
      Fails text key .agreement .malformed
  | bodies {jwe : Compact} (parted : Parted text jwe)
      (other : ∃ part ∈ [jwe.iv, jwe.sealed, jwe.tag], ∀ bytes, part ≠ encodePart bytes) :
      Fails text key .bodies .malformed
  | keySize {enc : ContentEncryption} {content : Content} (offers : Offers text enc content)
      (other : key.length ≠ enc.keyBytes) :
      Fails text key .keySize (.key (.misfit key.length enc))
  | ivSize {enc : ContentEncryption} {content : Content} (offers : Offers text enc content)
      (other : content.iv.length ≠ enc.ivBytes) : Fails text key .ivSize .decryption
  | tagSize {enc : ContentEncryption} {content : Content} (offers : Offers text enc content)
      (other : content.tag.length ≠ enc.tagBytes) : Fails text key .tagSize .authentication
  | tag {enc : ContentEncryption} {content : Content} (offers : Offers text enc content)
      (other : content.tag ≠ enc.authTag key content.data content.iv content.sealed) :
      Fails text key .tag .authentication
  | blocks {enc : ContentEncryption} {content : Content} (offers : Offers text enc content)
      (chained : enc.isCounted = false) (other : content.sealed.length % 16 ≠ 0) :
      Fails text key .blocks .decryption
  | padding {enc : ContentEncryption} {content : Content} (offers : Offers text enc content)
      (chained : enc.isCounted = false)
      (other : ∀ plain, deciphered key content.iv content.sealed ≠ Cbc.pad plain) :
      Fails text key .padding .decryption

variable {text : String} {key : Bytes}

section Views

variable {part : List Char} {jwe jwe' : Compact} {header header' : Header}
  {enc enc' : ContentEncryption} {content content' : Content}

theorem Parted.unique (parted : Parted text jwe) (other : Parted text jwe') : jwe = jwe' := by
  have same : Compact.ofText? text = some jwe := Compact.ofText?_eq_some_iff.mpr parted
  rw [Compact.ofText?_eq_some_iff.mpr other] at same
  exact (Option.some.inj same).symm

theorem Headed.unique (headed : Headed text header) (other : Headed text header') :
    header = header' := by
  obtain ⟨parted, written, read⟩ := headed
  obtain ⟨parted', written', read'⟩ := other
  obtain rfl := parted.unique parted'
  obtain rfl := encodePart_inj (written.symm.trans written')
  exact Except.ok.inj (read.symm.trans read')

theorem Carried.unique (carried : Carried text content) (other : Carried text content') :
    content = content' := by
  obtain ⟨parted, data, iv, sealed, tag⟩ := carried
  obtain ⟨parted', data', iv', sealed', tag'⟩ := other
  obtain rfl := parted.unique parted'
  obtain ⟨d, i, s, t⟩ := content
  obtain ⟨d', i', s', t'⟩ := content'
  rw [Content.mk.injEq]
  exact ⟨data.trans data'.symm, encodePart_inj (iv.symm.trans iv'),
    encodePart_inj (sealed.symm.trans sealed'), encodePart_inj (tag.symm.trans tag')⟩

theorem Offers.unique (offers : Offers text enc content) (other : Offers text enc' content') :
    enc = enc' ∧ content = content' := by
  obtain ⟨⟨header, headed, named⟩, carried⟩ := offers
  obtain ⟨⟨header', headed', named'⟩, carried'⟩ := other
  obtain rfl := headed.unique headed'
  exact ⟨ContentEncryption.name_inj.mp (named.symm.trans named'), carried.unique carried'⟩

theorem decodePart_of_unwritten (unwritten : ∀ bytes, part ≠ encodePart bytes) :
    decodePart part = .error .malformed := by
  cases read : decodePart part with
  | ok bytes => exact absurd (decodePart_eq_ok_iff.mp read) (unwritten bytes)
  | error fault =>
      unfold decodePart at read
      split at read
      · cases read
      · exact read.symm

theorem decodePart_of_written {bytes : Bytes} (written : part = encodePart bytes) :
    decodePart part = .ok bytes :=
  decodePart_eq_ok_iff.mpr written

end Views

/-- What a list of checks leads to: the fault of the first one that fails, and none if none does. -/
inductive Decided (text : String) (key : Bytes) : List Check → Except Fault Bytes → Prop where
  | done (plain : Bytes) : Decided text key [] (.ok plain)
  | fails {check : Check} {fault : Fault} {rest : List Check}
      (fails : Fails text key check fault) : Decided text key (check :: rest) (.error fault)
  | passes {check : Check} {rest : List Check} {result : Except Fault Bytes}
      (passes : ∀ fault, ¬ Fails text key check fault) (next : Decided text key rest result) :
      Decided text key (check :: rest) result

namespace Decided

variable {jwe : Compact} {header : Header} {enc : ContentEncryption} {content : Content}

/-- Chained blocks are opened where they are whole and padded. -/
theorem ofChained (offers : Offers text enc content) (chained : enc.isCounted = false) :
    Decided text key [.blocks, .padding]
      (match enc.decipher? key content.iv content.sealed with
        | some text => .ok text
        | none => .error .decryption) := by
  rw [ContentEncryption.decipher?, chained, if_neg Bool.false_ne_true, Cbc.decrypt?]
  by_cases whole : content.sealed.length % 16 = 0
  case neg =>
    rw [if_neg whole]
    exact .fails (.blocks offers chained whole)
  refine .passes ?_ ?_
  · intro fault failing
    cases failing with
    | blocks other _ broken =>
        obtain ⟨-, rfl⟩ := offers.unique other
        exact broken whole
  rw [if_pos whole]
  change Decided text key [.padding] (match Cbc.unpad (deciphered key content.iv content.sealed) with
    | some text => .ok text
    | none => .error .decryption)
  have padded {plain : Bytes} : Cbc.unpad (deciphered key content.iv content.sealed) = some plain ↔
      deciphered key content.iv content.sealed = Cbc.pad plain :=
    Cbc.unpad_eq_some_iff (Cbc.flatMap_length _)
  cases read : Cbc.unpad (deciphered key content.iv content.sealed) with
  | none =>
      refine .fails (.padding offers chained fun plain same => ?_)
      rw [padded.mpr same] at read
      cases read
  | some plain =>
      refine .passes ?_ (.done plain)
      intro fault failing
      cases failing with
      | padding other _ unpadded =>
          obtain ⟨-, rfl⟩ := offers.unique other
          exact unpadded plain (padded.mp read)

/-- Counted blocks can be cut off anywhere and have no padding. -/
theorem ofCounted (offers : Offers text enc content) (counted : enc.isCounted = true)
    (plain : Bytes) : Decided text key [.blocks, .padding] (.ok plain) := by
  refine .passes ?_ (.passes ?_ (.done plain))
  · intro fault failing
    cases failing with
    | blocks other chained =>
        obtain ⟨rfl, -⟩ := offers.unique other
        cases counted.symm.trans chained
  · intro fault failing
    cases failing with
    | padding other chained =>
        obtain ⟨rfl, -⟩ := offers.unique other
        cases counted.symm.trans chained

theorem ofTag (offers : Offers text enc content) (fits : key.length = enc.keyBytes)
    (start : content.iv.length = enc.ivBytes) :
    Decided text key [.tagSize, .tag, .blocks, .padding]
      (enc.decrypt key content.data content.iv content.sealed content.tag) := by
  by_cases authentic : content.tag = enc.authTag key content.data content.iv content.sealed
  case neg =>
    rw [ContentEncryption.decrypt_forged fits start authentic]
    by_cases size : content.tag.length = enc.tagBytes
    case neg => exact .fails (.tagSize offers size)
    refine .passes ?_ (.fails (.tag offers authentic))
    intro fault failing
    cases failing with
    | tagSize other missized =>
        obtain ⟨rfl, rfl⟩ := offers.unique other
        exact missized size
  refine .passes ?_ (.passes ?_ ?_)
  · intro fault failing
    cases failing with
    | tagSize other missized =>
        obtain ⟨rfl, rfl⟩ := offers.unique other
        exact missized (authentic ▸ enc.authTag_length key _ _ _)
  · intro fault failing
    cases failing with
    | tag other forged =>
        obtain ⟨rfl, rfl⟩ := offers.unique other
        exact forged authentic
  rw [ContentEncryption.decrypt_authentic fits start authentic]
  cases counted : enc.isCounted with
  | false => exact ofChained offers counted
  | true =>
      rw [ContentEncryption.decipher?, counted, if_pos rfl]
      exact ofCounted offers counted _

theorem ofSizes (offers : Offers text enc content) :
    Decided text key [.keySize, .ivSize, .tagSize, .tag, .blocks, .padding]
      (enc.decrypt key content.data content.iv content.sealed content.tag) := by
  by_cases fits : key.length = enc.keyBytes
  case neg =>
    rw [ContentEncryption.decrypt_misfit fits]
    exact .fails (.keySize offers fits)
  refine .passes ?_ ?_
  · intro fault failing
    cases failing with
    | keySize other misfit =>
        obtain ⟨rfl, -⟩ := offers.unique other
        exact misfit fits
  by_cases start : content.iv.length = enc.ivBytes
  case neg =>
    rw [ContentEncryption.decrypt_misstart fits start]
    exact .fails (.ivSize offers start)
  refine .passes ?_ (ofTag offers fits start)
  intro fault failing
  cases failing with
  | ivSize other misstart =>
      obtain ⟨rfl, rfl⟩ := offers.unique other
      exact misstart start

/-- Which of the last three parts is not written as bytes are does not matter. -/
theorem ofBodies (parted : Parted text jwe) (headed : Headed text header)
    (named : header.encryption = enc.name) :
    Decided text key [.bodies, .keySize, .ivSize, .tagSize, .tag, .blocks, .padding]
      (do
        let iv ← decodePart jwe.iv
        let sealed ← decodePart jwe.sealed
        let tag ← decodePart jwe.tag
        enc.decrypt key (jwe.header.flatMap Utf8.encodeChar) iv sealed tag) := by
  by_cases first : ∃ bytes, jwe.iv = encodePart bytes
  case neg =>
    have unwritten := not_exists.mp first
    rw [decodePart_of_unwritten unwritten]
    exact .fails (.bodies parted ⟨jwe.iv, by simp, unwritten⟩)
  obtain ⟨iv, first⟩ := first
  rw [decodePart_of_written first, ok_bind]
  by_cases second : ∃ bytes, jwe.sealed = encodePart bytes
  case neg =>
    have unwritten := not_exists.mp second
    rw [decodePart_of_unwritten unwritten]
    exact .fails (.bodies parted ⟨jwe.sealed, by simp, unwritten⟩)
  obtain ⟨sealed, second⟩ := second
  rw [decodePart_of_written second, ok_bind]
  by_cases third : ∃ bytes, jwe.tag = encodePart bytes
  case neg =>
    have unwritten := not_exists.mp third
    rw [decodePart_of_unwritten unwritten]
    exact .fails (.bodies parted ⟨jwe.tag, by simp, unwritten⟩)
  obtain ⟨tag, third⟩ := third
  rw [decodePart_of_written third, ok_bind]
  have carried : Carried text ⟨jwe.header.flatMap Utf8.encodeChar, iv, sealed, tag⟩ :=
    .intro parted rfl first second third
  refine .passes ?_ (ofSizes ⟨⟨header, headed, named⟩, carried⟩)
  intro fault failing
  cases failing with
  | bodies other wrong =>
      obtain rfl := parted.unique other
      obtain ⟨part, member, unwritten⟩ := wrong
      simp only [List.mem_cons, List.not_mem_nil, or_false] at member
      rcases member with rfl | rfl | rfl
      · exact unwritten iv first
      · exact unwritten sealed second
      · exact unwritten tag third

theorem ofAgreement (parted : Parted text jwe) (headed : Headed text header)
    (named : header.encryption = enc.name) :
    Decided text key
      [.agreement, .bodies, .keySize, .ivSize, .tagSize, .tag, .blocks, .padding]
      (do
        if !jwe.encryptedKey.isEmpty then throw .malformed
        let iv ← decodePart jwe.iv
        let sealed ← decodePart jwe.sealed
        let tag ← decodePart jwe.tag
        enc.decrypt key (jwe.header.flatMap Utf8.encodeChar) iv sealed tag) := by
  by_cases agreed : jwe.encryptedKey = []
  case neg =>
    rw [List.isEmpty_eq_false_iff.mpr agreed]
    exact .fails (.agreement parted agreed)
  rw [agreed]
  refine .passes ?_ (ofBodies parted headed named)
  intro fault failing
  cases failing with
  | agreement other supplied =>
      obtain rfl := parted.unique other
      exact supplied agreed

theorem ofHeader (parted : Parted text jwe) :
    Decided text key (Check.order.drop 1)
      (do
        let enc ← readHeader jwe.header
        if !jwe.encryptedKey.isEmpty then throw .malformed
        let iv ← decodePart jwe.iv
        let sealed ← decodePart jwe.sealed
        let tag ← decodePart jwe.tag
        enc.decrypt key (jwe.header.flatMap Utf8.encodeChar) iv sealed tag) := by
  unfold readHeader
  by_cases written : ∃ bytes, jwe.header = encodePart bytes
  case neg =>
    have unwritten := not_exists.mp written
    rw [decodePart_of_unwritten unwritten]
    exact .fails (.headerText parted unwritten)
  obtain ⟨bytes, written⟩ := written
  rw [decodePart_of_written written, ok_bind]
  refine .passes ?_ ?_
  · intro fault failing
    cases failing with
    | headerText other unwritten =>
        obtain rfl := parted.unique other
        exact unwritten bytes written
  cases read : Header.codec.decode bytes with
  | error fault =>
      refine .fails (.header parted written fun header same => ?_)
      cases read.symm.trans same
  | ok header =>
      have headed : Headed text header := .intro parted written read
      refine .passes ?_ ?_
      · intro fault failing
        cases failing with
        | header other rewritten unread =>
            obtain rfl := parted.unique other
            obtain rfl := encodePart_inj (written.symm.trans rewritten)
            exact unread header read
      by_cases direct : header.algorithm = "dir"
      case neg =>
        simp only [direct, ne_eq, not_false_eq_true, if_true, throw_eq_error, error_bind]
        exact .fails (.algorithm headed direct)
      simp only [direct, ne_eq, not_true_eq_false, if_false]
      refine .passes ?_ ?_
      · intro fault failing
        cases failing with
        | algorithm other indirect =>
            obtain rfl := headed.unique other
            exact indirect direct
      cases found : ContentEncryption.ofName? header.encryption with
      | none =>
          refine .fails (.encryption headed fun enc named => ?_)
          rw [named, ContentEncryption.ofName?_name] at found
          cases found
      | some enc =>
          have named := ContentEncryption.ofName?_eq_some_iff.mp found
          refine .passes ?_ (ofAgreement parted headed named)
          intro fault failing
          cases failing with
          | encryption other unnamed =>
              obtain rfl := headed.unique other
              exact unnamed enc named

theorem ofText (text : String) (key : Bytes) :
    Decided text key Check.order (decrypt text key) := by
  unfold decrypt
  cases parsed : Compact.ofText? text with
  | none =>
      refine .fails (.parts fun jwe parted => ?_)
      rw [Compact.ofText?_eq_some_iff.mpr parted] at parsed
      cases parsed
  | some jwe =>
      have parted : Parted text jwe := Compact.ofText?_eq_some_iff.mp parsed
      refine .passes ?_ (ofHeader parted)
      intro fault failing
      cases failing with
      | parts unparted => exact unparted jwe parted

end Decided

theorem Fails.unique {check : Check} {fault other : Fault} (fails : Fails text key check fault)
    (again : Fails text key check other) : fault = other := by
  cases fails with
  | algorithm headed =>
      cases again with
      | algorithm headed' => rw [headed.unique headed']
  | encryption headed =>
      cases again with
      | encryption headed' => rw [headed.unique headed']
  | keySize offers =>
      cases again with
      | keySize offers' => rw [(offers.unique offers').1]
  | _ => cases again; rfl

/-- A cipher is never set up with a key or an initial value of another size. -/
theorem Fails.ne_unset {check : Check} {fault : Fault} (fails : Fails text key check fault) :
    fault ≠ .key .chained ∧ fault ≠ .key .counted := by
  cases fails <;> exact ⟨nofun, nofun⟩

/-- The first of some checks that fails, with what is told of it. -/
def FirstFails (text : String) (key : Bytes) (checks : List Check) (fault : Fault) : Prop :=
  ∃ before check after, checks = before ++ check :: after ∧
    (∀ earlier ∈ before, ∀ other, ¬ Fails text key earlier other) ∧ Fails text key check fault

namespace Decided

variable {checks : List Check} {result : Except Fault Bytes}

theorem eq_error_iff {fault : Fault} (decided : Decided text key checks result) :
    result = .error fault ↔ FirstFails text key checks fault := by
  induction decided with
  | done plain =>
      refine iff_of_false nofun ?_
      rintro ⟨before, check, after, split, -⟩
      cases before <;> cases split
  | @fails check first rest fails =>
      constructor
      · rintro ⟨⟩
        exact ⟨[], check, rest, rfl, nofun, fails⟩
      · rintro ⟨before, found, after, split, clear, again⟩
        cases before with
        | nil =>
            obtain ⟨rfl, -⟩ := List.cons.inj split
            rw [fails.unique again]
        | cons earlier more =>
            obtain ⟨rfl, -⟩ := List.cons.inj split
            exact absurd fails (clear check List.mem_cons_self first)
  | @passes check rest result passes next ih =>
      rw [ih]
      constructor
      · rintro ⟨before, found, after, rfl, clear, fails⟩
        refine ⟨check :: before, found, after, rfl, ?_, fails⟩
        intro earlier member
        rcases List.mem_cons.mp member with rfl | member
        · exact passes
        · exact clear earlier member
      · rintro ⟨before, found, after, split, clear, fails⟩
        cases before with
        | nil =>
            obtain ⟨rfl, -⟩ := List.cons.inj split
            exact absurd fails (passes fault)
        | cons earlier more =>
            obtain ⟨rfl, rfl⟩ := List.cons.inj split
            exact ⟨more, found, after, rfl,
              fun earlier member => clear earlier (List.mem_cons_of_mem _ member), fails⟩

end Decided

end CardGateway.Jwe

namespace CardGateway.ContentEncryption

open CardGateway.Crypto

variable {enc : ContentEncryption} {key data iv sealed tag : Bytes}

theorem decrypt_eq_authentication_iff (chained : enc.isCounted = false)
    (fits : key.length = enc.keyBytes) (start : iv.length = enc.ivBytes) :
    enc.decrypt key data iv sealed tag = .error .authentication ↔
      tag ≠ (enc.hash.hmac (key.take (enc.keyBytes / 2))
        (data ++ iv ++ sealed ++ bytesOfNat 8 (data.length * 8))).take (enc.keyBytes / 2) := by
  have own : enc.authTag key data iv sealed = (enc.hash.hmac (key.take (enc.keyBytes / 2))
      (data ++ iv ++ sealed ++ bytesOfNat 8 (data.length * 8))).take (enc.keyBytes / 2) := by
    rw [authTag, chained, if_neg Bool.false_ne_true, code, codeKey, fits]
  rw [← own]
  constructor
  · intro refused authentic
    rw [decrypt_authentic fits start authentic] at refused
    cases found : enc.decipher? key iv sealed <;> rw [found] at refused <;> cases refused
  · exact decrypt_forged fits start

/-- A cipher is never set up with a key or an initial value of another size. -/
theorem decrypt_ne_unset : enc.decrypt key data iv sealed tag ≠ .error (.key .chained) ∧
    enc.decrypt key data iv sealed tag ≠ .error (.key .counted) := by
  by_cases fits : key.length = enc.keyBytes
  case neg => simp [decrypt_misfit fits]
  by_cases start : iv.length = enc.ivBytes
  case neg => simp [decrypt_misstart fits start]
  by_cases authentic : tag = enc.authTag key data iv sealed
  case neg => simp [decrypt_forged fits start authentic]
  rw [decrypt_authentic fits start authentic]
  cases enc.decipher? key iv sealed <;> simp

end CardGateway.ContentEncryption

namespace CardGateway.Jwe

open CardGateway.Crypto CardGateway.ContentEncryption

/-- What is told of a text that is not opened is the fault of the first check that fails. In chained
blocks with a key and an initial value of the right sizes, a tag is refused exactly if it is not the
authentication code, cut to its size, and all such texts are refused alike, whatever their blocks are
deciphered to. No cipher is ever set up with a key or an initial value of another size. -/
theorem told_by_first_failing_check (key : Bytes) :
    (∀ text fault, decrypt text key = .error fault ↔
      ∃ before check after, Check.order = before ++ check :: after ∧
        (∀ earlier ∈ before, ∀ other, ¬ Fails text key earlier other) ∧
        Fails text key check fault) ∧
    (∀ (enc : ContentEncryption) (data iv sealed tag : Bytes), enc.isCounted = false →
      key.length = enc.keyBytes → iv.length = enc.ivBytes →
      (enc.decrypt key data iv sealed tag = .error .authentication ↔
        tag ≠ (enc.hash.hmac (key.take (enc.keyBytes / 2))
          (data ++ iv ++ sealed ++ bytesOfNat 8 (data.length * 8))).take (enc.keyBytes / 2))) ∧
    (∀ (enc : ContentEncryption) (key' data data' iv iv' sealed sealed' tag tag' : Bytes),
      key.length = enc.keyBytes → key'.length = enc.keyBytes →
      iv.length = enc.ivBytes → iv'.length = enc.ivBytes →
      tag ≠ enc.authTag key data iv sealed → tag' ≠ enc.authTag key' data' iv' sealed' →
      enc.decrypt key data iv sealed tag = enc.decrypt key' data' iv' sealed' tag') ∧
    (∀ (enc : ContentEncryption) (data iv sealed tag : Bytes),
      enc.decrypt key data iv sealed tag ≠ .error (.key .chained) ∧
      enc.decrypt key data iv sealed tag ≠ .error (.key .counted)) ∧
    ∀ text, decrypt text key ≠ .error (.key .chained) ∧ decrypt text key ≠ .error (.key .counted) := by
  have first (text : String) {fault : Fault} :
      decrypt text key = .error fault ↔ FirstFails text key Check.order fault :=
    (Decided.ofText text key).eq_error_iff
  refine ⟨fun text fault => first text, ?_, ?_, fun enc data iv sealed tag => decrypt_ne_unset, ?_⟩
  · intro enc data iv sealed tag chained fits start
    exact decrypt_eq_authentication_iff chained fits start
  · intro enc key' data data' iv iv' sealed sealed' tag tag' fits fits' start start' forged forged'
    rw [decrypt_forged fits start forged, decrypt_forged fits' start' forged']
  · intro text
    constructor
    · intro unset
      obtain ⟨_, _, _, _, _, fails⟩ := (first text).mp unset
      exact fails.ne_unset.1 rfl
    · intro unset
      obtain ⟨_, _, _, _, _, fails⟩ := (first text).mp unset
      exact fails.ne_unset.2 rfl

def shortTagged : String :=
  "eyJhbGciOiJkaXIiLCJlbmMiOiJBMTI4Q0JDLUhTMjU2In0..AAAAAAAAAAAAAAAAAAAAAA.AAAAAAAAAAAAAAAAAAAAAA.AA"

theorem short_tags_refused_alike :
    let enc := ContentEncryption.a128CbcHs256
    let zeros := List.replicate 16 (0 : UInt8)
    let key := List.replicate 32 (0 : UInt8)
    let other := zeros ++ List.replicate 16 1
    decrypt shortTagged key = .error .authentication ∧
      FirstFails shortTagged key Check.order .authentication ∧
      enc.decrypt key [] zeros zeros [0] = .error .authentication ∧
      enc.decrypt key [] zeros zeros [0] = enc.decrypt other [] zeros zeros [0] := by
  intro enc zeros key other
  obtain ⟨first, refused, alike, -⟩ := told_by_first_failing_check key
  have told : decrypt shortTagged (List.replicate 32 0) = .error .authentication := by
    decide +kernel
  have short (key : Bytes) : [0] ≠ enc.authTag key [] zeros zeros := by
    intro same
    have sizes := congrArg List.length same
    rw [authTag_length] at sizes
    exact absurd sizes (by decide)
  exact ⟨told, (first shortTagged _).mp told, (refused enc [] zeros zeros [0] rfl rfl rfl).mpr (short key),
    alike enc other [] [] zeros zeros zeros zeros [0] [0] rfl rfl rfl rfl (short key) (short other)⟩

end CardGateway.Jwe
