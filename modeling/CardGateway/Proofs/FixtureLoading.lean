import CardGateway.Card.Fixture
import CardGateway.Proofs.Base64
import CardGateway.Proofs.Hex
import CardGateway.Proofs.ItemByItem

/-!
# Fixtures load as a whole

A card is loaded exactly if each token of its document and each credential of these describe something
that a card can hold. It then holds just what they describe, in their order.
-/

namespace CardGateway

open CardGateway.Crypto CardGateway.Text

theorem Crypto.Ecdsa.PrivateKey.ofBytes?_eq_some_iff {bytes : Bytes} {key : Ecdsa.PrivateKey} :
    ofBytes? bytes = some key ↔
      24 ≤ bytes.length ∧ bytes.length ≤ 32 ∧ natOfBytes bytes = key.scalar := by
  obtain ⟨scalar, inRange⟩ := key
  by_cases length : 24 ≤ bytes.length ∧ bytes.length ≤ 32
  · by_cases ranged : isScalar (natOfBytes bytes) = true
    · simp [ofBytes?, ranged, length]
    · refine iff_of_false (by simp [ofBytes?, ranged]) ?_
      rintro ⟨-, -, rfl⟩
      exact ranged inRange
  · exact iff_of_false (by simp [ofBytes?, length]) fun fits => length ⟨fits.1, fits.2.1⟩

namespace Fixture

variable {document : Bytes} {card : Fixture} {file : File} {token : Token} {credential : Credential}

/-- What an entry describes is a credential with its name and its algorithm, with the certificates that
its texts are written for, and with the key of 24 to 32 bytes that its digits spell. -/
structure CredentialEntry.Describes (entry : CredentialEntry) (credential : Credential) : Prop where
  didName : credential.info.didName = entry.didName
  algorithm : credential.info.algorithm = entry.algorithm
  uniqueSsn : credential.info.uniqueSsn = none
  certificates : List.Forall₂ (fun text bytes => text = Base64.encodeText .standard bytes)
    entry.certificates credential.info.certificates
  key : ∃ secret, entry.privateKey.toUpper = Hex.encodeUpper secret ∧
    24 ≤ secret.length ∧ secret.length ≤ 32 ∧ natOfBytes secret = credential.key.scalar

/-- What an entry describes is a token in the slot that its digits spell, with the credentials that its
entries describe. Whether it has certificates is told by whether one of these entries has some. -/
structure TokenEntry.Describes (entry : TokenEntry) (token : Token) : Prop where
  slot : entry.slot.toUpper = Hex.encodeUpper token.slot.bytes
  pin : token.pin = entry.pin
  credentials : List.Forall₂ CredentialEntry.Describes entry.credentials token.credentials
  shownSlot : token.info.slot = some token.slot
  reader : token.info.reader = some entry.reader
  cardType : token.info.cardType = entry.cardType
  algorithms : token.info.algorithms = entry.algorithms
  hasCertificates : ∃ flag, token.info.hasCertificates = some flag ∧
    (flag = true ↔ ∃ credential ∈ entry.credentials, credential.certificates ≠ [])

theorem readCertificate_eq_ok_iff {didName text : String} {bytes : Bytes} :
    readCertificate didName text = .ok bytes ↔ text = Base64.encodeText .standard bytes := by
  rw [← Base64.decode_text_eq_ok_iff, readCertificate]
  cases Base64.decode .standard (Utf8.encode text) <;> simp

theorem CredentialEntry.load_eq_ok_iff {entry : CredentialEntry} :
    entry.load = .ok credential ↔ entry.Describes credential := by
  have steps : entry.load = .ok credential ↔
      ∃ secret, Hex.decode (Utf8.encode entry.privateKey) = .ok secret ∧
      ∃ key, Ecdsa.PrivateKey.ofBytes? secret = some key ∧
      ∃ certificates, entry.certificates.mapM (readCertificate entry.didName) = .ok certificates ∧
        ⟨⟨certificates, entry.didName, entry.algorithm, none⟩, key⟩ = credential := by
    unfold load
    cases Hex.decode (Utf8.encode entry.privateKey) with
    | error fault => simp
    | ok secret =>
        cases found : Ecdsa.PrivateKey.ofBytes? secret with
        | none => simp [found]
        | some key =>
            cases entry.certificates.mapM (readCertificate entry.didName) <;> simp [found]
  simp only [steps, mapM_eq_ok_iff, readCertificate_eq_ok_iff, Hex.decode_eq_ok_iff,
    Ecdsa.PrivateKey.ofBytes?_eq_some_iff]
  constructor
  · rintro ⟨secret, spelled, key, long, certificates, written, rfl⟩
    exact ⟨rfl, rfl, rfl, written, secret, spelled, long⟩
  · obtain ⟨⟨certificates, didName, algorithm, uniqueSsn⟩, key⟩ := credential
    rintro ⟨rfl, rfl, rfl, written, secret, spelled, long⟩
    exact ⟨secret, spelled, key, long, certificates, written, rfl⟩

/-- Texts are written for as many byte strings. -/
theorem CredentialEntry.Describes.hasCertificates_iff {entry : CredentialEntry}
    (describes : entry.Describes credential) :
    credential.hasCertificates = true ↔ entry.certificates ≠ [] := by
  have bare : credential.info.certificates = [] ↔ entry.certificates = [] := by
    rw [← List.length_eq_zero_iff, ← describes.certificates.length_eq, List.length_eq_zero_iff]
  rw [Credential.hasCertificates, Bool.not_eq_true', List.isEmpty_eq_false_iff, ne_eq, bare]

theorem any_hasCertificates_iff {entries : List CredentialEntry} {credentials : List Credential}
    (describe : List.Forall₂ CredentialEntry.Describes entries credentials) :
    credentials.any Credential.hasCertificates = true ↔
      ∃ entry ∈ entries, entry.certificates ≠ [] := by
  induction describe with
  | nil => simp
  | cons first _ ih =>
      rw [List.any_cons, Bool.or_eq_true, ih, first.hasCertificates_iff, List.exists_mem_cons_iff]

theorem TokenEntry.Describes.shownHasCertificates {entry : TokenEntry}
    (describes : entry.Describes token) :
    token.info.hasCertificates = some (token.credentials.any Credential.hasCertificates) := by
  obtain ⟨flag, shown, told⟩ := describes.hasCertificates
  rw [shown, Option.some.injEq, Bool.eq_iff_iff, told, any_hasCertificates_iff describes.credentials]

theorem TokenEntry.load_eq_ok_iff {entry : TokenEntry} :
    entry.load = .ok token ↔ entry.Describes token := by
  have steps : entry.load = .ok token ↔
      ∃ bytes, Hex.decode (Utf8.encode entry.slot) = .ok bytes ∧
      ∃ credentials, entry.credentials.mapM CredentialEntry.load = .ok credentials ∧
        ⟨⟨some ⟨bytes⟩, some entry.reader, entry.cardType, entry.algorithms,
            some (credentials.any Credential.hasCertificates)⟩, ⟨bytes⟩, entry.pin, credentials⟩ =
          token := by
    unfold load
    cases Hex.decode (Utf8.encode entry.slot) with
    | error fault => simp
    | ok bytes => cases entry.credentials.mapM CredentialEntry.load <;> simp
  simp only [steps, mapM_eq_ok_iff, CredentialEntry.load_eq_ok_iff, Hex.decode_eq_ok_iff]
  constructor
  · rintro ⟨bytes, spelled, credentials, describe, rfl⟩
    exact ⟨spelled, rfl, describe, rfl, rfl, rfl, rfl, _, rfl, any_hasCertificates_iff describe⟩
  · intro describes
    refine ⟨token.slot.bytes, describes.slot, token.credentials, describes.credentials, ?_⟩
    have shown : some ⟨token.slot.bytes⟩ = token.info.slot := describes.shownSlot.symm
    rw [← describes.shownHasCertificates, shown, ← describes.reader, ← describes.cardType,
      ← describes.algorithms, ← describes.pin]

/-- A card is loaded from a document whose entries describe its tokens. -/
theorem ofJson_eq_ok_iff : ofJson document = .ok card ↔ ∃ file, File.codec.decode document = .ok file ∧
    List.Forall₂ TokenEntry.Describes file.tokens card.tokens := by
  obtain ⟨tokens⟩ := card
  have described (file : File) : List.Forall₂ TokenEntry.Describes file.tokens tokens ↔
      file.tokens.mapM TokenEntry.load = .ok tokens := by
    simp only [mapM_eq_ok_iff, TokenEntry.load_eq_ok_iff]
  simp only [described]
  unfold ofJson
  cases File.codec.decode document with
  | error fault => simp
  | ok file => cases loaded : file.tokens.mapM TokenEntry.load <;> simp [loaded]

/-- An entry that describes nothing spoils the card, and so does one below it. -/
theorem spoiled (read : File.codec.decode document = .ok file) {entry : TokenEntry}
    (member : entry ∈ file.tokens) (unusable : (∀ token, ¬ entry.Describes token) ∨
      ∃ below ∈ entry.credentials, ∀ credential, ¬ below.Describes credential) :
    ∃ fault, ofJson document = .error fault := by
  cases loaded : ofJson document with
  | error fault => exact ⟨fault, rfl⟩
  | ok card =>
      obtain ⟨other, same, describe⟩ := ofJson_eq_ok_iff.mp loaded
      obtain rfl := Except.ok.inj (read.symm.trans same)
      obtain ⟨token, described⟩ := related_of_mem describe entry member
      rcases unusable with unread | ⟨below, inside, unread⟩
      · exact (unread token described).elim
      · obtain ⟨credential, held⟩ := related_of_mem described.credentials below inside
        exact (unread credential held).elim

end Fixture

end CardGateway
