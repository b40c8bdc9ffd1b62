import CardGateway.Live.Tape
import CardGateway.Proofs.BinaryFields
import CardGateway.Proofs.FixtureLoading
import CardGateway.Proofs.SignatureForms
import CardGateway.Proofs.TokenFilters

/-!
# What a card tells and what it does

A card from a document reports at a search what it later lists, and signs with what it has listed. The
first token in a slot answers for that slot, and the first reason not to answer is told.
-/

namespace CardGateway

open CardGateway.Crypto CardGateway.Crypto.Secp256k1 CardGateway.Text

namespace Crypto.Ecdsa

/-- The bytes are a distinguished encoding of the signature. Its numbers are below the order, the second
not above half of it, and where none of them is zero the bytes are read as this signature. -/
structure Encoded (bytes : Bytes) (signature : Signature) : Prop where
  numbers : Der.pair? bytes = some (signature.r, signature.s)
  small : signature.r < order
  low : 2 * signature.s ≤ order
  scalars : signature.r ≠ 0 → signature.s ≠ 0 → Signature.ofDer? bytes = some signature

theorem Signature.lowered_low {signature : Signature} (small : signature.s < order) :
    2 * signature.lowered.s ≤ order := by
  simp only [lowered]
  omega

theorem Signature.encoded_toDer {signature : Signature} (small : signature.r < order)
    (low : 2 * signature.s ≤ order) : Encoded signature.toDer signature := by
  have bound : order < 256 ^ 32 := by decide
  have below : signature.s < order := by
    have positive : 0 < order := by decide
    omega
  refine ⟨?_, small, low, fun first second => ?_⟩
  · exact (Der.pair?_eq_some_iff (Nat.lt_trans small bound) (Nat.lt_trans below bound)).mpr rfl
  · refine ofDer?_eq_some_iff.mpr ⟨⟨?_, ?_⟩, rfl⟩
    · simp [isScalar, small, Nat.one_le_iff_ne_zero, first]
    · simp [isScalar, below, Nat.one_le_iff_ne_zero, second]

theorem sign_encoded (key : PrivateKey) (message : Bytes) :
    Encoded (sign key message).toDer (sign key message) := by
  have positive : 0 < order := by decide
  refine Signature.encoded_toDer ?_ (Signature.lowered_low (Nat.mod_lt _ positive))
  show Option.getD (Option.map _ _) 0 < order
  cases multiple _ generator with
  | none => exact positive
  | some point => exact Nat.mod_lt _ positive

end Crypto.Ecdsa

namespace Fixture

variable {document : Bytes} {card : Fixture} {slot : SlotHandle} {token : Token} {pin : Option Pin}
  {didName : String} {message : Bytes}

/-- The token is the first one in the slot. -/
structure FirstIn (card : Fixture) (slot : SlotHandle) (token : Token) : Prop where
  stands : ∃ front back, card.tokens = front ++ token :: back ∧ ∀ other ∈ front, other.slot ≠ slot
  slot : token.slot = slot

/-- The token has a PIN, and none is given or another one. -/
def Token.Refuses (token : Token) (pin : Option Pin) : Prop :=
  ∃ expected, token.pin = some expected ∧ ∀ given, pin = some given → given.expose ≠ expected

def Token.Knows (token : Token) (didName : String) : Prop :=
  ∃ credential ∈ token.credentials, credential.info.didName = didName

instance (token : Token) (didName : String) : Decidable (token.Knows didName) :=
  inferInstanceAs (Decidable (∃ credential ∈ token.credentials, credential.info.didName = didName))

def Token.listed (token : Token) : List CertificateInfo :=
  (token.credentials.filter Credential.hasCertificates).map (·.info)

theorem FirstIn.token_eq (first : card.FirstIn slot token) : card.token slot = .ok token := by
  obtain ⟨⟨front, back, tokens, others⟩, same⟩ := first
  have found : card.tokens.find? (fun token => token.slot = slot) = some token :=
    List.find?_eq_some_iff_append.mpr
      ⟨by simpa using same, front, back, tokens, fun other member => by simpa using others other member⟩
  simp only [Fixture.token, found]

theorem token_eq_error (vacant : ∀ token ∈ card.tokens, token.slot ≠ slot) :
    card.token slot = .error (.unknownSlot slot) := by
  have missing : card.tokens.find? (fun token => token.slot = slot) = none :=
    List.find?_eq_none.mpr fun token member => by simpa using vacant token member
  simp only [Fixture.token, missing]

theorem Token.checkPin_of_refuses (refuses : token.Refuses pin) :
    token.checkPin pin = .error .securityNotSatisfied := by
  obtain ⟨expected, own, other⟩ := refuses
  cases pin with
  | none => simp only [checkPin, own]
  | some given => simp only [checkPin, own, if_neg (other given rfl)]

theorem Token.checkPin_of_not_refuses (granted : ¬ token.Refuses pin) :
    token.checkPin pin = .ok () := by
  cases own : token.pin with
  | none => simp only [checkPin, own]
  | some expected =>
      have same : ∃ given, pin = some given ∧ given.expose = expected := by
        by_contra other
        exact granted ⟨expected, own, fun given found same => other ⟨given, found, same⟩⟩
      obtain ⟨given, rfl, same⟩ := same
      simp only [checkPin, own, if_pos same]

theorem Token.not_refuses_own (token : Token) : ¬ token.Refuses (token.pin.map Pin.ofText) := by
  rintro ⟨expected, own, other⟩
  rw [own] at other
  exact other _ rfl (Pin.expose_ofText expected)

section Slots

variable (first : card.FirstIn slot token)
include first

theorem listCertificates_none : card.listCertificates slot none = .ok token.listed := by
  simp only [listCertificates, first.token_eq]
  rfl

theorem listCertificates_some (given : Pin) : card.listCertificates slot (some given) =
    (token.checkPin (some given)).map fun _ => token.listed := by
  simp only [listCertificates, first.token_eq, ok_bind]
  cases token.checkPin (some given) <;> rfl

theorem sign_of_not_knows (unknown : ¬ token.Knows didName) :
    card.sign slot didName pin message = .error (.unknownDid didName) := by
  have missing :
      token.credentials.find? (fun credential => credential.info.didName = didName) = none :=
    List.find?_eq_none.mpr fun credential member => by
      simpa using fun same => unknown ⟨credential, member, same⟩
  simp only [sign, first.token_eq, ok_bind, missing]
  rfl

/-- The first credential of a name signs behind the check of the PIN. -/
theorem sign_of_knows (knows : token.Knows didName) (message : Bytes) :
    ∃ credential ∈ token.credentials,
      credential.info.didName = didName ∧ card.sign slot didName pin message =
        (token.checkPin pin).map fun _ => (Ecdsa.sign credential.key message).toDer := by
  obtain ⟨known, member, same⟩ := knows
  cases found : token.credentials.find? fun credential => credential.info.didName = didName with
  | none => exact absurd same (by simpa using List.find?_eq_none.mp found known member)
  | some credential =>
      refine ⟨credential, List.mem_of_find?_eq_some found, by simpa using List.find?_some found, ?_⟩
      simp only [sign, first.token_eq, ok_bind, found]
      cases token.checkPin pin <;> rfl

theorem sign_of_refuses (knows : token.Knows didName) (refuses : token.Refuses pin) :
    card.sign slot didName pin message = .error .securityNotSatisfied := by
  obtain ⟨credential, -, -, signs⟩ := sign_of_knows first knows message
  rw [signs, Token.checkPin_of_refuses refuses]
  rfl

theorem sign_of_not_refuses (knows : token.Knows didName) (granted : ¬ token.Refuses pin)
    (message : Bytes) : ∃ bytes signature, card.sign slot didName pin message = .ok bytes ∧
      Ecdsa.Encoded bytes signature := by
  obtain ⟨credential, -, -, signs⟩ := sign_of_knows first knows message
  rw [signs, Token.checkPin_of_not_refuses granted]
  exact ⟨_, _, rfl, Ecdsa.sign_encoded credential.key message⟩

theorem sign_eq_refused_iff (knows : token.Knows didName) :
    card.sign slot didName pin message = .error .securityNotSatisfied ↔ token.Refuses pin := by
  refine ⟨fun refused => ?_, sign_of_refuses first knows⟩
  by_contra granted
  obtain ⟨bytes, signature, signed, -⟩ := sign_of_not_refuses first knows granted message
  cases refused.symm.trans signed

end Slots

theorem any_hasCertificates_eq (token : Token) :
    token.credentials.any Credential.hasCertificates = !token.listed.isEmpty := by
  rw [Bool.eq_iff_iff, Bool.not_eq_true', List.isEmpty_eq_false_iff]
  simp [Token.listed, List.filter_eq_nil_iff]

theorem Token.knows_of_listed {info : CertificateInfo} (listed : info ∈ token.listed) :
    token.Knows info.didName := by
  obtain ⟨credential, member, rfl⟩ := List.mem_map.mp listed
  exact ⟨credential, (List.mem_filter.mp member).1, rfl⟩

/-- What a loaded card reports of a token at a search is what it lists. -/
theorem FirstIn.reports (loaded : ofJson document = .ok card) (first : card.FirstIn slot token) :
    token.info.hasCertificates = some !token.listed.isEmpty := by
  obtain ⟨file, -, describe⟩ := ofJson_eq_ok_iff.mp loaded
  obtain ⟨front, back, tokens, -⟩ := first.stands
  have member : token ∈ card.tokens := by simp [tokens]
  obtain ⟨entry, describes⟩ := related_of_mem describe.flip token member
  rw [describes.shownHasCertificates, any_hasCertificates_eq]

/-- A card is loaded from all that a document describes or not at all. At a search it connects every slot
and reports the tokens asked for. For a slot its first token answers: it lists certificates if the search
has reported some, and signs with each credential that it lists. A slot without token, a name without
credential, and a PIN that is missing or wrong are told in this order; a listing asks for no PIN, but
takes no wrong one. -/
theorem operations_agree (document : Bytes) :
    (∀ card, ofJson document = .ok card ↔ ∃ file, File.codec.decode document = .ok file ∧
      List.Forall₂ TokenEntry.Describes file.tokens card.tokens) ∧
    (∀ file, File.codec.decode document = .ok file → ∀ entry ∈ file.tokens,
      ((∀ token, ¬ entry.Describes token) ∨
        ∃ below ∈ entry.credentials, ∀ credential, ¬ below.Describes credential) →
      ∃ fault, ofJson document = .error fault) ∧
    ∀ card, ofJson document = .ok card →
      (∀ filters,
        (∀ slot, slot ∈ (card.findTokens filters).connected ↔
          ∃ token ∈ card.tokens, token.slot = slot) ∧
        (card.findTokens filters).connected.Pairwise (· < ·) ∧
        (card.findTokens filters).matched.Sublist (card.tokens.map Token.info) ∧
        ∀ info, (card.findTokens filters).matched.count info =
          if filters = [] ∨ ∃ filter ∈ filters, info.satisfies filter = true then
            (card.tokens.map Token.info).count info
          else 0) ∧
      (∀ slot, (∀ token ∈ card.tokens, token.slot ≠ slot) →
        (∀ pin, card.listCertificates slot pin = .error (.unknownSlot slot)) ∧
        ∀ didName pin message, card.sign slot didName pin message = .error (.unknownSlot slot)) ∧
      ∀ slot token, card.FirstIn slot token →
        (∃ infos, card.listCertificates slot none = .ok infos ∧
          token.info.hasCertificates = some !infos.isEmpty ∧
          (∀ given, (card.listCertificates slot (some given) = .error .securityNotSatisfied ↔
              token.Refuses (some given)) ∧
            (¬ token.Refuses (some given) → card.listCertificates slot (some given) = .ok infos)) ∧
          (∀ now filters pin scene, (Live.world card).listCertificates now slot filters pin scene =
            .atOnce scene (.ofExcept (card.listCertificates slot pin))) ∧
          ∀ info ∈ infos, ∀ message, ∃ bytes signature,
            card.sign slot info.didName (token.pin.map Pin.ofText) message = .ok bytes ∧
              Ecdsa.Encoded bytes signature) ∧
        ∀ didName pin message,
          (card.sign slot didName pin message = .error (.unknownDid didName) ↔
            ¬ token.Knows didName) ∧
          (token.Knows didName →
            (card.sign slot didName pin message = .error .securityNotSatisfied ↔
              token.Refuses pin) ∧
            (¬ token.Refuses pin → ∃ bytes signature,
              card.sign slot didName pin message = .ok bytes ∧
                Ecdsa.Encoded bytes signature)) := by
  refine ⟨fun card => ofJson_eq_ok_iff, fun file read entry member => spoiled read member, ?_⟩
  intro card loaded
  refine ⟨fun filters => ⟨?_, ?_, ?_, ?_⟩, fun slot vacant => ⟨?_, ?_⟩, fun slot token first => ⟨?_, ?_⟩⟩
  · intro slot
    exact SlotHandle.mem_union_nil.trans List.mem_map
  · exact SlotHandle.union_ascending .nil
  · exact List.filter_sublist
  · intro info
    simp only [count_matched, TokenInfo.satisfiesAny_iff]
  · intro pin
    simp only [listCertificates, token_eq_error vacant, error_bind]
  · intro didName pin message
    simp only [sign, token_eq_error vacant, error_bind]
  · refine ⟨token.listed, listCertificates_none first, first.reports loaded, ?_, fun _ _ _ _ => rfl, ?_⟩
    · intro given
      rw [listCertificates_some first]
      by_cases refuses : token.Refuses (some given)
      · simp [Token.checkPin_of_refuses refuses, refuses, Except.map]
      · simp [Token.checkPin_of_not_refuses refuses, refuses, Except.map]
    · intro info listed message
      exact sign_of_not_refuses first (Token.knows_of_listed listed) token.not_refuses_own message
  · intro didName pin message
    refine ⟨⟨fun unknown knows => ?_, sign_of_not_knows first⟩, fun knows =>
      ⟨sign_eq_refused_iff first knows, fun granted =>
        sign_of_not_refuses first knows granted message⟩⟩
    by_cases refuses : token.Refuses pin
    · cases unknown.symm.trans (sign_of_refuses first knows refuses)
    · obtain ⟨bytes, signature, signed, -⟩ := sign_of_not_refuses first knows refuses message
      cases unknown.symm.trans signed

def leastKey : Ecdsa.PrivateKey := ⟨1, by decide⟩

def leastKeyDigits : String := "000000000000000000000000000000000000000000000001"

def soleDocument : String :=
  "\x7b\"tokens\":[\x7b\"slot\":\"01\",\"reader\":\"r\",\"pin\":\"1\",\"credentials\":[" ++
  "\x7b\"did_name\":\"B\",\"private_key\":\"" ++ leastKeyDigits ++
  "\",\"certificates\":[\"AA==\"]\x7d]\x7d]\x7d"

def soleEntry : TokenEntry :=
  ⟨"01", "r", none, [], some "1", [⟨"B", none, leastKeyDigits, ["AA=="]⟩]⟩

def soleToken : Token where
  info := ⟨some ⟨[1]⟩, some "r", none, [], some true⟩
  slot := ⟨[1]⟩
  pin := some "1"
  credentials := [⟨⟨[[0]], "B", none, none⟩, leastKey⟩]

theorem soleEntry_describes : soleEntry.Describes soleToken := by
  have key : leastKeyDigits.toUpper = Hex.encodeUpper (List.replicate 23 0 ++ [1]) := by
    decide +kernel
  have slot : soleEntry.slot.toUpper = Hex.encodeUpper soleToken.slot.bytes := by decide +kernel
  have certificate : "AA==" = Base64.encodeText .standard [0] := by decide +kernel
  refine ⟨slot, rfl, .cons ?_ .nil, rfl, rfl, rfl, rfl, true, rfl, by decide⟩
  exact ⟨rfl, rfl, rfl, .cons certificate .nil, _, key, by decide, by decide, by decide⟩

/-- The card signs with its own PIN, and with no other name, PIN or slot. With half a byte for its slot
it is not loaded. -/
theorem sole_token_signs :
    let card : Fixture := ⟨[soleToken]⟩
    let spoiled := "\x7b\"tokens\":[\x7b\"slot\":\"0\",\"reader\":\"r\"\x7d]\x7d"
    ofJson (Utf8.encode soleDocument) = .ok card ∧ card.FirstIn ⟨[1]⟩ soleToken ∧
      (∃ bytes signature, card.sign ⟨[1]⟩ "B" (some (.ofText "1")) [] = .ok bytes ∧
        Ecdsa.Encoded bytes signature) ∧
      card.sign ⟨[1]⟩ "A" none [] = .error (.unknownDid "A") ∧
      card.sign ⟨[1]⟩ "B" (some (.ofText "2")) [] = .error .securityNotSatisfied ∧
      card.sign ⟨[]⟩ "B" (some (.ofText "1")) [] = .error (.unknownSlot ⟨[]⟩) ∧
      ∃ fault, ofJson (Utf8.encode spoiled) = .error fault := by
  intro card spoiled
  obtain ⟨loads, -, works⟩ := operations_agree (Utf8.encode soleDocument)
  have read : File.codec.decode (Utf8.encode soleDocument) = .ok ⟨[soleEntry]⟩ := by decide +kernel
  have loaded := (loads card).mpr ⟨_, read, .cons soleEntry_describes .nil⟩
  have first : card.FirstIn ⟨[1]⟩ soleToken := ⟨⟨[], [], rfl, nofun⟩, rfl⟩
  obtain ⟨-, vacant, answers⟩ := works card loaded
  obtain ⟨-, signs⟩ := answers ⟨[1]⟩ soleToken first
  have known : soleToken.Knows "B" := by decide
  have unknown : ¬ soleToken.Knows "A" := by decide
  have empty : ∀ token ∈ card.tokens, token.slot ≠ ⟨[]⟩ := by decide
  have refuses : soleToken.Refuses (some (.ofText "2")) := by
    refine ⟨"1", rfl, fun given same => ?_⟩
    obtain rfl := Option.some.inj same
    decide +kernel
  obtain ⟨-, whole, -⟩ := operations_agree (Utf8.encode spoiled)
  have misread : File.codec.decode (Utf8.encode spoiled) = .ok ⟨[⟨"0", "r", none, [], none, []⟩]⟩ := by
    decide +kernel
  refine ⟨loaded, first, ((signs "B" _ []).2 known).2 soleToken.not_refuses_own,
    (signs "A" none []).1.mpr unknown, ((signs "B" _ []).2 known).1.mpr refuses,
    (vacant ⟨[]⟩ empty).2 "B" _ [], whole _ misread _ List.mem_cons_self (.inl fun token describes => ?_)⟩
  have odd : Hex.decode (Utf8.encode "0") = .error .oddLength := by decide +kernel
  cases odd.symm.trans (Hex.decode_eq_ok_iff.mpr describes.slot)

end Fixture

end CardGateway
