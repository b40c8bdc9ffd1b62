import CardGateway.Message.Command
import CardGateway.Proofs.Base64
import CardGateway.Proofs.Hex
import CardGateway.Proofs.JsonRecord
import CardGateway.Session.Basic
import CardGateway.Url.Domain

/-!
# Messages that come back as they were sent

What is written for a message is read as that message, for all kinds of messages. The one condition
is on result codes: a text that a code is known by does not stand for an unrecognized one. No message
that is read breaks it.
-/

namespace CardGateway

open CardGateway.Json CardGateway.Text

theorem Json.Codec.readBase64_encodeText (bytes : Bytes) :
    readBase64 (Base64.encodeText .standard bytes) = .ok bytes := by
  rw [readBase64, Base64.decode_trim_encodeText]

theorem Json.Codec.base64_faithful : Codec.base64.Faithful fun _ => True :=
  Codec.texted_faithful (fun _ => readBase64_encodeText _) fun _ => trivial

theorem Json.Codec.base64List_faithful : Codec.base64List.Faithful fun values => ∀ v ∈ values, True :=
  .textedList (fun _ => readBase64_encodeText _) fun _ => trivial

theorem SlotHandle.codec_faithful : SlotHandle.codec.Faithful fun _ => True :=
  Codec.texted_faithful
    (fun _ => by simp [SlotHandle.parse, SlotHandle.wire, Hex.decode_trim_encodeUpper])
    fun _ => trivial

namespace ResultCode

def texts : List String := known.map text

/-- An unrecognized code is none of the known ones by its text. -/
def Proper (code : ResultCode) : Prop := ∀ text, code = .unrecognized text → text ∉ texts

theorem ofText_of_unknown {s : String} (unknown : s ∉ texts) : ofText s = .unrecognized s := by
  have missed : known.find? (fun code => code.text == s) = none := by
    rw [List.find?_eq_none]
    intro code member same
    exact unknown (List.mem_map.mpr ⟨code, member, beq_iff_eq.mp same⟩)
  rw [ofText, missed, Option.getD_none]

theorem ofText_text {code : ResultCode} (proper : code.Proper) : ofText code.text = code := by
  cases code with
  | unrecognized s => exact ofText_of_unknown (proper s rfl)
  | _ => exact ofText_text_of_known (by decide)

theorem proper_ofText (s : String) : (ofText s).Proper := by
  intro other same
  by_cases member : s ∈ texts
  · obtain ⟨code, found, rfl⟩ := List.mem_map.mp member
    rw [ofText_text_of_known found] at same
    subst same
    exact absurd found (by simp [known])
  · rw [ofText_of_unknown member] at same
    obtain rfl := ResultCode.unrecognized.inj same
    exact member

theorem codec_faithful : ResultCode.codec.Faithful Proper :=
  Codec.texted_faithful (fun proper => congrArg Except.ok (ofText_text proper)) fun {text code} same => by
    obtain rfl := Except.ok.inj same
    exact proper_ofText text

/-- A code is read from the text that is written for it, and a text that is not known stays one. -/
theorem read_eq_ok {node : Node} {code : ResultCode} (read : ResultCode.codec.read node = .ok code) :
    ∃ raw, node = .text raw ∧ readText raw = .ok code.text ∧
      (code.text ∉ texts → code = .unrecognized code.text) := by
  obtain ⟨s, found, same⟩ := bind_eq_ok_iff.mp read
  obtain rfl := Except.ok.inj same
  unfold Codec.text at found
  dsimp only at found
  split at found
  · next raw =>
      refine ⟨raw, rfl, by rw [found, text_ofText], fun unknown => ?_⟩
      rw [text_ofText] at unknown ⊢
      exact ofText_of_unknown unknown
  · exact absurd found mismatch_ne_ok

end ResultCode

theorem Wait.field_faithful : Wait.field.Faithful fun _ => True where
  read_write {wait written} _ wrote := by
    obtain ⟨n, rfl, rfl⟩ := Option.map_eq_some_iff.mp wrote
    have small : n.toNat < Number.naturalLimit := n.toNat_lt
    have same : Wait.secondsOf n.toNat = n := by
      rw [Wait.secondsOf]
      exact (if_pos small).trans UInt64.ofNat_toNat
    show Wait.read (.number ⟨false, digitsOf n.toNat, none, none⟩ .complete) = .ok (some n)
    simp [Wait.read, ofText_digitsOf small, Wait.ofNumber, same]
  absent_write {wait} _ wrote := by
    obtain rfl := Option.map_eq_none_iff.mp wrote
    rfl
  of_read _ := trivial
  of_absent _ := trivial

section Messages

/-! The fields of each kind of message. -/

open Field Codec

theorem HelloRequest.codec_faithful : HelloRequest.codec.Faithful fun _ => True := by
  have fields : HelloRequest.fields.Faithful _ :=
    .cons (required_faithful _ text_faithful) (by decide) <|
    .cons (required_faithful _ text_faithful) (by decide) <|
    .cons (required_faithful _ base64_faithful) (by decide) .nil
  exact fields.codec (fun _ => rfl) (fun _ => by simp) fun _ => trivial

theorem HelloResponse.codec_faithful :
    HelloResponse.codec.Faithful fun message => message.result.Proper := by
  have fields : HelloResponse.fields.Faithful _ :=
    .cons (nullable_faithful _ text_faithful) (by decide) <|
    .cons (required_faithful _ ResultCode.codec_faithful) (by decide) <|
    .cons (nullable_faithful _ base64_faithful) (by decide) <|
    .cons (nullable_faithful _ text_faithful) (by decide) <|
    .cons (nullable_faithful _ base64_faithful) (by decide) .nil
  exact fields.codec (fun _ => rfl) (fun proper => by simpa using proper) fun row => row.2.1

theorem GetCommand.codec_faithful : GetCommand.codec.Faithful fun _ => True := by
  have fields : GetCommand.fields.Faithful _ :=
    .cons (required_faithful _ text_faithful) (by decide) .nil
  exact fields.codec (fun _ => rfl) (fun _ => by simp) fun _ => trivial

theorem Terminate.codec_faithful : Terminate.codec.Faithful fun message => message.result.Proper := by
  have fields : Terminate.fields.Faithful _ :=
    .cons (nullable_faithful _ text_faithful) (by decide) <|
    .cons (required_faithful _ ResultCode.codec_faithful) (by decide) .nil
  exact fields.codec (fun _ => rfl) (fun proper => by simpa using proper) fun row => row.2.1

theorem TokenInfo.codec_faithful : TokenInfo.codec.Faithful fun _ => True := by
  have fields : TokenInfo.fields.Faithful _ :=
    .cons (optional_faithful _ SlotHandle.codec_faithful) (by decide) <|
    .cons (optional_faithful _ text_faithful) (by decide) <|
    .cons (optional_faithful _ text_faithful) (by decide) <|
    .cons (sparseList_faithful _ text_faithful) (by decide) <|
    .cons (optional_faithful _ flag_faithful) (by decide) .nil
  exact fields.codec (fun _ => rfl) (fun _ => by simp) fun _ => trivial

theorem CertificateFilter.codec_faithful : CertificateFilter.codec.Faithful fun _ => True := by
  have fields : CertificateFilter.fields.Faithful _ :=
    .cons (optional_faithful _ text_faithful) (by decide) <|
    .cons (optional_faithful _ text_faithful) (by decide) <|
    .cons (optional_faithful _ text_faithful) (by decide) .nil
  exact fields.codec (fun _ => rfl) (fun _ => by simp) fun _ => trivial

theorem CertificateInfo.codec_faithful : CertificateInfo.codec.Faithful fun _ => True := by
  have fields : CertificateInfo.fields.Faithful _ :=
    .cons (nullableList_faithful _ nofun base64List_faithful) (by decide) <|
    .cons (required_faithful _ text_faithful) (by decide) <|
    .cons (optional_faithful _ text_faithful) (by decide) <|
    .cons (optional_faithful _ text_faithful) (by decide) .nil
  exact fields.codec (fun _ => rfl) (fun _ => by simp) fun _ => trivial

theorem ListTokensRequest.codec_faithful : ListTokensRequest.codec.Faithful fun _ => True := by
  have fields : ListTokensRequest.fields.Faithful _ :=
    .cons (nullable_faithful _ text_faithful) (by decide) <|
    .cons (list_faithful _ TokenInfo.codec_faithful) (by decide) <|
    .cons Wait.field_faithful (by decide) .nil
  exact fields.codec (fun _ => rfl) (fun _ => by simp) fun _ => trivial

theorem ListTokensResponse.codec_faithful :
    ListTokensResponse.codec.Faithful fun message => message.result.Proper := by
  have fields : ListTokensResponse.fields.Faithful _ :=
    .cons (required_faithful _ text_faithful) (by decide) <|
    .cons (required_faithful _ ResultCode.codec_faithful) (by decide) <|
    .cons (sparseList_faithful _ TokenInfo.codec_faithful) (by decide) .nil
  exact fields.codec (fun _ => rfl) (fun proper => by simpa using proper) fun row => row.2.1

theorem ListCertificatesRequest.codec_faithful :
    ListCertificatesRequest.codec.Faithful fun _ => True := by
  have fields : ListCertificatesRequest.fields.Faithful _ :=
    .cons (nullable_faithful _ text_faithful) (by decide) <|
    .cons (required_faithful _ SlotHandle.codec_faithful) (by decide) <|
    .cons (nullable_faithful _ text_faithful) (by decide) <|
    .cons (list_faithful _ CertificateFilter.codec_faithful) (by decide) <|
    .cons Wait.field_faithful (by decide) .nil
  exact fields.codec (fun _ => rfl) (fun _ => by simp) fun _ => trivial

theorem ListCertificatesResponse.codec_faithful :
    ListCertificatesResponse.codec.Faithful fun message => message.result.Proper := by
  have fields : ListCertificatesResponse.fields.Faithful _ :=
    .cons (required_faithful _ text_faithful) (by decide) <|
    .cons (required_faithful _ ResultCode.codec_faithful) (by decide) <|
    .cons (sparseList_faithful _ CertificateInfo.codec_faithful) (by decide) .nil
  exact fields.codec (fun _ => rfl) (fun proper => by simpa using proper) fun row => row.2.1

theorem SignRequest.codec_faithful : SignRequest.codec.Faithful fun _ => True := by
  have fields : SignRequest.fields.Faithful _ :=
    .cons (nullable_faithful _ text_faithful) (by decide) <|
    .cons (required_faithful _ SlotHandle.codec_faithful) (by decide) <|
    .cons (required_faithful _ text_faithful) (by decide) <|
    .cons (nullable_faithful _ text_faithful) (by decide) <|
    .cons (required_faithful _ base64_faithful) (by decide) <|
    .cons Wait.field_faithful (by decide) .nil
  exact fields.codec (fun _ => rfl) (fun _ => by simp) fun _ => trivial

theorem SignResponse.codec_faithful :
    SignResponse.codec.Faithful fun message => message.result.Proper := by
  have fields : SignResponse.fields.Faithful _ :=
    .cons (required_faithful _ text_faithful) (by decide) <|
    .cons (required_faithful _ ResultCode.codec_faithful) (by decide) <|
    .cons (optional_faithful _ base64_faithful) (by decide) .nil
  exact fields.codec (fun _ => rfl) (fun proper => by simpa using proper) fun row => row.2.1

theorem PathSecurity.codec_faithful : PathSecurity.codec.Faithful fun _ => True := by
  have fields : PathSecurity.fields.Faithful _ :=
    .cons (required_faithful _ text_faithful) (by decide) .nil
  exact fields.codec (fun _ => rfl) (fun _ => by simp) fun _ => trivial

theorem SessionToken.codec_faithful : SessionToken.codec.Faithful fun _ => True := by
  have fields : SessionToken.fields.Faithful _ :=
    .cons (required_faithful _ text_faithful) (by decide) <|
    .cons (required_faithful _ text_faithful) (by decide) <|
    .cons (optional_faithful _ text_faithful) (by decide) <|
    .cons (optional_faithful _ text_faithful) (by decide) <|
    .cons (optional_faithful _ PathSecurity.codec_faithful) (by decide) .nil
  exact fields.codec (fun _ => rfl) (fun _ => by simp) fun _ => trivial

theorem Command.Slots.codec_faithful : Command.Slots.codec.Faithful
    fun slots => ∀ message ∈ slots.terminate, message.result.Proper := by
  have fields : Command.Slots.fields.Faithful _ :=
    .cons (optional_faithful _ ListTokensRequest.codec_faithful) (by decide) <|
    .cons (optional_faithful _ ListCertificatesRequest.codec_faithful) (by decide) <|
    .cons (optional_faithful _ SignRequest.codec_faithful) (by decide) <|
    .cons (optional_faithful _ Terminate.codec_faithful) (by decide) .nil
  exact fields.codec (fun _ => rfl) (fun proper => by simpa using proper) fun row => row.2.2.2.1

end Messages

def Command.codes : Command → List ResultCode
  | .terminate message => [message.result]
  | _ => []

theorem Command.Slots.command_eq_ok_iff {slots : Slots} {command : Command} :
    slots.command = .ok command ↔ slots = command.slots := by
  constructor
  · intro one
    have only : slots.filled = [command] := by
      unfold Slots.command at one
      split at one
      · cases one
      · next only =>
          obtain rfl := Except.ok.inj one
          exact only
      · cases one
    obtain ⟨tokens, certificates, sign, terminate⟩ := slots
    cases tokens <;> cases certificates <;> cases sign <;> cases terminate <;>
      simp [Slots.filled] at only <;> subst only <;> rfl
  · rintro rfl
    exact command_slots command

theorem Command.codec_faithful :
    Command.codec.Faithful fun command => ∀ code ∈ command.codes, code.Proper where
  read_write {command} proper := by
    have slots : ∀ message ∈ command.slots.terminate, message.result.Proper := by
      cases command with
      | terminate message =>
          rintro other ⟨⟩
          exact proper message.result (by simp [codes])
      | _ => rintro other ⟨⟩
    have read := Slots.codec_faithful.read_write slots
    show Slots.codec.read (Slots.codec.write command.slots).node >>= Slots.command = .ok command
    rw [read, ok_bind, command_slots]
  of_read {node command} read := by
    obtain ⟨slots, found, one⟩ := bind_eq_ok_iff.mp read
    obtain rfl := Slots.command_eq_ok_iff.mp one
    intro code member
    cases command with
    | terminate message =>
        obtain rfl := List.mem_singleton.mp member
        exact Slots.codec_faithful.of_read found message rfl
    | _ => cases member
  solid command := Slots.codec_faithful.solid command.slots

/-- The kinds of messages that a client and its server, or its user, exchange. -/
inductive MessageKind where
  | command
  | helloRequest
  | helloResponse
  | getCommand
  | tokenInfo
  | listTokensRequest
  | listTokensResponse
  | certificateFilter
  | certificateInfo
  | listCertificatesRequest
  | listCertificatesResponse
  | signRequest
  | signResponse
  | terminate
  | sessionToken

namespace MessageKind

abbrev Message : MessageKind → Type
  | .command => Command
  | .helloRequest => HelloRequest
  | .helloResponse => HelloResponse
  | .getCommand => GetCommand
  | .tokenInfo => TokenInfo
  | .listTokensRequest => ListTokensRequest
  | .listTokensResponse => ListTokensResponse
  | .certificateFilter => CertificateFilter
  | .certificateInfo => CertificateInfo
  | .listCertificatesRequest => ListCertificatesRequest
  | .listCertificatesResponse => ListCertificatesResponse
  | .signRequest => SignRequest
  | .signResponse => SignResponse
  | .terminate => Terminate
  | .sessionToken => SessionToken

def codec : (kind : MessageKind) → Codec kind.Message
  | .command => Command.codec
  | .helloRequest => HelloRequest.codec
  | .helloResponse => HelloResponse.codec
  | .getCommand => GetCommand.codec
  | .tokenInfo => TokenInfo.codec
  | .listTokensRequest => ListTokensRequest.codec
  | .listTokensResponse => ListTokensResponse.codec
  | .certificateFilter => CertificateFilter.codec
  | .certificateInfo => CertificateInfo.codec
  | .listCertificatesRequest => ListCertificatesRequest.codec
  | .listCertificatesResponse => ListCertificatesResponse.codec
  | .signRequest => SignRequest.codec
  | .signResponse => SignResponse.codec
  | .terminate => Terminate.codec
  | .sessionToken => SessionToken.codec

def codes : (kind : MessageKind) → kind.Message → List ResultCode
  | .command, sent => sent.codes
  | .helloResponse, response => [response.result]
  | .listTokensResponse, response => [response.result]
  | .listCertificatesResponse, response => [response.result]
  | .signResponse, response => [response.result]
  | .terminate, message => [message.result]
  | _, _ => []

theorem codec_faithful (kind : MessageKind) :
    kind.codec.Faithful fun message => ∀ code ∈ kind.codes message, code.Proper := by
  cases kind with
  | command => exact Command.codec_faithful
  | helloRequest => exact HelloRequest.codec_faithful.congr fun _ => by simp [codes]
  | helloResponse => exact HelloResponse.codec_faithful.congr fun _ => by simp [codes]
  | getCommand => exact GetCommand.codec_faithful.congr fun _ => by simp [codes]
  | tokenInfo => exact TokenInfo.codec_faithful.congr fun _ => by simp [codes]
  | listTokensRequest => exact ListTokensRequest.codec_faithful.congr fun _ => by simp [codes]
  | listTokensResponse => exact ListTokensResponse.codec_faithful.congr fun _ => by simp [codes]
  | certificateFilter => exact CertificateFilter.codec_faithful.congr fun _ => by simp [codes]
  | certificateInfo => exact CertificateInfo.codec_faithful.congr fun _ => by simp [codes]
  | listCertificatesRequest =>
      exact ListCertificatesRequest.codec_faithful.congr fun _ => by simp [codes]
  | listCertificatesResponse =>
      exact ListCertificatesResponse.codec_faithful.congr fun _ => by simp [codes]
  | signRequest => exact SignRequest.codec_faithful.congr fun _ => by simp [codes]
  | signResponse => exact SignResponse.codec_faithful.congr fun _ => by simp [codes]
  | terminate => exact Terminate.codec_faithful.congr fun _ => by simp [codes]
  | sessionToken => exact SessionToken.codec_faithful.congr fun _ => by simp [codes]

end MessageKind

theorem Session.decode_eq_ok_iff [Url.HostMapping] {α : Type} {session : Session} {codec : Codec α}
    {body : Bytes} {value : α} : session.decode codec body = .ok value ↔ codec.decode body = .ok value := by
  rw [Session.decode]
  cases codec.decode body with
  | error fault => simp
  | ok found => simp

/-- A message is read as it was written, unless an unrecognized code in it has the text of a known
one. Whatever body a message is read from, it is no such message, so that writing and reading it again
changes nothing; and a code that is not known is its text throughout. -/
theorem MessageKind.round_trip [Url.HostMapping] (kind : MessageKind) (session : Session) :
    (∀ message, (∀ code ∈ kind.codes message, code.Proper) →
      session.decode kind.codec (kind.codec.encode message) = .ok message) ∧
    (∀ body message, session.decode kind.codec body = .ok message →
      (∀ code ∈ kind.codes message, code.Proper) ∧
      session.decode kind.codec (kind.codec.encode message) = .ok message ∧
      ∀ again, session.decode kind.codec (kind.codec.encode message) = .ok again →
        kind.codec.encode again = kind.codec.encode message) ∧
    ∀ node code, ResultCode.codec.read node = .ok code →
      (∃ raw, node = .text raw ∧ readText raw = .ok code.text) ∧
      ResultCode.codec.write code = .text code.text ∧
      (code.text ∉ ResultCode.texts → code = .unrecognized code.text) := by
  have faithful := kind.codec_faithful
  have whole : ∀ message, (∀ code ∈ kind.codes message, code.Proper) →
      session.decode kind.codec (kind.codec.encode message) = .ok message :=
    fun message proper => Session.decode_eq_ok_iff.mpr (faithful.decode_encode proper)
  refine ⟨whole, ?_, ?_⟩
  · intro body message read
    have proper := faithful.of_decode (Session.decode_eq_ok_iff.mp read)
    refine ⟨proper, whole message proper, ?_⟩
    intro again second
    rw [whole message proper] at second
    rw [Except.ok.inj second]
  · intro node code read
    obtain ⟨raw, found, text, unknown⟩ := ResultCode.read_eq_ok read
    exact ⟨⟨raw, found, text⟩, rfl, unknown⟩

def Session.bare : Session :=
  ⟨"s", ⟨"https", "", some (.name "gateway.test"), none, true, "/", none, none⟩, none, none⟩

/-- An answer to the hello with a code of a later protocol. -/
def HelloResponse.late : HelloResponse :=
  ⟨some "\"\\\n", .unrecognized "LATER", none, some "\u2028", some [0, 255]⟩

theorem MessageKind.late_answer_comes_back :
    HelloResponse.late.result.Proper ∧
      Session.bare.decode HelloResponse.codec (HelloResponse.codec.encode .late) = .ok .late := by
  have unknown : "LATER" ∉ ResultCode.texts := by decide
  have proper : HelloResponse.late.result.Proper := by
    rintro text ⟨⟩
    exact unknown
  refine ⟨proper, (round_trip .helloResponse .bare).1 .late ?_⟩
  intro code member
  obtain rfl := List.mem_singleton.mp member
  exact proper

end CardGateway
