import CardGateway.Proofs.JsonVariation
import CardGateway.Proofs.MessageRoundTrip

/-!
# Messages of later protocols

A message is read the same with members that it does not know, with its members in another order and
without those that are null, in all records that it is made of.
-/

namespace CardGateway

open CardGateway.Json

/-! ## The records of the messages -/

def HelloRequest.layout : Layout := .record HelloRequest.fields.names []

def HelloResponse.layout : Layout := .record HelloResponse.fields.names []

def GetCommand.layout : Layout := .record GetCommand.fields.names []

def TokenInfo.layout : Layout := .record TokenInfo.fields.names []

def ListTokensRequest.layout : Layout :=
  .record ListTokensRequest.fields.names [("TokenInfo", .list TokenInfo.layout)]

def ListTokensResponse.layout : Layout :=
  .record ListTokensResponse.fields.names [("TokenInfo", .list TokenInfo.layout)]

def CertificateFilter.layout : Layout := .record CertificateFilter.fields.names []

def CertificateInfo.layout : Layout := .record CertificateInfo.fields.names []

def ListCertificatesRequest.layout : Layout :=
  .record ListCertificatesRequest.fields.names
    [("CertificateFilter", .list CertificateFilter.layout)]

def ListCertificatesResponse.layout : Layout :=
  .record ListCertificatesResponse.fields.names
    [("CertificateInfo", .list CertificateInfo.layout)]

def SignRequest.layout : Layout := .record SignRequest.fields.names []

def SignResponse.layout : Layout := .record SignResponse.fields.names []

def Terminate.layout : Layout := .record Terminate.fields.names []

def Command.layout : Layout :=
  .record Command.Slots.fields.names
    [("ListTokensRequest", ListTokensRequest.layout),
      ("ListCertificatesRequest", ListCertificatesRequest.layout),
      ("SignRequest", SignRequest.layout), ("Terminate", Terminate.layout)]

def PathSecurity.layout : Layout := .record PathSecurity.fields.names []

def SessionToken.layout : Layout :=
  .record SessionToken.fields.names [("PathSecurity-Parameters", PathSecurity.layout)]

def MessageKind.layout : MessageKind → Layout
  | .command => Command.layout
  | .helloRequest => HelloRequest.layout
  | .helloResponse => HelloResponse.layout
  | .getCommand => GetCommand.layout
  | .tokenInfo => TokenInfo.layout
  | .listTokensRequest => ListTokensRequest.layout
  | .listTokensResponse => ListTokensResponse.layout
  | .certificateFilter => CertificateFilter.layout
  | .certificateInfo => CertificateInfo.layout
  | .listCertificatesRequest => ListCertificatesRequest.layout
  | .listCertificatesResponse => ListCertificatesResponse.layout
  | .signRequest => SignRequest.layout
  | .signResponse => SignResponse.layout
  | .terminate => Terminate.layout
  | .sessionToken => SessionToken.layout

theorem Wait.field_nullAsAbsent : Wait.field.NullAsAbsent := by
  rintro value ⟨⟩
  rfl

section Messages

open Field

theorem TokenInfo.codec_tolerates : Tolerates TokenInfo.codec.read TokenInfo.layout := by
  have fields : TokenInfo.fields.Tolerant [] :=
    .cons (.leaf (optional_nullAsAbsent _) (by decide)) <|
    .cons (.leaf (optional_nullAsAbsent _) (by decide)) <|
    .cons (.leaf (optional_nullAsAbsent _) (by decide)) <|
    .cons (.leaf (sparseList_nullAsAbsent _) (by decide)) <|
    .cons (.leaf (optional_nullAsAbsent _) (by decide)) .nil
  exact fields.codec (by decide)

theorem CertificateFilter.codec_tolerates :
    Tolerates CertificateFilter.codec.read CertificateFilter.layout := by
  have fields : CertificateFilter.fields.Tolerant [] :=
    .cons (.leaf (optional_nullAsAbsent _) (by decide)) <|
    .cons (.leaf (optional_nullAsAbsent _) (by decide)) <|
    .cons (.leaf (optional_nullAsAbsent _) (by decide)) .nil
  exact fields.codec (by decide)

theorem CertificateInfo.codec_tolerates :
    Tolerates CertificateInfo.codec.read CertificateInfo.layout := by
  have fields : CertificateInfo.fields.Tolerant [] :=
    .cons (.leaf (nullableList_nullAsAbsent _) (by decide)) <|
    .cons (.leaf (required_nullAsAbsent _ text_solid) (by decide)) <|
    .cons (.leaf (optional_nullAsAbsent _) (by decide)) <|
    .cons (.leaf (optional_nullAsAbsent _) (by decide)) .nil
  exact fields.codec (by decide)

theorem PathSecurity.codec_tolerates : Tolerates PathSecurity.codec.read PathSecurity.layout := by
  have fields : PathSecurity.fields.Tolerant [] :=
    .cons (.leaf (required_nullAsAbsent _ text_solid) (by decide)) .nil
  exact fields.codec (by decide)

theorem ListTokensRequest.codec_tolerates :
    Tolerates ListTokensRequest.codec.read ListTokensRequest.layout := by
  have fields : ListTokensRequest.fields.Tolerant [("TokenInfo", .list TokenInfo.layout)] :=
    .cons (.leaf (nullable_nullAsAbsent _) (by decide)) <|
    .cons (.branch (list_nullAsAbsent _) TokenInfo.codec_tolerates.list (by simp)) <|
    .cons (.leaf Wait.field_nullAsAbsent (by decide)) .nil
  exact fields.codec (by decide)

theorem ListCertificatesRequest.codec_tolerates :
    Tolerates ListCertificatesRequest.codec.read ListCertificatesRequest.layout := by
  have fields : ListCertificatesRequest.fields.Tolerant
      [("CertificateFilter", .list CertificateFilter.layout)] :=
    .cons (.leaf (nullable_nullAsAbsent _) (by decide)) <|
    .cons (.leaf (required_nullAsAbsent _ texted_solid) (by decide)) <|
    .cons (.leaf (nullable_nullAsAbsent _) (by decide)) <|
    .cons (.branch (list_nullAsAbsent _) CertificateFilter.codec_tolerates.list (by simp)) <|
    .cons (.leaf Wait.field_nullAsAbsent (by decide)) .nil
  exact fields.codec (by decide)

theorem SignRequest.codec_tolerates : Tolerates SignRequest.codec.read SignRequest.layout := by
  have fields : SignRequest.fields.Tolerant [] :=
    .cons (.leaf (nullable_nullAsAbsent _) (by decide)) <|
    .cons (.leaf (required_nullAsAbsent _ texted_solid) (by decide)) <|
    .cons (.leaf (required_nullAsAbsent _ text_solid) (by decide)) <|
    .cons (.leaf (nullable_nullAsAbsent _) (by decide)) <|
    .cons (.leaf (required_nullAsAbsent _ texted_solid) (by decide)) <|
    .cons (.leaf Wait.field_nullAsAbsent (by decide)) .nil
  exact fields.codec (by decide)

theorem Terminate.codec_tolerates : Tolerates Terminate.codec.read Terminate.layout := by
  have fields : Terminate.fields.Tolerant [] :=
    .cons (.leaf (nullable_nullAsAbsent _) (by decide)) <|
    .cons (.leaf (required_nullAsAbsent _ texted_solid) (by decide)) .nil
  exact fields.codec (by decide)

theorem HelloRequest.codec_tolerates :
    Tolerates HelloRequest.codec.read HelloRequest.layout := by
  have fields : HelloRequest.fields.Tolerant [] :=
    .cons (.leaf (required_nullAsAbsent _ text_solid) (by decide)) <|
    .cons (.leaf (required_nullAsAbsent _ text_solid) (by decide)) <|
    .cons (.leaf (required_nullAsAbsent _ texted_solid) (by decide)) .nil
  exact fields.codec (by decide)

theorem HelloResponse.codec_tolerates :
    Tolerates HelloResponse.codec.read HelloResponse.layout := by
  have fields : HelloResponse.fields.Tolerant [] :=
    .cons (.leaf (nullable_nullAsAbsent _) (by decide)) <|
    .cons (.leaf (required_nullAsAbsent _ texted_solid) (by decide)) <|
    .cons (.leaf (nullable_nullAsAbsent _) (by decide)) <|
    .cons (.leaf (nullable_nullAsAbsent _) (by decide)) <|
    .cons (.leaf (nullable_nullAsAbsent _) (by decide)) .nil
  exact fields.codec (by decide)

theorem GetCommand.codec_tolerates :
    Tolerates GetCommand.codec.read GetCommand.layout := by
  have fields : GetCommand.fields.Tolerant [] :=
    .cons (.leaf (required_nullAsAbsent _ text_solid) (by decide)) .nil
  exact fields.codec (by decide)

theorem ListTokensResponse.codec_tolerates :
    Tolerates ListTokensResponse.codec.read ListTokensResponse.layout := by
  have fields : ListTokensResponse.fields.Tolerant [("TokenInfo", .list TokenInfo.layout)] :=
    .cons (.leaf (required_nullAsAbsent _ text_solid) (by decide)) <|
    .cons (.leaf (required_nullAsAbsent _ texted_solid) (by decide)) <|
    .cons (.branch (sparseList_nullAsAbsent _) TokenInfo.codec_tolerates.list (by simp)) .nil
  exact fields.codec (by decide)

theorem ListCertificatesResponse.codec_tolerates :
    Tolerates ListCertificatesResponse.codec.read ListCertificatesResponse.layout := by
  have fields : ListCertificatesResponse.fields.Tolerant
      [("CertificateInfo", .list CertificateInfo.layout)] :=
    .cons (.leaf (required_nullAsAbsent _ text_solid) (by decide)) <|
    .cons (.leaf (required_nullAsAbsent _ texted_solid) (by decide)) <|
    .cons (.branch (sparseList_nullAsAbsent _) CertificateInfo.codec_tolerates.list (by simp)) .nil
  exact fields.codec (by decide)

theorem SignResponse.codec_tolerates :
    Tolerates SignResponse.codec.read SignResponse.layout := by
  have fields : SignResponse.fields.Tolerant [] :=
    .cons (.leaf (required_nullAsAbsent _ text_solid) (by decide)) <|
    .cons (.leaf (required_nullAsAbsent _ texted_solid) (by decide)) <|
    .cons (.leaf (optional_nullAsAbsent _) (by decide)) .nil
  exact fields.codec (by decide)

theorem SessionToken.codec_tolerates : Tolerates SessionToken.codec.read SessionToken.layout := by
  have fields : SessionToken.fields.Tolerant [("PathSecurity-Parameters", PathSecurity.layout)] :=
    .cons (.leaf (required_nullAsAbsent _ text_solid) (by decide)) <|
    .cons (.leaf (required_nullAsAbsent _ text_solid) (by decide)) <|
    .cons (.leaf (optional_nullAsAbsent _) (by decide)) <|
    .cons (.leaf (optional_nullAsAbsent _) (by decide)) <|
    .cons (.branch (optional_nullAsAbsent _) PathSecurity.codec_tolerates.optional (by simp)) .nil
  exact fields.codec (by decide)

theorem Command.codec_tolerates : Tolerates Command.codec.read Command.layout := by
  have fields : Command.Slots.fields.Tolerant
      [("ListTokensRequest", ListTokensRequest.layout),
        ("ListCertificatesRequest", ListCertificatesRequest.layout),
        ("SignRequest", SignRequest.layout), ("Terminate", Terminate.layout)] :=
    .cons (.branch (optional_nullAsAbsent _) ListTokensRequest.codec_tolerates.optional (by simp)) <|
    .cons (.branch (optional_nullAsAbsent _) ListCertificatesRequest.codec_tolerates.optional
      (by simp)) <|
    .cons (.branch (optional_nullAsAbsent _) SignRequest.codec_tolerates.optional (by simp)) <|
    .cons (.branch (optional_nullAsAbsent _) Terminate.codec_tolerates.optional (by simp)) .nil
  have slots : Tolerates Command.Slots.codec.read Command.layout := fields.codec (by decide)
  exact slots.bind Command.Slots.command

end Messages

theorem MessageKind.codec_tolerates (kind : MessageKind) :
    Tolerates kind.codec.read kind.layout := by
  cases kind with
  | command => exact Command.codec_tolerates
  | helloRequest => exact HelloRequest.codec_tolerates
  | helloResponse => exact HelloResponse.codec_tolerates
  | getCommand => exact GetCommand.codec_tolerates
  | tokenInfo => exact TokenInfo.codec_tolerates
  | listTokensRequest => exact ListTokensRequest.codec_tolerates
  | listTokensResponse => exact ListTokensResponse.codec_tolerates
  | certificateFilter => exact CertificateFilter.codec_tolerates
  | certificateInfo => exact CertificateInfo.codec_tolerates
  | listCertificatesRequest => exact ListCertificatesRequest.codec_tolerates
  | listCertificatesResponse => exact ListCertificatesResponse.codec_tolerates
  | signRequest => exact SignRequest.codec_tolerates
  | signResponse => exact SignResponse.codec_tolerates
  | terminate => exact Terminate.codec_tolerates
  | sessionToken => exact SessionToken.codec_tolerates

/-- The message that is read from a text is read from every other text of the same shape, which may
have other blanks, and from every text of a variation. -/
theorem MessageKind.decode_of_varies [Url.HostMapping] (kind : MessageKind) (session : Session)
    {text other : Bytes} {node varied : Node} (denotes : Denotes text node) (again : Denotes other varied)
    (varies : Varies kind.layout node varied) {message : kind.Message}
    (read : session.decode kind.codec text = .ok message) :
    session.decode kind.codec other = .ok message := by
  rw [Session.decode_eq_ok_iff, denotes.decode_eq] at read
  rw [Session.decode_eq_ok_iff, again.decode_eq]
  exact kind.codec_tolerates node varied message varies read

namespace ListTokensRequest

def wish : Bytes × Node := (rawText "IFDName", .text (rawText "r"))

def filter (members : List (Bytes × Node)) : Bytes × Node :=
  (rawText "TokenInfo", .list (.closed [.record (.closed members)]))

def plain : Bytes := Text.Utf8.encode
  "\x7b\"SessionIdentifier\":null,\"TokenInfo\":[\x7b\"IFDName\":\"r\"\x7d]\x7d"

theorem denotes_plain :
    Denotes plain (.record (.closed [(rawText "SessionIdentifier", .null), filter [wish]])) := by
  have whole := Denotes.mk .nil (.record (.member (.opening .nil)
    (quoted_rawText "SessionIdentifier") .nil .nil .null (.member (.comma .nil .nil)
      (quoted_rawText "TokenInfo") .nil .nil (.list (.item (.opening .nil) (.record
        (.member (.opening .nil) (quoted_rawText "IFDName") .nil .nil (.text (quoted_rawText "r"))
          (.endMembers .nil))) (.endItems .nil))) (.endMembers .nil)))) .nil
  exact whole.of_eq (by decide +kernel)

def later : Bytes := Text.Utf8.encode
  "\x7b \"Later\":\"\\ud800\",\"TokenInfo\":[\x7b\"New\":[],\"IFDName\":\"r\"\x7d]\x7d"

def laterMembers : List (Bytes × Node) :=
  [(rawText "Later", .text lone), filter [(rawText "New", .list (.closed [])), wish]]

theorem denotes_later : Denotes later (.record (.closed laterMembers)) := by
  have whole := Denotes.mk .nil (.record (.member (.opening .space) (quoted_rawText "Later") .nil .nil
    (.text quoted_lone) (.member (.comma .nil .nil) (quoted_rawText "TokenInfo") .nil .nil
      (.list (.item (.opening .nil) (.record (.member (.opening .nil) (quoted_rawText "New") .nil .nil
        (.list (.endItems .nil)) (.member (.comma .nil .nil) (quoted_rawText "IFDName") .nil .nil
          (.text (quoted_rawText "r")) (.endMembers .nil)))) (.endItems .nil)))
      (.endMembers .nil)))) .nil
  exact whole.of_eq (by decide +kernel)

theorem varies_later : Varies layout
    (.record (.closed [(rawText "SessionIdentifier", .null), filter [wish]]))
    (.record (.closed laterMembers)) := by
  have dropped : Varies layout
      (.record (.closed [(rawText "SessionIdentifier", .null), filter [wish]]))
      (.record (.closed [filter [wish]])) := .drop []
  have inside : Varies TokenInfo.layout (.record (.closed [wish]))
      (.record (.closed [(rawText "New", .list (.closed [])), wish])) :=
    .insert [] (readText_rawText "New") (by decide) (.list (.endItems .nil))
  have extended : Varies layout (.record (.closed [filter [wish]]))
      (.record (.closed [filter [(rawText "New", .list (.closed [])), wish]])) :=
    .within [] (readText_rawText "TokenInfo") (by decide) List.mem_cons_self
      (.item [] inside)
  have grown : Varies layout (.record (.closed [filter [(rawText "New", .list (.closed [])), wish]]))
      (.record (.closed [filter [(rawText "New", .list (.closed [])), wish],
        (rawText "Later", .text lone)])) :=
    .insert [filter [(rawText "New", .list (.closed [])), wish]]
      (readText_rawText "Later") (by decide) (.text quoted_lone)
  exact ((dropped.trans extended).trans grown).trans (.permute (.swap _ _ _))

/-- A request of a later protocol is read as the one that is known. -/
theorem later_read_as_plain : Session.bare.decode ListTokensRequest.codec plain =
      .ok ⟨none, [⟨none, some "r", none, [], none⟩], none⟩ ∧
    Session.bare.decode ListTokensRequest.codec later =
      .ok ⟨none, [⟨none, some "r", none, [], none⟩], none⟩ := by
  have read : Session.bare.decode ListTokensRequest.codec plain =
      .ok ⟨none, [⟨none, some "r", none, [], none⟩], none⟩ := by
    rw [Session.decode_eq_ok_iff, denotes_plain.decode_eq]
    rfl
  exact ⟨read, MessageKind.decode_of_varies .listTokensRequest .bare denotes_plain denotes_later
    varies_later read⟩

end ListTokensRequest

namespace Terminate

def plain : Bytes := Text.Utf8.encode "\x7b\"Result\":\"OK\"\x7d"

def plainMembers : List (Bytes × Node) := [(rawText "Result", .text (rawText "OK"))]

def nameless : Bytes := Text.Utf8.encode "\x7b\"Result\":\"OK\",\"\\ud800\":0\x7d"

def zero : Node := .number ⟨false, [0], none, none⟩ .complete

/-- A member that is not known keeps a message from being read, if its name is no text. -/
theorem nameless_refused :
    (Denotes plain (.record (.closed plainMembers)) ∧
      Session.bare.decode Terminate.codec plain = .ok ⟨none, .ok⟩) ∧
    (Denotes nameless (.record (.closed (plainMembers ++ [(lone, zero)]))) ∧
      (∀ name ∈ Terminate.fields.names, readText lone ≠ .ok name) ∧
      Session.bare.decode Terminate.codec nameless ≠ .ok ⟨none, .ok⟩) := by
  have plainly : Denotes plain (.record (.closed plainMembers)) := by
    have whole := Denotes.mk .nil (.record (.member (.opening .nil) (quoted_rawText "Result")
      .nil .nil (.text (quoted_rawText "OK")) (.endMembers .nil))) .nil
    exact whole.of_eq (by decide +kernel)
  have more : Denotes nameless (.record (.closed (plainMembers ++ [(lone, zero)]))) := by
    have whole := Denotes.mk .nil (.record (.member (.opening .nil) (quoted_rawText "Result")
      .nil .nil (.text (quoted_rawText "OK")) (.member (.comma .nil .nil) quoted_lone .nil .nil
        (.number (.positive (.mk whole_zero .absent .absent))) (.endMembers .nil)))) .nil
    exact whole.of_eq (by decide +kernel)
  refine ⟨⟨plainly, ?_⟩, more, fun name _ => by simp [readText_lone], fun read => ?_⟩
  · rw [Session.decode_eq_ok_iff, plainly.decode_eq]
    rfl
  · rw [Session.decode_eq_ok_iff, more.decode_eq] at read
    cases read

end Terminate

end CardGateway
