import CardGateway.Proofs.Cancellation
import CardGateway.Proofs.MessageRoundTrip
import CardGateway.Proofs.PinProvenance

/-!
# Requests are answered in form

A request for tokens, certificates or a signature comes to a reply of its kind, whatever the card does,
unless the token fires or a search never ends. Only a successful reply carries what was asked for, and
what is read from its text is what the card returned for that very request.
-/

namespace CardGateway

open CardGateway.Json CardGateway.Text

/-- The codes of requests that come to nothing. -/
def ResultCode.refusals : List ResultCode :=
  [.timeout, .unknownSlot, .unknownDid, .securityNotSatisfied, .incorrectParameter, .other]

/-- The codes with which a request may be answered. -/
def ResultCode.settled : List ResultCode := .ok :: refusals

theorem CardFault.resultCode_mem_refusals (fault : CardFault) :
    fault.resultCode ∈ ResultCode.refusals := by
  cases fault <;> simp [resultCode, ResultCode.refusals]

theorem ResultCode.ne_ok_of_mem_refusals {code : ResultCode} (refused : code ∈ refusals) :
    code ≠ .ok := by
  rintro rfl
  exact absurd refused (by decide)

theorem ResultCode.proper_of_mem_settled {code : ResultCode} (member : code ∈ settled) :
    code.Proper := by
  rintro text rfl
  simp [settled, refusals] at member

namespace Json

/-- A text that is the object with some members, this one among them. -/
def HasMember (body : Bytes) (name : String) : Prop :=
  ∃ members, body = (Value.record members).toBytes ∧ name ∈ members.map Prod.fst

theorem rawText_inj {name other : String} (same : rawText name = rawText other) : name = other := by
  have read := readText_rawText name
  rw [same, readText_rawText] at read
  exact (Except.ok.inj read).symm

theorem Value.names_eq_of_memberNodes : {members others : List (String × Value)} →
    memberNodes members = memberNodes others → members.map Prod.fst = others.map Prod.fst
  | [], [], _ => rfl
  | (name, value) :: rest, (other, second) :: more, same => by
      obtain ⟨key, _, behind⟩ := Members.member.inj same
      rw [List.map_cons, List.map_cons, rawText_inj key, names_eq_of_memberNodes behind]

theorem hasMember_record_iff {members : List (String × Value)} {name : String} :
    HasMember (Value.record members).toBytes name ↔ name ∈ members.map Prod.fst := by
  constructor
  · rintro ⟨others, same, member⟩
    have parsed := congrArg (fun text => (Document.parse text).root) same
    simp only [Document.parse_toBytes, Value.node] at parsed
    rwa [Value.names_eq_of_memberNodes (Node.record.inj parsed)]
  · intro member
    exact ⟨members, rfl, member⟩

end Json

theorem ListTokensResponse.hasMember_iff (response : ListTokensResponse) :
    HasMember (codec.encode response) "TokenInfo" ↔ response.tokens ≠ [] := by
  rw [Codec.encode, codec, Fields.codec, hasMember_record_iff]
  cases response.tokens with
  | nil => simp [fields, Fields.write, Field.required, Field.sparseList]
  | cons first rest => simp [fields, Fields.write, Field.required, Field.sparseList]

theorem ListCertificatesResponse.hasMember_iff (response : ListCertificatesResponse) :
    HasMember (codec.encode response) "CertificateInfo" ↔ response.certificates ≠ [] := by
  rw [Codec.encode, codec, Fields.codec, hasMember_record_iff]
  cases response.certificates with
  | nil => simp [fields, Fields.write, Field.required, Field.sparseList]
  | cons first rest => simp [fields, Fields.write, Field.required, Field.sparseList]

theorem SignResponse.hasMember_iff (response : SignResponse) :
    HasMember (codec.encode response) "Signature" ↔ response.signature.isSome := by
  rw [Codec.encode, codec, Fields.codec, hasMember_record_iff]
  cases response.signature with
  | none => simp [fields, Fields.write, Field.required, Field.optional]
  | some bytes => simp [fields, Fields.write, Field.required, Field.optional]

namespace Reply

/-- What is asked for is in the text of a reply with success, and in that of no other. A token has to
be found for a success, a certificate has not. -/
inductive Shaped : Reply → Prop where
  | listTokens {response : ListTokensResponse}
      (lists : response.tokens ≠ [] ↔ response.result = .ok)
      (member : HasMember (ListTokensResponse.codec.encode response) "TokenInfo" ↔
        response.result = .ok) : Shaped (.listTokens response)
  | listCertificates {response : ListCertificatesResponse}
      (lists : response.certificates ≠ [] → response.result = .ok)
      (member : HasMember (ListCertificatesResponse.codec.encode response) "CertificateInfo" →
        response.result = .ok) : Shaped (.listCertificates response)
  | sign {response : SignResponse}
      (member : HasMember (SignResponse.codec.encode response) "Signature" ↔
        response.result = .ok) : Shaped (.sign response)

/-- The reply that is read from a text. -/
inductive ReadFrom (body : Bytes) : Reply → Prop where
  | listTokens {response : ListTokensResponse}
      (read : ListTokensResponse.codec.decode body = .ok response) :
      ReadFrom body (.listTokens response)
  | listCertificates {response : ListCertificatesResponse}
      (read : ListCertificatesResponse.codec.decode body = .ok response) :
      ReadFrom body (.listCertificates response)
  | sign {response : SignResponse} (read : SignResponse.codec.decode body = .ok response) :
      ReadFrom body (.sign response)

theorem readFrom_encode {reply : Reply} (proper : reply.result.Proper) :
    ReadFrom reply.encode reply := by
  cases reply with
  | listTokens response =>
      exact .listTokens (ListTokensResponse.codec_faithful.decode_encode proper)
  | listCertificates response =>
      exact .listCertificates (ListCertificatesResponse.codec_faithful.decode_encode proper)
  | sign response => exact .sign (SignResponse.codec_faithful.decode_encode proper)

theorem Shaped.tokens {session : String} {code : ResultCode} {tokens : List TokenInfo}
    (lists : tokens ≠ [] ↔ code = .ok) : Shaped (.listTokens ⟨session, code, tokens⟩) :=
  .listTokens lists ((ListTokensResponse.hasMember_iff _).trans lists)

theorem Shaped.certificates {session : String} {code : ResultCode}
    {certificates : List CertificateInfo} (lists : certificates ≠ [] → code = .ok) :
    Shaped (.listCertificates ⟨session, code, certificates⟩) :=
  .listCertificates lists fun member => lists ((ListCertificatesResponse.hasMember_iff _).mp member)

theorem Shaped.signature {session : String} {code : ResultCode} {signature : Option Bytes}
    (signed : signature.isSome ↔ code = .ok) : Shaped (.sign ⟨session, code, signature⟩) :=
  .sign ((SignResponse.hasMember_iff _).trans signed)

end Reply

namespace Act

variable {σ α : Type} {world : World σ} {run after : Run σ}

/-- Work under a PIN is refused with a code, or it ends with what the card returned under the PIN that
is granted, and nothing else happens meanwhile. -/
theorem Asked.settles {ρ : Type} {pins : PinPolicy} {encrypted : Option String} {budget : Millis}
    {refused : ResultCode → ρ} {granted : α → ρ} {begun : Option Pin → Event}
    {done : CardOutcome α → Event} {operation : Option Pin → Millis → σ → Call σ (CardOutcome α)}
    {reply : ρ}
    (h : Asked world pins encrypted budget refused granted begun done operation run (some reply)
      after) :
    (∃ code ∈ ResultCode.refusals, reply = refused code) ∨
      ∃ pin value span last, pins.Grants encrypted pin ∧
        (operation pin run.now run.world).ends = some (span, .value value, last) ∧
        after.events = run.events ++ [begun pin, done (.value value)] ∧ reply = granted value := by
  generalize settled : some reply = replied at h
  cases h with
  | fired lapsed => cases settled
  | spent alive spent => exact .inl ⟨_, by decide, Option.some.inj settled⟩
  | unusable alive unspent unwrapped => exact .inl ⟨_, by decide, Option.some.inj settled⟩
  | worked alive unspent unwrapped step =>
      cases step with
      | done starts first comes =>
          rename_i pin call instant span outcome last
          subst starts
          cases outcome with
          | value value =>
              refine .inr ⟨pin, value, span, last, .of_unwrap unwrapped, comes, ?_,
                Option.some.inj settled⟩
              simp
          | fault fault =>
              exact .inl ⟨_, fault.resultCode_mem_refusals, Option.some.inj settled⟩
          | crash => exact .inl ⟨_, by decide, Option.some.inj settled⟩
      | stopped starts first => cases settled
      | timedOut starts first => exact .inl ⟨_, by decide, Option.some.inj settled⟩

section Polling

variable {session : String} {filters : List TokenInfo} {deadline : Millis} {P : Event → Prop}
  {result : Except Halt (Option ListTokensResponse)}

/-- A poll is refused with a code, or its last search ends with tokens. -/
theorem Polled.settles (h : Polled world session filters deadline run result after)
    (call : P (.findTokens filters)) (found : ∀ result, P (.found result)) :
    ∀ response, result = .ok (some response) →
      (∃ code ∈ ResultCode.refusals, response = ⟨session, code, []⟩) ∨
        ∃ (mid : Run σ) (found : TokenSearch) (span : Millis) (last : σ), Run.Wrote P run mid ∧
          (world.findTokens mid.now filters mid.world).ends = some (span, .ok found, last) ∧
          after.events = mid.events ++ [.findTokens filters, .found (.ok found)] ∧
          found.matched ≠ [] ∧ response = ⟨session, .ok, found.matched⟩ := by
  induction h with
  | halted step => intro response same; cases same
  | stopped step => intro response same; cases same
  | failed step =>
      intro response same
      cases same
      exact .inl ⟨_, CardFault.resultCode_mem_refusals _, rfl⟩
  | @matched run after search step hit =>
      intro response same
      cases same
      cases step with
      | found alive begun comes =>
          subst begun
          refine .inr ⟨run, search, _, _, .refl run, comes, ?_, by simpa using hit, rfl⟩
          simp
  | late step miss lapsed =>
      intro response same
      cases same
      exact .inl ⟨_, by decide, rfl⟩
  | fired step miss early first => intro response same; cases same
  | again step miss early rest ih =>
      intro response same
      rcases ih response same with refused | ⟨mid, search, span, last, wrote, others⟩
      · exact .inl refused
      · refine .inr ⟨mid, search, span, last, ?_, others⟩
        exact .trans (.trans (step.wrote call found) (.of_journal_eq rfl)) wrote

/-- A poll is without end only where a search is, and nobody stops it. -/
theorem Polled.search_endless (h : Polled world session filters deadline run result after)
    (call : P (.findTokens filters)) (found : ∀ result, P (.found result)) :
    ∀ reason, result = .error reason → ∃ mid : Run σ, Run.Wrote P run mid ∧
      (world.findTokens mid.now filters mid.world).ends = none ∧
      world.fires (world.findTokens mid.now filters mid.world).begun = none ∧
      after.events = mid.events ++ [.findTokens filters] := by
  induction h with
  | @halted run after reason step =>
      intro other same
      cases step with
      | endless alive begun never settled =>
          subst begun
          exact ⟨run, .refl run, never, settled, Run.events_called _ _ _⟩
  | stopped step => intro reason same; cases same
  | failed step => intro reason same; cases same
  | matched step hit => intro reason same; cases same
  | late step miss lapsed => intro reason same; cases same
  | fired step miss early first => intro reason same; cases same
  | again step miss early rest ih =>
      intro reason same
      obtain ⟨mid, wrote, others⟩ := ih reason same
      exact ⟨mid, .trans (.trans (step.wrote call found) (.of_journal_eq rfl)) wrote, others⟩

end Polling

end Act

namespace Setup

variable {σ : Type} {setup : Setup} {world : World σ} {run after : Run σ}

/-- A success that the card has brought about, asked for exactly what the request asks, as the last
thing that happened. -/
inductive Granted (setup : Setup) (world : World σ) (run : Run σ) :
    Command → Reply → Run σ → Prop where
  | listTokens {request : ListTokensRequest} {mid after : Run σ} {found : TokenSearch}
      {span : Millis} {last : σ}
      (searched : Run.Wrote (Handles setup (.listTokens request)) run mid)
      (comes : (world.findTokens mid.now request.filters mid.world).ends =
        some (span, .ok found, last))
      (events : after.events = mid.events ++ [.findTokens request.filters, .found (.ok found)]) :
      Granted setup world run (.listTokens request)
        (.listTokens ⟨setup.session.id, .ok, found.matched⟩) after
  | listCertificates {request : ListCertificatesRequest} {after : Run σ} {pin : Option Pin}
      {infos : List CertificateInfo} {span : Millis} {last : σ}
      (granted : setup.pins.Grants request.pin pin)
      (comes : (world.listCertificates run.now request.slot request.filters pin run.world).ends =
        some (span, .value infos, last))
      (events : after.events = run.events ++
        [.listCertificates request.slot request.filters pin, .listed (.value infos)]) :
      Granted setup world run (.listCertificates request)
        (.listCertificates ⟨setup.session.id, .ok, infos⟩) after
  | sign {request : SignRequest} {after : Run σ} {pin : Option Pin} {signature : Bytes}
      {span : Millis} {last : σ}
      (granted : setup.pins.Grants request.pin pin)
      (comes : (world.sign run.now request.slot request.didName pin request.message
        run.world).ends = some (span, .value signature, last))
      (events : after.events = run.events ++
        [.sign request.slot request.didName pin request.message, .signed (.value signature)]) :
      Granted setup world run (.sign request)
        (.sign ⟨setup.session.id, .ok, some signature⟩) after

/-- A reply in the form that a command asks for, which tells no more than the card did. -/
structure Replies (setup : Setup) (world : World σ) (run : Run σ) (command : Command) (reply : Reply)
    (after : Run σ) : Prop where
  kind : reply.Answers command
  own : reply.session = setup.session.id
  settled : reply.result ∈ ResultCode.settled
  shaped : reply.Shaped
  read : reply.ReadFrom ((Post.reply reply).body setup)
  granted : reply.result = .ok → setup.Granted world run command reply after

/-- How the handling of a request may end: stopped, with a reply, or never, if a search does not end and
nobody stops it. -/
inductive Answers (setup : Setup) (world : World σ) (run : Run σ) (command : Command) :
    Except Halt (Terminate ⊕ Option Reply) × Run σ → Prop where
  | stopped {after : Run σ} (fired : after.Fired world) :
      Answers setup world run command (.ok (.inr none), after)
  | replied {reply : Reply} {after : Run σ}
      (replies : setup.Replies world run command reply after) :
      Answers setup world run command (.ok (.inr (some reply)), after)
  | endless {request : ListTokensRequest} (asked : command = .listTokens request)
      {mid after : Run σ} (searched : Run.Wrote (Handles setup command) run mid)
      (never : (world.findTokens mid.now request.filters mid.world).ends = none)
      (settled : world.fires (world.findTokens mid.now request.filters mid.world).begun = none)
      (events : after.events = mid.events ++ [.findTokens request.filters]) :
      Answers setup world run command (.error .endless, after)

section Replying

variable {command : Command} {reply : Reply}

theorem Replies.refused (kind : reply.Answers command) (own : reply.session = setup.session.id)
    (refused : reply.result ∈ ResultCode.refusals) (shaped : reply.Shaped) :
    setup.Replies world run command reply after where
  kind := kind
  own := own
  settled := List.mem_cons_of_mem _ refused
  shaped := shaped
  read := Reply.readFrom_encode (ResultCode.proper_of_mem_settled (List.mem_cons_of_mem _ refused))
  granted ok := absurd ok (ResultCode.ne_ok_of_mem_refusals refused)

theorem Replies.granting (granted : setup.Granted world run command reply after)
    (shaped : reply.Shaped) : setup.Replies world run command reply after := by
  have kind : reply.Answers command := by
    cases granted <;> constructor
  have own : reply.session = setup.session.id := by
    cases granted <;> rfl
  have ok : reply.result = .ok := by
    cases granted <;> rfl
  have settled : reply.result ∈ ResultCode.settled := by
    rw [ok]
    exact List.mem_cons_self
  exact ⟨kind, own, settled, shaped,
    Reply.readFrom_encode (ResultCode.proper_of_mem_settled settled), fun _ => granted⟩

end Replying

/-- Whatever the card does, the handling of a request for tokens, certificates or a signature is stopped
only by the token, and otherwise comes to a reply in form. Only a search may go on without end. -/
theorem requests_answered_in_form (setup : Setup) {world : World σ} (keeps : world.KeepsToken)
    {command : Command} (asks : ∀ message, command ≠ .terminate message) (run : Run σ) :
    setup.Answers world run command (Act.handle world setup command run) := by
  rcases handling : Act.handle world setup command run with ⟨result, after⟩
  have step := Act.handled_of_eq handling
  cases step with
  | terminate message => exact absurd rfl (asks message)
  | @endless request after step =>
      obtain ⟨mid, searched, never, settled, events⟩ :=
        step.search_endless (Handles.findTokens request) (Handles.found request) .endless rfl
      exact .endless rfl searched never settled events
  | @listTokens request reply after step =>
      cases reply with
      | none => exact .stopped (step.fired_of_none keeps rfl)
      | some response =>
          refine .replied ?_
          rcases step.settles (Handles.findTokens request) (Handles.found request) response rfl with
            ⟨code, refused, rfl⟩ | ⟨mid, found, span, last, searched, comes, events, hit, rfl⟩
          · have other := ResultCode.ne_ok_of_mem_refusals refused
            exact .refused (.listTokens _ _) rfl refused (.tokens (by simpa using other))
          · exact .granting (.listTokens searched comes events) (.tokens (by simpa using hit))
  | @listCertificates request reply after step =>
      cases reply with
      | none => exact .stopped (step.fired_of_none (fun pin => keeps.listCertificates _ _ _ pin _) rfl)
      | some response =>
          refine .replied ?_
          rcases step.settles with
            ⟨code, refused, rfl⟩ | ⟨pin, infos, span, last, granted, comes, events, rfl⟩
          · exact .refused (.listCertificates _ _) rfl refused (.certificates fun listed =>
              absurd rfl listed)
          · exact .granting (.listCertificates granted comes events) (.certificates fun _ => rfl)
  | @sign request reply after step =>
      cases reply with
      | none => exact .stopped (step.fired_of_none (fun pin => keeps.sign _ _ _ pin _ _) rfl)
      | some response =>
          refine .replied ?_
          rcases step.settles with
            ⟨code, refused, rfl⟩ | ⟨pin, signature, span, last, granted, comes, events, rfl⟩
          · have other := ResultCode.ne_ok_of_mem_refusals refused
            exact .refused (.sign _ _) rfl refused (.signature (by simpa using other))
          · exact .granting (.sign granted comes events) (.signature (by simp))

/-- A signature that the card returns at once is in the text of the reply. -/
theorem signature_in_reply :
    ∃ reply after, Act.handle (.scripted none) plain (.sign ⟨none, ⟨[0]⟩, "", none, [], none⟩)
        (Run.fresh []) = (.ok (.inr (some reply)), after) ∧
      HasMember ((Post.reply reply).body plain) "Signature" := by
  have answers : plain.Answers (.scripted none) (Run.fresh [])
      (.sign ⟨none, ⟨[0]⟩, "", none, [], none⟩) _ :=
    requests_answered_in_form plain (World.scripted_keeps none) (by rintro message ⟨⟩) (Run.fresh [])
  rcases handling : Act.handle (.scripted none) plain (.sign ⟨none, ⟨[0]⟩, "", none, [], none⟩)
    (Run.fresh []) with ⟨result, after⟩
  have signed : result = .ok (.inr (some (.sign ⟨"s", .ok, some []⟩))) :=
    (congrArg Prod.fst handling).symm.trans rfl
  subst signed
  rw [handling] at answers
  cases answers with
  | replied replies =>
      cases replies.shaped with
      | sign member => exact ⟨_, _, rfl, member.mpr rfl⟩

end Setup

end CardGateway
