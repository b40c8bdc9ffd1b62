import CardGateway.Proofs.Dialogue
import CardGateway.Proofs.Notices

/-!
# Failed runs and their causes

What came of the last message of a run decides with which failure the run ends, if it fails: the
transport's fault, an answer that cannot be read, what is wrong with the answer to the hello, or that
the run was stopped. Who is to blame follows from the cause, and only the session's address for errors
decides what becomes of it, except where the run was stopped or the trust store cannot be used.
-/

namespace CardGateway

/-- A cause does not fail a session in two ways. -/
theorem Session.Fails.eq_fail [Url.HostMapping] {session : Session} {cause : Cause}
    {failure : Failure} (h : session.Fails cause failure) : failure = session.fail cause := by
  unfold fail redirect
  cases h with
  | untold free => simp [free]
  | redirected given parsed secure => simp [given, parsed, secure]
  | malformed given parsed => simp [given, parsed]
  | insecure given parsed scheme => simp [given, parsed, scheme]

theorem Event.posted?_eq_none {event : Event} (quiet : event.isTraffic = false) :
    event.posted? = none := by
  cases event with
  | send resource body => cases quiet
  | _ => rfl

def Ending.failure? : Ending → Option Failure
  | .finished (.error failure) => some failure
  | _ => none

theorem Ending.failure?_eq_some_iff {ending : Ending} {failure : Failure} :
    ending.failure? = some failure ↔ ending = .finished (.error failure) := by
  constructor
  · intro told
    unfold failure? at told
    split at told
    · rw [Option.some.inj told]
    · cases told
  · rintro rfl
    rfl

namespace Setup

variable {setup : Setup} {response : HelloResponse}

/-- An answer to the hello with which a session may go on, by its code. -/
def Accepts (response : HelloResponse) : Prop :=
  response.result = .ok ∨ response.result = .updateRecommended ∨ response.result = .updateRequired

theorem accepts_iff : Accepts response ↔ response.result.isHelloAccepted = true := by
  unfold Accepts
  cases response.result <;> simp [ResultCode.isHelloAccepted]

/-- An answer to the hello is accepted, but there is no trust store to tell whether it is signed. -/
structure Doubts (setup : Setup) (response : HelloResponse) (fault : TrustStore.Fault) : Prop where
  code : Accepts response
  validates : setup.config.validateChallenge = true
  unusable : setup.trustStore = .error fault

/-- The last message of a run was answered so: nothing is posted, and nothing comes, behind that. -/
def LastAnswer (setup : Setup) (events : List Event) (post : Post)
    (answer : Except TransportFault Bytes) : Prop :=
  post ≠ .stop ∧ ∃ before after, events = before ++
      .send (post.written setup).1 (post.written setup).2 :: .answer answer :: after ∧
    ∀ event ∈ after, event.isTraffic = false

section Last

variable {events : List Event} {post other : Post} {answer second : Except TransportFault Bytes}

theorem endpoint_eq_terminate_iff : post.endpoint = .terminate ↔ post = .stop := by
  cases post with
  | reply message => cases message <;> simp [Post.endpoint, Reply.endpoint]
  | _ => simp [Post.endpoint]

theorem endpoint_eq_hello_iff : post.endpoint = .hello ↔ post = .hello := by
  cases post with
  | reply message => cases message <;> simp [Post.endpoint, Reply.endpoint]
  | _ => simp [Post.endpoint]

namespace LastAnswer

theorem sent_eq (h : setup.LastAnswer events post answer) :
    ∃ front, sent events = front ++ [post.written setup] := by
  obtain ⟨-, before, after, rfl, quiet⟩ := h
  refine ⟨sent before, ?_⟩
  have silent : sent after = [] :=
    sent_eq_nil fun event member => Event.posted?_eq_none (quiet event member)
  simp [silent]

/-- The notice that the run is stopped was not what was posted last. -/
theorem not_stopped (h : setup.LastAnswer events post answer) {front : List (String × Bytes)} :
    sent events ≠ front ++ [Post.stop.written setup] := by
  intro stopped
  obtain ⟨others, same⟩ := h.sent_eq
  rw [same] at stopped
  obtain ⟨-, both⟩ := List.append_inj' stopped (by simp only [List.length_singleton])
  exact Post.written_ne (fun twin => h.1 (endpoint_eq_terminate_iff.mp twin))
    (List.singleton_inj.mp both)

/-- Of all that is posted and answered, this comes last. -/
theorem traffic_eq (h : setup.LastAnswer events post answer) :
    ∃ front, events.filter Event.isTraffic =
      front ++ [.send (post.written setup).1 (post.written setup).2, .answer answer] := by
  obtain ⟨-, before, after, rfl, quiet⟩ := h
  have silent : after.filter Event.isTraffic = [] :=
    List.filter_eq_nil_iff.mpr fun event member => by simp [quiet event member]
  refine ⟨before.filter Event.isTraffic, ?_⟩
  rw [List.filter_append, List.filter_cons_of_pos rfl, List.filter_cons_of_pos rfl, silent]

theorem unique (h : setup.LastAnswer events post answer)
    (again : setup.LastAnswer events other second) :
    answer = second ∧ (post = .hello ↔ other = .hello) := by
  obtain ⟨front, traffic⟩ := h.traffic_eq
  obtain ⟨others, same⟩ := again.traffic_eq
  rw [traffic] at same
  obtain ⟨-, both⟩ := List.append_inj' same (by simp only [List.length_cons, List.length_nil])
  obtain ⟨sending, rest⟩ := List.cons.inj both
  obtain ⟨resource, body⟩ := Event.send.inj sending
  have endpoint : post.endpoint = other.endpoint := by
    by_contra apart
    exact Post.written_ne apart (Prod.ext resource body)
  refine ⟨Event.answer.inj (List.cons.inj rest).1, ?_⟩
  rw [← endpoint_eq_hello_iff, endpoint, endpoint_eq_hello_iff]

/-- What comes behind without a message changes nothing. -/
theorem append (h : setup.LastAnswer events post answer) {rest : List Event}
    (quiet : ∀ event ∈ rest, event.isTraffic = false) :
    setup.LastAnswer (events ++ rest) post answer := by
  obtain ⟨regular, before, after, rfl, still⟩ := h
  refine ⟨regular, before, after ++ rest, by simp, ?_⟩
  intro event member
  rcases List.mem_append.mp member with inside | behind
  · exact still event inside
  · exact quiet event behind

end LastAnswer

end Last

section Objections

variable [Url.HostMapping]

/-- What may be wrong with an answer to the hello, and who is to blame for it. -/
inductive Objects (setup : Setup) (response : HelloResponse) : Cause → Blame → Prop where
  | rejected (code : ¬ Accepts response) :
      Objects setup response (.rejected response.result) .server
  | forged (code : Accepts response) (validates : setup.config.validateChallenge = true)
      {store : TrustStore} (believed : setup.Believes store)
      (refused : store.accepts setup.challenge (response.signature.getD []) = false) :
      Objects setup response .signature .communication
  | misdirected {address : String} (misdirects : setup.Misdirects response address)
      {fault : UpdatePolicy.Fault}
      (checked : setup.config.updatePolicy.check address = .error fault) :
      Objects setup response (.downloadAddress fault) .server
  | outdated (trusted : setup.Trusts response) (required : response.result = .updateRequired)
      (vetted : ∀ address, Offers response address → ∃ url, setup.Vets address url) :
      Objects setup response .outdated .client

theorem judge_of_objects {cause : Cause} {blame : Blame} (h : setup.Objects response cause blame) :
    (setup.judge response).2 = .error (setup.session.fail cause) := by
  cases h with
  | rejected code =>
      have refused : response.result.isHelloAccepted = false := by
        rw [accepts_iff] at code
        simpa using code
      simp [judge, refused]
  | forged code validates believed refused =>
      have found := believes_iff.mp believed
      simp [judge, accepts_iff.mp code, authenticate, validates, found, refused]
  | misdirected misdirects checked =>
      obtain ⟨accepted, signed⟩ := trusts_iff.mp misdirects.trusted
      have offered := offered?_eq_some_iff.mpr misdirects.offered
      simp [judge, accepted, signed, weighUpdate, offered, checked]
  | outdated trusted required vetted =>
      obtain ⟨accepted, signed⟩ := trusts_iff.mp trusted
      rw [judge, accepted, signed]
      simp only [Bool.not_true, Bool.false_eq_true, if_false, weighUpdate, required]
      cases offering : offered? response with
      | none => rfl
      | some address =>
          obtain ⟨url, vets⟩ := vetted address (offered?_eq_some_iff.mp offering)
          simp only [check_eq_ok_iff.mpr vets]
          rfl

theorem judge_of_doubts {fault : TrustStore.Fault} (h : setup.Doubts response fault) :
    (setup.judge response).2 = .error (.trustStore fault) := by
  simp [judge, accepts_iff.mp h.code, authenticate, h.validates, h.unusable]

theorem unlessOutdated_eq_error_iff {failure : Failure} :
    setup.unlessOutdated (response.result == .updateRequired) = .error failure ↔
      response.result = .updateRequired ∧ failure = setup.session.fail .outdated := by
  by_cases required : response.result = .updateRequired
  · simp [unlessOutdated, required, eq_comm]
  · simp [unlessOutdated, required]

/-- An accepted answer that is not found to be signed. -/
theorem exists_objects_of_authenticate {failure : Failure} (code : Accepts response)
    (unsigned : setup.authenticate response = .error failure) :
    (∃ cause blame, setup.Objects response cause blame ∧ failure = setup.session.fail cause) ∨
      ∃ fault, setup.Doubts response fault ∧ failure = .trustStore fault := by
  unfold authenticate at unsigned
  cases validates : setup.config.validateChallenge with
  | false => simp [validates] at unsigned
  | true =>
      cases found : setup.trustStore with
      | error fault =>
          simp only [validates, found, if_true] at unsigned
          exact .inr ⟨fault, ⟨code, validates, found⟩, (Except.error.inj unsigned).symm⟩
      | ok store =>
          cases holds : store.accepts setup.challenge (response.signature.getD []) with
          | true => simp [validates, found, holds] at unsigned
          | false =>
              simp only [validates, found, holds, if_true] at unsigned
              exact .inl ⟨_, _, .forged code validates (believes_iff.mpr found) holds,
                (Except.error.inj unsigned).symm⟩

/-- A trusted answer that ends the session all the same. -/
theorem Judged.exists_objects {notices : List Notice} {verdict : Except Failure Unit}
    (h : setup.Judged response notices verdict) (trusted : setup.Trusts response) {failure : Failure}
    (bad : verdict = .error failure) :
    ∃ cause blame, setup.Objects response cause blame ∧ failure = setup.session.fail cause := by
  cases h with
  | doubted doubtful => exact absurd trusted doubtful
  | silent _ nowhere =>
      obtain ⟨required, rfl⟩ := unlessOutdated_eq_error_iff.mp bad
      exact ⟨_, _, .outdated trusted required fun address offered =>
        absurd offered (nowhere address), rfl⟩
  | @vetted _ address url offered vets =>
      obtain ⟨required, rfl⟩ := unlessOutdated_eq_error_iff.mp bad
      refine ⟨_, _, .outdated trusted required fun other again => ?_, rfl⟩
      obtain rfl := offered.unique again
      exact ⟨url, vets⟩
  | misdirected misdirects checked =>
      exact ⟨_, _, .misdirected misdirects checked, (Except.error.inj bad).symm⟩

/-- An answer to the hello ends the session exactly if it is wrong in one of these ways. -/
theorem judge_eq_error_iff {failure : Failure} : (setup.judge response).2 = .error failure ↔
    (∃ cause blame, setup.Objects response cause blame ∧ failure = setup.session.fail cause) ∨
      ∃ fault, setup.Doubts response fault ∧ failure = .trustStore fault := by
  constructor
  · intro bad
    by_cases code : Accepts response
    · have accepted := accepts_iff.mp code
      cases signed : setup.authenticate response with
      | error other =>
          simp only [judge, accepted, signed, Bool.not_true, Bool.false_eq_true, if_false] at bad
          obtain rfl := Except.error.inj bad
          exact exists_objects_of_authenticate code signed
      | ok done =>
          exact .inl ((setup.judged response).exists_objects (trusts_iff.mpr ⟨accepted, signed⟩) bad)
    · have refused : response.result.isHelloAccepted = false := by
        rw [accepts_iff] at code
        simpa using code
      simp only [judge, refused, Bool.not_false, if_true] at bad
      exact .inl ⟨_, _, .rejected code, (Except.error.inj bad).symm⟩
  · rintro (⟨cause, blame, objects, rfl⟩ | ⟨fault, doubts, rfl⟩)
    · exact judge_of_objects objects
    · exact judge_of_doubts doubts

theorem Objects.blame_eq {cause : Cause} {blame : Blame} (h : setup.Objects response cause blame) :
    cause.blame = blame := by
  cases h <;> rfl

/-- What an answer to a message fails the session of, and who is to blame for it. -/
inductive Reports (setup : Setup) :
    Post → Except TransportFault Bytes → Cause → Blame → Prop where
  | unconnected {post : Post} {reason : String} :
      Reports setup post (.error (.connect reason)) (.connection (.connect reason)) .communication
  | broken {post : Post} :
      Reports setup post (.error .broken) (.connection .broken) .communication
  | misframed {post : Post} : Reports setup post (.error .framing) (.connection .framing) .server
  | unwritable {post : Post} : Reports setup post (.error .request) (.connection .request) .server
  | unsuccessful {post : Post} {code : Nat} :
      Reports setup post (.error (.status code)) (.connection (.status code)) .server
  | illegibleHello {body : Bytes} {fault : Json.Fault}
      (meant : HelloResponse.codec.decode body = .error fault) :
      Reports setup .hello (.ok body) (.message fault) .server
  | illegibleCommand {post : Post} (behind : post ≠ .hello) {body : Bytes} {fault : Json.Fault}
      (meant : Command.codec.decode body = .error fault) :
      Reports setup post (.ok body) (.message fault) .server
  | objection {body : Bytes} {response : HelloResponse} {cause : Cause} {blame : Blame}
      (meant : HelloResponse.codec.decode body = .ok response)
      (objects : setup.Objects response cause blame) :
      Reports setup .hello (.ok body) cause blame

/-- The failure that the events of a run call for. Only behind a report does it depend on the session's
address for errors. -/
inductive FailsBy (setup : Setup) (events : List Event) : Failure → Prop where
  | reported {post : Post} {answer : Except TransportFault Bytes}
      (last : setup.LastAnswer events post answer) {cause : Cause} {blame : Blame}
      (reports : setup.Reports post answer cause blame) (blamed : cause.blame = blame)
      {failure : Failure} (fails : setup.session.Fails cause failure) :
      FailsBy setup events failure
  | untrusting {body : Bytes} (last : setup.LastAnswer events .hello (.ok body))
      {response : HelloResponse} (meant : HelloResponse.codec.decode body = .ok response)
      {fault : TrustStore.Fault} (doubts : setup.Doubts response fault) :
      FailsBy setup events (.trustStore fault)
  | stopped {front : List (String × Bytes)}
      (noticed : sent events = front ++ [Post.stop.written setup]) :
      FailsBy setup events .cancelled

/-- The failure that an answer calls for, if it calls for one. -/
def failure? (setup : Setup) (post : Post) : Except TransportFault Bytes → Option Failure
  | .error fault => some (setup.session.fail (.connection fault))
  | .ok body =>
      if post = .hello then
        match HelloResponse.codec.decode body with
        | .error fault => some (setup.session.fail (.message fault))
        | .ok response =>
            match (setup.judge response).2 with
            | .error failure => some failure
            | .ok () => none
      else
        match Command.codec.decode body with
        | .error fault => some (setup.session.fail (.message fault))
        | .ok _ => none

section Answers

variable {events : List Event} {cause : Cause} {blame : Blame} {post other : Post}
  {answer second : Except TransportFault Bytes} {failure : Failure}

theorem failure?_congr (same : post = .hello ↔ other = .hello) :
    setup.failure? post answer = setup.failure? other answer := by
  cases answer with
  | error fault => rfl
  | ok body => simp only [failure?, same]

namespace Reports

theorem blame_eq (h : setup.Reports post answer cause blame) : cause.blame = blame := by
  cases h with
  | objection meant objects => exact objects.blame_eq
  | _ => rfl

theorem failure?_eq (h : setup.Reports post answer cause blame) :
    setup.failure? post answer = some (setup.session.fail cause) := by
  cases h with
  | illegibleHello meant => simp [failure?, meant]
  | illegibleCommand behind meant => simp [failure?, behind, meant]
  | objection meant objects => simp [failure?, meant, judge_of_objects objects]
  | _ => rfl

/-- A fault of the transport is reported, unless it tells that the run is stopped. -/
theorem of_fault (post : Post) {fault : TransportFault} (loud : fault ≠ .cancelled) :
    ∃ blame, setup.Reports post (.error fault) (.connection fault) blame := by
  cases fault with
  | connect reason => exact ⟨_, .unconnected⟩
  | broken => exact ⟨_, .broken⟩
  | framing => exact ⟨_, .misframed⟩
  | request => exact ⟨_, .unwritable⟩
  | status code => exact ⟨_, .unsuccessful⟩
  | cancelled => exact absurd rfl loud

end Reports

theorem LastAnswer.failure?_eq (h : setup.LastAnswer events post answer)
    (again : setup.LastAnswer events other second) :
    setup.failure? post answer = setup.failure? other second := by
  obtain ⟨rfl, same⟩ := h.unique again
  exact failure?_congr same

namespace FailsBy

/-- The failure for a report is the session's own. -/
theorem of_reports (last : setup.LastAnswer events post answer)
    (reports : setup.Reports post answer cause blame) :
    setup.FailsBy events (setup.session.fail cause) :=
  .reported last reports reports.blame_eq (setup.session.fails cause)

/-- Either the last answer calls for the failure, or the run was stopped. -/
theorem reason (h : setup.FailsBy events failure) :
    (∃ post answer, setup.LastAnswer events post answer ∧
      setup.failure? post answer = some failure) ∨
      (∃ front, sent events = front ++ [Post.stop.written setup]) ∧ failure = .cancelled := by
  cases h with
  | reported last reports blamed fails =>
      obtain rfl := fails.eq_fail
      exact .inl ⟨_, _, last, reports.failure?_eq⟩
  | untrusting last meant doubts =>
      exact .inl ⟨_, _, last, by simp [failure?, meant, judge_of_doubts doubts]⟩
  | stopped noticed => exact .inr ⟨⟨_, noticed⟩, rfl⟩

/-- The events of a run call for one failure at most. -/
theorem unique (h : setup.FailsBy events failure) {twin : Failure}
    (again : setup.FailsBy events twin) : failure = twin := by
  rcases h.reason with ⟨post, answer, last, calls⟩ | ⟨⟨front, noticed⟩, rfl⟩
  · rcases again.reason with ⟨other, second, also, claims⟩ | ⟨⟨front, noticed⟩, rfl⟩
    · rw [last.failure?_eq also, claims] at calls
      exact (Option.some.inj calls).symm
    · exact absurd noticed last.not_stopped
  · rcases again.reason with ⟨other, second, also, claims⟩ | ⟨_, rfl⟩
    · exact absurd noticed also.not_stopped
    · rfl

theorem append (h : setup.FailsBy events failure) {rest : List Event}
    (quiet : ∀ event ∈ rest, event.isTraffic = false) :
    setup.FailsBy (events ++ rest) failure := by
  cases h with
  | reported last reports blamed fails =>
      exact .reported (last.append quiet) reports blamed fails
  | untrusting last meant doubts => exact .untrusting (last.append quiet) meant doubts
  | stopped noticed =>
      have silent : sent rest = [] :=
        sent_eq_nil fun event member => Event.posted?_eq_none (quiet event member)
      exact .stopped (by rw [sent_append, silent, List.append_nil, noticed])

end FailsBy

end Answers

end Objections

end Setup

namespace Act

variable [Url.HostMapping] {σ α : Type} {world : World σ} {setup : Setup} {run after : Run σ}

/-- A stopped run has posted the notice last. -/
theorem failsBy_stopped (world : World σ) (setup : Setup) (run : Run σ) :
    setup.FailsBy (run.stopped world setup.session).events .cancelled :=
  .stopped (Run.sent_stopped run)

/-- An exchange that fails does so of what its events call for, if what cannot be read is reported. -/
theorem Exchanged.failsBy {post : Post} {codec : Json.Codec α} {failure : Failure}
    (h : Exchanged world setup.session post.endpoint (post.body setup) codec run
      (.error (.failed failure)) after)
    (regular : post ≠ .stop)
    (illegible : ∀ body fault, codec.decode body = .error fault →
      setup.Reports post (.ok body) (.message fault) .server) :
    setup.FailsBy after.events failure := by
  have last (answer : Except TransportFault Bytes) (span : Millis) (state : σ) :
      setup.LastAnswer ((run.posted world true (setup.session.resource post.endpoint)
        (post.body setup)).returned (.answer answer) span state).events post answer := by
    refine ⟨regular, run.events, [], ?_, by simp⟩
    rw [Run.events_returned, Run.events_posted, List.append_assoc]
    rfl
  cases h with
  | fired lapsed => exact failsBy_stopped world setup run
  | undecodable alive comes meant => exact .of_reports (last _ _ _) (illegible _ _ meant)
  | refused alive comes loud =>
      obtain ⟨blame, reports⟩ : ∃ blame, setup.Reports post _ _ blame :=
        Setup.Reports.of_fault post loud
      exact .of_reports (last _ _ _) reports
  | cancelled alive comes => exact failsBy_stopped world setup _

/-- A greeting that fails does so of the transport or of its answer. -/
theorem Greeted.failsBy {state : σ} {failure : Failure}
    (h : Greeted world setup (Run.fresh state) (.error (.failed failure)) after) :
    setup.FailsBy after.events failure := by
  cases h with
  | broken answer =>
      exact (exchanged_post .hello answer).failsBy (by simp) fun _ _ => .illegibleHello
  | @refused response mid answer failure verdict =>
      obtain ⟨bytes, events, meant⟩ := hello_answered answer
      have last : setup.LastAnswer mid.events .hello (.ok bytes) :=
        ⟨by simp, [.enter .initial .helloSent], [], events, by simp⟩
      rcases Setup.judge_eq_error_iff.mp verdict with
        ⟨cause, blame, objects, rfl⟩ | ⟨fault, doubts, rfl⟩
      · exact .of_reports last (.objection meant objects)
      · exact .untrusting last meant doubts

theorem Ends.failsBy {command : Command} {failure : Failure}
    (h : Ends world setup command run (.error (.failed failure)) after) :
    setup.FailsBy after.events failure := by
  cases h with
  | fired lapsed => exact failsBy_stopped world setup run
  | stopped alive handling => exact failsBy_stopped world setup _
  | @broken reply mid produced reason after answer =>
      exact (exchanged_post (.reply reply) answer).failsBy (by simp) fun _ _ =>
        .illegibleCommand (by simp)

/-- A conversation that fails does so of what its events call for. -/
theorem Conversed.failsBy {bound : Nat} {state : σ} {failure : Failure}
    (h : Conversed world setup bound state (.error (.failed failure)) after) :
    setup.FailsBy after.events failure := by
  cases h with
  | unheard greeting => exact (greeted_of_eq greeting).failsBy
  | unasked greeting asking =>
      exact (exchanged_post .getCommand asking).failsBy (by simp) fun _ _ =>
        .illegibleCommand (by simp)
  | served opening serving =>
      cases serving with
      | ended turns left ending => exact ending.failsBy

end Act

namespace Setup

/-- A run that fails does so of exactly what its events call for. -/
theorem failure_follows_events [Url.HostMapping] {σ : Type} {setup : Setup} {world : World σ}
    {bound : Nat} {state : σ} {failure : Failure}
    (failed : (setup.run world bound state).1 = .finished (.error failure)) (other : Failure) :
    setup.FailsBy (setup.run world bound state).2.events other ↔ other = failure := by
  obtain ⟨result, mid, _, conversed, ending, cleared⟩ := exists_conversed setup world bound state
  rw [ending] at failed
  obtain ⟨rfl, _⟩ := Ending.of_eq_finished failed
  obtain ⟨rest, events, clearing⟩ := cleared.events
  have calls : setup.FailsBy (setup.run world bound state).2.events failure := by
    rw [events]
    exact conversed.failsBy.append fun event member => (clearing event member).isTraffic_eq_false
  constructor
  · intro also
    exact also.unique calls
  · rintro rfl
    exact calls

def forwarding (address : String) : Setup :=
  { plain with session := { plain.session with errorAddress := some address } }

/-- Where the server requires a newer client, the user is sent to the address, if that is secure. -/
theorem outdated_client_forwarded :
    (∃ url, (forwarding "https://Help.Bücher.example").FailsBy
        ((forwarding "https://Help.Bücher.example").run (.scripted none) 0 [requiring ""]).2.events
        (.because .outdated (some url)) ∧
      url.host = some (.name "help.xn--bcher-kva.example") ∧
      url.query = some "ResultMajor=error&ResultMinor=clientError") ∧
    (forwarding "http://help.example/").FailsBy
      ((forwarding "http://help.example/").run (.scripted none) 0 [requiring ""]).2.events
      (.redirect "http://help.example/" (.scheme "http")) := by
  constructor
  · have failed : ((forwarding "https://Help.Bücher.example").run (.scripted none) 0
        [requiring ""]).1.failure? =
        some (.because .outdated (some ⟨"https", "", some (.name "help.xn--bcher-kva.example"), none,
          true, "/", some "ResultMajor=error&ResultMinor=clientError", none⟩)) := by
      decide +kernel
    exact ⟨_, (failure_follows_events (Ending.failure?_eq_some_iff.mp failed) _).mpr rfl, rfl, rfl⟩
  · have failed : ((forwarding "http://help.example/").run (.scripted none) 0
        [requiring ""]).1.failure? =
        some (.redirect "http://help.example/" (.scheme "http")) := by
      decide +kernel
    exact (failure_follows_events (Ending.failure?_eq_some_iff.mp failed) _).mpr rfl

end Setup

end CardGateway
