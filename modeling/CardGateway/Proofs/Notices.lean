import CardGateway.Proofs.Cleanup
import CardGateway.Proofs.DownloadAddress

/-!
# What the user is told

What the answer to the hello calls for is kept back until the connection is closed, and nothing is
added to it later. An address is shown only if the answer can be trusted and the address may be shown;
an answer that can be trusted and has another address ends the session, and of that the user is told.
-/

namespace CardGateway

open CardGateway.Text

/-- The failure with which a session ends, by what its address for errors is good for. -/
inductive Session.Fails [Url.HostMapping] (session : Session) (cause : Cause) : Failure → Prop where
  | untold (free : session.errorAddress = none) : Fails session cause (.because cause none)
  | redirected {address : String} {url : Url} (given : session.errorAddress = some address)
      (parsed : Url.parse address = .ok url) (secure : url.scheme = "https") :
      Fails session cause (.because cause (some (url.withPairs (Session.outcome cause.blame))))
  | malformed {address : String} {fault : Url.Fault} (given : session.errorAddress = some address)
      (parsed : Url.parse address = .error fault) :
      Fails session cause (.redirect address (.malformed fault))
  | insecure {address : String} {url : Url} (given : session.errorAddress = some address)
      (parsed : Url.parse address = .ok url) (scheme : url.scheme ≠ "https") :
      Fails session cause (.redirect address (.scheme url.scheme))

theorem Session.fails [Url.HostMapping] (session : Session) (cause : Cause) :
    session.Fails cause (session.fail cause) := by
  unfold fail redirect
  cases given : session.errorAddress with
  | none => exact .untold given
  | some address =>
      dsimp only
      cases parsed : Url.parse address with
      | error fault => exact .malformed given parsed
      | ok url =>
          dsimp only
          by_cases secure : url.scheme = "https"
          · rw [if_neg (not_not_intro secure)]
            exact .redirected given parsed secure
          · rw [if_pos secure]
            exact .insecure given parsed secure

namespace Setup

variable {setup : Setup} {response : HelloResponse}

/-- An answer to the hello whose code and signature are good. -/
structure Trusts (setup : Setup) (response : HelloResponse) : Prop where
  code : response.result = .ok ∨ response.result = .updateRecommended ∨
    response.result = .updateRequired
  signature : setup.config.validateChallenge = true → ∃ store, setup.Believes store ∧
    store.accepts setup.challenge (response.signature.getD []) = true

/-- An answer in which there is an address, and more to it than blanks. -/
def Offers (response : HelloResponse) (address : String) : Prop :=
  response.downloadAddress = some address ∧ trim address ≠ ""

theorem Offers.unique {first second : String} (h : Offers response first)
    (again : Offers response second) : first = second :=
  Option.some.inj (h.1.symm.trans again.1)

/-- An address that may be shown under the configuration, with the URL that it is. -/
def Vets [Url.HostMapping] (setup : Setup) (address : String) (url : Url) : Prop :=
  UpdatePolicy.Vets setup.config.enforceAllowlist setup.config.allowlist address url

/-- A trusted answer with an address that may not be shown. -/
structure Misdirects [Url.HostMapping] (setup : Setup) (response : HelloResponse)
    (address : String) : Prop where
  trusted : setup.Trusts response
  offered : Offers response address
  unvetted : ∀ url, ¬ setup.Vets address url

theorem offered?_eq_some_iff {address : String} :
    offered? response = some address ↔ Offers response address := by
  simp only [offered?, Option.filter_eq_some_iff, Offers, ne_eq, trim_eq_empty_iff,
    Bool.not_eq_true', Bool.not_eq_true]

theorem check_eq_ok_iff [Url.HostMapping] {address : String} {url : Url} :
    setup.config.updatePolicy.check address = .ok url ↔ setup.Vets address url :=
  UpdatePolicy.check_eq_ok_iff

theorem trusts_iff [Url.HostMapping] : setup.Trusts response ↔
    response.result.isHelloAccepted = true ∧ setup.authenticate response = .ok () := by
  have codes : response.result.isHelloAccepted = true ↔ response.result = .ok ∨
      response.result = .updateRecommended ∨ response.result = .updateRequired := by
    cases response.result <;> simp [ResultCode.isHelloAccepted]
  rw [codes, authenticate_eq_ok_iff]
  constructor
  · rintro ⟨code, signature⟩
    exact ⟨code, signature⟩
  · rintro ⟨code, signature⟩
    exact ⟨code, signature⟩

/-- What an answer to the hello calls for. -/
inductive Judged [Url.HostMapping] (setup : Setup) (response : HelloResponse) :
    List Notice → Except Failure Unit → Prop where
  | doubted (doubtful : ¬ setup.Trusts response) {failure : Failure} :
      Judged setup response [] (.error failure)
  | silent (trusted : setup.Trusts response) (nowhere : ∀ address, ¬ Offers response address) :
      Judged setup response [] (setup.unlessOutdated (response.result == .updateRequired))
  | vetted (trusted : setup.Trusts response) {address : String} {url : Url}
      (offered : Offers response address) (vets : setup.Vets address url) :
      Judged setup response [.update url (response.result == .updateRequired)]
        (setup.unlessOutdated (response.result == .updateRequired))
  | misdirected {address : String} (misdirects : setup.Misdirects response address)
      {fault : UpdatePolicy.Fault} (checked : setup.config.updatePolicy.check address = .error fault) :
      Judged setup response [.error s!"The ChipGateway server is misconfigured: {fault.message}"]
        (.error (setup.session.fail (.downloadAddress fault)))

theorem judged [Url.HostMapping] (setup : Setup) (response : HelloResponse) :
    setup.Judged response (setup.judge response).1 (setup.judge response).2 := by
  have sound : setup.Trusts response ↔ response.result.isHelloAccepted = true ∧
      setup.authenticate response = .ok () := trusts_iff
  unfold judge
  cases accepted : response.result.isHelloAccepted with
  | false =>
      refine .doubted fun trusted => ?_
      exact absurd (accepted.symm.trans (sound.mp trusted).1) (by decide)
  | true =>
      cases signed : setup.authenticate response with
      | error failure =>
          refine .doubted fun trusted => ?_
          exact absurd (signed.symm.trans (sound.mp trusted).2) (by simp)
      | ok done =>
          have trusted := sound.mpr ⟨accepted, signed⟩
          simp only [Bool.not_true, Bool.false_eq_true, if_false, weighUpdate]
          cases offering : offered? response with
          | none =>
              dsimp only
              refine .silent trusted fun address offered => ?_
              rw [offered?_eq_some_iff.mpr offered] at offering
              cases offering
          | some address =>
              have offered := offered?_eq_some_iff.mp offering
              cases checked : setup.config.updatePolicy.check address with
              | ok url =>
                  simp only [checked]
                  exact .vetted trusted offered (check_eq_ok_iff.mp checked)
              | error fault =>
                  have unvetted (url : Url) : ¬ setup.Vets address url := by
                    intro vets
                    rw [check_eq_ok_iff.mpr vets] at checked
                    cases checked
                  simp only [checked]
                  exact .misdirected ⟨trusted, offered, unvetted⟩ checked

namespace Judged

variable [Url.HostMapping] {notices : List Notice} {verdict : Except Failure Unit}

theorem length_le_one (h : setup.Judged response notices verdict) : notices.length ≤ 1 := by
  cases h <;> simp

theorem update_mem_iff (h : setup.Judged response notices verdict) {url : Url} {mandatory : Bool} :
    .update url mandatory ∈ notices ↔ setup.Trusts response ∧
      (∃ address, Offers response address ∧ setup.Vets address url) ∧
      (mandatory = true ↔ response.result = .updateRequired) := by
  constructor
  · intro told
    cases h with
    | doubted doubtful => cases told
    | silent trusted nowhere => cases told
    | misdirected misdirects checked => simp at told
    | vetted trusted offered vets =>
        obtain ⟨rfl, rfl⟩ := Notice.update.inj (List.mem_singleton.mp told)
        exact ⟨trusted, ⟨_, offered, vets⟩, beq_iff_eq⟩
  · rintro ⟨trusted, ⟨address, offered, vets⟩, required⟩
    cases h with
    | doubted doubtful => exact absurd trusted doubtful
    | silent trusted nowhere => exact absurd offered (nowhere address)
    | misdirected misdirects checked =>
        obtain rfl := misdirects.offered.unique offered
        exact absurd vets (misdirects.unvetted url)
    | vetted trusted others found =>
        obtain rfl := others.unique offered
        obtain rfl := Except.ok.inj (found.parsed.symm.trans vets.parsed)
        obtain rfl : mandatory = (response.result == .updateRequired) := by
          rw [Bool.eq_iff_iff, required, beq_iff_eq]
        exact List.mem_singleton.mpr rfl

theorem misdirects (h : setup.Judged response notices verdict) {text : String}
    (told : .error text ∈ notices) : ∃ address, setup.Misdirects response address := by
  cases h with
  | doubted doubtful => cases told
  | silent trusted nowhere => cases told
  | vetted trusted offered vets => simp at told
  | misdirected misdirects checked => exact ⟨_, misdirects⟩

theorem of_misdirects (h : setup.Judged response notices verdict) {address : String}
    (misdirects : setup.Misdirects response address) :
    ∃ fault, setup.config.updatePolicy.check address = .error fault ∧
      notices = [.error s!"The ChipGateway server is misconfigured: {fault.message}"] ∧
      verdict = .error (setup.session.fail (.downloadAddress fault)) := by
  cases h with
  | doubted doubtful => exact absurd misdirects.trusted doubtful
  | silent trusted nowhere => exact absurd misdirects.offered (nowhere address)
  | vetted trusted offered vets =>
      obtain rfl := offered.unique misdirects.offered
      exact absurd vets (misdirects.unvetted _)
  | misdirected other checked =>
      obtain rfl := other.offered.unique misdirects.offered
      exact ⟨_, checked, rfl, rfl⟩

/-- A newer client that is required is none that the session goes on with. -/
theorem refuses_outdated (h : setup.Judged response notices verdict)
    (required : response.result = .updateRequired) : ∃ failure, verdict = .error failure := by
  have outdated : setup.unlessOutdated (response.result == .updateRequired) =
      .error (setup.session.fail .outdated) := by
    rw [required]
    rfl
  cases h with
  | doubted doubtful => exact ⟨_, rfl⟩
  | silent trusted nowhere => exact ⟨_, outdated⟩
  | vetted trusted offered vets => exact ⟨_, outdated⟩
  | misdirected misdirects checked => exact ⟨_, rfl⟩

end Judged

/-- Events that begin with the hello and an answer to it that could be read. -/
def Hears (setup : Setup) (events : List Event) (response : HelloResponse) : Prop :=
  ∃ answer rest, events = .enter .initial .helloSent ::
      .send (Post.hello.written setup).1 (Post.hello.written setup).2 :: .answer (.ok answer) :: rest ∧
    HelloResponse.codec.decode answer = .ok response

namespace Hears

variable {front back : List Event} {other : HelloResponse}

theorem posted (h : setup.Hears front response) :
    front[1]? = some (.send (Post.hello.written setup).1 (Post.hello.written setup).2) := by
  obtain ⟨answer, rest, rfl, -⟩ := h
  rfl

theorem answered (h : setup.Hears front response) :
    ∃ answer, front[2]? = some (.answer (.ok answer)) ∧
      HelloResponse.codec.decode answer = .ok response := by
  obtain ⟨answer, rest, rfl, meant⟩ := h
  exact ⟨answer, rfl, meant⟩

theorem unique (h : setup.Hears front response) (again : setup.Hears front other) :
    response = other := by
  obtain ⟨answer, third, meant⟩ := h.answered
  obtain ⟨same, again, also⟩ := again.answered
  obtain rfl : answer = same :=
    Except.ok.inj (Event.answer.inj (Option.some.inj (third.symm.trans again)))
  exact Except.ok.inj (meant.symm.trans also)

theorem append (h : setup.Hears front response) (back : List Event) :
    setup.Hears (front ++ back) response := by
  obtain ⟨answer, rest, rfl, meant⟩ := h
  exact ⟨answer, rest ++ back, rfl, meant⟩

theorem of_append (h : setup.Hears (front ++ back) response)
    (quiet : ∀ answer, .answer answer ∉ back) : setup.Hears front response := by
  obtain ⟨answer, rest, begins, meant⟩ := h
  have split : front ++ back = [.enter .initial .helloSent,
      .send (Post.hello.written setup).1 (Post.hello.written setup).2] ++ .answer (.ok answer) :: rest :=
    begins
  rcases split_append split with ⟨others, inside⟩ | ⟨more, -, behind⟩
  · exact ⟨answer, others, inside, meant⟩
  · exact absurd (by simp [behind]) (quiet (.ok answer))

end Hears

end Setup

namespace Act

variable {σ : Type} {world : World σ} {setup : Setup} {run after : Run σ}

section Kept

/-! Nothing is added to what the user is told once the greeting is over. -/

theorem Searched.notices_eq {filters : List TokenInfo}
    {result : Except Halt (Option (Except CardFault TokenSearch))}
    (h : Searched world filters run result after) : after.notices = run.notices := by
  cases h with
  | fired lapsed => rfl
  | overtaken alive begun first => rfl
  | endless alive begun never settled => rfl
  | @found call alive begun span result last comes => cases result <;> rfl

theorem Polled.notices_eq {session : String} {filters : List TokenInfo} {deadline : Millis}
    {result : Except Halt (Option ListTokensResponse)}
    (h : Polled world session filters deadline run result after) : after.notices = run.notices := by
  induction h with
  | halted step => exact step.notices_eq
  | stopped step => exact step.notices_eq
  | failed step => exact step.notices_eq
  | matched step hit => exact step.notices_eq
  | late step miss lapsed => exact step.notices_eq
  | fired step miss early first => exact step.notices_eq
  | again step miss early rest ih => exact ih.trans step.notices_eq

theorem Handled.notices_eq {command : Command} {result : Except Halt (Terminate ⊕ Option Reply)}
    (h : Handled world setup run command result after) : after.notices = run.notices := by
  cases h with
  | terminate message => rfl
  | endless step => exact step.notices_eq
  | listTokens step => exact step.notices_eq
  | listCertificates step => exact step.keeps.notices
  | sign step => exact step.keeps.notices

theorem Produced.notices_eq {command : Command} {reply : Reply}
    (h : Produced world setup command run reply after) : after.notices = run.notices :=
  (handled_of_eq h.handling).notices_eq

theorem Turns.notices_eq [Url.HostMapping] {first last : Command} {replies : List Reply}
    (h : Turns world setup first run replies last after) : after.notices = run.notices := by
  induction h with
  | nil => rfl
  | snoc turns turn ih =>
      cases turn with
      | intro produced answer =>
          exact (exchanged_of_eq answer).keeps.notices.trans (produced.notices_eq.trans ih)

theorem Ends.notices_eq [Url.HostMapping] {command : Command} {result : Except Halt Terminate}
    (h : Ends world setup command run result after) : after.notices = run.notices := by
  cases h with
  | fired lapsed => exact (Run.stopped_keeps world setup run).notices
  | terminated alive asked => rfl
  | endless alive handling => exact (handled_of_eq handling).notices_eq
  | @stopped alive mid handling =>
      exact (Run.stopped_keeps world setup mid).notices.trans (handled_of_eq handling).notices_eq
  | broken produced answer =>
      exact (exchanged_of_eq answer).keeps.notices.trans produced.notices_eq

theorem Served.notices_eq [Url.HostMapping] {bound : Nat} {command : Command}
    {result : Except Halt Terminate} (h : Served world setup bound command run result after) :
    after.notices = run.notices := by
  cases h with
  | cut turns spent => exact turns.notices_eq
  | ended turns left ending => exact ending.notices_eq.trans turns.notices_eq

end Kept

/-- What a conversation has of the answer to its hello: what the answer calls for is kept, and the
conversation goes no further if the answer is bad. -/
inductive Informed [Url.HostMapping] (setup : Setup) (result : Except Halt Terminate)
    (run : Run σ) : Prop where
  | heard {response : HelloResponse} (hears : setup.Hears run.events response)
      (kept : run.notices = (setup.judge response).1)
      (refused : ∀ failure, (setup.judge response).2 = .error failure →
        result = .error (.failed failure) ∧ sent run.events = [Post.hello.written setup]) :
      Informed setup result run
  | unheard (deaf : ∀ response, ¬ setup.Hears run.events response) (nothing : run.notices = []) :
      Informed setup result run

/-- No answer is heard where the exchange of the hello comes to nothing. -/
theorem hello_unheard [Url.HostMapping] {state : σ} {reason : Halt}
    (broken : exchange world setup.session .hello (HelloRequest.codec.encode setup.hello)
      HelloResponse.codec ((Run.fresh state).entered .helloSent) = (.error reason, after))
    (response : HelloResponse) : ¬ setup.Hears after.events response := by
  intro hears
  have posted := hears.posted
  obtain ⟨answer, third, meant⟩ := hears.answered
  cases exchanged_of_eq broken with
  | fired lapsed =>
      obtain ⟨tail, journal, -, -⟩ :=
        Run.journal_stopped world setup ((Run.fresh state).entered .helloSent)
      rw [Run.events, journal, List.map_append] at posted
      obtain ⟨resource, body⟩ := Event.send.inj (Option.some.inj posted)
      exact Post.written_ne (by decide) (Prod.ext resource body)
  | endless alive never =>
      rw [Run.events_posted, Run.events_entered] at third
      exact absurd third (by simp)
  | undecodable alive comes faulty =>
      rw [events_hello] at third
      obtain rfl := Except.ok.inj (Event.answer.inj (Option.some.inj third))
      rw [meant] at faulty
      cases faulty
  | refused alive comes loud =>
      rw [events_hello] at third
      exact absurd third (by simp)
  | @cancelled alive span last comes =>
      let returned := (((Run.fresh state).entered .helloSent).posted world true
        (setup.session.resource .hello) (HelloRequest.codec.encode setup.hello)).returned
          (.answer (.error .cancelled)) span last
      have grows : returned.journal <+: (returned.stopped world setup.session).journal :=
        returned.stopped_grows
      obtain ⟨tail, grown⟩ := Run.events_grow grows
      rw [← grown, events_hello] at third
      exact absurd third (by simp)

/-- A good answer to the hello is heard in all that follows. -/
theorem Informed.of_greeting [Url.HostMapping] {state : σ} {mid : Run σ}
    {result : Except Halt Terminate}
    (greeting : hello world setup (Run.fresh state) = (.ok (), mid))
    (grown : mid.journal <+: after.journal) (same : after.notices = mid.notices) :
    Informed setup result after := by
  cases greeted_of_eq greeting with
  | admitted answer verdict =>
      obtain ⟨bytes, events, meant⟩ := hello_answered answer
      obtain ⟨rest, later⟩ := Run.events_grow grown
      have unspoken := (exchanged_of_eq answer).keeps.notices
      rw [Run.events_informed, events] at later
      refine .heard ⟨bytes, rest, later.symm, meant⟩ ?_ ?_
      · rw [same, Run.informed, unspoken]
        exact List.nil_append _
      · intro failure refused
        rw [verdict] at refused
        cases refused

theorem Conversed.informed [Url.HostMapping] {bound : Nat} {state : σ}
    {result : Except Halt Terminate} (h : Conversed world setup bound state result after) :
    Informed setup result after := by
  cases h with
  | unheard greeting =>
      cases greeted_of_eq greeting with
      | broken answer => exact .unheard (hello_unheard answer) (exchanged_of_eq answer).keeps.notices
      | @refused response mid answer failure verdict =>
          obtain ⟨bytes, events, meant⟩ := hello_answered answer
          have unspoken := (exchanged_of_eq answer).keeps.notices
          refine .heard ⟨bytes, [], events, meant⟩ ?_ ?_
          · rw [Run.informed, unspoken]
            exact List.nil_append _
          · intro other refused
            obtain rfl := Except.error.inj (verdict.symm.trans refused)
            refine ⟨rfl, ?_⟩
            rw [Run.events_informed, events, sent_cons_enter, sent_cons_send, sent_cons_answer, sent_nil,
              Prod.eta]
  | @unasked mid greeting reason after asking =>
      have asked := exchanged_post .getCommand asking
      have grown := (mid.entered_grows .awaitingCommand).trans asked.wrote.grows
      exact .of_greeting greeting grown asked.keeps.notices
  | served opening serving =>
      cases opening with
      | @intro mid greeting first opened asking =>
          have asked := exchanged_post .getCommand asking
          have grown := (mid.entered_grows .awaitingCommand).trans asked.wrote.grows
          exact .of_greeting greeting (grown.trans serving.grows)
            (serving.notices_eq.trans asked.keeps.notices)

end Act

def Event.notice? : Event → Option Notice
  | .present notice => some notice
  | _ => none

def told (events : List Event) : List Notice := events.filterMap Event.notice?

theorem mem_told {notice : Notice} {events : List Event} :
    notice ∈ told events ↔ .present notice ∈ events := by
  constructor
  · intro shown
    obtain ⟨event, member, same⟩ := List.mem_filterMap.mp shown
    cases event with
    | present other =>
        obtain rfl := Option.some.inj same
        exact member
    | _ => cases same
  · intro member
    exact List.mem_filterMap.mpr ⟨_, member, rfl⟩

@[simp] theorem told_append (front back : List Event) :
    told (front ++ back) = told front ++ told back :=
  List.filterMap_append

theorem told_eq_nil {events : List Event} (h : ∀ event ∈ events, event.notice? = none) :
    told events = [] :=
  List.filterMap_eq_nil_iff.mpr h

theorem Event.notice?_eq_none {event : Event} (talk : event.isCleanup = false) :
    event.notice? = none := by
  cases event with
  | present notice => cases talk
  | _ => rfl

namespace Setup

variable {σ : Type} {setup : Setup} {world : World σ}

namespace Leaves

variable {mid after : Run σ} {result : Except Halt Terminate} {ending : Ending}

/-- The user is told what was kept if the run ends, and else nothing. -/
theorem told_eq (h : Leaves world mid result ending after)
    (talking : ∀ event ∈ mid.events, event.isCleanup = false) :
    (∃ outcome, ending = .finished outcome) ∧ told after.events = mid.notices ∨
      (∀ outcome, ending ≠ .finished outcome) ∧ told after.events = [] := by
  have untold : told mid.events = [] :=
    told_eq_nil fun event member => Event.notice?_eq_none (talking event member)
  cases h with
  | @cleaned outcome after step =>
      left
      refine ⟨⟨outcome, rfl⟩, ?_⟩
      cases step with
      | done closed wrote ended =>
          have slots : told (mid.connected.map .disconnect) = [] := by
            refine told_eq_nil fun event member => ?_
            obtain ⟨slot, -, rfl⟩ := List.mem_map.mp member
            rfl
          have notices : told (mid.notices.map .present) = mid.notices := by
            rw [told, List.filterMap_map]
            exact List.filterMap_some
          have ended : told mid.lapse = [] := by
            rcases mid.lapse_eq with nothing | ⟨before, last⟩
            · rw [nothing]
              rfl
            · rw [last]
              rfl
          rw [wrote.events_eq]
          simp only [told_append, untold, slots, notices, ended, List.nil_append, List.append_nil]
          rfl
  | unclosed step =>
      right
      refine ⟨by simp, ?_⟩
      cases step with
      | endless never wrote =>
          rw [wrote.events_eq, told_append, untold]
          rfl
  | endless => exact .inr ⟨by simp, untold⟩
  | cut => exact .inr ⟨by simp, untold⟩

/-- The connection is closed before the user is told anything. -/
theorem close_mem (h : Leaves world mid result ending after)
    (talking : ∀ event ∈ mid.events, event.isCleanup = false) {before rest : List Event}
    {notice : Notice} (split : after.events = before ++ .present notice :: rest) :
    .close ∈ before := by
  have unspoken : .present notice ∉ mid.events ++ [.clearPins, .close] := by
    intro member
    rcases List.mem_append.mp member with talk | clearing
    · exact absurd (talking _ talk) (by simp [Event.isCleanup])
    · simp at clearing
  have spoken : .present notice ∈ after.events := by simp [split]
  cases h with
  | cleaned step =>
      cases step with
      | done closed wrote final =>
          rw [wrote.events_eq, ← List.append_assoc] at split
          rcases split_append split with ⟨others, inside⟩ | ⟨more, rfl, -⟩
          · exact absurd (by simp [inside]) unspoken
          · simp
  | unclosed step =>
      cases step with
      | endless never wrote =>
          rw [wrote.events_eq] at spoken
          exact absurd spoken unspoken
  | endless => exact absurd (List.mem_append_left _ spoken) unspoken
  | cut => exact absurd (List.mem_append_left _ spoken) unspoken

end Leaves

/-- What the user is told in a run that ended so, if it did. -/
structure Tells [Url.HostMapping] (setup : Setup) (world : World σ) (ending : Ending)
    (events : List Event) : Prop where
  once : (told events).length ≤ 1
  /-- Not before the connection is closed. -/
  closed : ∀ before notice after, events = before ++ .present notice :: after →
    .close ∈ before ∧ ∃ outcome, ending = .finished outcome
  /-- Exactly the address that a trusted answer offers and that may be shown. -/
  vetted : ∀ url mandatory, .update url mandatory ∈ told events ↔
    (∃ outcome, ending = .finished outcome) ∧ ∃ response address,
      setup.Hears events response ∧ setup.Trusts response ∧ Offers response address ∧
        setup.Vets address url ∧ (mandatory = true ↔ response.result = .updateRequired)
  /-- An error exactly behind a trusted answer that offers another address. -/
  misdirected : (∃ text, .error text ∈ told events) ↔ (∃ outcome, ending = .finished outcome) ∧
    ∃ response address, setup.Hears events response ∧ setup.Misdirects response address
  /-- That address is what the run fails of, and nothing is posted behind the hello. -/
  fails : ∀ response address, setup.Hears events response → setup.Misdirects response address →
    sent events = [Post.hello.written setup] ∧
      ∃ fault failure, setup.config.updatePolicy.check address = .error fault ∧
        setup.session.Fails (.downloadAddress fault) failure ∧
        (ending = .finished (.error failure) ∧ told events =
            [.error s!"The ChipGateway server is misconfigured: {fault.message}"] ∨
          ending = .endless ∧ ∃ now state, (world.close now state).ends = none)
  /-- Nothing is posted either behind an answer that requires a newer client. -/
  outdated : ∀ response, setup.Hears events response → response.result = .updateRequired →
    sent events = [Post.hello.written setup]

theorem Tells.of_unheard [Url.HostMapping] {ending : Ending} {events : List Event}
    (deaf : ∀ response, ¬ setup.Hears events response) (silent : told events = []) :
    setup.Tells world ending events where
  once := by simp [silent]
  closed before notice after split := by
    have shown : notice ∈ told events := mem_told.mpr (by simp [split])
    rw [silent] at shown
    cases shown
  vetted url mandatory := by
    constructor
    · intro shown
      rw [silent] at shown
      cases shown
    · rintro ⟨-, response, address, hears, -⟩
      exact absurd hears (deaf response)
  misdirected := by
    constructor
    · rintro ⟨text, shown⟩
      rw [silent] at shown
      cases shown
    · rintro ⟨-, response, address, hears, -⟩
      exact absurd hears (deaf response)
  fails response address hears := absurd hears (deaf response)
  outdated response hears := absurd hears (deaf response)

theorem shown_iff {ending : Ending} {events : List Event} {notices : List Notice} {notice : Notice}
    (telling : (∃ outcome, ending = .finished outcome) ∧ told events = notices ∨
      (∀ outcome, ending ≠ .finished outcome) ∧ told events = []) :
    notice ∈ told events ↔ (∃ outcome, ending = .finished outcome) ∧ notice ∈ notices := by
  rcases telling with ⟨finished, same⟩ | ⟨unfinished, same⟩
  · rw [same]
    exact (and_iff_right finished).symm
  · rw [same]
    constructor
    · intro member
      cases member
    · rintro ⟨⟨outcome, ended⟩, -⟩
      exact absurd ended (unfinished outcome)

theorem Tells.of_heard [Url.HostMapping] {ending : Ending} {events : List Event}
    {response : HelloResponse} (hears : setup.Hears events response)
    (closed : ∀ before notice after, events = before ++ .present notice :: after → .close ∈ before)
    (telling : (∃ outcome, ending = .finished outcome) ∧ told events = (setup.judge response).1 ∨
      (∀ outcome, ending ≠ .finished outcome) ∧ told events = [])
    (refused : ∀ failure, (setup.judge response).2 = .error failure →
      sent events = [Post.hello.written setup] ∧ (ending = .finished (.error failure) ∨
        ending = .endless ∧ ∃ now state, (world.close now state).ends = none)) :
    setup.Tells world ending events := by
  have judged := setup.judged response
  constructor
  case once =>
    rcases telling with ⟨-, same⟩ | ⟨-, same⟩
    · rw [same]
      exact judged.length_le_one
    · simp [same]
  case closed =>
    intro before notice after split
    have member : notice ∈ told events := mem_told.mpr (by simp [split])
    exact ⟨closed before notice after split, ((shown_iff telling).mp member).1⟩
  case vetted =>
    intro url mandatory
    rw [shown_iff telling, judged.update_mem_iff]
    constructor
    · rintro ⟨finished, trusted, ⟨address, offered, vets⟩, required⟩
      exact ⟨finished, response, address, hears, trusted, offered, vets, required⟩
    · rintro ⟨finished, other, address, again, trusted, offered, vets, required⟩
      obtain rfl := hears.unique again
      exact ⟨finished, trusted, ⟨address, offered, vets⟩, required⟩
  case misdirected =>
    constructor
    · rintro ⟨text, member⟩
      obtain ⟨finished, kept⟩ := (shown_iff telling).mp member
      obtain ⟨address, misdirects⟩ := judged.misdirects kept
      exact ⟨finished, response, address, hears, misdirects⟩
    · rintro ⟨finished, other, address, again, misdirects⟩
      obtain rfl := hears.unique again
      obtain ⟨fault, -, notices, -⟩ := judged.of_misdirects misdirects
      exact ⟨_, (shown_iff telling).mpr ⟨finished, by rw [notices]; exact List.mem_singleton_self _⟩⟩
  case fails =>
    intro other address again misdirects
    obtain rfl := hears.unique again
    obtain ⟨fault, checked, notices, verdict⟩ := judged.of_misdirects misdirects
    obtain ⟨posted, ended⟩ := refused _ verdict
    refine ⟨posted, fault, _, checked, setup.session.fails _, ?_⟩
    rcases ended with ended | endless
    · rcases telling with ⟨-, same⟩ | ⟨unfinished, -⟩
      · exact .inl ⟨ended, same.trans notices⟩
      · exact absurd ended (unfinished _)
    · exact .inr endless
  case outdated =>
    intro other again required
    obtain rfl := hears.unique again
    obtain ⟨failure, verdict⟩ := judged.refuses_outdated required
    exact (refused failure verdict).1

/-- The user is told at most one thing, and only behind the closed connection: an address that may be
shown of an answer that can be trusted, or that the address in such an answer may not be shown. -/
theorem only_vetted_addresses_shown [Url.HostMapping] (setup : Setup) (world : World σ)
    (bound : Nat) (state : σ) :
    setup.Tells world (setup.run world bound state).1 (setup.run world bound state).2.events := by
  obtain ⟨result, mid, conversing, conversed, ending, cleared⟩ :=
    exists_conversed setup world bound state
  have left := leaves conversing
  have talking := ((accounts_preserves setup world state).conversed conversed).talking
  have telling := left.told_eq talking
  obtain ⟨back, events, clearing⟩ := cleared.events
  cases conversed.informed with
  | unheard deaf nothing =>
      refine .of_unheard ?_ ?_
      · intro response hears
        rw [events] at hears
        refine deaf response (hears.of_append fun answer member => ?_)
        cases clearing _ member
      · rcases telling with ⟨-, same⟩ | ⟨-, same⟩
        · rw [same, nothing]
        · exact same
  | @heard response hears kept refused =>
      rw [kept] at telling
      refine .of_heard (events ▸ hears.append back)
        (fun before notice after split => left.close_mem talking split) telling ?_
      intro failure verdict
      obtain ⟨rfl, posted⟩ := refused failure verdict
      refine ⟨(cleared.sent_eq fun _ => Act.Clears.posted?_eq_none).trans posted, ?_⟩
      rw [ending]
      cases closing : mid.closes world with
      | true => exact .inl rfl
      | false =>
          have never : (world.close mid.now (world.clearPins mid.now mid.world)).ends = none := by
            simpa [Run.closes] using closing
          exact .inr ⟨rfl, _, _, never⟩

def requiring (address : String) : Bytes :=
  Utf8.encode ("\x7b\"Result\":\"UPDATE_REQUIRED\",\"DownloadAddress\":\"" ++ address ++ "\"\x7d")

/-- The user is told of an address below a listed domain; one at a host of another domain is refused.
Either run goes no further than its hello. -/
theorem newer_client_shown_or_refused :
    (∃ response address url,
      told (plain.run (.scripted none) 0 [requiring " https://Get.OpeneCard.org"]).2.events =
          [.update url true] ∧
        plain.Trusts response ∧ Offers response address ∧ plain.Vets address url ∧
        sent (plain.run (.scripted none) 0 [requiring " https://Get.OpeneCard.org"]).2.events =
          [Post.hello.written plain]) ∧
    ∃ response address text,
      told (plain.run (.scripted none) 0 [requiring "https://get-openecard.org/"]).2.events =
          [.error text] ∧
        plain.Misdirects response address ∧
        sent (plain.run (.scripted none) 0 [requiring "https://get-openecard.org/"]).2.events =
          [Post.hello.written plain] := by
  constructor
  · have tells := only_vetted_addresses_shown plain (.scripted none) 0
      [requiring " https://Get.OpeneCard.org"]
    have shown : told (plain.run (.scripted none) 0
        [requiring " https://Get.OpeneCard.org"]).2.events =
        [.update ⟨"https", "", some (.name "get.openecard.org"), none, true, "/", none, none⟩ true] := by
      decide +kernel
    obtain ⟨-, response, address, hears, trusted, offered, vets, required⟩ :=
      (tells.vetted _ true).mp (by rw [shown]; exact List.mem_singleton.mpr rfl)
    have refused := tells.outdated response hears (required.mp rfl)
    exact ⟨response, address, _, shown, trusted, offered, vets, refused⟩
  · have tells := only_vetted_addresses_shown plain (.scripted none) 0
      [requiring "https://get-openecard.org/"]
    have shown : told (plain.run (.scripted none) 0
        [requiring "https://get-openecard.org/"]).2.events =
        [.error ("The ChipGateway server is misconfigured: " ++
          UpdatePolicy.Fault.message (.hostNotAllowed "get-openecard.org"))] := by
      decide +kernel
    obtain ⟨-, response, address, hears, misdirects⟩ :=
      tells.misdirected.mp ⟨_, by rw [shown]; exact List.mem_singleton.mpr rfl⟩
    have refused := (tells.fails response address hears misdirects).1
    exact ⟨response, address, _, shown, misdirects, refused⟩

end Setup

end CardGateway
