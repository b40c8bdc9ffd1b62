import CardGateway.Proofs.Dialogue
import CardGateway.Proofs.HelloGate
import CardGateway.Proofs.Token

/-!
# Stopped runs

A run whose token fires before its conversation is over posts nothing from then on but one notice, and
ends as cancelled. A run ends so for no other reason but an answer of the transport.
-/

namespace CardGateway

open CardGateway.Json

namespace World

theorem scripted_keeps (firing : Option Millis) : (scripted firing).KeepsToken where
  send _ _ _ _ _ := ⟨.refl _ _, fun _ _ _ _ => .refl _ _, fun _ => .refl _ _⟩
  findTokens _ _ _ := ⟨.refl _ _, fun _ _ _ _ => .refl _ _, fun _ => .refl _ _⟩
  listCertificates _ _ _ _ _ := ⟨.refl _ _, fun _ _ _ _ => .refl _ _, fun _ => .refl _ _⟩
  sign _ _ _ _ _ _ := ⟨.refl _ _, fun _ _ _ _ => .refl _ _, fun _ => .refl _ _⟩

theorem scripted_heeds (firing : Option Millis) : (scripted firing).HeedsToken where
  cancels := by
    intro now resource body answers span answer after ends lapsed
    obtain ⟨t, settled, past⟩ := hasFired_iff.mp lapsed
    obtain rfl : firing = some t := settled
    by_cases fired : t ≤ now
    · simp [scripted, fired, Call.atOnce] at ends
      exact ends.2.1.symm
    · cases answers with
      | nil =>
          simp [scripted, fired] at ends
          exact ends.2.1.symm
      | cons first rest =>
          simp [scripted, fired, Call.atOnce] at ends
          obtain ⟨rfl, _⟩ := ends
          exact absurd past fired
  wakes := by
    intro now resource body answers never
    cases firing with
    | none => rfl
    | some t =>
        by_cases fired : t ≤ now
        · simp [scripted, fired, Call.atOnce] at never
        · cases answers <;> simp [scripted, fired, Call.atOnce] at never

end World

/-- A message was handed over at an instant, with so much written before, and the token had not fired. -/
inductive Setup.HandedOver [Url.HostMapping] {σ : Type} (setup : Setup) (world : World σ)
    (state : σ) (run : Run σ) (before : List Entry) (time : Millis) (message : String × Bytes) :
    Prop where
  | intro {post : Post} {place : Run σ} (hands : setup.HandsOver world state post place)
      (same : post.written setup = message) (written : place.journal = before)
      (now : place.now = time) (alive : world.hasFired place.now place.world = false)
      (tracks : Run.Tracks world place run)

/-- Whatever was posted but notices was handed over before the token fired. -/
def Setup.Timely [Url.HostMapping] {σ : Type} (setup : Setup) (world : World σ) (state : σ)
    (run : Run σ) : Prop :=
  ∀ before time resource body after,
    run.journal = before ++ ⟨time, .send resource body⟩ :: after →
      (resource, body) ≠ Post.stop.written setup →
        setup.HandedOver world state run before time (resource, body)

/-- An event that posts nothing but a notice. -/
def Setup.Quiet (setup : Setup) (event : Event) : Prop :=
  ∀ message, event.posted? = some message → message = Post.stop.written setup

namespace Setup

variable {setup : Setup}

theorem quiet_of_posted?_eq_none {event : Event} (h : event.posted? = none) : setup.Quiet event := by
  intro message posted
  rw [h] at posted
  cases posted

theorem quiet_notice :
    setup.Quiet (.send (Post.stop.written setup).1 (Post.stop.written setup).2) := by
  intro message posted
  rw [Event.posted?_send, Prod.eta] at posted
  exact (Option.some.inj posted).symm

namespace Timely

variable [Url.HostMapping] {σ : Type} {world : World σ} {state : σ} {run after : Run σ}

theorem wrote (h : setup.Timely world state run) (wrote : Run.Wrote setup.Quiet run after)
    (tracks : Run.Tracks world run after) : setup.Timely world state after := by
  intro before time resource body later split other
  obtain ⟨written, journal, quiet⟩ := wrote
  rw [journal] at split
  rcases split_append split with ⟨rest, inside⟩ | ⟨more, rfl, behind⟩
  · cases h before time resource body rest inside other with
    | intro hands same written now alive kept =>
        exact .intro hands same written now alive (kept.trans tracks)
  · have member : ⟨time, .send resource body⟩ ∈ written := by
      rw [behind]
      simp
    exact absurd (quiet _ member _ rfl) other

theorem posted (h : setup.Timely world state run) {post : Post}
    (hands : setup.HandsOver world state post run)
    (alive : world.hasFired run.now run.world = false)
    (tracks : Run.Tracks world run
      (run.posted world true (setup.session.resource post.endpoint) (post.body setup))) :
    setup.Timely world state
      (run.posted world true (setup.session.resource post.endpoint) (post.body setup)) := by
  intro before time resource body later split other
  have behindAll : run.journal ++
      [⟨run.now, .send (post.written setup).1 (post.written setup).2⟩] =
        before ++ ⟨time, .send resource body⟩ :: later := split
  rcases split_append behindAll with ⟨rest, inside⟩ | ⟨more, rfl, behind⟩
  · cases h before time resource body rest inside other with
    | intro hands same written now alive kept =>
        exact .intro hands same written now alive (kept.trans tracks)
  · have last : more = [] ∧ later = [] := by
      cases more with
      | nil => exact ⟨rfl, ((List.cons.inj behind).2).symm⟩
      | cons first others => simp at behind
    obtain ⟨rfl, rfl⟩ := last
    obtain ⟨rfl, sending⟩ := Entry.mk.inj (List.cons.inj behind).1
    obtain ⟨rfl, rfl⟩ := Event.send.inj sending
    exact .intro hands rfl (List.append_nil _).symm rfl alive tracks

theorem stopped (keeps : world.KeepsToken) (h : setup.Timely world state run) :
    setup.Timely world state (run.stopped world setup.session) :=
  h.wrote (Run.stopped_wrote quiet_notice (fun _ => quiet_of_posted?_eq_none rfl)
    (fun _ => quiet_of_posted?_eq_none rfl) run) (Act.stopped_tracks keeps setup run)

theorem entered (h : setup.Timely world state run) (phase : Phase) :
    setup.Timely world state (run.entered phase) :=
  h.wrote (.entered run (quiet_of_posted?_eq_none rfl)) (.of_eq rfl rfl)

theorem exchanged {α : Type} (keeps : world.KeepsToken) (h : setup.Timely world state run)
    {post : Post} (hands : setup.HandsOver world state post run) {codec : Codec α}
    {result : Except Halt α}
    (exchange : Act.Exchanged world setup.session post.endpoint (post.body setup) codec run result
      after) :
    setup.Timely world state after := by
  have kept := keeps.send run.now true (setup.session.resource post.endpoint) (post.body setup)
    run.world
  have returned (alive : world.hasFired run.now run.world = false) {span : Millis}
      {answer : Except TransportFault Bytes} {last : σ}
      (comes : (world.send run.now true (setup.session.resource post.endpoint) (post.body setup)
        run.world).ends = some (span, answer, last)) :
      setup.Timely world state ((run.posted world true (setup.session.resource post.endpoint)
        (post.body setup)).returned (.answer answer) span last) :=
    (h.posted hands alive (.called kept _)).wrote
      (.returned (quiet_of_posted?_eq_none rfl) _ _ _)
      ⟨Nat.le_add_right _ _, kept.ends _ _ _ comes⟩
  cases exchange with
  | fired lapsed => exact h.stopped keeps
  | endless alive never => exact h.posted hands alive (.called kept _)
  | answered alive comes meant => exact returned alive comes
  | undecodable alive comes meant => exact returned alive comes
  | refused alive comes loud => exact returned alive comes
  | cancelled alive comes => exact (returned alive comes).stopped keeps

/-- Each step of a conversation hands over before the token has fired, or posts only a notice. -/
theorem preserves (keeps : world.KeepsToken) :
    setup.Preserves world state (setup.Timely world state) where
  fresh := by
    intro before time resource body later split
    simp [Run.fresh] at split
  entered phase h := h.entered phase
  informed notices h := h.wrote (.of_journal_eq rfl) (.of_eq rfl rfl)
  stopped h := h.stopped keeps
  exchanged hands h exchange := h.exchanged keeps hands exchange
  handled takesUp h handling := by
    have handled := Act.handled_of_eq handling
    exact h.wrote
      (handled.wrote.mono fun _ kind => quiet_of_posted?_eq_none kind.posted?_eq_none)
      (handled.tracks keeps)

end Timely

end Setup

namespace Act

variable [Url.HostMapping] {σ α : Type} {world : World σ} {setup : Setup} {state : σ}
  {run after : Run σ}

/-- A greeting that is not cancelled ends before the token has fired. -/
theorem Greeted.alive (heeds : world.HeedsToken) {result : Except Halt Unit}
    (h : Greeted world setup run result after) (loud : result ≠ .error (.failed .cancelled)) :
    world.hasFired after.now after.world = false := by
  have answered {response : HelloResponse} {mid : Run σ}
      (answer : exchange world setup.session .hello (HelloRequest.codec.encode setup.hello)
        HelloResponse.codec (run.entered .helloSent) = (.ok response, mid)) :
      world.hasFired mid.now mid.world = false := by
    refine (exchanged_of_eq answer).alive heeds ?_
    intro quiet
    cases quiet
  cases h with
  | admitted answer verdict =>
      have alive := answered answer
      exact alive
  | refused answer verdict =>
      have alive := answered answer
      exact alive
  | broken answer =>
      refine (exchanged_of_eq answer).alive heeds ?_
      intro quiet
      exact loud (congrArg _ (Except.error.inj quiet))

theorem Opened.alive (heeds : world.HeedsToken) {first : Command}
    (h : Opened world setup state first after) : world.hasFired after.now after.world = false := by
  cases h with
  | intro greeting asking =>
      refine (exchanged_of_eq asking).alive heeds ?_
      intro quiet
      cases quiet

/-- A conversation that is not cancelled ends before the token has fired. -/
theorem Conversed.alive (heeds : world.HeedsToken) {bound : Nat} {result : Except Halt Terminate}
    (h : Conversed world setup bound state result after)
    (loud : result ≠ .error (.failed .cancelled)) :
    world.hasFired after.now after.world = false := by
  cases h with
  | unheard greeting =>
      refine (greeted_of_eq greeting).alive heeds ?_
      intro quiet
      exact loud (congrArg _ (Except.error.inj quiet))
  | unasked greeting asking =>
      refine (exchanged_of_eq asking).alive heeds ?_
      intro quiet
      exact loud (congrArg _ (Except.error.inj quiet))
  | served opening serving =>
      cases serving with
      | cut turns spent => exact turns.alive heeds (opening.alive heeds)
      | ended turns left ending => exact ending.alive heeds loud

/-- A run that was stopped because its token had fired, or because a message was cancelled. -/
inductive Stopped (world : World σ) (setup : Setup) : Run σ → Prop where
  | fired {place : Run σ} (lapsed : place.Fired world) :
      Stopped world setup (place.stopped world setup.session)
  | cancelled {place : Run σ} (answer : .answer (.error .cancelled) ∈ place.events) :
      Stopped world setup (place.stopped world setup.session)

theorem Exchanged.stopped {endpoint : Endpoint} {body : Bytes} {codec : Codec α}
    (h : Exchanged world setup.session endpoint body codec run (.error (.failed .cancelled)) after) :
    Stopped world setup after := by
  generalize quiet : Except.error (Halt.failed .cancelled) = result at h
  cases h with
  | fired lapsed => exact .fired lapsed
  | endless alive never => cases quiet
  | answered alive comes meant => cases quiet
  | undecodable alive comes meant =>
      exact absurd (Halt.failed.inj (Except.error.inj quiet)).symm (setup.session.fail_ne_cancelled _)
  | refused alive comes loud =>
      exact absurd (Halt.failed.inj (Except.error.inj quiet)).symm (setup.session.fail_ne_cancelled _)
  | cancelled alive comes => exact .cancelled (by simp)

theorem Conversed.stopped (keeps : world.KeepsToken) {bound : Nat}
    (h : Conversed world setup bound state (.error (.failed .cancelled)) after) :
    Stopped world setup after := by
  cases h with
  | unheard greeting =>
      generalize quiet : Except.error (Halt.failed .cancelled) = result at greeting
      cases greeted_of_eq greeting with
      | admitted answer verdict => cases quiet
      | refused answer verdict =>
          obtain rfl := Halt.failed.inj (Except.error.inj quiet)
          exact absurd verdict setup.judge_ne_cancelled
      | broken answer =>
          obtain rfl := Except.error.inj quiet
          exact (exchanged_of_eq answer).stopped
  | unasked greeting asking => exact (exchanged_of_eq asking).stopped
  | served opening serving =>
      cases serving with
      | ended turns left ending =>
          generalize quiet : Except.error (Halt.failed .cancelled) = result at ending
          cases ending with
          | fired lapsed => exact .fired lapsed
          | terminated alive asked => cases quiet
          | endless alive handling => cases quiet
          | stopped alive handling => exact .fired ((handled_of_eq handling).fired_of_none keeps)
          | broken production answer =>
              obtain rfl := Except.error.inj quiet
              exact (exchanged_of_eq answer).stopped

end Act

theorem Post.endpoint_ne_terminate {replies : List Reply} {post : Post}
    (member : post ∈ Post.conversation replies) : post.endpoint ≠ .terminate := by
  simp only [conversation, List.mem_cons, List.mem_map] at member
  rcases member with rfl | rfl | ⟨reply, _, rfl⟩
  · simp [endpoint]
  · simp [endpoint]
  · cases reply <;> simp [endpoint, Reply.endpoint]

namespace Setup

section Stopping

variable [Url.HostMapping] {σ : Type} {setup : Setup} {world : World σ} {bound : Nat} {state : σ}

def talked (setup : Setup) (world : World σ) (bound : Nat) (state : σ) : Run σ :=
  (Act.converse world setup bound (Run.fresh state)).2

/-- A run that ends as cancelled, posts one notice and nothing behind it, waits for its answer only a
while, and has handed every other message over before the token fired. -/
structure StopsOnce (setup : Setup) (world : World σ) (bound : Nat) (state : σ) : Prop where
  ending : (setup.talked world bound state).closes world = true →
    (setup.run world bound state).1 = .finished (.error .cancelled)
  notice : ∃ earlier time later, (setup.run world bound state).2.journal = earlier ++
      ⟨time, .send (Post.stop.written setup).1 (Post.stop.written setup).2⟩ :: later ∧
    (∀ message ∈ sent (earlier.map Entry.event), message.1 ≠ setup.session.resource .terminate) ∧
    sent (later.map Entry.event) = [] ∧
    (setup.talked world bound state).now ≤ time + Act.stopPatience
  timely : ∀ before time resource body after, (setup.run world bound state).2.journal =
      before ++ ⟨time, .send resource body⟩ :: after →
    (resource, body) ≠ Post.stop.written setup →
      setup.HandedOver world state (setup.talked world bound state) before time (resource, body) ∧
        ∀ t, world.fires (setup.talked world bound state).world = some t → time ≤ t

theorem Dialogue.resource_ne {final : Run σ} {replies : List Reply} {notice : List Post}
    (h : setup.Dialogue world state final replies notice) :
    ∃ own : List Post, sent final.events = (own ++ notice).map (Post.written setup) ∧
      ∀ message ∈ own.map (Post.written setup), message.1 ≠ setup.session.resource .terminate := by
  obtain ⟨own, begins, _, posted⟩ := h.posted
  refine ⟨own, posted, ?_⟩
  intro message member same
  obtain ⟨post, inside, rfl⟩ := List.mem_map.mp member
  exact Post.endpoint_ne_terminate (begins.subset inside) (setup.session.resource_injective same)

theorem stopsOnce_of_fired (keeps : world.KeepsToken) (heeds : world.HeedsToken)
    (lapsed : (setup.talked world bound state).Fired world) :
    setup.StopsOnce world bound state := by
  obtain ⟨result, talked, conversing, conversed, ending, cleaning⟩ :=
    exists_conversed setup world bound state
  have same : setup.talked world bound state = talked := by rw [Setup.talked, conversing]
  rw [same] at lapsed
  have quiet : result = .error (.failed .cancelled) := by
    by_cases loud : result = .error (.failed .cancelled)
    · exact loud
    · rw [Run.Fired, conversed.alive heeds loud] at lapsed
      cases lapsed
  subst quiet
  obtain ⟨cleared, journal, clears⟩ := cleaning
  constructor
  · intro closed
    rw [same] at closed
    rw [ending, closed]
    rfl
  · obtain ⟨replies, dialogue⟩ := conversed.dialogue
    obtain ⟨own, posted, apart⟩ := dialogue.resource_ne
    have stopped : ∃ place, talked = Run.stopped world setup.session place := by
      cases conversed.stopped keeps with
      | fired lapsed => exact ⟨_, rfl⟩
      | cancelled answer => exact ⟨_, rfl⟩
    obtain ⟨place, rfl⟩ := stopped
    obtain ⟨tail, written, kinds, patient⟩ := Run.journal_stopped world setup place
    refine ⟨place.journal, place.now, tail ++ cleared, ?_, ?_, ?_, ?_⟩
    · rw [journal, written, List.append_assoc, List.cons_append]
    · have before : sent place.events = own.map (Post.written setup) := by
        rw [Run.sent_stopped, List.map_append] at posted
        exact List.append_cancel_right posted
      intro message member
      exact apart message (before ▸ member)
    · refine sent_eq_nil ?_
      intro event member
      obtain ⟨entry, inside, rfl⟩ := List.mem_map.mp member
      rcases List.mem_append.mp inside with stopping | clearing
      · rcases kinds entry stopping with ⟨answer, told⟩ | ⟨before, told⟩ <;> rw [told] <;> rfl
      · exact (clears entry clearing).posted?_eq_none
    · rw [same]
      exact patient
  · intro before time resource body after split other
    rw [journal] at split
    rw [same]
    have timely := (Timely.preserves keeps).conversed conversed
    rcases split_append split with ⟨rest, inside⟩ | ⟨more, _, behind⟩
    · have handed := timely before time resource body rest inside other
      refine ⟨handed, ?_⟩
      cases handed with
      | intro hands told written now alive tracks =>
          intro t settled
          rw [← now]
          exact tracks.le_of_fires alive settled
    · have member : ⟨time, .send resource body⟩ ∈ cleared := by
        rw [behind]
        simp
      have silent := (clears _ member).posted?_eq_none
      cases silent

/-- A conversation is stopped for no other reason but its token, or the transport's word for it. -/
theorem not_cancelled_of_alive (keeps : world.KeepsToken)
    (alive : ¬ (setup.talked world bound state).Fired world)
    (answered : .answer (.error .cancelled) ∉ (setup.run world bound state).2.events) :
    (setup.run world bound state).1 ≠ .finished (.error .cancelled) ∧
      ∀ message ∈ sent (setup.run world bound state).2.events,
        message.1 ≠ setup.session.resource .terminate := by
  obtain ⟨result, talked, conversing, conversed, ending, cleaning⟩ :=
    exists_conversed setup world bound state
  have same : setup.talked world bound state = talked := by rw [Setup.talked, conversing]
  rw [same] at alive
  have loud : result ≠ .error (.failed .cancelled) := by
    rintro rfl
    cases conversed.stopped keeps with
    | fired lapsed => exact alive ((Act.stopped_tracks keeps setup _).fired lapsed)
    | cancelled answer =>
        rename_i place
        have stopping : place.journal <+: (place.stopped world setup.session).journal :=
          place.stopped_grows
        exact answered ((Run.events_grow (stopping.trans cleaning.grows)).subset answer)
  constructor
  · intro finished
    exact loud (Ending.of_eq_finished (ending.symm.trans finished)).1
  · obtain ⟨replies, dialogue⟩ := conversed.dialogue
    obtain ⟨own, posted, apart⟩ := dialogue.resource_ne
    rw [Post.notice_eq_nil loud, List.append_nil] at posted
    rw [cleaning.sent_eq fun _ => Act.Clears.posted?_eq_none, posted]
    exact apart

/-- If the token has fired when the conversation is over, no message but one notice is posted from the
firing on, and the run ends as cancelled. If it has not, and no message was answered so, no notice is
posted and the run does not end as cancelled. -/
theorem cancellation_posts_one_notice (setup : Setup) (world : World σ) (keeps : world.KeepsToken)
    (heeds : world.HeedsToken) (bound : Nat) (state : σ) :
    ((setup.talked world bound state).Fired world → setup.StopsOnce world bound state) ∧
    (¬ (setup.talked world bound state).Fired world →
      .answer (.error .cancelled) ∉ (setup.run world bound state).2.events →
        (setup.run world bound state).1 ≠ .finished (.error .cancelled) ∧
          ∀ message ∈ sent (setup.run world bound state).2.events,
            message.1 ≠ setup.session.resource .terminate) :=
  ⟨stopsOnce_of_fired keeps heeds, not_cancelled_of_alive keeps⟩

end Stopping

/-- A run whose token fires while its request for a command waits. -/
theorem waiting_run_stops_once :
    (plain.talked (.scripted (some 5)) 0 [World.accepting]).Fired (.scripted (some 5)) ∧
      plain.StopsOnce (.scripted (some 5)) 0 [World.accepting] := by
  have lapsed : (plain.talked (.scripted (some 5)) 0 [World.accepting]).Fired (.scripted (some 5)) := by
    unfold Run.Fired
    decide +kernel
  exact ⟨lapsed, (cancellation_posts_one_notice plain (.scripted (some 5)) (World.scripted_keeps _)
    (World.scripted_heeds _) 0 [World.accepting]).1 lapsed⟩

end Setup

end CardGateway
