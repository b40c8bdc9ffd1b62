import CardGateway.Proofs.Turns

/-!
# Whole conversations

A conversation breaks off in the greeting, or before the first command has come, or goes on in turns.
A run that is cut at a bound shows where the conversation stands when a command is taken up; what is
cleaned up behind a conversation posts nothing and does not call the card.
-/

namespace CardGateway

namespace Run

variable {σ : Type}

def informed (notices : List Notice) (run : Run σ) : Run σ :=
  { run with notices := run.notices ++ notices }

@[simp] theorem events_informed (notices : List Notice) (run : Run σ) :
    (run.informed notices).events = run.events := rfl

/-- What is written last behind a run: that it is over, unless it is already. -/
def lapse (run : Run σ) : List Event :=
  if run.phase = .terminated then [] else [.enter run.phase .terminated]

theorem lapse_eq (run : Run σ) :
    run.lapse = [] ∨ ∃ before, run.lapse = [.enter before .terminated] := by
  unfold lapse
  split
  · exact .inl rfl
  · exact .inr ⟨run.phase, rfl⟩

def closes (world : World σ) (run : Run σ) : Bool :=
  (world.close run.now (world.clearPins run.now run.world)).ends.isSome

end Run

namespace Setup

variable [Url.HostMapping] {setup : Setup} {response : HelloResponse}

theorem authenticate_ne_cancelled : setup.authenticate response ≠ .error .cancelled := by
  unfold authenticate
  cases setup.config.validateChallenge with
  | false => simp
  | true =>
      cases setup.trustStore with
      | error fault => simp
      | ok store =>
          by_cases accepted : store.accepts setup.challenge (response.signature.getD []) = true
          · simp [accepted]
          · simp [accepted, setup.session.fail_ne_cancelled]

theorem unlessOutdated_ne_cancelled {mandatory : Bool} :
    setup.unlessOutdated mandatory ≠ .error .cancelled := by
  cases mandatory with
  | false => simp [unlessOutdated]
  | true => simp [unlessOutdated, setup.session.fail_ne_cancelled]

theorem weighUpdate_ne_cancelled : (setup.weighUpdate response).2 ≠ .error .cancelled := by
  unfold weighUpdate
  cases offered? response with
  | none => exact unlessOutdated_ne_cancelled
  | some address =>
      cases checked : setup.config.updatePolicy.check address with
      | ok url => simpa [checked] using unlessOutdated_ne_cancelled
      | error fault => simp [checked, setup.session.fail_ne_cancelled]

theorem judge_ne_cancelled : (setup.judge response).2 ≠ .error .cancelled := by
  unfold judge
  cases response.result.isHelloAccepted with
  | false => simp [setup.session.fail_ne_cancelled]
  | true =>
      have authenticated : setup.authenticate response ≠ .error .cancelled :=
        authenticate_ne_cancelled
      cases signed : setup.authenticate response with
      | error failure =>
          rw [signed] at authenticated
          simpa [signed] using authenticated
      | ok done => simpa [signed] using weighUpdate_ne_cancelled

end Setup

namespace Act

variable {σ : Type} {world : World σ} {setup : Setup}

theorem events_hello (world : World σ) (setup : Setup) (state : σ)
    (answer : Except TransportFault Bytes) (span : Millis) (last : σ) :
    ((((Run.fresh state).entered .helloSent).posted world true (setup.session.resource .hello)
      (HelloRequest.codec.encode setup.hello)).returned (.answer answer) span last).events =
        [.enter .initial .helloSent, .send (Post.hello.written setup).1 (Post.hello.written setup).2,
          .answer answer] := by
  simp only [Run.events_returned, Run.events_posted, Run.events_entered, Run.events_fresh,
    Post.written_hello, List.nil_append, List.cons_append]
  rfl

section Greeting

variable [Url.HostMapping] {run after : Run σ}

inductive Greeted (world : World σ) (setup : Setup) (run : Run σ) :
    Except Halt Unit → Run σ → Prop where
  | admitted {response : HelloResponse} {mid : Run σ}
      (answer : exchange world setup.session .hello (HelloRequest.codec.encode setup.hello)
        HelloResponse.codec (run.entered .helloSent) = (.ok response, mid))
      (verdict : (setup.judge response).2 = .ok ()) :
      Greeted world setup run (.ok ()) (mid.informed (setup.judge response).1)
  | refused {response : HelloResponse} {mid : Run σ}
      (answer : exchange world setup.session .hello (HelloRequest.codec.encode setup.hello)
        HelloResponse.codec (run.entered .helloSent) = (.ok response, mid))
      {failure : Failure} (verdict : (setup.judge response).2 = .error failure) :
      Greeted world setup run (.error (.failed failure)) (mid.informed (setup.judge response).1)
  | broken {reason : Halt} {mid : Run σ}
      (answer : exchange world setup.session .hello (HelloRequest.codec.encode setup.hello)
        HelloResponse.codec (run.entered .helloSent) = (.error reason, mid)) :
      Greeted world setup run (.error reason) mid

theorem greeted (world : World σ) (setup : Setup) (run : Run σ) :
    Greeted world setup run (hello world setup run).1 (hello world setup run).2 := by
  rcases answer : exchange world setup.session .hello (HelloRequest.codec.encode setup.hello)
    HelloResponse.codec (run.entered .helloSent) with ⟨reason | response, mid⟩
  · simp only [hello, bind_apply, enter_apply, answer]
    exact .broken answer
  · simp only [hello, bind_apply, enter_apply, answer, update]
    cases verdict : (setup.judge response).2 with
    | ok done => exact .admitted answer verdict
    | error failure => exact .refused answer verdict

theorem greeted_of_eq {result : Except Halt Unit} (h : hello world setup run = (result, after)) :
    Greeted world setup run result after := by
  have step := greeted world setup run
  rwa [h] at step

theorem Greeted.ne_cut {reason : Halt} (h : Greeted world setup run (.error reason) after) :
    reason ≠ .cut := by
  cases h with
  | refused answer verdict => simp
  | broken answer => exact (exchanged_of_eq answer).ne_cut

/-- A greeting posts the hello at most, and the notice if the run is stopped. -/
theorem Greeted.sent_eq {result : Except Halt Unit} (h : Greeted world setup run result after) :
    ∃ own, own <+: [Post.hello] ∧ sent after.events =
      sent run.events ++ (own ++ Post.notice result).map (Post.written setup) := by
  have exchanged {result : Except Halt HelloResponse} {mid : Run σ}
      (answer : exchange world setup.session .hello (HelloRequest.codec.encode setup.hello)
        HelloResponse.codec (run.entered .helloSent) = (result, mid)) :
      ∃ own, own <+: [Post.hello] ∧ (∀ response, result = .ok response → own = [.hello]) ∧
        sent mid.events = sent run.events ++ (own ++ Post.notice result).map (Post.written setup) := by
    obtain ⟨own, single, whole, posted⟩ := (exchanged_post .hello answer).sent_eq
    rw [Run.sent_entered] at posted
    exact ⟨own, single, whole, posted⟩
  cases h with
  | admitted answer verdict =>
      obtain ⟨own, single, whole, posted⟩ := exchanged answer
      exact ⟨own, single, posted⟩
  | refused answer verdict =>
      rename_i response mid failure
      obtain ⟨own, single, whole, posted⟩ := exchanged answer
      have silent : (Halt.failed failure).notice = [] := by
        refine Halt.notice_eq_nil ?_
        rintro ⟨rfl⟩
        exact setup.judge_ne_cancelled verdict
      refine ⟨own, single, ?_⟩
      rw [Post.notice, silent]
      exact posted
  | broken answer =>
      obtain ⟨own, single, whole, posted⟩ := exchanged answer
      exact ⟨own, single, posted⟩

end Greeting

section Conversing

variable [Url.HostMapping]

inductive Opened (world : World σ) (setup : Setup) (state : σ) : Command → Run σ → Prop where
  | intro {mid : Run σ} (greeting : hello world setup (Run.fresh state) = (.ok (), mid))
      {first : Command} {opened : Run σ}
      (asking : exchange world setup.session .getCommand
        (GetCommand.codec.encode ⟨setup.session.id⟩) Command.codec (mid.entered .awaitingCommand) =
          (.ok first, opened)) :
      Opened world setup state first opened

inductive Conversed (world : World σ) (setup : Setup) (bound : Nat) (state : σ) :
    Except Halt Terminate → Run σ → Prop where
  | unheard {reason : Halt} {after : Run σ}
      (greeting : hello world setup (Run.fresh state) = (.error reason, after)) :
      Conversed world setup bound state (.error reason) after
  | unasked {mid : Run σ} (greeting : hello world setup (Run.fresh state) = (.ok (), mid))
      {reason : Halt} {after : Run σ}
      (asking : exchange world setup.session .getCommand
        (GetCommand.codec.encode ⟨setup.session.id⟩) Command.codec (mid.entered .awaitingCommand) =
          (.error reason, after)) :
      Conversed world setup bound state (.error reason) after
  | served {first : Command} {opened : Run σ} (opening : Opened world setup state first opened)
      {result : Except Halt Terminate} {after : Run σ}
      (serving : Served world setup bound first opened result after) :
      Conversed world setup bound state result after

theorem converse_opened {state : σ} {first : Command} {opened : Run σ}
    (opening : Opened world setup state first opened) (bound : Nat) :
    converse world setup bound (Run.fresh state) = serve world setup bound first opened := by
  cases opening with
  | intro greeting asking =>
      rw [converse, bind_ok greeting, bind_ok (enter_apply _ _), bind_ok asking]

theorem conversed (world : World σ) (setup : Setup) (bound : Nat) (state : σ) :
    Conversed world setup bound state (converse world setup bound (Run.fresh state)).1
      (converse world setup bound (Run.fresh state)).2 := by
  rcases greeting : hello world setup (Run.fresh state) with ⟨reason | _, mid⟩
  · rw [converse, bind_error greeting]
    exact .unheard greeting
  · rcases asking : exchange world setup.session .getCommand
      (GetCommand.codec.encode ⟨setup.session.id⟩) Command.codec (mid.entered .awaitingCommand) with
      ⟨reason | first, opened⟩
    · rw [converse, bind_ok greeting, bind_ok (enter_apply _ _), bind_error asking]
      exact .unasked greeting asking
    · have opening := Opened.intro greeting asking
      rw [converse_opened opening]
      exact .served opening (served world setup bound first opened)

/-- An answer to the first hello comes right behind it. -/
theorem hello_answered {state : σ} {response : HelloResponse} {mid : Run σ}
    (answer : exchange world setup.session .hello (HelloRequest.codec.encode setup.hello)
      HelloResponse.codec ((Run.fresh state).entered .helloSent) = (.ok response, mid)) :
    ∃ bytes, mid.events = [.enter .initial .helloSent,
        .send (Post.hello.written setup).1 (Post.hello.written setup).2, .answer (.ok bytes)] ∧
      HelloResponse.codec.decode bytes = .ok response := by
  cases exchanged_of_eq answer with
  | @answered alive span bytes last value comes meant =>
      exact ⟨bytes, events_hello world setup state (.ok bytes) span last, meant⟩

/-- A greeting that goes well is an exchange of the hello, with an answer that is good. -/
theorem Greeted.events_eq {state : σ} {mid : Run σ}
    (h : Greeted world setup (Run.fresh state) (.ok ()) mid) :
    ∃ answer response, mid.events = [.enter .initial .helloSent,
        .send (Post.hello.written setup).1 (Post.hello.written setup).2, .answer (.ok answer)] ∧
      HelloResponse.codec.decode answer = .ok response ∧ (setup.judge response).2 = .ok () := by
  generalize hailed : Except.ok () = result at h
  cases h with
  | refused answer verdict => cases hailed
  | broken answer => cases hailed
  | admitted answer verdict =>
      obtain ⟨bytes, events, meant⟩ := hello_answered answer
      exact ⟨bytes, _, events, meant, verdict⟩

namespace Opened

variable {state : σ} {first : Command} {opened : Run σ}

theorem received (h : Opened world setup state first opened) : opened.Received first := by
  cases h with
  | intro greeting asking => exact (exchanged_of_eq asking).received

theorem sent_eq (h : Opened world setup state first opened) :
    sent opened.events = [Post.hello.written setup, Post.getCommand.written setup] := by
  cases h with
  | intro greeting asking =>
      obtain ⟨answer, response, greeted, _⟩ := (greeted_of_eq greeting).events_eq
      obtain ⟨own, _, whole, posted⟩ := (exchanged_post .getCommand asking).sent_eq
      rw [posted, whole first rfl, Run.sent_entered, greeted]
      simp [Post.notice]

theorem dispatches_eq (h : Opened world setup state first opened) :
    dispatches opened.events = 0 := by
  cases h with
  | intro greeting asking =>
      obtain ⟨answer, response, greeted, _⟩ := (greeted_of_eq greeting).events_eq
      have asked := (exchanged_post .getCommand asking).wrote
      rw [asked.dispatches_eq fun _ => Exchanges.isDispatch_eq_false, Run.events_entered, greeted]
      rfl

end Opened

end Conversing

inductive Clears : Event → Prop where
  | clearPins : Clears .clearPins
  | close : Clears .close
  | disconnect (slot : SlotHandle) : Clears (.disconnect slot)
  | present (notice : Notice) : Clears (.present notice)
  | terminated (before : Phase) : Clears (.enter before .terminated)

namespace Clears

variable {event : Event}

theorem posted?_eq_none (h : Clears event) : event.posted? = none := by
  cases h <;> rfl

theorem isDispatch_eq_false (h : Clears event) : event.isDispatch = false := by
  cases h <;> rfl

theorem isCardCall_eq_false (h : Clears event) : event.isCardCall = false := by
  cases h <;> rfl

end Clears

theorem disconnectAll_apply (world : World σ) (slots : List SlotHandle) (run : Run σ) :
    ∃ after, disconnectAll world slots run = (.ok (), after) ∧
      Run.Writes (slots.map .disconnect) run after ∧ after.notices = run.notices ∧
      after.phase = run.phase := by
  induction slots generalizing run with
  | nil => exact ⟨run, rfl, .refl run, rfl, rfl⟩
  | cons slot rest ih =>
      obtain ⟨after, done, wrote, kept⟩ := ih { run.noted (.disconnect slot) with
        world := world.disconnect run.now slot run.world }
      have noted := (Run.Writes.noted (.disconnect slot) run).trans (.of_journal_eq rfl)
      exact ⟨after, done, noted.trans wrote, kept⟩

theorem presentAll_apply (world : World σ) (notices : List Notice) (run : Run σ) :
    ∃ after, presentAll world notices run = (.ok (), after) ∧
      Run.Writes (notices.map .present) run after ∧ after.phase = run.phase := by
  induction notices generalizing run with
  | nil => exact ⟨run, rfl, .refl run, rfl⟩
  | cons notice rest ih =>
      obtain ⟨after, done, wrote, kept⟩ := ih { run.noted (.present notice) with
        world := world.present run.now notice run.world }
      have noted := (Run.Writes.noted (.present notice) run).trans (.of_journal_eq rfl)
      exact ⟨after, done, noted.trans wrote, kept⟩

/-- How cleaning up may end: when the connection is closed the slots are released, and the user is
told what there is. -/
inductive Cleaned (world : World σ) (run : Run σ) : Except Halt Unit → Run σ → Prop where
  | endless {after : Run σ} (never : run.closes world = false)
      (wrote : Run.Writes [.clearPins, .close] run after) :
      Cleaned world run (.error .endless) after
  | done {after : Run σ} (closed : run.closes world = true)
      (wrote : Run.Writes ([.clearPins, .close] ++ (run.connected.map .disconnect ++
        (run.notices.map .present ++ run.lapse))) run after)
      (ended : after.phase = .terminated) :
      Cleaned world run (.ok ()) after

theorem cleaned (world : World σ) (run : Run σ) :
    Cleaned world run (cleanUp world run).1 (cleanUp world run).2 := by
  obtain ⟨closing, closingEq⟩ : ∃ closing : Run σ, closing = { (run.noted .clearPins).noted .close with
      world := (world.close run.now (world.clearPins run.now run.world)).begun } := ⟨_, rfl⟩
  have cleared : Run.Writes [.clearPins, .close] run closing := by
    subst closingEq
    have noted := (Run.Writes.noted .clearPins run).trans (.noted .close (run.noted .clearPins))
    exact noted.trans (.of_journal_eq rfl)
  have begun : cleanUp world run =
      (finish (world.close run.now (world.clearPins run.now run.world)) >>= fun _ => do
        disconnectAll world (← view Run.connected)
        presentAll world (← view Run.notices)
        if (← view Run.phase) ≠ .terminated then enter .terminated) closing := by
    subst closingEq
    rw [cleanUp, bind_ok (note_apply _ _), bind_ok (touch_apply _ _), bind_ok (note_apply _ _),
      bind_ok (start_apply _ _)]
    rfl
  have known : closing.connected = run.connected ∧ closing.notices = run.notices ∧
      closing.phase = run.phase := by
    subst closingEq
    exact ⟨rfl, rfl, rfl⟩
  rcases ends : (world.close run.now (world.clearPins run.now run.world)).ends with
    _ | ⟨span, told, closed⟩
  · rw [begun, bind_error (finish_endless ends)]
    exact .endless (by simp [Run.closes, ends]) cleared
  · have waited : Run.Writes [.clearPins, .close] run (closing.passed span closed) :=
      cleared.trans (.of_journal_eq rfl)
    obtain ⟨released, releasing, first, kept, still⟩ :=
      disconnectAll_apply world (closing.passed span closed).connected (closing.passed span closed)
    obtain ⟨told, telling, second, yet⟩ := presentAll_apply world released.notices released
    rw [kept] at second
    have slots : (closing.passed span closed).connected = run.connected := known.1
    have notices : (closing.passed span closed).notices = run.notices := known.2.1
    have phase : told.phase = run.phase := yet.trans (still.trans known.2.2)
    rw [begun, bind_ok (finish_ended ends), bind_ok (view_apply _ _), bind_ok releasing,
      bind_ok (view_apply _ _), bind_ok telling, bind_ok (view_apply _ _)]
    rw [slots] at first
    rw [notices] at second
    have lapsed : run.closes world = true := by simp [Run.closes, ends]
    by_cases last : told.phase = .terminated
    · rw [if_neg (not_not_intro last)]
      have nothing : run.lapse = [] := by simp [Run.lapse, ← phase, last]
      refine .done lapsed (waited.trans (first.trans (second.trans ?_))) last
      rw [nothing]
      exact .refl told
    · rw [if_pos last]
      have ended : run.lapse = [.enter told.phase .terminated] := by
        simp [Run.lapse, ← phase, last]
      refine .done lapsed (waited.trans (first.trans (second.trans ?_))) rfl
      rw [ended]
      exact .entered .terminated told

theorem Cleaned.wrote {run after : Run σ} {result : Except Halt Unit}
    (h : Cleaned world run result after) : Run.Wrote Clears run after := by
  cases h with
  | endless never wrote =>
      refine wrote.wrote ?_
      simp only [List.mem_cons, List.not_mem_nil, or_false, forall_eq_or_imp, forall_eq]
      exact ⟨.clearPins, .close⟩
  | done closed wrote ended =>
      refine wrote.wrote ?_
      simp only [List.mem_append, List.mem_cons, List.not_mem_nil, or_false, List.mem_map]
      rintro event ((rfl | rfl) | ⟨slot, -, rfl⟩ | ⟨notice, -, rfl⟩ | final)
      · exact .clearPins
      · exact .close
      · exact .disconnect slot
      · exact .present notice
      · rcases run.lapse_eq with nothing | ⟨before, last⟩
        · rw [nothing] at final
          cases final
        · rw [last] at final
          obtain rfl := List.mem_singleton.mp final
          exact .terminated before

end Act

/-- How a run ends whose conversation ended so, by whether its connection is ever closed. -/
def Ending.of (closed : Bool) : Except Halt Terminate → Ending
  | .ok message => if closed then .finished (.ok message) else .endless
  | .error (.failed failure) => if closed then .finished (.error failure) else .endless
  | .error .endless => .endless
  | .error .cut => .cut

/-- A run that ends had a conversation that ended so, and its connection is closed. -/
theorem Ending.of_eq_finished {closed : Bool} {result : Except Halt Terminate}
    {outcome : Except Failure Terminate} (h : of closed result = .finished outcome) :
    result = outcome.mapError .failed ∧ closed = true := by
  cases result with
  | ok value =>
      cases closed with
      | true =>
          cases h
          exact ⟨rfl, rfl⟩
      | false => cases h
  | error reason =>
      cases reason with
      | failed failure =>
          cases closed with
          | true =>
              cases h
              exact ⟨rfl, rfl⟩
          | false => cases h
      | endless => cases h
      | cut => cases h

namespace Setup

variable [Url.HostMapping] {σ : Type} {setup : Setup} {world : World σ} {bound : Nat} {state : σ}

/-- How a run may be left behind its conversation: cleaned up, or never closed, or not ended at all. -/
inductive Leaves (world : World σ) (mid : Run σ) : Except Halt Terminate → Ending → Run σ → Prop where
  | cleaned {outcome : Except Failure Terminate} {after : Run σ}
      (step : Act.Cleaned world mid (.ok ()) after) :
      Leaves world mid (outcome.mapError .failed) (.finished outcome) after
  | unclosed {outcome : Except Failure Terminate} {reason : Halt} {after : Run σ}
      (step : Act.Cleaned world mid (.error reason) after) :
      Leaves world mid (outcome.mapError .failed) .endless after
  | endless : Leaves world mid (.error .endless) .endless mid
  | cut : Leaves world mid (.error .cut) .cut mid

theorem leaves {result : Except Halt Terminate} {mid : Run σ}
    (h : Act.converse world setup bound (Run.fresh state) = (result, mid)) :
    Leaves world mid result (setup.run world bound state).1 (setup.run world bound state).2 := by
  have step := Act.cleaned world mid
  have closing (outcome : Except Failure Terminate) (same : result = outcome.mapError .failed)
      (unclosed : ∀ {reason after}, Act.cleanUp world mid = (.error reason, after) →
        setup.run world bound state = (.endless, after))
      (cleaned : ∀ {after}, Act.cleanUp world mid = (.ok (), after) →
        setup.run world bound state = (.finished outcome, after)) :
      Leaves world mid result (setup.run world bound state).1 (setup.run world bound state).2 := by
    rcases cleaning : Act.cleanUp world mid with ⟨reason | done, after⟩
    · rw [cleaning] at step
      rw [unclosed cleaning, same]
      exact .unclosed step
    · rw [cleaning] at step
      rw [cleaned cleaning, same]
      exact .cleaned step
  cases result with
  | ok message =>
      refine closing (.ok message) rfl (fun never => ?_) (fun closed => ?_)
      · simp only [run, h, never]
      · simp only [run, h, closed]
  | error reason =>
      cases reason with
      | failed failure =>
          refine closing (.error failure) rfl (fun never => ?_) (fun closed => ?_)
          · simp only [run, h, never]
          · simp only [run, h, closed]
      | endless =>
          rw [run, h]
          exact .endless
      | cut =>
          rw [run, h]
          exact .cut

/-- Behind its conversation a run is only cleaned up. -/
theorem run_of_converse {result : Except Halt Terminate} {mid : Run σ}
    (h : Act.converse world setup bound (Run.fresh state) = (result, mid)) :
    (setup.run world bound state).1 = .of (mid.closes world) result ∧
      Run.Wrote Act.Clears mid (setup.run world bound state).2 := by
  have left := leaves h
  generalize (setup.run world bound state).1 = ending, (setup.run world bound state).2 = after at left ⊢
  cases left with
  | @cleaned outcome after step =>
      refine ⟨?_, step.wrote⟩
      cases step with
      | done closed wrote ended =>
          rw [closed]
          cases outcome <;> rfl
  | @unclosed outcome reason after step =>
      refine ⟨?_, step.wrote⟩
      cases step with
      | endless never wrote =>
          rw [never]
          cases outcome <;> rfl
  | endless => exact ⟨rfl, .refl mid⟩
  | cut => exact ⟨rfl, .refl mid⟩

/-- A run is a conversation that ends somehow, and is cleaned up behind it. -/
theorem exists_conversed (setup : Setup) (world : World σ) (bound : Nat) (state : σ) :
    ∃ result mid, Act.converse world setup bound (Run.fresh state) = (result, mid) ∧
      Act.Conversed world setup bound state result mid ∧
      (setup.run world bound state).1 = .of (mid.closes world) result ∧
      Run.Wrote Act.Clears mid (setup.run world bound state).2 := by
  have conversed := Act.conversed world setup bound state
  rcases conversing : Act.converse world setup bound (Run.fresh state) with ⟨result, mid⟩
  rw [conversing] at conversed
  exact ⟨result, mid, rfl, conversed, run_of_converse conversing⟩

/-- Where so many commands were answered, the run would stand so if it were cut: the next command has
just come. -/
def TakesUp (setup : Setup) (world : World σ) (state : σ) (count : Nat) (command : Command)
    (arrival : Run σ) : Prop :=
  Act.converse world setup count (Run.fresh state) = (.error .cut, arrival) ∧
    arrival.Received command

/-- A command that is taken up was led up to by an opening and a row of turns. -/
theorem takesUp_iff {count : Nat} {command : Command} {arrival : Run σ} :
    setup.TakesUp world state count command arrival ↔
      ∃ first opened replies, Act.Opened world setup state first opened ∧
        Act.Turns world setup first opened replies command arrival ∧ replies.length = count := by
  constructor
  · rintro ⟨cutting, received⟩
    have step := Act.conversed world setup count state
    rw [cutting] at step
    cases step with
    | unheard greeting => exact absurd rfl (Act.greeted_of_eq greeting).ne_cut
    | unasked greeting asking => exact absurd rfl (Act.exchanged_of_eq asking).ne_cut
    | served opening serving =>
        cases serving with
        | ended turns left ending => exact absurd rfl ending.ne_cut
        | cut turns spent =>
            obtain rfl := (turns.received opening.received).unique received
            exact ⟨_, _, _, opening, turns, spent⟩
  · rintro ⟨first, opened, replies, opening, turns, rfl⟩
    refine ⟨?_, turns.received opening.received⟩
    rw [Act.converse_opened opening]
    exact turns.serve_eq 0

theorem TakesUp.unique {count : Nat} {command other : Command} {arrival again : Run σ}
    (h : setup.TakesUp world state count command arrival)
    (also : setup.TakesUp world state count other again) : other = command ∧ again = arrival := by
  obtain rfl : again = arrival := (Prod.mk.inj (also.1.symm.trans h.1)).2
  exact ⟨also.2.unique h.2, rfl⟩

/-- Where the run has come to when it is about to post a message. -/
inductive HandsOver (setup : Setup) (world : World σ) (state : σ) : Post → Run σ → Prop where
  | hello : HandsOver setup world state .hello ((Run.fresh state).entered .helloSent)
  | getCommand {mid : Run σ} (greeting : Act.hello world setup (Run.fresh state) = (.ok (), mid)) :
      HandsOver setup world state .getCommand (mid.entered .awaitingCommand)
  | reply {count : Nat} {command : Command} {arrival mid : Run σ} {reply : Reply}
      (takesUp : setup.TakesUp world state count command arrival)
      (produced : Act.Produced world setup command arrival reply mid) :
      HandsOver setup world state (.reply reply) (mid.entered .awaitingCommand)

/-- What holds of a run that has not begun, and is kept by each step of a conversation. -/
structure Preserves (setup : Setup) (world : World σ) (state : σ) (I : Run σ → Prop) : Prop where
  fresh : I (Run.fresh state)
  entered : ∀ {run : Run σ} (phase : Phase), I run → I (run.entered phase)
  informed : ∀ {run : Run σ} (notices : List Notice), I run → I (run.informed notices)
  stopped : ∀ {run : Run σ}, I run → I (run.stopped world setup.session)
  exchanged : ∀ {α : Type} {codec : Json.Codec α} {post : Post} {run after : Run σ}
    {result : Except Halt α}, setup.HandsOver world state post run → I run →
      Act.Exchanged world setup.session post.endpoint (post.body setup) codec run result after →
        I after
  handled : ∀ {count : Nat} {command : Command} {run mid : Run σ}
    {result : Except Halt (Terminate ⊕ Option Reply)},
      setup.TakesUp world state count command run → I (run.entered .dispatching) →
        Act.handle world setup command (run.entered .dispatching) = (result, mid) → I mid

namespace Preserves

variable {I : Run σ → Prop} {after : Run σ}

theorem greeted (h : setup.Preserves world state I) {result : Except Halt Unit}
    (greeting : Act.Greeted world setup (Run.fresh state) result after) : I after := by
  have exchanged {result : Except Halt HelloResponse} {mid : Run σ}
      (answer : Act.exchange world setup.session .hello (HelloRequest.codec.encode setup.hello)
        HelloResponse.codec ((Run.fresh state).entered .helloSent) = (result, mid)) : I mid :=
    h.exchanged .hello (h.entered .helloSent h.fresh) (Act.exchanged_post .hello answer)
  cases greeting with
  | admitted answer verdict => exact h.informed _ (exchanged answer)
  | refused answer verdict => exact h.informed _ (exchanged answer)
  | broken answer => exact exchanged answer

theorem asked (h : setup.Preserves world state I) {mid : Run σ}
    (greeting : Act.hello world setup (Run.fresh state) = (.ok (), mid))
    {result : Except Halt Command}
    (asking : Act.exchange world setup.session .getCommand
      (GetCommand.codec.encode ⟨setup.session.id⟩) Command.codec (mid.entered .awaitingCommand) =
        (result, after)) : I after :=
  h.exchanged (.getCommand greeting)
    (h.entered .awaitingCommand (h.greeted (Act.greeted_of_eq greeting)))
    (Act.exchanged_post .getCommand asking)

theorem answered (h : setup.Preserves world state I) {count : Nat} {command : Command}
    {run mid : Run σ} {reply : Reply} (holds : I run)
    (takesUp : setup.TakesUp world state count command run)
    (produced : Act.Produced world setup command run reply mid) {result : Except Halt Command}
    (answer : Act.exchange world setup.session reply.endpoint reply.encode Command.codec
      (mid.entered .awaitingCommand) = (result, after)) : I after :=
  h.exchanged (.reply takesUp produced)
    (h.entered .awaitingCommand
      (h.handled takesUp (h.entered .dispatching holds) produced.handling))
    (Act.exchanged_post (.reply reply) answer)

theorem turns (h : setup.Preserves world state I) {first last : Command} {opened : Run σ}
    {replies : List Reply} (opening : Act.Opened world setup state first opened)
    (turns : Act.Turns world setup first opened replies last after) : I after := by
  induction turns with
  | nil =>
      cases opening with
      | intro greeting asking => exact h.asked greeting asking
  | snoc turns turn ih =>
      have takesUp := takesUp_iff.mpr ⟨_, _, _, opening, turns, rfl⟩
      cases turn with
      | intro produced answer => exact h.answered ih takesUp produced answer

theorem ends (h : setup.Preserves world state I) {count : Nat} {command : Command} {run : Run σ}
    (holds : I run) (takesUp : setup.TakesUp world state count command run)
    {result : Except Halt Terminate} (ending : Act.Ends world setup command run result after) :
    I after := by
  have taken := h.entered .dispatching holds
  cases ending with
  | fired lapsed => exact h.stopped holds
  | terminated alive asked => exact h.entered .terminated taken
  | endless alive handling => exact h.handled takesUp taken handling
  | stopped alive handling => exact h.stopped (h.handled takesUp taken handling)
  | broken produced answer => exact h.answered holds takesUp produced answer

/-- What each step keeps holds when the conversation is over. -/
theorem conversed (h : setup.Preserves world state I) {result : Except Halt Terminate}
    (conversing : Act.Conversed world setup bound state result after) : I after := by
  cases conversing with
  | unheard greeting => exact h.greeted (Act.greeted_of_eq greeting)
  | unasked greeting asking => exact h.asked greeting asking
  | served opening serving =>
      cases serving with
      | cut turns spent => exact h.turns opening turns
      | ended turns left ending =>
          exact h.ends (h.turns opening turns) (takesUp_iff.mpr ⟨_, _, _, opening, turns, rfl⟩)
            ending

end Preserves

end Setup

end CardGateway
