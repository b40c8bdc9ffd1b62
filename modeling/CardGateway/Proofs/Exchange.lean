import CardGateway.Proofs.Transcript

/-!
# How exchanges end

An exchange is given up because the token has fired, or waits forever, or is answered, and the answer
is a message, cannot be read, or is a fault of the transport. `Exchanged` lists these endings with the
run that each leaves behind. A run that is stopped posts one more message and ends as cancelled.
-/

namespace CardGateway

open CardGateway.Json

namespace Session

theorem fail_ne_cancelled [Url.HostMapping] (session : Session) (cause : Cause) :
    session.fail cause ≠ .cancelled := by
  unfold fail redirect
  cases session.errorAddress with
  | none => simp
  | some address =>
      dsimp only
      cases Url.parse address with
      | error fault => simp
      | ok url =>
          dsimp only
          by_cases secure : url.scheme ≠ "https"
          · simp [secure]
          · simp [secure]

theorem connectionFailure_eq_fail [Url.HostMapping] (session : Session) {fault : TransportFault}
    (loud : fault ≠ .cancelled) :
    session.connectionFailure fault = session.fail (.connection fault) := by
  cases fault with
  | cancelled => exact absurd rfl loud
  | connect reason => rfl
  | broken => rfl
  | framing => rfl
  | request => rfl
  | status code => rfl

/-- Resources of different endpoints differ. -/
theorem resource_injective (session : Session) {first second : Endpoint}
    (same : session.resource first = session.resource second) : first = second := by
  have segments : first.segment = second.segment := by
    have texts := congrArg String.toList same
    unfold resource at texts
    cases query : session.server.query with
    | none =>
        simp only [query, String.toList_append, List.append_assoc, List.append_cancel_left_eq] at texts
        exact String.toList_inj.mp texts
    | some text =>
        simp only [query, String.toList_append, List.append_assoc, List.append_cancel_left_eq] at texts
        exact String.toList_inj.mp (List.append_cancel_right texts)
  cases first <;> cases second <;> simp [Endpoint.segment] at segments ⊢

end Session

namespace Run

variable {σ : Type}

def posted (world : World σ) (guarded : Bool) (resource : String) (body : Bytes) (run : Run σ) :
    Run σ :=
  { run.noted (.send resource body) with
    world := (world.send run.now guarded resource body run.world).begun }

def stopped (world : World σ) (session : Session) (run : Run σ) : Run σ :=
  (Act.notify world (session.resource .terminate)
    (Terminate.codec.encode ⟨some session.id, .stopped⟩) run).2.entered .terminated

@[simp] theorem events_posted (world : World σ) (guarded : Bool) (resource : String) (body : Bytes)
    (run : Run σ) :
    (run.posted world guarded resource body).events = run.events ++ [.send resource body] := by
  simp [posted, events, noted]

end Run

namespace Act

variable {σ α : Type}

/-- How the last message of a stopped run may fare: it is answered in time, or given up. -/
inductive Notified (world : World σ) (resource : String) (body : Bytes) (run : Run σ) :
    Run σ → Prop where
  | answered {span : Millis} {answer : Except TransportFault Bytes} {after : σ}
      (comes : (world.send run.now false resource body run.world).ends = some (span, answer, after))
      (timely : span ≤ stopPatience) :
      Notified world resource body run
        ((run.posted world false resource body).returned (.answer answer) span after)
  | unanswered :
      Notified world resource body run
        ((run.posted world false resource body).passed stopPatience
          ((world.send run.now false resource body run.world).dropped stopPatience))

theorem notified (world : World σ) (resource : String) (body : Bytes) (run : Run σ) :
    ∃ after, notify world resource body run = (.ok (), after) ∧
      Notified world resource body run after := by
  cases ends : (world.send run.now false resource body run.world).ends with
  | none =>
      refine ⟨_, ?_, .unanswered⟩
      simp only [notify, bind_apply, note_apply, start, Run.noted_now, Run.noted_world, ends]
      rfl
  | some call =>
      obtain ⟨span, answer, after⟩ := call
      by_cases timely : span ≤ stopPatience
      · refine ⟨_, ?_, .answered ends timely⟩
        simp only [notify, bind_apply, note_apply, start, Run.noted_now, Run.noted_world, ends,
          timely, if_true]
        rfl
      · refine ⟨_, ?_, .unanswered⟩
        simp only [notify, bind_apply, note_apply, start, Run.noted_now, Run.noted_world, ends,
          timely, if_false]
        rfl

theorem stop_apply (world : World σ) (session : Session) (run : Run σ) :
    (stop world session : Act σ α) run = (.error (.failed .cancelled), run.stopped world session) := by
  obtain ⟨after, applied, _⟩ := notified world (session.resource .terminate)
    (Terminate.codec.encode ⟨some session.id, .stopped⟩) run
  simp only [stop, Run.stopped, bind_apply, applied]
  rfl

inductive Exchanged [Url.HostMapping] (world : World σ) (session : Session) (endpoint : Endpoint)
    (body : Bytes) (codec : Codec α) (run : Run σ) : Except Halt α → Run σ → Prop where
  | fired (lapsed : world.hasFired run.now run.world = true) :
      Exchanged world session endpoint body codec run (.error (.failed .cancelled))
        (run.stopped world session)
  | endless (alive : world.hasFired run.now run.world = false)
      (never : (world.send run.now true (session.resource endpoint) body run.world).ends = none) :
      Exchanged world session endpoint body codec run (.error .endless)
        (run.posted world true (session.resource endpoint) body)
  | answered (alive : world.hasFired run.now run.world = false)
      {span : Millis} {bytes : Bytes} {after : σ} {value : α}
      (comes : (world.send run.now true (session.resource endpoint) body run.world).ends =
        some (span, .ok bytes, after))
      (meant : codec.decode bytes = .ok value) :
      Exchanged world session endpoint body codec run (.ok value)
        ((run.posted world true (session.resource endpoint) body).returned (.answer (.ok bytes))
          span after)
  | undecodable (alive : world.hasFired run.now run.world = false)
      {span : Millis} {bytes : Bytes} {after : σ} {fault : Json.Fault}
      (comes : (world.send run.now true (session.resource endpoint) body run.world).ends =
        some (span, .ok bytes, after))
      (meant : codec.decode bytes = .error fault) :
      Exchanged world session endpoint body codec run
        (.error (.failed (session.fail (.message fault))))
        ((run.posted world true (session.resource endpoint) body).returned (.answer (.ok bytes))
          span after)
  | refused (alive : world.hasFired run.now run.world = false)
      {span : Millis} {fault : TransportFault} {after : σ}
      (comes : (world.send run.now true (session.resource endpoint) body run.world).ends =
        some (span, .error fault, after))
      (loud : fault ≠ .cancelled) :
      Exchanged world session endpoint body codec run
        (.error (.failed (session.fail (.connection fault))))
        ((run.posted world true (session.resource endpoint) body).returned (.answer (.error fault))
          span after)
  | cancelled (alive : world.hasFired run.now run.world = false)
      {span : Millis} {after : σ}
      (comes : (world.send run.now true (session.resource endpoint) body run.world).ends =
        some (span, .error .cancelled, after)) :
      Exchanged world session endpoint body codec run (.error (.failed .cancelled))
        (((run.posted world true (session.resource endpoint) body).returned (.answer (.error .cancelled))
          span after).stopped world session)

theorem post_endless {world : World σ} {resource : String} {body : Bytes} {run : Run σ}
    (never : (world.send run.now true resource body run.world).ends = none) :
    post world resource body run = (.error .endless, run.posted world true resource body) := by
  simp only [post, bind_apply, note_apply, start, Run.noted_now, Run.noted_world, finish, never]
  rfl

theorem post_answered {world : World σ} {resource : String} {body : Bytes} {run : Run σ}
    {span : Millis} {answer : Except TransportFault Bytes} {after : σ}
    (comes : (world.send run.now true resource body run.world).ends = some (span, answer, after)) :
    post world resource body run =
      (.ok answer, (run.posted world true resource body).returned (.answer answer) span after) := by
  simp only [post, bind_apply, note_apply, start, Run.noted_now, Run.noted_world, finish, comes]
  rfl

theorem exchanged [Url.HostMapping] (world : World σ) (session : Session) (endpoint : Endpoint)
    (body : Bytes) (codec : Codec α) (run : Run σ) :
    Exchanged world session endpoint body codec run
      (exchange world session endpoint body codec run).1
      (exchange world session endpoint body codec run).2 := by
  unfold exchange
  cases alive : world.hasFired run.now run.world with
  | true =>
      simp only [bind_apply, hasFired, view, alive, if_true, stop_apply]
      exact .fired alive
  | false =>
      simp only [bind_apply, hasFired, view, alive, Bool.false_eq_true, if_false]
      cases ends : (world.send run.now true (session.resource endpoint) body run.world).ends with
      | none =>
          rw [post_endless ends]
          exact .endless alive ends
      | some call =>
          obtain ⟨span, answer, after⟩ := call
          rw [post_answered ends]
          cases answer with
          | ok bytes =>
              cases meant : codec.decode bytes with
              | ok value =>
                  simp only [Session.decode, meant, ofExcept]
                  exact .answered alive ends meant
              | error fault =>
                  simp only [Session.decode, meant, ofExcept]
                  exact .undecodable alive ends meant
          | error fault =>
              by_cases quiet : fault = .cancelled
              · subst quiet
                simp only [stop_apply]
                exact .cancelled alive ends
              · have failed := session.connectionFailure_eq_fail quiet
                have ended : Exchanged world session endpoint body codec run _ _ :=
                  .refused alive ends quiet
                rw [← failed] at ended
                cases fault with
                | cancelled => exact absurd rfl quiet
                | connect reason => exact ended
                | broken => exact ended
                | framing => exact ended
                | request => exact ended
                | status code => exact ended

theorem exchanged_of_eq [Url.HostMapping] {world : World σ} {session : Session}
    {endpoint : Endpoint} {body : Bytes} {codec : Codec α} {run after : Run σ}
    {result : Except Halt α}
    (h : exchange world session endpoint body codec run = (result, after)) :
    Exchanged world session endpoint body codec run result after := by
  have step := exchanged world session endpoint body codec run
  rwa [h] at step

theorem exchanged_post [Url.HostMapping] {world : World σ} {setup : Setup} (post : Post)
    {codec : Codec α} {run after : Run σ} {result : Except Halt α}
    (h : exchange world setup.session post.endpoint (post.body setup) codec run = (result, after)) :
    Exchanged world setup.session post.endpoint (post.body setup) codec run result after :=
  exchanged_of_eq h

theorem Exchanged.ne_cut [Url.HostMapping] {world : World σ} {session : Session}
    {endpoint : Endpoint} {body : Bytes} {codec : Codec α} {run after : Run σ} {reason : Halt}
    (h : Exchanged world session endpoint body codec run (.error reason) after) : reason ≠ .cut := by
  cases h <;> simp

/-- What happens in an exchange of a message: it is posted, or the notice that the run is stopped, and
answers come. -/
inductive Exchanges (setup : Setup) (post : Post) : Event → Prop where
  | own : Exchanges setup post (.send (post.written setup).1 (post.written setup).2)
  | notice : Exchanges setup post (.send (Post.stop.written setup).1 (Post.stop.written setup).2)
  | answer (answer : Except TransportFault Bytes) : Exchanges setup post (.answer answer)
  | terminated (before : Phase) : Exchanges setup post (.enter before .terminated)

theorem Exchanges.isDispatch_eq_false {setup : Setup} {post : Post} {event : Event}
    (h : Exchanges setup post event) : event.isDispatch = false := by
  cases h <;> rfl

theorem Exchanges.isCardCall_eq_false {setup : Setup} {post : Post} {event : Event}
    (h : Exchanges setup post event) : event.isCardCall = false := by
  cases h <;> rfl

end Act

namespace Run

variable {σ : Type} {world : World σ} {setup : Setup}

/-- A stopped run is one that was notified. -/
theorem exists_notified (world : World σ) (setup : Setup) (run : Run σ) :
    ∃ after, Act.Notified world (Post.stop.written setup).1 (Post.stop.written setup).2 run after ∧
      run.stopped world setup.session = after.entered .terminated := by
  simp only [Post.written_stop]
  obtain ⟨after, applied, notified⟩ := Act.notified world (setup.session.resource .terminate)
    (Terminate.codec.encode ⟨some setup.session.id, .stopped⟩) run
  refine ⟨after, notified, ?_⟩
  rw [stopped, applied]

/-- A stopped run has posted the notice, and nothing else. -/
theorem journal_stopped (world : World σ) (setup : Setup) (run : Run σ) :
    ∃ tail, (run.stopped world setup.session).journal = run.journal ++
        ⟨run.now, .send (Post.stop.written setup).1 (Post.stop.written setup).2⟩ :: tail ∧
      (∀ entry ∈ tail, (∃ answer, entry.event = .answer answer) ∨
        ∃ before, entry.event = .enter before .terminated) ∧
      (run.stopped world setup.session).now ≤ run.now + Act.stopPatience := by
  obtain ⟨after, notified, same⟩ := run.exists_notified world setup
  rw [same]
  cases notified with
  | answered comes timely =>
      rename_i span answer last
      refine ⟨[⟨run.now + span, .answer answer⟩, ⟨run.now + span, .enter run.phase .terminated⟩],
        ?_, ?_, Nat.add_le_add_left timely run.now⟩
      · simp [entered, returned, passed, noted, posted]
      · simp
  | unanswered =>
      refine ⟨[⟨run.now + Act.stopPatience, .enter run.phase .terminated⟩], ?_, ?_, Nat.le_refl _⟩
      · simp [entered, passed, noted, posted]
      · simp

theorem sent_stopped (run : Run σ) :
    sent (run.stopped world setup.session).events =
      sent run.events ++ [Post.stop.written setup] := by
  obtain ⟨tail, journal, kinds, _⟩ := journal_stopped world setup run
  have silent : ∀ event ∈ tail.map Entry.event, event.posted? = none := by
    intro event member
    obtain ⟨entry, inside, rfl⟩ := List.mem_map.mp member
    rcases kinds entry inside with ⟨answer, same⟩ | ⟨before, same⟩ <;> rw [same] <;> rfl
  have events : (run.stopped world setup.session).events = run.events ++
      .send (Post.stop.written setup).1 (Post.stop.written setup).2 :: tail.map Entry.event := by
    simp only [Run.events, journal, List.map_append, List.map_cons]
  rw [events, sent_append, sent_cons_send, sent_eq_nil silent, Prod.eta]

theorem stopped_wrote {P : Event → Prop}
    (notice : P (.send (Post.stop.written setup).1 (Post.stop.written setup).2))
    (answered : ∀ answer, P (.answer answer)) (terminated : ∀ before, P (.enter before .terminated))
    (run : Run σ) : Wrote P run (run.stopped world setup.session) := by
  obtain ⟨tail, journal, kinds, _⟩ := journal_stopped world setup run
  refine ⟨_, journal, ?_⟩
  intro entry member
  rcases List.mem_cons.mp member with rfl | later
  · exact notice
  · rcases kinds entry later with ⟨answer, same⟩ | ⟨before, same⟩
    · rw [same]
      exact answered answer
    · rw [same]
      exact terminated before

theorem stopped_grows (run : Run σ) : run.journal <+: (run.stopped world setup.session).journal :=
  (stopped_wrote (P := fun _ => True) trivial (fun _ => trivial) (fun _ => trivial) run).grows

end Run

namespace Post

/-- Messages of different endpoints go to different resources. -/
theorem written_ne {setup : Setup} {first second : Post}
    (apart : first.endpoint ≠ second.endpoint) : first.written setup ≠ second.written setup := by
  intro same
  exact apart (setup.session.resource_injective (congrArg Prod.fst same))

end Post

/-- What is posted last in a run that goes no further: the notice if it is stopped. -/
def Halt.notice : Halt → List Post
  | .failed .cancelled => [.stop]
  | _ => []

theorem Halt.notice_eq_nil {reason : Halt} (loud : reason ≠ .failed .cancelled) :
    reason.notice = [] := by
  unfold notice
  split
  · exact absurd rfl loud
  · rfl

theorem Halt.notice_fail [Url.HostMapping] (session : Session) (cause : Cause) :
    (Halt.failed (session.fail cause)).notice = [] :=
  notice_eq_nil fun quiet => session.fail_ne_cancelled cause (Halt.failed.inj quiet)

theorem Halt.notice_eq (reason : Halt) : reason.notice = [] ∨ reason.notice = [.stop] := by
  unfold notice
  split
  · exact .inr rfl
  · exact .inl rfl

def Post.notice {α : Type} : Except Halt α → List Post
  | .ok _ => []
  | .error reason => reason.notice

theorem Post.notice_eq_nil {α : Type} {result : Except Halt α}
    (loud : result ≠ .error (.failed .cancelled)) : notice result = [] := by
  cases result with
  | ok value => rfl
  | error reason => exact Halt.notice_eq_nil fun quiet => loud (congrArg _ quiet)

theorem Post.notice_eq {α : Type} (result : Except Halt α) :
    notice result = [] ∨ notice result = [.stop] := by
  cases result with
  | ok value => exact .inl rfl
  | error reason => exact reason.notice_eq

namespace Act.Exchanged

variable [Url.HostMapping] {σ α : Type} {world : World σ} {setup : Setup} {post : Post}
  {codec : Codec α} {run after : Run σ}

theorem wrote {result : Except Halt α}
    (h : Exchanged world setup.session post.endpoint (post.body setup) codec run result after) :
    Run.Wrote (Exchanges setup post) run after := by
  have stopped (run : Run σ) :
      Run.Wrote (Exchanges setup post) run (run.stopped world setup.session) :=
    Run.stopped_wrote .notice .answer .terminated run
  have posted : Run.Wrote (Exchanges setup post) run
      (run.posted world true (setup.session.resource post.endpoint) (post.body setup)) :=
    .trans (.noted .own run) (.of_journal_eq rfl)
  cases h with
  | fired lapsed => exact stopped run
  | endless alive never => exact posted
  | answered alive comes meant => exact posted.trans (.returned (.answer _) _ _ _)
  | undecodable alive comes meant => exact posted.trans (.returned (.answer _) _ _ _)
  | refused alive comes loud => exact posted.trans (.returned (.answer _) _ _ _)
  | cancelled alive comes => exact (posted.trans (.returned (.answer _) _ _ _)).trans (stopped _)

/-- An exchange posts its message, or gives it up, and the notice if it is cancelled. -/
theorem sent_eq {result : Except Halt α}
    (h : Exchanged world setup.session post.endpoint (post.body setup) codec run result after) :
    ∃ own, own <+: [post] ∧ (∀ value, result = .ok value → own = [post]) ∧
      sent after.events = sent run.events ++ (own ++ Post.notice result).map (Post.written setup) := by
  have posted : sent (run.posted world true (setup.session.resource post.endpoint)
      (post.body setup)).events = sent run.events ++ [post.written setup] := by
    rw [Run.events_posted, sent_append]
    rfl
  have answered (answer : Except TransportFault Bytes) (span : Millis) (last : σ) :
      sent ((run.posted world true (setup.session.resource post.endpoint)
        (post.body setup)).returned (.answer answer) span last).events =
          sent run.events ++ [post.written setup] := by
    rw [Run.events_returned, sent_append, posted]
    exact List.append_nil _
  cases h with
  | fired lapsed =>
      refine ⟨[], List.nil_prefix, ?_, Run.sent_stopped run⟩
      intro value same
      cases same
  | endless alive never => exact ⟨[post], List.prefix_rfl, fun _ _ => rfl, posted⟩
  | answered alive comes meant =>
      exact ⟨[post], List.prefix_rfl, fun _ _ => rfl, answered _ _ _⟩
  | undecodable alive comes meant =>
      refine ⟨[post], List.prefix_rfl, fun _ _ => rfl, ?_⟩
      rw [Post.notice, Halt.notice_fail, answered]
      rfl
  | refused alive comes loud =>
      refine ⟨[post], List.prefix_rfl, fun _ _ => rfl, ?_⟩
      rw [Post.notice, Halt.notice_fail, answered]
      rfl
  | cancelled alive comes =>
      refine ⟨[post], List.prefix_rfl, fun _ _ => rfl, ?_⟩
      rw [Run.sent_stopped, answered, List.append_assoc]
      rfl

end Act.Exchanged

end CardGateway
