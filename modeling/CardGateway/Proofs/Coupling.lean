import CardGateway.Proofs.CardWork

/-!
# Runs side by side

Two runs in worlds that are coupled go on alike. A coupling says which states and which answers of the
two worlds belong together, and what the journals then have in common; from there on every action of
the one run is tied to the same action of the other.
-/

namespace CardGateway

/-- Results that are alike: values that belong together, or one error. -/
inductive Alike {ε α β : Type} (P : α → β → Prop) : Except ε α → Except ε β → Prop where
  | ok {value : α} {other : β} (belong : P value other) : Alike P (.ok value) (.ok other)
  | error (reason : ε) : Alike P (.error reason) (.error reason)

theorem Alike.refl {ε α : Type} {P : α → α → Prop} (h : ∀ value, P value value)
    (result : Except ε α) : Alike P result result := by
  cases result with
  | ok value => exact .ok (h value)
  | error reason => exact .error reason

theorem Alike.eq {ε α : Type} {result other : Except ε α} (h : Alike Eq result other) :
    result = other := by
  cases h with
  | ok belong => rw [belong]
  | error reason => rfl

theorem Alike.mono {ε α β : Type} {P Q : α → β → Prop} {result : Except ε α} {other : Except ε β}
    (h : Alike P result other) (weaker : ∀ value twin, P value twin → Q value twin) :
    Alike Q result other := by
  cases h with
  | ok belong => exact .ok (weaker _ _ belong)
  | error reason => exact .error reason

/-- Calls that are alike: whatever comes of the one comes of the other, at the same time. -/
structure Call.Alike {σ τ α β : Type} (R : σ → τ → Prop) (P : α → β → Prop) (call : Call σ α)
    (other : Call τ β) : Prop where
  begun : R call.begun other.begun
  ends : Option.Rel (fun ending twin => ending.1 = twin.1 ∧ P ending.2.1 twin.2.1 ∧
    R ending.2.2 twin.2.2) call.ends other.ends
  dropped : ∀ span, R (call.dropped span) (other.dropped span)

namespace Call.Alike

variable {σ τ α β : Type} {R : σ → τ → Prop} {P : α → β → Prop}

theorem refl {R : σ → σ → Prop} {P : α → α → Prop} (states : ∀ state, R state state)
    (values : ∀ value, P value value) (call : Call σ α) : Call.Alike R P call call where
  begun := states _
  ends := by
    cases call.ends with
    | none => exact .none
    | some ending => exact .some ⟨rfl, values _, states _⟩
  dropped _ := states _

theorem endsAt_eq {call : Call σ α} {other : Call τ β} (h : Call.Alike R P call other)
    (now : Millis) : call.endsAt now = other.endsAt now := by
  have ends := h.ends
  unfold endsAt
  generalize call.ends = ending, other.ends = twin at ends ⊢
  cases ends with
  | none => rfl
  | some belong => simp only [Option.map_some, belong.1]

end Call.Alike

/-- The same command without the name of its session. -/
def Command.unnamed : Command → Command
  | .listTokens request => .listTokens { request with session := none }
  | .listCertificates request => .listCertificates { request with session := none }
  | .sign request => .sign { request with session := none }
  | .terminate message => .terminate { message with session := none }

/-- Which states of two worlds belong together, and which journals, answers and commands of the runs in
them. Commands may differ in the session that they name. -/
structure Coupling (σ τ : Type) where
  states : σ → τ → Prop
  journals : List Entry → List Entry → Prop
  /-- What may be answered to a message for a resource. -/
  answers : (resource : String) → Bytes → Bytes → Prop
  commands : Command → Command → Prop
  noted : ∀ {journal other : List Entry} (entry : Entry), journals journal other →
    journals (journal ++ [entry]) (other ++ [entry])
  answered : ∀ {journal other : List Entry} {resource : String}
    {answer twin : Except TransportFault Bytes} (time : Millis), journals journal other →
      Alike (answers resource) answer twin →
        journals (journal ++ [⟨time, .answer answer⟩]) (other ++ [⟨time, .answer twin⟩])
  unnamed : ∀ {command other : Command}, commands command other →
    command.unnamed = other.unnamed

/-- Requests are handled without a look at the session that they name. -/
theorem Act.handle_unnamed {σ : Type} {world : World σ} {setup : Setup} {command : Command}
    (asks : ∀ message, command ≠ .terminate message) :
    handle world setup command.unnamed = handle world setup command := by
  cases command with
  | terminate message => exact absurd rfl (asks message)
  | _ => rfl

namespace Coupling

variable {σ τ : Type}

/-- Worlds in which the same is said and done as long as a conversation goes on. -/
structure Talks (k : Coupling σ τ) (world : World σ) (other : World τ) : Prop where
  fires : ∀ {state twin}, k.states state twin → world.fires state = other.fires twin
  precedence : ∀ now {state twin}, k.states state twin →
    world.precedence now state = other.precedence now twin
  send : ∀ now guarded resource body {state twin}, k.states state twin →
    Call.Alike k.states (Alike (k.answers resource)) (world.send now guarded resource body state)
      (other.send now guarded resource body twin)
  findTokens : ∀ now filters {state twin}, k.states state twin →
    Call.Alike k.states Eq (world.findTokens now filters state) (other.findTokens now filters twin)
  listCertificates : ∀ now slot filters pin {state twin}, k.states state twin →
    Call.Alike k.states Eq (world.listCertificates now slot filters pin state)
      (other.listCertificates now slot filters pin twin)
  sign : ∀ now slot didName pin message {state twin}, k.states state twin →
    Call.Alike k.states Eq (world.sign now slot didName pin message state)
      (other.sign now slot didName pin message twin)

structure Cleans (k : Coupling σ τ) (world : World σ) (other : World τ) : Prop where
  close : ∀ now {state twin}, k.states state twin →
    Call.Alike k.states Eq (world.close now state) (other.close now twin)
  clearPins : ∀ now {state twin}, k.states state twin →
    k.states (world.clearPins now state) (other.clearPins now twin)
  disconnect : ∀ now slot {state twin}, k.states state twin →
    k.states (world.disconnect now slot state) (other.disconnect now slot twin)
  present : ∀ now notice {state twin}, k.states state twin →
    k.states (world.present now notice state) (other.present now notice twin)

/-- What a run reads in the answers: a hello is judged the same way, and commands belong together. -/
structure Reads [Url.HostMapping] (k : Coupling σ τ) (setup : Setup) : Prop where
  hello : ∀ {answer twin : Bytes}, k.answers (setup.session.resource .hello) answer twin →
    Alike (fun response other => setup.judge response = setup.judge other)
      (HelloResponse.codec.decode answer) (HelloResponse.codec.decode twin)
  command : ∀ {endpoint : Endpoint} {answer twin : Bytes}, endpoint ≠ .hello →
    k.answers (setup.session.resource endpoint) answer twin →
      Alike k.commands (Command.codec.decode answer) (Command.codec.decode twin)

structure Couples (k : Coupling σ τ) (run : Run σ) (other : Run τ) : Prop where
  now : run.now = other.now
  world : k.states run.world other.world
  phase : run.phase = other.phase
  connected : run.connected = other.connected
  notices : run.notices = other.notices
  journal : k.journals run.journal other.journal

variable {α β γ δ : Type}

/-- Actions that come to the same in runs that belong together. -/
def Ties (k : Coupling σ τ) (P : α → β → Prop) (act : Act σ α) (other : Act τ β) : Prop :=
  ∀ (run : Run σ) (twin : Run τ), k.Couples run twin →
    Alike P (act run).1 (other twin).1 ∧ k.Couples (act run).2 (other twin).2

variable {k : Coupling σ τ} {P : α → β → Prop} {Q : γ → δ → Prop}

theorem ties_pure {value : α} {other : β} (belong : P value other) :
    k.Ties P (pure value) (pure other) :=
  fun _ _ coupled => ⟨.ok belong, coupled⟩

theorem ties_halt (reason : Halt) : k.Ties P (Act.halt reason) (Act.halt reason) :=
  fun _ _ coupled => ⟨.error reason, coupled⟩

theorem ties_view {f : Run σ → α} {g : Run τ → β}
    (h : ∀ run twin, k.Couples run twin → P (f run) (g twin)) :
    k.Ties P (Act.view f) (Act.view g) :=
  fun run twin coupled => ⟨.ok (h run twin coupled), coupled⟩

theorem ties_update {f : Run σ → Run σ} {g : Run τ → Run τ}
    (h : ∀ run twin, k.Couples run twin → k.Couples (f run) (g twin)) :
    k.Ties Eq (Act.update f) (Act.update g) :=
  fun run twin coupled => ⟨.ok rfl, h run twin coupled⟩

theorem ties_bind {act : Act σ α} {other : Act τ β} {next : α → Act σ γ} {later : β → Act τ δ}
    (first : k.Ties P act other) (rest : ∀ value twin, P value twin →
      k.Ties Q (next value) (later twin)) : k.Ties Q (act >>= next) (other >>= later) := by
  intro run twin coupled
  have step := first run twin coupled
  rw [Act.bind_apply, Act.bind_apply]
  generalize act run = stepped, other twin = also at step ⊢
  obtain ⟨result, mid⟩ := stepped
  obtain ⟨same, last⟩ := also
  obtain ⟨alike, further⟩ := step
  cases alike with
  | ok belong => exact rest _ _ belong _ _ further
  | error reason => exact ⟨.error reason, further⟩

theorem ties_ofExcept {result : Except Failure α} {other : Except Failure β} (h : Alike P result other) :
    k.Ties P (Act.ofExcept result) (Act.ofExcept other) := by
  cases h with
  | ok belong => exact ties_pure belong
  | error reason => exact ties_halt _

theorem ties_note (event : Event) : k.Ties Eq (Act.note event) (Act.note event) := by
  refine ties_update fun run twin coupled => { coupled with journal := ?_ }
  rw [coupled.now]
  exact k.noted _ coupled.journal

theorem ties_answer {resource : String} {answer twin : Except TransportFault Bytes}
    (alike : Alike (k.answers resource) answer twin) :
    k.Ties Eq (Act.note (.answer answer)) (Act.note (.answer twin)) := by
  refine ties_update fun run other coupled => { coupled with journal := ?_ }
  rw [coupled.now]
  exact k.answered _ coupled.journal alike

theorem ties_enter (phase : Phase) : k.Ties Eq (Act.enter phase) (Act.enter phase) := by
  refine ties_update fun run twin coupled => { coupled with phase := rfl, journal := ?_ }
  rw [coupled.now, coupled.phase]
  exact k.noted _ coupled.journal

theorem ties_touch {f : Millis → σ → σ} {g : Millis → τ → τ}
    (h : ∀ now {state twin}, k.states state twin → k.states (f now state) (g now twin)) :
    k.Ties Eq (Act.touch f) (Act.touch g) := by
  refine ties_update fun run twin coupled => { coupled with world := ?_ }
  rw [coupled.now]
  exact h _ coupled.world

theorem ties_start {call : Millis → σ → Call σ α} {other : Millis → τ → Call τ β}
    (h : ∀ now {state twin}, k.states state twin →
      Call.Alike k.states P (call now state) (other now twin)) :
    k.Ties (Call.Alike k.states P) (Act.start call) (Act.start other) := by
  intro run twin coupled
  have begins := h run.now coupled.world
  rw [Act.start_apply, Act.start_apply, ← coupled.now]
  refine ⟨.ok begins, ?_⟩
  exact { coupled with now := rfl, world := begins.begun }

theorem ties_pass (span : Millis) {after : σ} {other : τ} (belong : k.states after other) :
    k.Ties Eq (Act.pass span after) (Act.pass span other) :=
  ties_update fun _ _ coupled =>
    { coupled with now := congrArg (· + span) coupled.now, world := belong }

theorem ties_finish {call : Call σ α} {other : Call τ β} (alike : Call.Alike k.states P call other) :
    k.Ties P (Act.finish call) (Act.finish other) := by
  have ends := alike.ends
  unfold Act.finish
  generalize call.ends = ending, other.ends = twin at ends ⊢
  cases ends with
  | none => exact ties_halt _
  | @some ending twin belong =>
      obtain ⟨span, value, after⟩ := ending
      obtain ⟨again, same, last⟩ := twin
      obtain ⟨rfl, values, states⟩ := belong
      exact ties_bind (ties_pass span states) fun _ _ _ => ties_pure values

theorem ties_drop {call : Call σ α} {other : Call τ β} (alike : Call.Alike k.states P call other)
    (instant : Millis) : k.Ties Eq (Act.drop call instant) (Act.drop other instant) := by
  refine ties_update fun run twin coupled => { coupled with now := ?_, world := ?_ }
  · simp only [coupled.now]
  · simp only [coupled.now]
    exact alike.dropped _

theorem ties_gather (result : Except CardFault TokenSearch) :
    k.Ties Eq (Act.gather result) (Act.gather result) := by
  refine ties_bind (ties_note _) fun _ _ _ => ties_update fun run twin coupled => ?_
  cases result with
  | ok found => exact { coupled with connected := by simp only [coupled.connected] }
  | error fault => exact coupled

/-- What handling commands that belong together comes to: messages that belong together, or one
reply. -/
def Outcomes (k : Coupling σ τ) : Terminate ⊕ Option Reply → Terminate ⊕ Option Reply → Prop :=
  Sum.LiftRel (fun message other => k.commands (.terminate message) (.terminate other)) Eq

theorem ties_replied {α : Type} {act : Act σ (Option α)} {twin : Act τ (Option α)}
    (tied : k.Ties Eq act twin) (reply : α → Reply) :
    k.Ties k.Outcomes (do return .inr ((← act).map reply)) (do return .inr ((← twin).map reply)) := by
  refine ties_bind tied fun answer _ same => ?_
  subst same
  exact ties_pure (.inr rfl)

section Talking

variable {world : World σ} {other : World τ} (talks : k.Talks world other) {setup : Setup}

include talks

theorem ties_hasFired : k.Ties Eq (Act.hasFired world) (Act.hasFired other) := by
  refine ties_view fun run twin coupled => ?_
  rw [World.hasFired, World.hasFired, talks.fires coupled.world, coupled.now]

theorem race_eq {now : Millis} {state : σ} {twin : τ} (belong : k.states state twin)
    (ends deadline : Option Millis) :
    world.race now state ends deadline = other.race now twin ends deadline := by
  unfold World.race
  rw [talks.fires belong, talks.precedence now belong]

theorem ties_isSpent (budget : Millis) :
    k.Ties Eq (Act.view fun run => world.isSpent budget run.now run.world)
      (Act.view fun run => other.isSpent budget run.now run.world) := by
  refine ties_view fun run twin coupled => ?_
  simp only [World.isSpent, race_eq talks coupled.world, coupled.now]

theorem ties_race {call : Call σ α} {twin : Call τ β} (alike : Call.Alike k.states P call twin)
    (deadline : Option Millis) :
    k.Ties Eq (Act.view fun run => world.race run.now run.world (call.endsAt run.now) deadline)
      (Act.view fun run => other.race run.now run.world (twin.endsAt run.now) deadline) := by
  refine ties_view fun run twin coupled => ?_
  rw [race_eq talks coupled.world, coupled.now, alike.endsAt_eq]

theorem ties_notify (resource : String) (body : Bytes) :
    k.Ties Eq (Act.notify world resource body) (Act.notify other resource body) := by
  refine ties_bind (ties_note _) fun _ _ _ => ties_bind
    (ties_start fun now => talks.send now false resource body) fun call twin alike => ?_
  have leaving : k.Ties Eq (Act.pass Act.stopPatience (call.dropped Act.stopPatience))
      (Act.pass Act.stopPatience (twin.dropped Act.stopPatience)) := ties_pass _ (alike.dropped _)
  have ends := alike.ends
  generalize call.ends = ending, twin.ends = also at ends ⊢
  cases ends with
  | none => exact leaving
  | @some ending also belong =>
      obtain ⟨span, answer, after⟩ := ending
      obtain ⟨again, same, last⟩ := also
      obtain ⟨rfl, answers, states⟩ := belong
      by_cases timely : span ≤ Act.stopPatience
      · simp only [timely, if_true]
        exact ties_bind (ties_pass _ states) fun _ _ _ => ties_answer answers
      · simp only [timely, if_false]
        exact leaving

theorem ties_stop (session : Session) : k.Ties P (Act.stop world session) (Act.stop other session) :=
  ties_bind (ties_notify talks _ _) fun _ _ _ =>
    ties_bind (ties_enter _) fun _ _ _ => ties_halt _

theorem ties_post (resource : String) (body : Bytes) :
    k.Ties (Alike (k.answers resource)) (Act.post world resource body)
      (Act.post other resource body) :=
  ties_bind (ties_note _) fun _ _ _ =>
    ties_bind (ties_start fun now => talks.send now true resource body) fun _ _ alike =>
      ties_bind (ties_finish alike) fun _ _ answers =>
        ties_bind (ties_answer answers) fun _ _ _ => ties_pure answers

/-- Exchanges are tied if their answers are read alike. -/
theorem ties_exchange [Url.HostMapping] {codec : Json.Codec α} {P : α → α → Prop}
    {session : Session} {endpoint : Endpoint} (body : Bytes) (reads : ∀ answer twin,
      k.answers (session.resource endpoint) answer twin →
        Alike P (codec.decode answer) (codec.decode twin)) :
    k.Ties P (Act.exchange world session endpoint body codec)
      (Act.exchange other session endpoint body codec) := by
  refine ties_bind (ties_hasFired talks) fun fired _ same => ?_
  subst same
  cases fired with
  | true => exact ties_stop talks session
  | false =>
      refine ties_bind (ties_post talks _ body) fun answer twin alike => ?_
      cases alike with
      | @ok bytes others belong =>
          have meant := reads bytes others belong
          refine ties_ofExcept ?_
          unfold Session.decode
          generalize codec.decode bytes = read, codec.decode others = also at meant ⊢
          cases meant with
          | ok belong => exact .ok belong
          | error fault => exact .error _
      | error fault =>
          cases fault with
          | cancelled => exact ties_stop talks session
          | _ => exact ties_halt _

theorem ties_search (filters : List TokenInfo) :
    k.Ties Eq (Act.search world filters) (Act.search other filters) := by
  refine ties_bind (ties_hasFired talks) fun fired _ same => ?_
  subst same
  cases fired with
  | true => exact ties_pure rfl
  | false =>
      refine ties_bind (ties_note _) fun _ _ _ =>
        ties_bind (ties_start fun now => talks.findTokens now filters) fun call twin alike =>
          ties_bind (ties_race talks alike none) fun wakening _ same => ?_
      subst same
      have ending : k.Ties Eq
          (Act.finish call >>= fun result => Act.gather result >>= fun _ => pure (some result))
          (Act.finish twin >>= fun result => Act.gather result >>= fun _ => pure (some result)) := by
        refine ties_bind (ties_finish alike) fun result _ same => ?_
        subst same
        exact ties_bind (ties_gather result) fun _ _ _ => ties_pure rfl
      rcases wakening with _ | ⟨reason, instant⟩
      · exact ending
      · cases reason with
        | ended => exact ending
        | deadline => exact ending
        | fired => exact ties_bind (ties_drop alike instant) fun _ _ _ => ties_pure rfl

theorem ties_poll (session : String) (filters : List TokenInfo) (deadline : Millis) :
    k.Ties Eq (Act.poll world session filters deadline)
      (Act.poll other session filters deadline) := by
  intro run twin coupled
  have tied {run after : Run σ} {twin : Run τ}
      {result : Except Halt (Option (Except CardFault TokenSearch))}
      (coupled : k.Couples run twin) (searching : Act.search world filters run = (result, after)) :
      ∃ last, Act.search other filters twin = (result, last) ∧ k.Couples after last := by
    have step := ties_search talks filters run twin coupled
    rw [searching] at step
    generalize Act.search other filters twin = found at step
    obtain ⟨also, last⟩ := found
    obtain rfl := step.1.eq
    exact ⟨last, rfl, step.2⟩
  -- The induction is that of the one loop; the other one makes the same turns.
  induction run using Act.poll.induct world filters deadline generalizing twin with
  | case1 run reason after searching =>
      obtain ⟨last, also, coupled⟩ := tied coupled searching
      rw [Act.poll_eq searching, Act.poll_eq also]
      exact ⟨.error reason, coupled⟩
  | case2 run after searching =>
      obtain ⟨last, also, coupled⟩ := tied coupled searching
      rw [Act.poll_eq searching, Act.poll_eq also]
      exact ⟨.ok rfl, coupled⟩
  | case3 run fault after searching =>
      obtain ⟨last, also, coupled⟩ := tied coupled searching
      rw [Act.poll_eq searching, Act.poll_eq also]
      exact ⟨.ok rfl, coupled⟩
  | case4 run found after searching hit =>
      obtain ⟨last, also, coupled⟩ := tied coupled searching
      rw [Act.poll_eq searching, Act.poll_eq also]
      simp only [hit, if_true]
      exact ⟨.ok rfl, coupled⟩
  | case5 run found after searching miss lapsed =>
      obtain ⟨last, also, coupled⟩ := tied coupled searching
      rw [Act.poll_eq searching, Act.poll_eq also, ← coupled.now]
      simp only [miss, lapsed, if_true]
      exact ⟨.ok rfl, coupled⟩
  | case6 run found after searching miss early wake instant first =>
      obtain ⟨last, also, coupled⟩ := tied coupled searching
      have won : world.race after.now after.world none
        (some (min deadline (after.now + Act.pollInterval))) = some (.fired, instant) := first
      rw [Act.poll_eq searching, Act.poll_eq also, ← coupled.now, ← race_eq talks coupled.world]
      simp only [miss, early, won, if_false]
      exact ⟨.ok rfl, { coupled with now := rfl }⟩
  | case7 run found after searching miss early wake first ih =>
      obtain ⟨last, also, coupled⟩ := tied coupled searching
      have later := ih { last with now := wake } { coupled with now := rfl }
      rw [Act.poll_eq searching, Act.poll_eq also, ← coupled.now, ← race_eq talks coupled.world]
      simp only [miss, early, if_false]
      rcases won : world.race after.now after.world none
        (some (min deadline (after.now + Act.pollInterval))) with _ | ⟨reason, instant⟩
      · exact later
      · cases reason with
        | ended => exact later
        | deadline => exact later
        | fired => exact absurd won (first instant)

theorem ties_work (budget : Millis) (begun : Event) (done : CardOutcome α → Event)
    {operation : Millis → σ → Call σ (CardOutcome α)} {twin : Millis → τ → Call τ (CardOutcome α)}
    (alike : ∀ now {state belonging}, k.states state belonging →
      Call.Alike k.states Eq (operation now state) (twin now belonging)) :
    k.Ties Eq (Act.work world budget begun done operation)
      (Act.work other budget begun done twin) := by
  refine ties_bind (ties_view fun run twin coupled => congrArg (· + budget) coupled.now)
    fun deadline _ same => ?_
  subst same
  refine ties_bind (ties_note _) fun _ _ _ => ties_bind (ties_start alike) fun call twin alike =>
    ties_bind (ties_race talks alike _) fun wakening _ same => ?_
  subst same
  have late : k.Ties Eq (Act.drop call deadline >>= fun _ => pure (Act.Work.timedOut : Act.Work α))
      (Act.drop twin deadline >>= fun _ => pure .timedOut) :=
    ties_bind (ties_drop alike _) fun _ _ _ => ties_pure rfl
  rcases wakening with _ | ⟨reason, instant⟩
  · exact late
  · cases reason with
    | ended =>
        refine ties_bind (ties_finish alike) fun outcome _ same => ?_
        subst same
        exact ties_bind (ties_note _) fun _ _ _ => ties_pure rfl
    | deadline => exact late
    | fired => exact ties_bind (ties_drop alike instant) fun _ _ _ => ties_pure rfl

theorem ties_workWithPin {ρ : Type} (pins : PinPolicy) (encrypted : Option String)
    (budget : Millis) (refused : ResultCode → ρ) (granted : α → ρ)
    {operation : Option Pin → Act σ (Act.Work α)} {twin : Option Pin → Act τ (Act.Work α)}
    (tied : ∀ pin, k.Ties Eq (operation pin) (twin pin)) :
    k.Ties Eq (Act.workWithPin world pins encrypted budget refused granted operation)
      (Act.workWithPin other pins encrypted budget refused granted twin) := by
  refine ties_bind (ties_hasFired talks) fun fired _ same => ?_
  subst same
  cases fired with
  | true => exact ties_pure rfl
  | false =>
      refine ties_bind (ties_isSpent talks budget) fun spent _ same => ?_
      subst same
      cases spent with
      | true => exact ties_pure rfl
      | false =>
          cases pins.unwrap encrypted with
          | error fault => exact ties_pure rfl
          | ok pin =>
              refine ties_bind (tied pin) fun result _ same => ?_
              subst same
              exact ties_pure rfl

/-- A request is handled alike in both worlds. -/
theorem ties_request {command : Command} (asks : ∀ message, command ≠ .terminate message) :
    k.Ties k.Outcomes (Act.handle world setup command) (Act.handle other setup command) := by
  cases command with
  | terminate message => exact absurd rfl (asks message)
  | listTokens request =>
      refine ties_replied (fun run twin coupled => ?_) _
      have tied := ties_poll talks setup.session.id request.filters
        (run.now + Wait.budget request.maxWait) run twin coupled
      rw [Act.listTokens, Act.listTokens, ← coupled.now]
      exact tied
  | listCertificates request =>
      refine ties_replied ?_ _
      exact ties_workWithPin talks _ _ _ _ _ fun pin => ties_work talks _ _ _
        fun now => talks.listCertificates now request.slot request.filters pin
  | sign request =>
      refine ties_replied ?_ _
      exact ties_workWithPin talks _ _ _ _ _ fun pin => ties_work talks _ _ _
        fun now => talks.sign now request.slot request.didName pin request.message

/-- The session that a command names makes no difference to its handling. -/
theorem ties_handle {command twin : Command} (belong : k.commands command twin) :
    k.Ties k.Outcomes (Act.handle world setup command) (Act.handle other setup twin) := by
  have same := k.unnamed belong
  have requested (asks : ∀ message, command ≠ .terminate message)
      (also : ∀ message, twin ≠ .terminate message) :
      k.Ties k.Outcomes (Act.handle world setup command) (Act.handle other setup twin) := by
    rw [← Act.handle_unnamed also, ← same, Act.handle_unnamed asks]
    exact ties_request talks asks
  cases command with
  | terminate message =>
      cases twin with
      | terminate again => exact ties_pure (.inl belong)
      | _ => cases same
  | _ =>
      refine requested (by simp) ?_
      rintro message rfl
      cases same

/-- The values to which tied conversations come: messages that belong together. -/
def Messages (k : Coupling σ τ) (message other : Terminate) : Prop :=
  k.commands (.terminate message) (.terminate other)

variable [Url.HostMapping] (reads : k.Reads setup)

include reads

theorem ties_serve (bound : Nat) {command twin : Command} (belong : k.commands command twin) :
    k.Ties k.Messages (Act.serve world setup bound command)
      (Act.serve other setup bound twin) := by
  induction bound generalizing command twin with
  | zero => exact ties_halt _
  | succ bound ih =>
      refine ties_bind (ties_hasFired talks) fun fired _ same => ?_
      subst same
      cases fired with
      | true => exact ties_stop talks setup.session
      | false =>
          refine ties_bind (ties_enter _) fun _ _ _ =>
            ties_bind (ties_handle talks belong) fun outcome also alike => ?_
          cases alike with
          | inl messages => exact ties_bind (ties_enter _) fun _ _ _ => ties_pure messages
          | inr same =>
              subst same
              rename_i reply
              cases reply with
              | none => exact ties_stop talks setup.session
              | some reply =>
                  have later : reply.endpoint ≠ .hello := by cases reply <;> simp [Reply.endpoint]
                  exact ties_bind (ties_enter _) fun _ _ _ => ties_bind
                    (ties_exchange talks _ fun _ _ => reads.command later) fun _ _ next => ih next

theorem ties_hello : k.Ties Eq (Act.hello world setup) (Act.hello other setup) := by
  refine ties_bind (ties_enter _) fun _ _ _ => ties_bind
    (ties_exchange talks _ fun _ _ => reads.hello) fun response twin same => ?_
  simp only [same]
  refine ties_bind (ties_update fun run twin coupled => ?_) fun _ _ _ => ties_ofExcept (.refl ?_ _)
  · exact { coupled with notices := by simp only [coupled.notices] }
  · exact fun _ => rfl

theorem ties_converse (bound : Nat) :
    k.Ties k.Messages (Act.converse world setup bound) (Act.converse other setup bound) := by
  have asking : Endpoint.getCommand ≠ .hello := by simp
  exact ties_bind (ties_hello talks reads) fun _ _ _ => ties_bind (ties_enter _) fun _ _ _ =>
    ties_bind (ties_exchange talks _ fun _ _ => reads.command asking) fun _ _ first =>
      ties_serve talks reads bound first

end Talking

section Cleaning

variable {world : World σ} {other : World τ} (cleans : k.Cleans world other)

include cleans

theorem ties_disconnectAll (slots : List SlotHandle) :
    k.Ties Eq (Act.disconnectAll world slots) (Act.disconnectAll other slots) := by
  induction slots with
  | nil => exact ties_pure rfl
  | cons slot rest ih =>
      exact ties_bind (ties_note _) fun _ _ _ =>
        ties_bind (ties_touch fun now => cleans.disconnect now slot) fun _ _ _ => ih

theorem ties_presentAll (notices : List Notice) :
    k.Ties Eq (Act.presentAll world notices) (Act.presentAll other notices) := by
  induction notices with
  | nil => exact ties_pure rfl
  | cons notice rest ih =>
      exact ties_bind (ties_note _) fun _ _ _ =>
        ties_bind (ties_touch fun now => cleans.present now notice) fun _ _ _ => ih

theorem ties_cleanUp : k.Ties Eq (Act.cleanUp world) (Act.cleanUp other) := by
  refine ties_bind (ties_note _) fun _ _ _ => ties_bind (ties_touch cleans.clearPins) fun _ _ _ =>
    ties_bind (ties_note _) fun _ _ _ => ties_bind (ties_start cleans.close) fun _ _ alike =>
      ties_bind (ties_finish alike) fun _ _ _ =>
        ties_bind (ties_view fun _ _ coupled => coupled.connected) fun slots _ same => ?_
  subst same
  refine ties_bind (ties_disconnectAll cleans slots) fun _ _ _ =>
    ties_bind (ties_view fun _ _ coupled => coupled.notices) fun notices _ same => ?_
  subst same
  refine ties_bind (ties_presentAll cleans notices) fun _ _ _ =>
    ties_bind (ties_view fun _ _ coupled => coupled.phase) fun phase _ same => ?_
  subst same
  by_cases ended : phase = .terminated
  · simp only [ended, ne_eq, not_true_eq_false, if_false]
    exact ties_pure rfl
  · simp only [ended, ne_eq, not_false_eq_true, if_true]
    exact ties_enter _

end Cleaning

end Coupling

/-- Endings that are alike: with messages that belong together, or for one reason. -/
inductive Ending.Alike (P : Terminate → Terminate → Prop) : Ending → Ending → Prop where
  | finished {result other : Except Failure Terminate} (alike : CardGateway.Alike P result other) :
      Alike P (.finished result) (.finished other)
  | endless : Alike P .endless .endless
  | cut : Alike P .cut .cut

theorem Ending.Alike.mono {P Q : Terminate → Terminate → Prop} {ending other : Ending}
    (h : ending.Alike P other) (weaker : ∀ message twin, P message twin → Q message twin) :
    ending.Alike Q other := by
  cases h with
  | finished alike => exact .finished (alike.mono weaker)
  | endless => exact .endless
  | cut => exact .cut

/-- Runs in coupled worlds end alike, and belong together when they do. -/
theorem Coupling.run_alike [Url.HostMapping] {σ τ : Type} {k : Coupling σ τ} {setup : Setup}
    {world : World σ} {other : World τ} (talks : k.Talks world other) (cleans : k.Cleans world other)
    (reads : k.Reads setup) (begins : k.journals [] []) {state : σ} {twin : τ}
    (belong : k.states state twin) (bound : Nat) :
    Ending.Alike k.Messages (setup.run world bound state).1 (setup.run other bound twin).1 ∧
      k.Couples (setup.run world bound state).2 (setup.run other bound twin).2 := by
  have conversing := ties_converse talks reads bound (Run.fresh state) (Run.fresh twin)
    ⟨rfl, belong, rfl, rfl, rfl, begins⟩
  rcases ending : Act.converse world setup bound (Run.fresh state) with ⟨result, mid⟩
  rcases also : Act.converse other setup bound (Run.fresh twin) with ⟨same, last⟩
  rw [ending, also] at conversing
  obtain ⟨alike, coupled⟩ := conversing
  have cleaning := ties_cleanUp cleans mid last coupled
  rcases cleared : Act.cleanUp world mid with ⟨done, after⟩
  rcases clear : Act.cleanUp other last with ⟨done', after'⟩
  rw [cleared, clear] at cleaning
  obtain ⟨closed, coupled'⟩ := cleaning
  cases alike with
  | ok messages =>
      cases closed with
      | ok _ =>
          simp only [Setup.run, ending, also, cleared, clear]
          exact ⟨.finished (.ok messages), coupled'⟩
      | error reason =>
          simp only [Setup.run, ending, also, cleared, clear]
          exact ⟨.endless, coupled'⟩
  | error reason =>
      cases reason with
      | failed failure =>
          cases closed with
          | ok _ =>
              simp only [Setup.run, ending, also, cleared, clear]
              exact ⟨.finished (.error failure), coupled'⟩
          | error reason =>
              simp only [Setup.run, ending, also, cleared, clear]
              exact ⟨.endless, coupled'⟩
      | endless =>
          simp only [Setup.run, ending, also]
          exact ⟨.endless, coupled⟩
      | cut =>
          simp only [Setup.run, ending, also]
          exact ⟨.cut, coupled⟩

end CardGateway
