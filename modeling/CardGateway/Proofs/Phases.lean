import CardGateway.Proofs.Notices

/-!
# The phases of a run

A run greets the server, then waits for commands and takes them up one at a time, and is over in the
end. The journal tells each change of phase, and what is posted and what the card is asked keeps to the
phases made for it.
-/

namespace CardGateway

def Event.entered? : Event → Option Phase
  | .enter _ after => some after
  | _ => none

def visited (events : List Event) : List Phase := events.filterMap Event.entered?

/-- The phase in which a run stands behind these events. -/
def standing (events : List Event) : Phase := (visited events).getLastD .initial

theorem visited_append (front back : List Event) :
    visited (front ++ back) = visited front ++ visited back :=
  List.filterMap_append

theorem visited_eq_nil {events : List Event} (h : ∀ event ∈ events, event.entered? = none) :
    visited events = [] :=
  List.filterMap_eq_nil_iff.mpr h

theorem standing_append {front back : List Event} (still : ∀ event ∈ back, event.entered? = none) :
    standing (front ++ back) = standing front := by
  rw [standing, visited_append, visited_eq_nil still, List.append_nil, standing]

/-- A run that has begun and is not over. -/
def Phase.Open (phase : Phase) : Prop := phase ≠ .initial ∧ phase ≠ .terminated

def Post.Suits (phase : Phase) : Post → Prop
  | .hello => phase = .helloSent
  | .getCommand | .reply _ => phase = .awaitingCommand
  | .stop => phase.Open

theorem Post.Suits.isOpen {phase : Phase} {post : Post} (h : post.Suits phase) : phase.Open := by
  cases post with
  | stop => exact h
  | _ =>
      obtain rfl := h
      constructor <;> simp

namespace Setup

variable {setup : Setup}

/-- What may happen in a phase: a message is posted in the phases for it, the card is called in none but
one, and a phase is left only from itself. -/
def Suits (setup : Setup) (phase : Phase) : Event → Prop
  | .enter before _ => before = phase
  | .send resource body => (∃ post : Post, post.written setup = (resource, body)) ∧
      ∀ post : Post, post.written setup = (resource, body) → post.Suits phase
  | .answer _ => phase.Open
  | .findTokens _ | .found _ | .listCertificates _ _ _ | .listed _ | .sign _ _ _ _ | .signed _ =>
      phase = .dispatching
  | .clearPins | .close | .disconnect _ | .present _ => phase ≠ .initial

/-- Each event suits the phase in which the events before it have left the run. -/
def Orderly (setup : Setup) (events : List Event) : Prop :=
  ∀ before event after, events = before ++ event :: after → setup.Suits (standing before) event

theorem suits_send {phase : Phase} {post : Post} (h : post.Suits phase) :
    setup.Suits phase (.send (post.written setup).1 (post.written setup).2) := by
  refine ⟨⟨post, rfl⟩, ?_⟩
  intro other same
  have resources := setup.session.resource_injective (congrArg Prod.fst same)
  cases post with
  | reply message =>
      cases message <;> cases other with
      | reply message => exact h
      | _ => cases resources
  | _ =>
      cases other with
      | reply message => cases message <;> cases resources
      | _ => first | exact h | cases resources

theorem suits_of_handles {command : Command} {event : Event} (h : Handles setup command event) :
    setup.Suits .dispatching event ∧ event.entered? = none := by
  cases h <;> exact ⟨rfl, rfl⟩

namespace Orderly

variable {events front back : List Event} {event : Event}

theorem nil : setup.Orderly [] := by
  intro before event after split
  simp at split

theorem snoc (h : setup.Orderly events) (suits : setup.Suits (standing events) event) :
    setup.Orderly (events ++ [event]) := by
  intro before other after split
  rcases split_append split with ⟨rest, inside⟩ | ⟨more, rfl, behind⟩
  · exact h _ _ _ inside
  · cases more with
    | nil =>
        obtain rfl := (List.cons.inj behind).1
        rwa [List.append_nil]
    | cons first rest => simp at behind

/-- Events that suit the phase in which a run stands, and do not change it, can be added. -/
theorem append (h : setup.Orderly front)
    (suits : ∀ event ∈ back, setup.Suits (standing front) event ∧ event.entered? = none) :
    setup.Orderly (front ++ back) := by
  induction back generalizing front with
  | nil => rwa [List.append_nil]
  | cons event rest ih =>
      obtain ⟨first, later⟩ := List.forall_mem_cons.mp suits
      have stays : standing (front ++ [event]) = standing front :=
        standing_append (by simpa using first.2)
      rw [List.append_cons]
      exact ih (h.snoc first.1) (by rwa [stays])

end Orderly

def Does (setup : Setup) (phase : Phase) (event : Event) : Prop :=
  setup.Suits phase event ∧ event.entered? = none

/-- Events that suit the phases in which they happen, and enter these phases. -/
structure Walks (setup : Setup) (phases : List Phase) (events : List Event) : Prop where
  orderly : setup.Orderly events
  visited : visited events = phases

namespace Walks

variable {phases : List Phase} {events front back : List Event}

theorem append (h : setup.Walks phases front)
    (does : ∀ event ∈ back, setup.Does (standing front) event) :
    setup.Walks phases (front ++ back) where
  orderly := h.orderly.append does
  visited := by
    rw [visited_append, visited_eq_nil fun event member => (does event member).2, List.append_nil,
      h.visited]

theorem enter (h : setup.Walks phases events) (phase : Phase) :
    setup.Walks (phases ++ [phase]) (events ++ [.enter (standing events) phase]) where
  orderly := h.orderly.snoc rfl
  visited := by
    rw [visited_append, h.visited]
    rfl

end Walks

variable {σ : Type} {world : World σ} {phases : List Phase} {run after : Run σ}

/-- A run that has entered these phases, and knows in which it stands. -/
structure Stands (setup : Setup) (phases : List Phase) (run : Run σ) : Prop where
  walks : setup.Walks phases run.events
  phase : run.phase = standing run.events

/-- A run that stands so, or has done so and is over. -/
def Rests (setup : Setup) (phases : List Phase) (run : Run σ) : Prop :=
  setup.Stands phases run ∨ setup.Stands (phases ++ [.terminated]) run

namespace Stands

theorem fresh (state : σ) : setup.Stands [] (Run.fresh state) where
  walks := ⟨.nil, rfl⟩
  phase := rfl

theorem phase_eq (h : setup.Stands phases run) : run.phase = phases.getLastD .initial := by
  rw [h.phase, standing, h.walks.visited]

theorem entered (h : setup.Stands phases run) (phase : Phase) :
    setup.Stands (phases ++ [phase]) (run.entered phase) := by
  have walks : setup.Walks (phases ++ [phase]) (run.entered phase).events := by
    rw [Run.events_entered, h.phase]
    exact h.walks.enter phase
  refine ⟨walks, ?_⟩
  rw [standing, walks.visited, List.getLastD_concat]
  rfl

theorem informed (h : setup.Stands phases run) (notices : List Notice) :
    setup.Stands phases (run.informed notices) :=
  ⟨h.walks, h.phase⟩

/-- A run that has only done what suits its phase still stands in it. -/
theorem wrote (h : setup.Stands phases run) (wrote : Run.Wrote (setup.Does run.phase) run after)
    (same : after.phase = run.phase) : setup.Stands phases after := by
  obtain ⟨written, events, does⟩ := wrote.events
  rw [h.phase] at does
  constructor
  · rw [events]
    exact h.walks.append does
  · rw [events, standing_append fun event member => (does event member).2, same, h.phase]

end Stands

end Setup

namespace Act

variable {σ α : Type} {world : World σ} {setup : Setup} {phases : List Phase} {run after : Run σ}

/-- A run that is stopped is over. -/
theorem stands_stopped (h : setup.Stands phases run) (unfinished : run.phase.Open) :
    setup.Stands (phases ++ [.terminated]) (run.stopped world setup.session) := by
  obtain ⟨last, notified, same⟩ := run.exists_notified world setup
  rw [same]
  have notice : setup.Does run.phase
      (.send (Post.stop.written setup).1 (Post.stop.written setup).2) :=
    ⟨Setup.suits_send unfinished, rfl⟩
  have posted : Run.Wrote (setup.Does run.phase) run (run.posted world false
      (Post.stop.written setup).1 (Post.stop.written setup).2) :=
    .trans (.noted notice run) (.of_journal_eq rfl)
  refine (h.wrote ?_ ?_).entered .terminated
  · cases notified with
    | answered comes timely => exact posted.trans (.returned ⟨unfinished, rfl⟩ _ _ _)
    | unanswered => exact posted.trans (.of_journal_eq rfl)
  · cases notified with
    | answered comes timely => rfl
    | unanswered => rfl

section Exchanging

variable [Url.HostMapping] {post : Post} {codec : Json.Codec α}

/-- A run whose message is answered still stands where it posted it. -/
theorem Exchanged.stands {value : α}
    (h : Exchanged world setup.session post.endpoint (post.body setup) codec run (.ok value) after)
    (before : setup.Stands phases run) (suits : post.Suits run.phase) :
    setup.Stands phases after := by
  cases h with
  | answered alive comes meant =>
      refine before.wrote ?_ rfl
      exact .trans (.noted ⟨Setup.suits_send suits, rfl⟩ run)
        (.trans (.of_journal_eq rfl) (.returned ⟨suits.isOpen, rfl⟩ _ _ _))

theorem Exchanged.rests {result : Except Halt α}
    (h : Exchanged world setup.session post.endpoint (post.body setup) codec run result after)
    (before : setup.Stands phases run) (suits : post.Suits run.phase) :
    setup.Rests phases after := by
  have posted : Run.Wrote (setup.Does run.phase) run
      (run.posted world true (setup.session.resource post.endpoint) (post.body setup)) :=
    .trans (.noted ⟨Setup.suits_send suits, rfl⟩ run) (.of_journal_eq rfl)
  have answered (answer : Except TransportFault Bytes) (span : Millis) (last : σ) :
      setup.Stands phases ((run.posted world true (setup.session.resource post.endpoint)
        (post.body setup)).returned (.answer answer) span last) :=
    before.wrote (posted.trans (.returned ⟨suits.isOpen, rfl⟩ _ _ _)) rfl
  cases h with
  | fired lapsed => exact .inr (stands_stopped before suits.isOpen)
  | endless alive never => exact .inl (before.wrote posted rfl)
  | answered alive comes meant => exact .inl (answered _ _ _)
  | undecodable alive comes meant => exact .inl (answered _ _ _)
  | refused alive comes loud => exact .inl (answered _ _ _)
  | cancelled alive comes => exact .inr (stands_stopped (answered _ _ _) suits.isOpen)

end Exchanging

section Handling

theorem Searched.phase_eq {filters : List TokenInfo}
    {result : Except Halt (Option (Except CardFault TokenSearch))}
    (h : Searched world filters run result after) : after.phase = run.phase := by
  cases h with
  | fired lapsed => rfl
  | overtaken alive begun first => rfl
  | endless alive begun never settled => rfl
  | @found call alive begun span result last comes => cases result <;> rfl

theorem Polled.phase_eq {session : String} {filters : List TokenInfo} {deadline : Millis}
    {result : Except Halt (Option ListTokensResponse)}
    (h : Polled world session filters deadline run result after) : after.phase = run.phase := by
  induction h with
  | halted step => exact step.phase_eq
  | stopped step => exact step.phase_eq
  | failed step => exact step.phase_eq
  | matched step hit => exact step.phase_eq
  | late step miss lapsed => exact step.phase_eq
  | fired step miss early first => exact step.phase_eq
  | again step miss early rest ih => exact ih.trans step.phase_eq

theorem Asked.phase_eq {ρ : Type} {pins : PinPolicy} {encrypted : Option String} {budget : Millis}
    {refused : ResultCode → ρ} {granted : α → ρ} {begun : Option Pin → Event}
    {done : CardOutcome α → Event} {operation : Option Pin → Millis → σ → Call σ (CardOutcome α)}
    {reply : Option ρ}
    (h : Asked world pins encrypted budget refused granted begun done operation run reply after) :
    after.phase = run.phase := by
  cases h with
  | fired lapsed => rfl
  | spent alive spent => rfl
  | unusable alive unspent unwrapped => rfl
  | worked alive unspent unwrapped step => cases step <;> rfl

theorem Handled.phase_eq {command : Command} {result : Except Halt (Terminate ⊕ Option Reply)}
    (h : Handled world setup run command result after) : after.phase = run.phase := by
  cases h with
  | terminate message => rfl
  | endless step => exact step.phase_eq
  | listTokens step => exact step.phase_eq
  | listCertificates step => exact step.phase_eq
  | sign step => exact step.phase_eq

/-- A command is handled in the phase in which it was taken up. -/
theorem Handled.stands {command : Command} {result : Except Halt (Terminate ⊕ Option Reply)}
    (h : Handled world setup (run.entered .dispatching) command result after)
    (before : setup.Stands phases run) : setup.Stands (phases ++ [.dispatching]) after :=
  (before.entered .dispatching).wrote (h.wrote.mono fun _ => Setup.suits_of_handles) h.phase_eq

end Handling

end Act

/-- How far a conversation gets: to the greeting, or to a command that is waited for or handled, behind
so many replies. -/
inductive Progress where
  | greeting
  | awaiting (replies : Nat)
  | dispatching (replies : Nat)

namespace Progress

def rounds (count : Nat) : List Phase :=
  (List.replicate count [.dispatching, .awaitingCommand]).flatten

theorem rounds_succ (count : Nat) :
    rounds (count + 1) = rounds count ++ [.dispatching, .awaitingCommand] := by
  rw [rounds, List.replicate_succ', List.flatten_append, List.flatten_singleton, rounds]

/-- The phases that a run enters until it gets so far. -/
def phases : Progress → List Phase
  | .greeting => [.helloSent]
  | .awaiting replies => [.helloSent, .awaitingCommand] ++ rounds replies
  | .dispatching replies => [.helloSent, .awaitingCommand] ++ rounds replies ++ [.dispatching]

def replies : Progress → Nat
  | .greeting => 0
  | .awaiting replies | .dispatching replies => replies

def dispatched : Progress → Nat
  | .greeting => 0
  | .awaiting replies => replies
  | .dispatching replies => replies + 1

theorem phases_dispatching (replies : Nat) :
    (dispatching replies).phases = (awaiting replies).phases ++ [.dispatching] := rfl

theorem phases_awaiting_succ (replies : Nat) :
    (awaiting (replies + 1)).phases = (dispatching replies).phases ++ [.awaitingCommand] := by
  simp only [phases, rounds_succ, List.append_assoc, List.cons_append, List.nil_append]

theorem getLastD_phases (progress : Progress) : (progress.phases.getLastD .initial).Open := by
  cases progress with
  | greeting => constructor <;> simp [phases]
  | dispatching replies =>
      rw [phases_dispatching, List.getLastD_concat]
      constructor <;> simp
  | awaiting replies =>
      cases replies with
      | zero => constructor <;> simp [phases, rounds]
      | succ replies =>
          rw [phases_awaiting_succ, List.getLastD_concat]
          constructor <;> simp

end Progress

theorem Setup.Stands.isOpen {σ : Type} {setup : Setup} {run : Run σ} {progress : Progress}
    (h : setup.Stands progress.phases run) : run.phase.Open := by
  rw [h.phase_eq]
  exact progress.getLastD_phases

namespace Act

variable {σ : Type} {world : World σ} {setup : Setup} {state : σ} {run after : Run σ}

theorem Produced.stands {command : Command} {reply : Reply} {mid : Run σ} {replies : Nat}
    (h : Produced world setup command run reply mid)
    (before : setup.Stands (Progress.awaiting replies).phases run) :
    setup.Stands (Progress.awaiting (replies + 1)).phases (mid.entered .awaitingCommand) := by
  rw [Progress.phases_awaiting_succ]
  exact ((handled_of_eq h.handling).stands before).entered .awaitingCommand

variable [Url.HostMapping]

theorem Greeted.stands (h : Greeted world setup (Run.fresh state) (.ok ()) after) :
    setup.Stands Progress.greeting.phases after := by
  generalize hailed : Except.ok () = result at h
  cases h with
  | refused answer verdict => cases hailed
  | broken answer => cases hailed
  | admitted answer verdict =>
      have begun : setup.Stands _ _ := (Setup.Stands.fresh state).entered .helloSent
      exact ((exchanged_post .hello answer).stands begun rfl).informed _

theorem Greeted.rests {result : Except Halt Unit}
    (h : Greeted world setup (Run.fresh state) result after) :
    setup.Rests Progress.greeting.phases after := by
  have begun : setup.Stands _ _ := (Setup.Stands.fresh state).entered .helloSent
  cases h with
  | admitted answer verdict =>
      exact .inl (((exchanged_post .hello answer).stands begun rfl).informed _)
  | refused answer verdict =>
      exact .inl (((exchanged_post .hello answer).stands begun rfl).informed _)
  | broken answer => exact (exchanged_post .hello answer).rests begun rfl

theorem Opened.stands {first : Command} {opened : Run σ}
    (h : Opened world setup state first opened) :
    setup.Stands (Progress.awaiting 0).phases opened := by
  cases h with
  | intro greeting asking =>
      have waiting := (greeted_of_eq greeting).stands.entered .awaitingCommand
      exact (exchanged_post .getCommand asking).stands waiting rfl

section Serving

variable {command : Command} {replies : Nat}

/-- In a turn a command is taken up, and the next one is waited for. -/
theorem Turn.stands {reply : Reply} {next : Command}
    (h : Turn world setup command run reply next after)
    (before : setup.Stands (Progress.awaiting replies).phases run) :
    setup.Stands (Progress.awaiting (replies + 1)).phases after := by
  cases h with
  | intro produced answer =>
      exact (exchanged_post (.reply reply) answer).stands (produced.stands before) rfl

theorem Turns.stands {first last : Command} {opened arrival : Run σ} {replies : List Reply}
    (h : Turns world setup first opened replies last arrival)
    (before : setup.Stands (Progress.awaiting 0).phases opened) :
    setup.Stands (Progress.awaiting replies.length).phases arrival := by
  induction h with
  | nil => exact before
  | snoc turns turn ih =>
      rw [List.length_append, List.length_singleton]
      exact turn.stands ih

end Serving

end Act

namespace Setup

variable [Url.HostMapping] {σ : Type} {setup : Setup} {world : World σ} {bound : Nat} {state : σ}

/-- Behind so many others a command is dispatched: the token has not fired when it comes. -/
def Dispatches (setup : Setup) (world : World σ) (bound : Nat) (state : σ) (count : Nat) : Prop :=
  count < bound ∧ ∃ command arrival, setup.TakesUp world state count command arrival ∧
    world.hasFired arrival.now arrival.world = false

/-- Behind so many others a command comes to a reply. -/
def Produces (setup : Setup) (world : World σ) (bound : Nat) (state : σ) (count : Nat) : Prop :=
  count < bound ∧ ∃ command arrival reply mid, setup.TakesUp world state count command arrival ∧
    Act.Produced world setup command arrival reply mid

/-- A conversation gets so far: the hello is accepted, and so many commands are dispatched and come to
a reply. -/
structure Reaches (setup : Setup) (world : World σ) (bound : Nat) (state : σ) (progress : Progress) :
    Prop where
  greeted : progress ≠ .greeting ↔ ∃ mid, Act.hello world setup (Run.fresh state) = (.ok (), mid)
  dispatched : ∀ count, count < progress.dispatched ↔ setup.Dispatches world bound state count
  replied : ∀ count, count < progress.replies ↔ setup.Produces world bound state count

section Serving

variable {first last : Command} {opened arrival : Run σ} {replies : List Reply}

theorem exists_produced (opening : Act.Opened world setup state first opened)
    (turns : Act.Turns world setup first opened replies last arrival) {count : Nat}
    (earlier : count < replies.length) :
    ∃ command taken reply mid, setup.TakesUp world state count command taken ∧
      Act.Produced world setup command taken reply mid := by
  obtain ⟨command, taken, next, after, before, turn, -⟩ :=
    turns.turn_of_getElem? (List.getElem?_eq_getElem earlier)
  cases turn with
  | intro produced answer =>
      refine ⟨command, taken, _, _, takesUp_iff.mpr ⟨_, _, _, opening, before, ?_⟩, produced⟩
      rw [List.length_take, Nat.min_eq_left (Nat.le_of_lt earlier)]

/-- Behind the last command no further one is taken up. -/
theorem le_of_takesUp (opening : Act.Opened world setup state first opened)
    (turns : Act.Turns world setup first opened replies last arrival)
    {result : Except Halt Terminate} {after : Run σ}
    (ending : Act.Ends world setup last arrival result after) {count : Nat} {command : Command}
    {taken : Run σ} (takesUp : setup.TakesUp world state count command taken) :
    count ≤ replies.length := by
  apply Nat.le_of_not_lt
  intro later
  obtain ⟨more, rfl⟩ := Nat.exists_eq_add_of_lt later
  have cutting := takesUp.1
  rw [Act.converse_opened opening, Nat.add_assoc, turns.serve_eq, ending.serve_eq] at cutting
  obtain rfl := (Prod.mk.inj cutting).1
  exact ending.ne_cut rfl

variable (opening : Act.Opened world setup state first opened)
  (turns : Act.Turns world setup first opened replies last arrival) {result : Except Halt Terminate}
  {after : Run σ} (ending : Act.Ends world setup last arrival result after)
  (left : replies.length < bound) (count : Nat)

include opening turns ending left

theorem dispatches_iff : setup.Dispatches world bound state count ↔ count < replies.length ∨
    count = replies.length ∧ world.hasFired arrival.now arrival.world = false := by
  have arrives : setup.TakesUp world state replies.length last arrival :=
    takesUp_iff.mpr ⟨_, _, _, opening, turns, rfl⟩
  constructor
  · rintro ⟨-, command, taken, takesUp, alive⟩
    rcases Nat.lt_or_eq_of_le (le_of_takesUp opening turns ending takesUp) with earlier | rfl
    · exact .inl earlier
    · obtain ⟨-, rfl⟩ := arrives.unique takesUp
      exact .inr ⟨rfl, alive⟩
  · rintro (earlier | ⟨rfl, alive⟩)
    · obtain ⟨command, taken, reply, mid, takesUp, produced⟩ :=
        exists_produced opening turns earlier
      exact ⟨Nat.lt_trans earlier left, command, taken, takesUp, produced.alive⟩
    · exact ⟨left, last, arrival, arrives, alive⟩

theorem produces_iff : setup.Produces world bound state count ↔ count < replies.length ∨
    count = replies.length ∧ ∃ reply mid, Act.Produced world setup last arrival reply mid := by
  have arrives : setup.TakesUp world state replies.length last arrival :=
    takesUp_iff.mpr ⟨_, _, _, opening, turns, rfl⟩
  constructor
  · rintro ⟨-, command, taken, reply, mid, takesUp, produced⟩
    rcases Nat.lt_or_eq_of_le (le_of_takesUp opening turns ending takesUp) with earlier | rfl
    · exact .inl earlier
    · obtain ⟨rfl, rfl⟩ := arrives.unique takesUp
      exact .inr ⟨rfl, reply, mid, produced⟩
  · rintro (earlier | ⟨rfl, reply, mid, produced⟩)
    · obtain ⟨command, taken, reply, mid, takesUp, produced⟩ :=
        exists_produced opening turns earlier
      exact ⟨Nat.lt_trans earlier left, command, taken, reply, mid, takesUp, produced⟩
    · exact ⟨left, last, arrival, reply, mid, arrives, produced⟩

end Serving

/-- Behind a greeting that fails, or a command that never comes, nothing is taken up. -/
theorem reaches_of_unopened (unopened : ∀ first opened, ¬ Act.Opened world setup state first opened)
    {progress : Progress} (greeted : progress ≠ .greeting ↔
      ∃ mid, Act.hello world setup (Run.fresh state) = (.ok (), mid))
    (nothing : progress.dispatched = 0 ∧ progress.replies = 0) :
    setup.Reaches world bound state progress := by
  have never {count : Nat} {command : Command} {arrival : Run σ} :
      ¬ setup.TakesUp world state count command arrival := by
    intro takesUp
    obtain ⟨first, opened, replies, opening, -⟩ := takesUp_iff.mp takesUp
    exact unopened first opened opening
  refine ⟨greeted, fun count => ?_, fun count => ?_⟩
  · rw [nothing.1]
    refine iff_of_false (Nat.not_lt_zero count) ?_
    rintro ⟨-, command, arrival, takesUp, -⟩
    exact never takesUp
  · rw [nothing.2]
    refine iff_of_false (Nat.not_lt_zero count) ?_
    rintro ⟨-, command, arrival, reply, mid, takesUp, -⟩
    exact never takesUp

theorem exists_greeted {first : Command} {opened : Run σ}
    (opening : Act.Opened world setup state first opened) :
    ∃ mid, Act.hello world setup (Run.fresh state) = (.ok (), mid) := by
  cases opening with
  | intro greeting asking => exact ⟨_, greeting⟩

end Setup

namespace Act

variable [Url.HostMapping] {σ : Type} {world : World σ} {setup : Setup} {bound : Nat} {state : σ}
  {first last : Command} {opened arrival after : Run σ} {replies : List Reply}

theorem Turns.reaches (turns : Turns world setup first opened replies last arrival)
    (opening : Opened world setup state first opened) :
    setup.Reaches world replies.length state (.awaiting replies.length) := by
  refine ⟨iff_of_true (by simp) (Setup.exists_greeted opening), fun count => ?_, fun count => ?_⟩
  · constructor
    · intro earlier
      obtain ⟨command, taken, reply, mid, takesUp, produced⟩ :=
        Setup.exists_produced opening turns earlier
      exact ⟨earlier, command, taken, takesUp, produced.alive⟩
    · exact And.left
  · constructor
    · intro earlier
      exact ⟨earlier, Setup.exists_produced opening turns earlier⟩
    · exact And.left

/-- The last command is left waiting, or is handled without a reply, or the reply to it is the last. -/
theorem Ends.reaches {result : Except Halt Terminate}
    (ending : Ends world setup last arrival result after)
    (opening : Opened world setup state first opened)
    (turns : Turns world setup first opened replies last arrival) (left : replies.length < bound) :
    ∃ progress, setup.Reaches world bound state progress ∧ setup.Rests progress.phases after := by
  have greeted := Setup.exists_greeted opening
  have dispatched := Setup.dispatches_iff opening turns ending left
  have replied := Setup.produces_iff opening turns ending left
  have arrives := turns.stands opening.stands
  -- A command that is handled without a reply is counted, but no reply is.
  have mute (alive : world.hasFired arrival.now arrival.world = false)
      (silent : ∀ reply mid, ¬ Produced world setup last arrival reply mid) :
      setup.Reaches world bound state (.dispatching replies.length) := by
    refine ⟨iff_of_true (by simp) greeted, fun count => ?_, fun count => ?_⟩
    · rw [dispatched, Progress.dispatched]
      simp only [alive, and_true]
      omega
    · rw [replied, Progress.replies]
      simp only [silent, exists_false, and_false, or_false]
  have waiting : arrival.phase.Open := arrives.isOpen
  cases ending with
  | fired lapsed =>
      refine ⟨.awaiting replies.length, ⟨iff_of_true (by simp) greeted, fun count => ?_,
        fun count => ?_⟩, .inr (stands_stopped arrives waiting)⟩
      · rw [dispatched, Progress.dispatched]
        simp only [lapsed, Bool.true_eq_false, and_false, or_false]
      · have silent : ¬ ∃ reply mid, Produced world setup last arrival reply mid := by
          rintro ⟨reply, mid, produced⟩
          rw [produced.alive] at lapsed
          cases lapsed
        rw [replied, Progress.replies]
        simp only [silent, and_false, or_false]
  | terminated alive asked =>
      subst asked
      refine ⟨.dispatching replies.length, mute alive ?_,
        .inr ((arrives.entered .dispatching).entered .terminated)⟩
      intro reply mid produced
      cases produced.handling
  | @endless alive mid handling =>
      refine ⟨.dispatching replies.length, mute alive ?_, .inl ((handled_of_eq handling).stands arrives)⟩
      intro reply mid produced
      cases handling.symm.trans produced.handling
  | @stopped alive mid handling =>
      have working : setup.Stands (Progress.dispatching replies.length).phases mid :=
        (handled_of_eq handling).stands arrives
      refine ⟨.dispatching replies.length, mute alive ?_,
        .inr (stands_stopped working working.isOpen)⟩
      intro reply mid produced
      cases handling.symm.trans produced.handling
  | @broken reply mid produced reason after answer =>
      refine ⟨.awaiting (replies.length + 1), ⟨iff_of_true (by simp) greeted, fun count => ?_,
        fun count => ?_⟩, ?_⟩
      · rw [dispatched, Progress.dispatched]
        simp only [produced.alive, and_true]
        omega
      · have told : ∃ reply mid, Produced world setup last arrival reply mid :=
          ⟨reply, mid, produced⟩
        rw [replied, Progress.replies]
        simp only [told, and_true]
        omega
      · exact (exchanged_post (.reply reply) answer).rests (produced.stands arrives) rfl

/-- All of a conversation comes behind its greeting. -/
theorem Conversed.grows_greeted {result : Except Halt Terminate} {mid : Run σ}
    (h : Conversed world setup bound state result after)
    (greeting : hello world setup (Run.fresh state) = (.ok (), mid)) :
    mid.journal <+: after.journal := by
  have asking {result : Except Halt Command} {opened : Run σ}
      (answer : exchange world setup.session .getCommand
        (GetCommand.codec.encode ⟨setup.session.id⟩) Command.codec (mid.entered .awaitingCommand) =
          (result, opened)) : mid.journal <+: opened.journal :=
    (mid.entered_grows .awaitingCommand).trans (exchanged_post .getCommand answer).wrote.grows
  cases h with
  | unheard refused => cases refused.symm.trans greeting
  | unasked again asked =>
      obtain ⟨-, rfl⟩ := Prod.mk.inj (again.symm.trans greeting)
      exact asking asked
  | served opening serving =>
      cases opening with
      | intro again asked =>
          obtain ⟨-, rfl⟩ := Prod.mk.inj (again.symm.trans greeting)
          exact (asking asked).trans serving.grows

/-- A greeting that fails has had no answer that admits the run. -/
theorem Greeted.not_admitted {reason : Halt}
    (h : Greeted world setup (Run.fresh state) (.error reason) after) {response : HelloResponse}
    (hears : setup.Hears after.events response) : ¬ setup.Admits response := by
  intro admits
  have verdict := Setup.judge_eq_ok_iff.mpr admits
  cases h with
  | refused answer objected =>
      obtain ⟨bytes, events, meant⟩ := hello_answered answer
      obtain rfl := hears.unique ⟨bytes, [], events, meant⟩
      rw [objected] at verdict
      cases verdict
  | broken answer => exact hello_unheard answer response hears

theorem Conversed.reaches {result : Except Halt Terminate}
    (h : Conversed world setup bound state result after) :
    ∃ progress, setup.Reaches world bound state progress ∧ setup.Rests progress.phases after := by
  cases h with
  | @unheard reason after greeting =>
      have refused : ¬ ∃ mid, hello world setup (Run.fresh state) = (.ok (), mid) := by
        rintro ⟨mid, admitted⟩
        cases greeting.symm.trans admitted
      refine ⟨.greeting, Setup.reaches_of_unopened ?_ (iff_of_false (by simp) refused) ⟨rfl, rfl⟩,
        (greeted_of_eq greeting).rests⟩
      intro first opened opening
      exact refused (Setup.exists_greeted opening)
  | @unasked mid greeting reason after asking =>
      have waiting := (greeted_of_eq greeting).stands.entered .awaitingCommand
      refine ⟨.awaiting 0, Setup.reaches_of_unopened ?_ (iff_of_true (by simp) ⟨mid, greeting⟩)
        ⟨rfl, rfl⟩, (exchanged_post .getCommand asking).rests waiting rfl⟩
      rintro first opened ⟨again, asked⟩
      obtain ⟨-, rfl⟩ := Prod.mk.inj (greeting.symm.trans again)
      cases asking.symm.trans asked
  | served opening serving =>
      cases serving with
      | cut turns spent =>
          subst spent
          exact ⟨_, turns.reaches opening, .inl (turns.stands opening.stands)⟩
      | ended turns left ending => exact ending.reaches opening turns left

end Act

namespace Setup

variable {σ : Type} {setup : Setup} {world : World σ} {bound : Nat} {state : σ}

/-- What is cleaned up suits any phase that a run has come to, until the run is over. -/
theorem Stands.cleared {phases : List Phase} {mid : Run σ} (h : setup.Stands phases mid)
    (begun : mid.phase ≠ .initial) (slots : List SlotHandle) (notices : List Notice) :
    setup.Walks phases (mid.events ++ [.clearPins, .close]) ∧
      setup.Walks phases (mid.events ++
        ([.clearPins, .close] ++ (slots.map .disconnect ++ notices.map .present))) ∧
      standing (mid.events ++
        ([.clearPins, .close] ++ (slots.map .disconnect ++ notices.map .present))) = mid.phase := by
  rw [h.phase] at begun ⊢
  have forgotten : ∀ event ∈ [Event.clearPins, .close], setup.Does (standing mid.events) event := by
    simp [Does, Suits, Event.entered?, begun]
  have told : ∀ event ∈ [.clearPins, .close] ++ (slots.map .disconnect ++ notices.map .present),
      setup.Does (standing mid.events) event := by
    intro event member
    rcases List.mem_append.mp member with first | later
    · exact forgotten event first
    rcases List.mem_append.mp later with released | shown
    · obtain ⟨slot, -, rfl⟩ := List.mem_map.mp released
      exact ⟨begun, rfl⟩
    · obtain ⟨notice, -, rfl⟩ := List.mem_map.mp shown
      exact ⟨begun, rfl⟩
  exact ⟨h.walks.append forgotten, h.walks.append told,
    standing_append fun event member => (told event member).2⟩

/-- Behind its conversation a run becomes over, unless it is already or its connection is never
closed. -/
theorem Leaves.walks {progress : Progress} {mid after : Run σ} {result : Except Halt Terminate}
    {ending : Ending} (h : Leaves world mid result ending after)
    (before : setup.Rests progress.phases mid) :
    ∃ closing, setup.Walks (progress.phases ++ closing) after.events ∧
      (closing = [] ∨ closing = [.terminated]) ∧
      ∀ outcome, ending = .finished outcome → closing = [.terminated] := by
  have open_or_over : ∃ closing, setup.Stands (progress.phases ++ closing) mid ∧
      (closing = [] ∧ mid.phase.Open ∨ closing = [.terminated] ∧ mid.phase = .terminated) := by
    rcases before with unfinished | ended
    · refine ⟨[], ?_, .inl ⟨rfl, unfinished.isOpen⟩⟩
      rwa [List.append_nil]
    · refine ⟨[.terminated], ended, .inr ⟨rfl, ?_⟩⟩
      rw [ended.phase_eq, List.getLastD_concat]
  obtain ⟨closing, stands, known⟩ := open_or_over
  have either : closing = [] ∨ closing = [.terminated] := known.imp And.left And.left
  have begun : mid.phase ≠ .initial := by
    rcases known with ⟨-, unfinished⟩ | ⟨-, ended⟩
    · exact unfinished.1
    · simp [ended]
  cases h with
  | endless => exact ⟨closing, stands.walks, either, by simp⟩
  | cut => exact ⟨closing, stands.walks, either, by simp⟩
  | unclosed step =>
      cases step with
      | endless never wrote =>
          refine ⟨closing, ?_, either, by simp⟩
          rw [wrote.events_eq]
          exact (stands.cleared begun [] []).1
  | cleaned step =>
      cases step with
      | done closed wrote ended =>
          obtain ⟨-, told, same⟩ :=
            stands.cleared begun mid.connected mid.notices
          refine ⟨[.terminated], ?_, .inr rfl, fun _ _ => rfl⟩
          have events : after.events = mid.events ++ ([.clearPins, .close] ++
              (mid.connected.map .disconnect ++ mid.notices.map .present)) ++ mid.lapse := by
            rw [wrote.events_eq]
            simp only [List.append_assoc]
          rw [events]
          rcases known with ⟨rfl, unfinished⟩ | ⟨rfl, ended⟩
          · rw [List.append_nil] at told
            rw [Run.lapse, if_neg unfinished.2, ← same]
            exact told.enter .terminated
          · rw [Run.lapse, if_pos ended, List.append_nil]
            exact told

variable [Url.HostMapping]

theorem hails_iff_hears {events : List Event} : setup.Hails events ↔
    ∃ response, setup.Hears events response ∧ setup.Admits response := by
  constructor
  · rintro ⟨answer, response, rest, begins, meant, admits⟩
    refine ⟨response, ⟨answer, rest, ?_, meant⟩, admits⟩
    simp only [begins, Post.written_hello, encode_hello]
  · rintro ⟨response, ⟨answer, rest, begins, meant⟩, admits⟩
    refine ⟨answer, response, rest, ?_, meant, admits⟩
    simp only [begins, Post.written_hello, encode_hello]

/-- The hello is accepted where the journal begins with an answer that admits the run. -/
theorem hails_iff : setup.Hails (setup.run world bound state).2.events ↔
    ∃ mid, Act.hello world setup (Run.fresh state) = (.ok (), mid) := by
  obtain ⟨result, last, -, conversed, -, cleaning⟩ := exists_conversed setup world bound state
  obtain ⟨cleared, events, kind⟩ := cleaning.events
  rw [hails_iff_hears, events]
  constructor
  · rintro ⟨response, hears, admits⟩
    have heard : setup.Hears last.events response := by
      refine hears.of_append ?_
      intro answer member
      cases kind _ member
    cases conversed with
    | unheard greeting =>
        exact absurd admits ((Act.greeted_of_eq greeting).not_admitted heard)
    | unasked greeting asking => exact ⟨_, greeting⟩
    | served opening serving => exact exists_greeted opening
  · rintro ⟨mid, greeting⟩
    obtain ⟨answer, response, greeted, meant, verdict⟩ :=
      (Act.greeted_of_eq greeting).events_eq
    obtain ⟨rest, grown⟩ := Run.events_grow (conversed.grows_greeted greeting)
    have heard : setup.Hears mid.events response := ⟨answer, [], greeted, meant⟩
    rw [← grown]
    exact ⟨response, (heard.append rest).append cleared, judge_eq_ok_iff.mp verdict⟩

/-- The phases of a run: it greets the server; if the hello is accepted it waits for a command, and
does so again behind each reply that a command has come to; each command that is dispatched is handled
in a phase of its own; and a run that ends becomes over, once and last. All that is posted and asked of
the card suits the phase in which it happens. -/
theorem run_walks_through_phases (setup : Setup) (world : World σ) (bound : Nat) (state : σ) :
    ∃ progress closing,
      setup.Walks (Progress.phases progress ++ closing) (setup.run world bound state).2.events ∧
      (closing = [] ∨ closing = [.terminated]) ∧
      (∀ outcome, (setup.run world bound state).1 = .finished outcome → closing = [.terminated]) ∧
      (progress ≠ .greeting ↔ setup.Hails (setup.run world bound state).2.events) ∧
      (∀ count, count < progress.dispatched ↔ setup.Dispatches world bound state count) ∧
      ∀ count, count < progress.replies ↔ setup.Produces world bound state count := by
  rcases conversing : Act.converse world setup bound (Run.fresh state) with ⟨result, mid⟩
  have conversed := Act.conversed world setup bound state
  rw [conversing] at conversed
  obtain ⟨progress, reaches, rests⟩ := conversed.reaches
  obtain ⟨closing, walks, either, final⟩ := (leaves conversing).walks rests
  exact ⟨progress, closing, walks, either, final, reaches.greeted.trans hails_iff.symm,
    reaches.dispatched, reaches.replied⟩

end Setup

end CardGateway
