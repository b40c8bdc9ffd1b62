import CardGateway.Proofs.Exchange
import CardGateway.Proofs.Handling

/-!
# Turns of a run

In a turn a command is taken up, handled and answered, and the server answers the reply with the next
command. Commands are served in a row of turns, behind which the run is cut or comes to an end.
-/

namespace CardGateway

/-- The last thing that has happened is an answer that means a command. -/
def Run.Received {σ : Type} (run : Run σ) (command : Command) : Prop :=
  ∃ answer, run.events.getLast? = some (.answer (.ok answer)) ∧
    Command.codec.decode answer = .ok command

theorem Run.Received.unique {σ : Type} {run : Run σ} {first second : Command}
    (h : run.Received first) (again : run.Received second) : first = second := by
  obtain ⟨answer, last, meant⟩ := h
  obtain ⟨same, also, twice⟩ := again
  obtain rfl : answer = same := by
    rw [last] at also
    exact Except.ok.inj (Event.answer.inj (Option.some.inj also))
  exact Except.ok.inj (meant.symm.trans twice)

namespace Act

variable {σ : Type} {world : World σ} {setup : Setup}

/-- A command is taken up, and a reply is what its handling comes to. -/
structure Produced (world : World σ) (setup : Setup) (command : Command) (run : Run σ)
    (reply : Reply) (mid : Run σ) : Prop where
  alive : world.hasFired run.now run.world = false
  handling : handle world setup command (run.entered .dispatching) = (.ok (.inr (some reply)), mid)

namespace Produced

variable {command : Command} {run mid : Run σ} {reply : Reply}

theorem grows (h : Produced world setup command run reply mid) : run.journal <+: mid.journal :=
  (run.entered_grows .dispatching).trans (handled_of_eq h.handling).wrote.grows

theorem sent_eq (h : Produced world setup command run reply mid) :
    sent mid.events = sent run.events := by
  rw [(handled_of_eq h.handling).sent_eq, Run.sent_entered]

theorem dispatches_eq (h : Produced world setup command run reply mid) :
    dispatches mid.events = dispatches run.events + 1 := by
  rw [(handled_of_eq h.handling).dispatches_eq, Run.events_entered, dispatches_append]
  rfl

end Produced

variable [Url.HostMapping]

theorem Exchanged.received {endpoint : Endpoint} {body : Bytes} {run after : Run σ}
    {command : Command}
    (h : Exchanged world setup.session endpoint body Command.codec run (.ok command) after) :
    after.Received command := by
  cases h with
  | answered alive comes meant =>
      refine ⟨_, ?_, meant⟩
      rw [Run.events_returned, List.getLast?_concat]

/-- A reply is produced, and what the server answers to it is the next command. -/
inductive Turn (world : World σ) (setup : Setup) (command : Command) (run : Run σ) :
    Reply → Command → Run σ → Prop where
  | intro {reply : Reply} {mid : Run σ} (produced : Produced world setup command run reply mid)
      {next : Command} {after : Run σ}
      (answer : exchange world setup.session reply.endpoint reply.encode Command.codec
        (mid.entered .awaitingCommand) = (.ok next, after)) :
      Turn world setup command run reply next after

/-- A row of turns, with the replies that were posted in them. -/
inductive Turns (world : World σ) (setup : Setup) (first : Command) (run : Run σ) :
    List Reply → Command → Run σ → Prop where
  | nil : Turns world setup first run [] first run
  | snoc {replies : List Reply} {command : Command} {arrival : Run σ} {reply : Reply}
      {next : Command} {after : Run σ}
      (turns : Turns world setup first run replies command arrival)
      (turn : Turn world setup command arrival reply next after) :
      Turns world setup first run (replies ++ [reply]) next after

/-- How a command that has come may be the last one. -/
inductive Ends (world : World σ) (setup : Setup) (command : Command) (run : Run σ) :
    Except Halt Terminate → Run σ → Prop where
  | fired (lapsed : world.hasFired run.now run.world = true) :
      Ends world setup command run (.error (.failed .cancelled)) (run.stopped world setup.session)
  | terminated (alive : world.hasFired run.now run.world = false) {message : Terminate}
      (asked : command = .terminate message) :
      Ends world setup command run (.ok message)
        ((run.entered .dispatching).entered .terminated)
  | endless (alive : world.hasFired run.now run.world = false) {mid : Run σ}
      (handling : handle world setup command (run.entered .dispatching) = (.error .endless, mid)) :
      Ends world setup command run (.error .endless) mid
  | stopped (alive : world.hasFired run.now run.world = false) {mid : Run σ}
      (handling : handle world setup command (run.entered .dispatching) = (.ok (.inr none), mid)) :
      Ends world setup command run (.error (.failed .cancelled)) (mid.stopped world setup.session)
  | broken {reply : Reply} {mid : Run σ} (produced : Produced world setup command run reply mid)
      {reason : Halt} {after : Run σ}
      (answer : exchange world setup.session reply.endpoint reply.encode Command.codec
        (mid.entered .awaitingCommand) = (.error reason, after)) :
      Ends world setup command run (.error reason) after

theorem Ends.ne_cut {command : Command} {run after : Run σ} {reason : Halt}
    (h : Ends world setup command run (.error reason) after) : reason ≠ .cut := by
  cases h with
  | fired lapsed => simp
  | endless alive handling => simp
  | stopped alive handling => simp
  | broken produced answer => exact (exchanged_of_eq answer).ne_cut

theorem Ends.grows {command : Command} {run after : Run σ} {result : Except Halt Terminate}
    (h : Ends world setup command run result after) : run.journal <+: after.journal := by
  have taken := run.entered_grows .dispatching
  cases h with
  | fired lapsed => exact run.stopped_grows
  | terminated alive asked => exact taken.trans (Run.entered_grows .terminated _)
  | endless alive handling => exact taken.trans (handled_of_eq handling).wrote.grows
  | stopped alive handling =>
      exact taken.trans ((handled_of_eq handling).wrote.grows.trans (Run.stopped_grows _))
  | broken produced answer =>
      rename_i reply mid reason
      have answered := (exchanged_post (.reply reply) answer).wrote
      exact produced.grows.trans ((mid.entered_grows .awaitingCommand).trans answered.grows)

inductive Served (world : World σ) (setup : Setup) (bound : Nat) (command : Command) (run : Run σ) :
    Except Halt Terminate → Run σ → Prop where
  | cut {replies : List Reply} {last : Command} {arrival : Run σ}
      (turns : Turns world setup command run replies last arrival)
      (spent : replies.length = bound) :
      Served world setup bound command run (.error .cut) arrival
  | ended {replies : List Reply} {last : Command} {arrival : Run σ}
      (turns : Turns world setup command run replies last arrival)
      (left : replies.length < bound) {result : Except Halt Terminate} {after : Run σ}
      (ending : Ends world setup last arrival result after) :
      Served world setup bound command run result after

namespace Turn

variable {command next : Command} {run after : Run σ} {reply : Reply}

theorem grows (h : Turn world setup command run reply next after) :
    run.journal <+: after.journal := by
  cases h with
  | intro produced answer =>
      rename_i mid
      have answered := (exchanged_post (.reply reply) answer).wrote
      exact produced.grows.trans ((mid.entered_grows .awaitingCommand).trans answered.grows)

theorem received (h : Turn world setup command run reply next after) : after.Received next := by
  cases h with
  | intro produced answer => exact (exchanged_of_eq answer).received

theorem sent_eq (h : Turn world setup command run reply next after) :
    sent after.events = sent run.events ++ [(Post.reply reply).written setup] := by
  cases h with
  | intro produced answer =>
      obtain ⟨own, _, whole, posted⟩ := (exchanged_post (.reply reply) answer).sent_eq
      rw [whole next rfl] at posted
      rw [posted, Run.sent_entered, produced.sent_eq]
      rfl

theorem dispatches_eq (h : Turn world setup command run reply next after) :
    dispatches after.events = dispatches run.events + 1 := by
  cases h with
  | intro produced answer =>
      have answered := (exchanged_post (.reply reply) answer).wrote
      rw [answered.dispatches_eq fun _ => Exchanges.isDispatch_eq_false, Run.events_entered,
        dispatches_append, produced.dispatches_eq]
      rfl

end Turn

theorem serve_fired {bound : Nat} {command : Command} {run : Run σ}
    (lapsed : world.hasFired run.now run.world = true) :
    serve world setup (bound + 1) command run =
      (.error (.failed .cancelled), run.stopped world setup.session) := by
  simp only [serve, bind_apply, hasFired, view, lapsed, if_true, stop_apply]

theorem serve_alive {bound : Nat} {command : Command} {run mid : Run σ}
    {result : Except Halt (Terminate ⊕ Option Reply)}
    (alive : world.hasFired run.now run.world = false)
    (handling : handle world setup command (run.entered .dispatching) = (result, mid)) :
    serve world setup (bound + 1) command run =
      match result with
      | .error reason => (.error reason, mid)
      | .ok (.inl message) => (.ok message, mid.entered .terminated)
      | .ok (.inr none) => (.error (.failed .cancelled), mid.stopped world setup.session)
      | .ok (.inr (some reply)) =>
          (exchange world setup.session reply.endpoint reply.encode Command.codec >>=
            serve world setup bound) (mid.entered .awaitingCommand) := by
  simp only [serve, bind_apply, hasFired, view, alive, Bool.false_eq_true, if_false, enter_apply,
    handling]
  cases result with
  | error reason => rfl
  | ok outcome =>
      cases outcome with
      | inl message => rfl
      | inr reply =>
          cases reply with
          | none => exact stop_apply world setup.session mid
          | some reply => rfl

theorem Ends.serve_eq {command : Command} {run after : Run σ} {result : Except Halt Terminate}
    (h : Ends world setup command run result after) (bound : Nat) :
    serve world setup (bound + 1) command run = (result, after) := by
  cases h with
  | fired lapsed => exact serve_fired lapsed
  | terminated alive asked =>
      subst asked
      exact serve_alive alive rfl
  | endless alive handling => exact serve_alive alive handling
  | stopped alive handling => exact serve_alive alive handling
  | broken produced answer =>
      rw [serve_alive produced.alive produced.handling]
      exact bind_error answer

namespace Turns

variable {first last : Command} {run arrival : Run σ} {replies : List Reply}

theorem grows (turns : Turns world setup first run replies last arrival) :
    run.journal <+: arrival.journal := by
  induction turns with
  | nil => exact List.prefix_rfl
  | snoc turns turn ih => exact ih.trans turn.grows

theorem received (turns : Turns world setup first run replies last arrival)
    (begins : run.Received first) : arrival.Received last := by
  cases turns with
  | nil => exact begins
  | snoc turns turn => exact turn.received

theorem sent_eq (turns : Turns world setup first run replies last arrival) :
    sent arrival.events =
      sent run.events ++ replies.map fun reply => (Post.reply reply).written setup := by
  induction turns with
  | nil => exact (List.append_nil _).symm
  | snoc turns turn ih =>
      rw [turn.sent_eq, ih, List.map_append, List.append_assoc]
      rfl

theorem dispatches_eq (turns : Turns world setup first run replies last arrival) :
    dispatches arrival.events = dispatches run.events + replies.length := by
  induction turns with
  | nil => rfl
  | snoc turns turn ih =>
      rw [turn.dispatches_eq, ih, List.length_append, List.length_singleton, Nat.add_assoc]

theorem cons {command next : Command} {mid : Run σ} {reply : Reply}
    (turn : Turn world setup command run reply next mid)
    (turns : Turns world setup next mid replies last arrival) :
    Turns world setup command run (reply :: replies) last arrival := by
  induction turns with
  | nil => exact .snoc .nil turn
  | snoc turns later ih => exact .snoc ih later

theorem serve_eq (turns : Turns world setup first run replies last arrival) (left : Nat) :
    serve world setup (replies.length + left) first run = serve world setup left last arrival := by
  induction turns generalizing left with
  | nil => rw [List.length_nil, Nat.zero_add]
  | @snoc replies command arrival reply next after turns turn ih =>
      cases turn with
      | intro produced answer =>
          have count : (replies ++ [reply]).length + left = replies.length + (left + 1) := by
            rw [List.length_append, List.length_singleton, Nat.add_assoc, Nat.add_comm 1 left]
          rw [count, ih, serve_alive produced.alive produced.handling]
          exact bind_ok answer

/-- Each reply was posted in a turn of its own, which the turns before it led up to. -/
theorem turn_of_getElem? (turns : Turns world setup first run replies last arrival)
    {i : Nat} {reply : Reply} (at_i : replies[i]? = some reply) :
    ∃ command taken next after, Turns world setup first run (replies.take i) command taken ∧
      Turn world setup command taken reply next after ∧ after.journal <+: arrival.journal := by
  induction turns with
  | nil => simp at at_i
  | @snoc replies command arrival posted next after turns turn ih =>
      rcases Nat.lt_trichotomy i replies.length with earlier | rfl | later
      · rw [List.getElem?_append_left earlier] at at_i
        obtain ⟨command, taken, next, mid, before, this, growth⟩ := ih at_i
        refine ⟨command, taken, next, mid, ?_, this, growth.trans turn.grows⟩
        rwa [List.take_append_of_le_length (Nat.le_of_lt earlier)]
      · obtain rfl : posted = reply := by simpa using at_i
        refine ⟨command, arrival, next, after, ?_, turn, List.prefix_rfl⟩
        rwa [List.take_left]
      · have beyond : (replies ++ [posted]).length ≤ i := by
          rwa [List.length_append, List.length_singleton]
        rw [List.getElem?_eq_none beyond] at at_i
        cases at_i

end Turns

theorem Served.grows {bound : Nat} {command : Command} {run after : Run σ}
    {result : Except Halt Terminate} (h : Served world setup bound command run result after) :
    run.journal <+: after.journal := by
  cases h with
  | cut turns spent => exact turns.grows
  | ended turns left ending => exact turns.grows.trans ending.grows

theorem served (world : World σ) (setup : Setup) (bound : Nat) (command : Command) (run : Run σ) :
    Served world setup bound command run (serve world setup bound command run).1
      (serve world setup bound command run).2 := by
  induction bound generalizing command run with
  | zero => exact .cut .nil rfl
  | succ bound ih =>
      have ended {result : Except Halt Terminate} {after : Run σ}
          (ending : Ends world setup command run result after) :
          Served world setup (bound + 1) command run result after :=
        .ended .nil (Nat.zero_lt_succ bound) ending
      cases alive : world.hasFired run.now run.world with
      | true =>
          rw [serve_fired alive]
          exact ended (.fired alive)
      | false =>
          rcases handling : handle world setup command (run.entered .dispatching) with
            ⟨reason | message | _ | reply, mid⟩
          · rw [serve_alive alive handling]
            obtain rfl := (handled_of_eq handling).eq_endless
            exact ended (.endless alive handling)
          · rw [serve_alive alive handling]
            obtain ⟨asked, rfl⟩ := (handled_of_eq handling).eq_terminate
            exact ended (.terminated alive asked)
          · rw [serve_alive alive handling]
            exact ended (.stopped alive handling)
          · rw [serve_alive alive handling]
            rcases answer : exchange world setup.session reply.endpoint reply.encode Command.codec
              (mid.entered .awaitingCommand) with ⟨reason | next, after⟩
            · simp only [bind_error answer]
              exact ended (.broken ⟨alive, handling⟩ answer)
            · simp only [bind_ok answer]
              have turn := Turn.intro ⟨alive, handling⟩ answer
              have rest := ih next after
              generalize serve world setup bound next after = served at rest ⊢
              obtain ⟨result, final⟩ := served
              cases rest with
              | cut turns spent =>
                  exact .cut (turns.cons turn) (congrArg (· + 1) spent)
              | ended turns left ending =>
                  exact .ended (turns.cons turn) (Nat.succ_lt_succ left) ending

end Act

end CardGateway
