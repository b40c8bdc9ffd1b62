import CardGateway.Message.Command
import CardGateway.Message.Hello
import CardGateway.Run.World

/-!
# Runs as they go on

The clock, the phase and the journal of a run, and the actions out of which it is made. The journal
holds all that the run does, and what comes back, in order.
-/

namespace CardGateway

inductive Phase where
  | initial
  | helloSent
  | awaitingCommand
  | dispatching
  | terminated
  deriving DecidableEq, Repr

def Phase.text : Phase → String
  | .initial => "init"
  | .helloSent => "hello-sent"
  | .awaitingCommand => "awaiting-command"
  | .dispatching => "dispatching"
  | .terminated => "terminated"

inductive Event where
  | enter (before after : Phase)
  | send (resource : String) (body : Bytes)
  | answer (answer : Except TransportFault Bytes)
  | findTokens (filters : List TokenInfo)
  | found (result : Except CardFault TokenSearch)
  | listCertificates (slot : SlotHandle) (filters : List CertificateFilter) (pin : Option Pin)
  | listed (outcome : CardOutcome (List CertificateInfo))
  | sign (slot : SlotHandle) (didName : String) (pin : Option Pin) (message : Bytes)
  | signed (outcome : CardOutcome Bytes)
  | clearPins
  | close
  | disconnect (slot : SlotHandle)
  | present (notice : Notice)

structure Entry where
  time : Millis
  event : Event

structure Run (σ : Type) where
  now : Millis
  world : σ
  phase : Phase
  /-- The slots that searches have connected. -/
  connected : List SlotHandle
  /-- What the user is told in the end. -/
  notices : List Notice
  journal : List Entry

inductive Halt where
  | failed (failure : Failure)
  /-- It waits for something that never comes. -/
  | endless
  /-- It has taken up as many commands as it may. -/
  | cut
  deriving DecidableEq, Repr

/-- A part of a run: it ends with a value, or with the run. -/
def Act (σ α : Type) : Type := Run σ → Except Halt α × Run σ

namespace Act

variable {σ α β : Type}

instance : Monad (Act σ) where
  pure value := fun run => (.ok value, run)
  bind act next := fun run =>
    match act run with
    | (.ok value, run) => next value run
    | (.error halt, run) => (.error halt, run)

theorem pure_apply (value : α) (run : Run σ) : (pure value : Act σ α) run = (.ok value, run) := rfl

theorem bind_apply (act : Act σ α) (next : α → Act σ β) (run : Run σ) :
    (act >>= next) run =
      match act run with
      | (.ok value, run) => next value run
      | (.error halt, run) => (.error halt, run) := rfl

def halt (reason : Halt) : Act σ α := fun run => (.error reason, run)

def fail (failure : Failure) : Act σ α := halt (.failed failure)

def ofExcept : Except Failure α → Act σ α
  | .ok value => pure value
  | .error failure => fail failure

def view (f : Run σ → α) : Act σ α := fun run => (.ok (f run), run)

def update (f : Run σ → Run σ) : Act σ Unit := fun run => (.ok (), f run)

def note (event : Event) : Act σ Unit :=
  update fun run => { run with journal := run.journal ++ [⟨run.now, event⟩] }

def enter (phase : Phase) : Act σ Unit := fun run =>
  (.ok (), { run with
    phase
    journal := run.journal ++ [⟨run.now, .enter run.phase phase⟩] })

def touch (f : Millis → σ → σ) : Act σ Unit :=
  update fun run => { run with world := f run.now run.world }

def hasFired (world : World σ) : Act σ Bool :=
  view fun run => world.hasFired run.now run.world

/-- Time goes by until the world is in another state. -/
def pass (span : Millis) (after : σ) : Act σ Unit :=
  update fun run => { run with now := run.now + span, world := after }

def start (call : Millis → σ → Call σ α) : Act σ (Call σ α) := fun run =>
  let call := call run.now run.world
  (.ok call, { run with world := call.begun })

/-- Waits for a call to end, however long it takes. -/
def finish (call : Call σ α) : Act σ α :=
  match call.ends with
  | none => halt .endless
  | some (span, value, after) => do
      pass span after
      return value

/-- Time does not run back in an action. -/
def Forward (act : Act σ α) : Prop := ∀ run, run.now ≤ (act run).2.now

theorem forward_pure (value : α) : Forward (pure value : Act σ α) := fun _ => Nat.le_refl _

theorem forward_bind {act : Act σ α} {next : α → Act σ β} (first : Forward act)
    (later : ∀ value, Forward (next value)) : Forward (act >>= next) := by
  intro run
  have passed := first run
  rw [bind_apply]
  split <;> rename_i stepped <;> rw [stepped] at passed
  · exact Nat.le_trans passed (later _ _)
  · exact passed

theorem forward_halt (reason : Halt) : Forward (halt reason : Act σ α) := fun _ => Nat.le_refl _

theorem forward_view (f : Run σ → α) : Forward (view f) := fun _ => Nat.le_refl _

theorem forward_update {f : Run σ → Run σ} (h : ∀ run, run.now ≤ (f run).now) :
    Forward (update f) := h

theorem forward_note (event : Event) : Forward (note event : Act σ Unit) :=
  forward_update fun _ => Nat.le_refl _

theorem forward_start (call : Millis → σ → Call σ α) : Forward (start call) :=
  fun _ => Nat.le_refl _

theorem forward_pass (span : Millis) (after : σ) : Forward (pass span after) :=
  forward_update fun _ => Nat.le_add_right _ _

theorem forward_finish (call : Call σ α) : Forward (finish call) := by
  unfold finish
  split
  · exact forward_halt _
  · exact forward_bind (forward_pass _ _) fun _ => forward_pure _

end Act

end CardGateway
