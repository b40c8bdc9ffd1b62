import CardGateway.Card.Service
import CardGateway.Session.Basic
import CardGateway.Time.Race

/-!
# What surrounds a run

The gateway, the card, the user and the run's cancellation token, as a run deals with them. Nothing is
assumed of them: they answer from a state of their own, after a while or never, and decide when the
token fires.
-/

namespace CardGateway

structure Call (σ α : Type) where
  /-- The state of the world once it has begun. -/
  begun : σ
  /-- The span after which it ends, with what comes of it, unless it never does. -/
  ends : Option (Millis × α × σ)
  /-- The state of the world if it is dropped after a span. -/
  dropped : Millis → σ

/-- The instant at which a call that begins at another one ends. -/
def Call.endsAt {σ α : Type} (call : Call σ α) (now : Millis) : Option Millis :=
  call.ends.map fun (span, _) => now + span

def Call.atOnce {σ α : Type} (state : σ) (value : α) : Call σ α where
  begun := state
  ends := some (0, value, state)
  dropped _ := state

/-- A call that concerns a part of a state. -/
def Call.carry {σ τ α : Type} (put : σ → τ) (call : Call σ α) : Call τ α where
  begun := put call.begun
  ends := call.ends.map fun (span, value, after) => (span, value, put after)
  dropped span := put (call.dropped span)

inductive CardOutcome (α : Type) where
  | value (value : α)
  | fault (fault : CardFault)
  /-- The operation broke down. -/
  | crash
  deriving Repr

def CardOutcome.ofExcept {α : Type} : Except CardFault α → CardOutcome α
  | .ok result => .value result
  | .error reason => .fault reason

inductive Wakening where
  /-- What was waited for has come. -/
  | ended
  | deadline
  | fired
  deriving DecidableEq, Repr

structure World (σ : Type) where
  /-- The instant at which the token fires or has fired, as far as it is settled. -/
  fires : σ → Option Millis
  /-- Posts a body to a resource. The token stops it only if it is guarded. -/
  send : (now : Millis) → (guarded : Bool) → (resource : String) → Bytes → σ →
    Call σ (Except TransportFault Bytes)
  /-- Releases the connection, and tells whether that worked. -/
  close : Millis → σ → Call σ Bool
  findTokens : Millis → List TokenInfo → σ → Call σ (Except CardFault TokenSearch)
  listCertificates : Millis → SlotHandle → List CertificateFilter → Option Pin → σ →
    Call σ (CardOutcome (List CertificateInfo))
  sign : Millis → SlotHandle → (didName : String) → Option Pin → (message : Bytes) → σ →
    Call σ (CardOutcome Bytes)
  clearPins : Millis → σ → σ
  /-- Starts to release a slot. Nobody waits for that. -/
  disconnect : Millis → SlotHandle → σ → σ
  present : Millis → Notice → σ → σ
  /-- What prevails where several reasons to stop waiting come at one instant. -/
  precedence : Millis → σ → List Wakening

namespace World

variable {σ : Type}

def hasFired (world : World σ) (now : Millis) (state : σ) : Bool :=
  match world.fires state with
  | some t => t ≤ now
  | none => false

/-- Waits for one of three, the one that comes first. -/
def race (world : World σ) (now : Millis) (state : σ) (ends deadline : Option Millis) :
    Option (Wakening × Millis) :=
  let instant : Wakening → Option Millis
    | .ended => ends
    | .deadline => deadline
    | .fired => (world.fires state).map (max now)
  let order : List Wakening := world.precedence now state ++ [.ended, .deadline, .fired]
  winner (order.map fun reason => (reason, instant reason))

/-- Whether the end of a budget forestalls work that could begin at once. -/
def isSpent (world : World σ) (budget now : Millis) (state : σ) : Bool :=
  match world.race now state (some now) (some (now + budget)) with
  | some (.deadline, _) => true
  | _ => false

end World

end CardGateway
