import CardGateway.Run.Journal
import CardGateway.Run.Setup

/-!
# Exchanges of a run

Messages go to the resource of their endpoint, one at a time. A run whose token has fired sends a last
one, so that the server knows, and waits for its answer only a while.
-/

namespace CardGateway

open CardGateway.Json

namespace Act

variable {σ : Type}

/-- How long the answer to the last message of a stopped run is waited for. -/
def stopPatience : Millis := 10000

def post (world : World σ) (resource : String) (body : Bytes) :
    Act σ (Except TransportFault Bytes) := do
  note (.send resource body)
  let answer ← finish (← start fun now => world.send now true resource body)
  note (.answer answer)
  return answer

/-- Posts a message that the token does not stop. What the server makes of it does not matter. -/
def notify (world : World σ) (resource : String) (body : Bytes) : Act σ Unit := do
  note (.send resource body)
  let call ← start fun now => world.send now false resource body
  match call.ends with
  | some (span, answer, after) =>
      if span ≤ stopPatience then
        pass span after
        note (.answer answer)
      else pass stopPatience (call.dropped stopPatience)
  | none => pass stopPatience (call.dropped stopPatience)

/-- Tells the server that the run is stopped, and ends it. -/
def stop {α : Type} (world : World σ) (session : Session) : Act σ α := do
  notify world (session.resource .terminate)
    (Terminate.codec.encode ⟨some session.id, .stopped⟩)
  enter .terminated
  fail .cancelled

/-- Posts a body to an endpoint and reads the answer. -/
def exchange [Url.HostMapping] {α : Type} (world : World σ) (session : Session)
    (endpoint : Endpoint) (body : Bytes) (codec : Codec α) : Act σ α := do
  if ← hasFired world then stop world session
  else
    match ← post world (session.resource endpoint) body with
    | .ok answer => ofExcept (session.decode codec answer)
    | .error .cancelled => stop world session
    | .error fault => fail (session.connectionFailure fault)

end Act

end CardGateway
