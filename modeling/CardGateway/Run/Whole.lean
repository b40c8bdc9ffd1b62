import CardGateway.Run.Exchange
import CardGateway.Run.Handling

/-!
# Whole runs

A run says hello, asks for a command and answers commands until one ends the session. Whatever comes
of it, PINs are forgotten, the connection is closed, the slots are released, and only then the user is
told what there is to tell.
-/

namespace CardGateway

namespace Act

variable [Url.HostMapping] {σ : Type}

/-- Says hello, and goes on only if the answer is good. -/
def hello (world : World σ) (setup : Setup) : Act σ Unit := do
  enter .helloSent
  let response ← exchange world setup.session .hello (HelloRequest.codec.encode setup.hello)
    HelloResponse.codec
  let (notices, verdict) := setup.judge response
  update fun run => { run with notices := run.notices ++ notices }
  ofExcept verdict

/-- What a command comes to: the message that ends the session, or a reply, none if the run is
stopped. -/
def handle (world : World σ) (setup : Setup) : Command → Act σ (Terminate ⊕ Option Reply)
  | .terminate message => pure (.inl message)
  | .listTokens request => do
      return .inr ((← listTokens world setup request).map .listTokens)
  | .listCertificates request => do
      return .inr ((← listCertificates world setup request).map .listCertificates)
  | .sign request => do return .inr ((← sign world setup request).map .sign)

/-- Handles one command after the other, up to a bound. -/
def serve (world : World σ) (setup : Setup) : Nat → Command → Act σ Terminate
  | 0, _ => halt .cut
  | bound + 1, command => do
      if ← hasFired world then stop world setup.session
      else
        enter .dispatching
        match ← handle world setup command with
        | .inl message =>
            enter .terminated
            return message
        | .inr none => stop world setup.session
        | .inr (some reply) =>
            enter .awaitingCommand
            let next ← exchange world setup.session reply.endpoint reply.encode Command.codec
            serve world setup bound next

def converse (world : World σ) (setup : Setup) (bound : Nat) : Act σ Terminate := do
  hello world setup
  enter .awaitingCommand
  let first ← exchange world setup.session .getCommand
    (GetCommand.codec.encode ⟨setup.session.id⟩) Command.codec
  serve world setup bound first

def disconnectAll (world : World σ) : List SlotHandle → Act σ Unit
  | [] => pure ()
  | slot :: rest => do
      note (.disconnect slot)
      touch fun now => world.disconnect now slot
      disconnectAll world rest

def presentAll (world : World σ) : List Notice → Act σ Unit
  | [] => pure ()
  | notice :: rest => do
      note (.present notice)
      touch fun now => world.present now notice
      presentAll world rest

def cleanUp (world : World σ) : Act σ Unit := do
  note .clearPins
  touch world.clearPins
  note .close
  let _ ← finish (← start world.close)
  disconnectAll world (← view Run.connected)
  presentAll world (← view Run.notices)
  if (← view Run.phase) ≠ .terminated then enter .terminated

end Act

inductive Ending where
  | finished (result : Except Failure Terminate)
  | endless
  | cut

def Run.fresh {σ : Type} (world : σ) : Run σ := ⟨0, world, .initial, [], [], []⟩

/-- A run of at most so many commands. -/
def Setup.run [Url.HostMapping] {σ : Type} (setup : Setup) (world : World σ) (bound : Nat) (state : σ) :
    Ending × Run σ :=
  let close (result : Except Failure Terminate) (run : Run σ) : Ending × Run σ :=
    match Act.cleanUp world run with
    | (.ok (), run) => (.finished result, run)
    | (.error _, run) => (.endless, run)
  match Act.converse world setup bound (Run.fresh state) with
  | (.ok message, run) => close (.ok message) run
  | (.error (.failed failure), run) => close (.error failure) run
  | (.error .endless, run) => (.endless, run)
  | (.error .cut, run) => (.cut, run)

end CardGateway
