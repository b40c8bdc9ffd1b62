import CardGateway.Card.Fixture
import CardGateway.Http.Client
import CardGateway.Run.Whole

/-!
# Runs over a real network

What the network has brought so far, and whether the user has interrupted the run, is a tape. A run over
a tape goes as far as the tape does and then wants something of the network; when that has come, the run
is taken from its beginning over the longer tape. It does the same things again up to there, since
nothing but the tape decides what it does.
-/

namespace CardGateway.Live

open CardGateway.Http

structure Piece where
  instant : Millis
  bytes : Option Bytes
  deriving DecidableEq, Repr

structure Tape where
  /-- The streams asked for, each with the instant at which it was open or refused. -/
  openings : List (Millis × Except String Unit)
  /-- What has come back to each request. -/
  answers : List (List Piece)
  interrupt : Option Millis

namespace Tape

def empty : Tape := ⟨[], [], none⟩

def addOpening (tape : Tape) (instant : Millis) (opening : Except String Unit) : Tape :=
  { tape with openings := tape.openings ++ [(instant, opening)] }

def addRequest (tape : Tape) : Tape := { tape with answers := tape.answers ++ [[]] }

/-- A piece belongs to the last request. -/
def addPiece (tape : Tape) (piece : Piece) : Tape :=
  { tape with
    answers := tape.answers.dropLast ++ [tape.answers.getLast?.getD [] ++ [piece]] }

def interrupted (tape : Tape) (instant : Millis) : Tape := { tape with interrupt := some instant }

end Tape

inductive Want where
  | stream
  | answer (stream : Nat) (request : Request) (isWritten : Bool)
  deriving DecidableEq, Repr

structure Playback where
  tape : Tape
  streams : Nat
  requests : Nat
  /-- What was wanted last. -/
  want : Option Want

namespace Playback

def ofTape (tape : Tape) : Playback := ⟨tape, 0, 0, none⟩

def arrival (pieces : List Piece) : Arrival where
  pieces := pieces.filterMap fun piece => piece.bytes.map fun bytes => (piece.instant, bytes)
  closes := (pieces.find? fun piece => piece.bytes.isNone).map (·.instant)

/-- The end of a stream is noticed only when something is awaited on it. -/
def network : Network Playback where
  connect now playback :=
    let opening := playback.tape.openings[playback.streams]?.map fun (instant, opening) =>
      (opening.map fun _ => playback.streams, instant - now)
    (opening, { playback with streams := playback.streams + 1, want := some .stream })
  isQuiet _ _ _ := true
  exchange _ stream request playback :=
    let pieces := playback.tape.answers[playback.requests]?
    (arrival (pieces.getD []), { playback with
      requests := playback.requests + 1
      want := some (.answer stream request pieces.isSome) })

end Playback

structure Scene where
  client : Client
  playback : Playback

/-- The token fires when the user interrupts the run. The card is one from a document. -/
def world (card : Fixture) : World Scene where
  fires scene := scene.playback.tape.interrupt
  send now guarded resource body scene :=
    let fires (playback : Playback) := if guarded then playback.tape.interrupt else none
    let exchange (limit : Option Millis) :=
      Client.send Playback.network ⟨fires, limit⟩ resource body ⟨scene.client, scene.playback, now⟩
    let left (s : Client.Standing Playback) : Scene := ⟨s.client, s.network⟩
    let (outcome, s) := exchange none
    { begun := left s
      ends := match outcome with
        | .result answer => some (s.now - now, answer, left s)
        | .abandoned | .stuck => none
      dropped := fun span => left (exchange (some (now + span))).2 }
  close _ scene := .atOnce { scene with client := scene.client.close } true
  findTokens _ filters scene := .atOnce scene (.ok (card.findTokens filters))
  listCertificates _ slot _ pin scene :=
    .atOnce scene (.ofExcept (card.listCertificates slot pin))
  sign _ slot didName pin message scene :=
    .atOnce scene (.ofExcept (card.sign slot didName pin message))
  clearPins _ scene := scene
  disconnect _ _ scene := scene
  present _ _ scene := scene
  precedence _ _ := [.ended, .deadline, .fired]

/-- A run as far as the tape goes. There are no more commands than answers. -/
def play [Url.HostMapping] (setup : Setup) (card : Fixture) (authority : String) (tape : Tape) :
    Ending × Run Scene :=
  setup.run (world card) (tape.answers.length + 1) ⟨.start authority, .ofTape tape⟩

end CardGateway.Live
