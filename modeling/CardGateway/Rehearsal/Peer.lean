import CardGateway.Http.Client

/-!
# A scripted peer

The other side of an HTTP client, played from a script: one list of steps per stream, in the order in
which streams are opened. It keeps what it saw.
-/

namespace CardGateway.Rehearsal

open CardGateway.Http

inductive PeerStep where
  | close
  /-- Reads a request, then closes. -/
  | drop
  /-- Reads a request, waits, then answers with the bytes. -/
  | answer (bytes : Bytes) (delay : Millis)
  deriving DecidableEq, Repr

inductive Sight where
  /-- An attempt to open a stream, refused or not. -/
  | connect (stream : Nat)
  | request (stream : Nat) (request : Request)
  deriving DecidableEq, Repr

/-- The header lines of a request as they are read, in alphabetical order. -/
def headerLines (request : Request) : List String :=
  let lines := request.fields.map fun (name, value) =>
    let value := (value.toList.dropWhile isBlankSign).reverse.dropWhile isBlankSign
    name ++ ": " ++ String.ofList value.reverse
  lines.mergeSort fun a b => decide (a ≤ b)
where
  isBlankSign (c : Char) : Bool := c == ' ' || c == '\t'

structure Peer where
  /-- The steps of each stream to come, none for one that is refused. -/
  scripts : List (Option (List PeerStep))
  attempts : Nat
  /-- The steps still to come on each stream opened. -/
  streams : List (Nat × List PeerStep)
  seen : List Sight
  deriving DecidableEq, Repr

namespace Peer

def ofScripts (scripts : List (Option (List PeerStep))) : Peer := ⟨scripts, 0, [], []⟩

def steps (peer : Peer) (stream : Nat) : List PeerStep :=
  ((peer.streams.find? fun entry => entry.1 = stream).map (·.2)).getD []

def setSteps (peer : Peer) (stream : Nat) (steps : List PeerStep) : Peer :=
  { peer with streams := (stream, steps) :: peer.streams.filter fun entry => entry.1 ≠ stream }

def see (peer : Peer) (sight : Sight) : Peer := { peer with seen := peer.seen ++ [sight] }

/-- Streams that are not in the script are refused. -/
def connect (peer : Peer) : Except String Nat × Peer :=
  let stream := peer.attempts
  let after := { peer with
    scripts := peer.scripts.tail
    attempts := stream + 1
    seen := peer.seen ++ [.connect stream] }
  match peer.scripts with
  | some steps :: _ => (.ok stream, after.setSteps stream steps)
  | none :: _ | [] => (.error "connection refused", after)

/-- Whether the peer closes a stream next, without waiting for a request. -/
def closesNext : List PeerStep → Bool
  | .close :: _ => true
  | _ => false

def isQuiet (peer : Peer) (stream : Nat) : Bool := !closesNext (peer.steps stream)

/-- Behind the last step a stream stays open and silent, and nobody reads requests on it. -/
def exchange (peer : Peer) (now : Millis) (stream : Nat) (request : Request) : Arrival × Peer :=
  match peer.steps stream with
  | [] => (⟨[], none⟩, peer)
  | .close :: _ => (⟨[], some now⟩, peer)
  | .drop :: _ => (⟨[], some now⟩, (peer.see (.request stream request)).setSteps stream [.close])
  | .answer bytes delay :: rest =>
      let arrives := now + delay
      (⟨[(arrives, bytes)], if closesNext rest then some arrives else none⟩,
        (peer.see (.request stream request)).setSteps stream rest)

def network : Network Peer where
  connect _ peer := let (opening, after) := peer.connect; (some (opening, 0), after)
  isQuiet _ stream peer := peer.isQuiet stream
  exchange now stream request peer := peer.exchange now stream request

end Peer

inductive Move where
  | close
  /-- A post, whose token fires the span after its beginning. -/
  | post (resource : String) (body : Bytes) (fires : Option Millis)
  deriving DecidableEq, Repr

inductive Moved where
  | closed
  | answered (answer : Except TransportFault Bytes)
  /-- Nothing comes of it. -/
  | stuck

/-- The span after which nothing is expected to happen any more. -/
def patience : Millis := 360000000

def Move.perform (s : Client.Standing Peer) : Move → Moved × Client.Standing Peer
  | .close => (.closed, { s with client := s.client.close })
  | .post resource body fires =>
      let allowed : Client.Patience Peer :=
        { fires := fun _ => fires.map (s.now + ·), limit := some (s.now + patience) }
      match Client.send Peer.network allowed resource body s with
      | (.result answer, s) => (.answered answer, s)
      | (.abandoned, s) | (.stuck, s) => (.stuck, s)

end CardGateway.Rehearsal
