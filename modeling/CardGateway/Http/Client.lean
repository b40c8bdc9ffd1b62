import CardGateway.Http.Answer
import CardGateway.Http.Target
import CardGateway.Time.Race

/-!
# Exchanges over streams

A client posts requests to one peer and keeps the stream of an answered request for the next one, as
long as the peer does. A request whose stream breaks is sent once more, on a new stream. What the
network does is left open.
-/

namespace CardGateway.Http

open CardGateway.Text

structure Request where
  target : Target
  /-- The host and port that the request is meant for. -/
  authority : String
  body : Bytes
  version : Version
  deriving DecidableEq, Repr

namespace Request

/-- None where the target or the authority cannot be written. -/
def make? (authority resource : String) (body : Bytes) : Option Request :=
  match Target.ofText? resource with
  | some target =>
      if (Utf8.encode authority).all Head.isValueByte then some ⟨target, authority, body, .http11⟩
      else none
  | none => none

def line (request : Request) : String :=
  s!"POST {request.target.text} {request.version.text}"

/-- A peer of the older version is asked to keep the connection open. -/
def fields (request : Request) : List (String × String) :=
  [("host", request.authority), ("accept", "application/json"),
    ("content-type", "application/json"), ("content-length", toString request.body.length)] ++
  match request.version with
  | .http10 => [("connection", "keep-alive")]
  | .http11 => []

def toBytes (request : Request) : Bytes :=
  let fields := request.fields.map fun (name, value) => name ++ ": " ++ value ++ "\r\n"
  Utf8.encode (request.line ++ "\r\n" ++ String.join fields ++ "\r\n") ++ request.body

end Request

/-- What comes back on a stream: pieces, each at its instant, and the end of the stream if it ends. -/
structure Arrival where
  pieces : List (Millis × Bytes)
  closes : Option Millis
  deriving DecidableEq, Repr

namespace Arrival

/-- When an answer is complete or given up, as pieces come in behind what is there already. -/
def settleFrom (closes : Option Millis) :
    Bytes → List (Millis × Bytes) → Option (Except TransportFault Answer × Millis)
  | got, [] =>
      match closes with
      | none => none
      | some t =>
          match Answer.read got true with
          | .done answer => some (.ok answer, t)
          | .fault fault => some (.error fault, t)
          | .more => some (.error .broken, t)
  | got, (t, piece) :: rest =>
      match Answer.read (got ++ piece) false with
      | .done answer => some (.ok answer, t)
      | .fault fault => some (.error fault, t)
      | .more => settleFrom closes (got ++ piece) rest

def settle (arrival : Arrival) : Option (Except TransportFault Answer × Millis) :=
  settleFrom arrival.closes [] arrival.pieces

end Arrival

/-- The other side, with what it knows in `σ`. -/
structure Network (σ : Type) where
  /-- Opens a stream under a number of its own, or tells why not, after a while or never. -/
  connect : Millis → σ → Option (Except String Nat × Millis) × σ
  /-- Whether a stream on which nothing is awaited is still open and silent. -/
  isQuiet : Millis → Nat → σ → Bool
  /-- Takes a request on a stream. -/
  exchange : Millis → Nat → Request → σ → Arrival × σ

structure Connection where
  stream : Nat
  /-- The version of the peer's last answer. -/
  version : Version
  deriving DecidableEq, Repr

structure Client where
  authority : String
  /-- The stream kept for the next request. -/
  retained : Option Connection
  deriving DecidableEq, Repr

namespace Client

def start (authority : String) : Client := ⟨authority, none⟩

/-- How long an exchange is waited for: until the token fires, which the network may bring about, or
until the caller loses patience. -/
structure Patience (σ : Type) where
  fires : σ → Option Millis
  limit : Option Millis

structure Standing (σ : Type) where
  client : Client
  network : σ
  now : Millis

inductive Outcome where
  | result (answer : Except TransportFault Bytes)
  /-- The caller lost patience. -/
  | abandoned
  /-- Nothing more will ever happen. -/
  | stuck
  deriving Repr

inductive Turn (α : Type) where
  | fired
  | ended (value : α)
  | abandoned

namespace Patience

variable {σ : Type}

def hasFired (patience : Patience σ) (s : Standing σ) : Bool :=
  match patience.fires s.network with
  | some t => t ≤ s.now
  | none => false

/-- A token that fires at the instant of an end wins over it. -/
def await {α : Type} (patience : Patience σ) (s : Standing σ) (ends : Option (α × Millis)) :
    Option (Turn α × Millis) :=
  let ended := match ends with
    | some (value, t) => [(Turn.ended value, some t)]
    | none => []
  winner ((.fired, (patience.fires s.network).map (max s.now)) :: ended ++
    [(.abandoned, patience.limit.map (max s.now))])

end Patience

variable {σ : Type}

/-- Only an answer with success leaves its stream for the next request. -/
def conclude (connection : Connection) (answer : Answer) (s : Standing σ) :
    Outcome × Standing σ :=
  if answer.head.status ≠ 200 then (.result (.error (.status answer.head.status)), s)
  else
    let retained := if answer.reusable then some { connection with version := answer.head.version }
      else none
    (.result (.ok answer.body), { s with client := { s.client with retained } })

def exchangeOn (network : Network σ) (patience : Patience σ) (request : Request)
    (connection : Connection) (s : Standing σ) : Outcome × Standing σ :=
  let (arrival, after) := network.exchange s.now connection.stream
    { request with version := connection.version } s.network
  let s := { s with network := after }
  match patience.await s arrival.settle with
  | none => (.stuck, s)
  | some (.fired, t) => (.result (.error .cancelled), { s with now := t })
  | some (.abandoned, t) => (.abandoned, { s with now := t })
  | some (.ended (.error fault), t) => (.result (.error fault), { s with now := t })
  | some (.ended (.ok answer), t) => conclude connection answer { s with now := t }

def connectFirst (network : Network σ) (patience : Patience σ) (request : Request)
    (s : Standing σ) : Outcome × Standing σ :=
  let (opening, after) := network.connect s.now s.network
  let s := { s with network := after }
  let ends : Option (Except String Nat × Millis) :=
    opening.map fun (result, span) => (result, s.now + span)
  match patience.await s ends with
  | none => (.stuck, s)
  | some (.fired, t) => (.result (.error .cancelled), { s with now := t })
  | some (.abandoned, t) => (.abandoned, { s with now := t })
  | some (.ended (.error reason), t) => (.result (.error (.connect reason)), { s with now := t })
  | some (.ended (.ok stream), t) =>
      exchangeOn network patience request ⟨stream, .http11⟩ { s with now := t }

/-- The retained stream, unless its peer has closed it. -/
def reusable? (network : Network σ) (s : Standing σ) : Option Connection :=
  s.client.retained.filter fun connection => network.isQuiet s.now connection.stream s.network

/-- No stream is retained while one is in use. -/
def release (s : Standing σ) : Standing σ :=
  { s with client := { s.client with retained := none } }

/-- One attempt, on the retained stream if there is one and a fresh one is not asked for. -/
def attempt (network : Network σ) (patience : Patience σ) (request : Request) (fresh : Bool)
    (s : Standing σ) : Outcome × Standing σ :=
  match (if fresh then none else reusable? network s) with
  | some connection => exchangeOn network patience request connection (release s)
  | none => connectFirst network patience request (release s)

/-- Posts a body, with a second attempt if the first one's stream broke and the token has not fired. -/
def send (network : Network σ) (patience : Patience σ) (resource : String) (body : Bytes)
    (s : Standing σ) : Outcome × Standing σ :=
  if patience.hasFired s then (.result (.error .cancelled), s)
  else match Request.make? s.client.authority resource body with
    | none => (.result (.error .request), s)
    | some request =>
        match attempt network patience request false s with
        | (.result (.error .broken), s) =>
            if patience.hasFired s then (.result (.error .broken), s)
            else attempt network patience request true s
        | ended => ended

def close (client : Client) : Client := { client with retained := none }

def isConnected (network : Network σ) (s : Standing σ) : Bool :=
  (reusable? network s).isSome

end Client

end CardGateway.Http
