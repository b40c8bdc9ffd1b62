import CardGateway.Http.Chunked
import CardGateway.Text.Split
import CardGateway.Transport.Fault

/-!
# Answers

An answer is a head and a body, whose end the head tells. Answers that only announce another one are
passed over. The lines named `Connection` tell whether the connection may be used again.
-/

namespace CardGateway.Http

open CardGateway.Text

/-- The options of a header line: what stands between its commas, trimmed, in lower case. -/
def options (value : Bytes) : List Bytes :=
  (splitOn 44 (value.map Head.lowered)).map fun part =>
    Head.trimEnd (part.dropWhile Head.isBlankByte)

def hasOption (name : String) (value : Bytes) : Bool :=
  (options value).contains (Utf8.encode name)

/-- Whether a line is all ASCII. Some lines count only then. -/
def isPlain (value : Bytes) : Bool :=
  value.all (· < 128)

/-- Whether the peer keeps the connection open, as the first of its lines about that says. -/
def keepsAlive (version : Version) (lines : List Bytes) : Bool :=
  let asks (name : String) := match lines with
    | first :: _ => hasOption name first
    | [] => false
  match version with
  | .http10 => asks "keep-alive"
  | .http11 => !asks "close"

/-- Whether the stream goes on behind an answer: line by line, one that closes ends it and one that
keeps alive takes it up again. -/
def streamContinues (version : Version) (lines : List Bytes) : Bool :=
  lines.foldl
    (fun goesOn line =>
      if goesOn then !(isPlain line && hasOption "close" line)
      else isPlain line && hasOption "keep-alive" line)
    (version == .http11)

def Head.continues (head : Head) : Bool :=
  let lines := head.values "connection"
  keepsAlive head.version lines && streamContinues head.version lines

/-- How the end of a body is found. -/
inductive Framing where
  | length (count : Nat)
  | chunked
  /-- The body ends with the connection. -/
  | untilClose
  deriving DecidableEq, Repr

namespace Framing

def decimal? (digits : Bytes) : Option Nat :=
  if digits.isEmpty || !digits.all (fun b => 48 ≤ b && b ≤ 57) then none
  else
    let value := digits.foldl (fun n b => n * 10 + (b.toNat - 48)) 0
    if value < 0x10000000000000000 then some value else none

def lengthLimit : Nat := 0xFFFFFFFFFFFFFFFE

/-- The length that all lines agree on. -/
def length? (lines : List Bytes) : Option Nat :=
  if lines.all isPlain then
    match (lines.flatMap options).mapM decimal? with
    | some (count :: more) => if more.all (· == count) then some count else none
    | _ => none
  else none

/-- Whether the last coding of the last line is the one in chunks. -/
def endsChunked (lines : List Bytes) : Bool :=
  match lines.getLast? with
  | some line => isPlain line && (options line).getLast? == some (Utf8.encode "chunked")
  | none => false

/-- None for a head that contradicts itself. -/
def ofHead? (head : Head) : Option Framing :=
  if head.status = 101 || head.status = 204 || head.status = 304 then some (.length 0)
  else
    let codings := head.values "transfer-encoding"
    let lengths := head.values "content-length"
    if !codings.isEmpty then
      if head.version = .http10 then none
      else some (if endsChunked codings then .chunked else .untilClose)
    else if lengths.isEmpty then some .untilClose
    else match length? lengths with
      | some count => if count < lengthLimit then some (.length count) else none
      | none => none

end Framing

structure Answer where
  head : Head
  body : Bytes
  /-- Another request may follow on the same stream: both sides keep it open, and it holds no byte
  behind the body. -/
  reusable : Bool
  deriving DecidableEq, Repr

namespace Answer

inductive Progress where
  | more
  | fault (fault : TransportFault)
  | done (answer : Answer)
  deriving DecidableEq, Repr

/-- Answers of the first class announce another one, but for the one that changes the protocol. -/
def isInterim (status : Nat) : Bool :=
  status < 200 && status != 101

/-- The first head that is not interim. An interim one takes up bytes, so there are no more of them
than bytes. -/
def readHead : Nat → Bytes → Reading Head
  | 0, _ => .more
  | bound + 1, bytes =>
      (Head.read bytes).bind fun head rest =>
      if isInterim head.status then readHead bound rest else .done head rest

def headLimit : Nat := 417792

/-- Reads the body behind a head. A stream that has ended brings nothing more. -/
def readBody (head : Head) (rest : Bytes) (ended : Bool) : Progress :=
  let unfinished : Progress := if ended then .fault .broken else .more
  let continues := head.continues
  match Framing.ofHead? head with
  | none => .fault .framing
  | some (.length count) =>
      if count ≤ rest.length then
        .done ⟨head, rest.take count, continues && rest.length == count⟩
      else unfinished
  | some .chunked =>
      match Chunked.read rest with
      | .done body rest => .done ⟨head, body.payload, continues && !body.hasTrailers && rest.isEmpty⟩
      | .more => unfinished
      | .bad => .fault .broken
  | some .untilClose => if ended then .done ⟨head, rest, false⟩ else .more

/-- Reads what has come so far, and whether the stream has ended with it. -/
def read (bytes : Bytes) (ended : Bool) : Progress :=
  match readHead (bytes.length + 1) bytes with
  | .done head rest => readBody head rest ended
  | .bad => .fault .framing
  | .more =>
      if headLimit ≤ bytes.length then .fault .framing
      else if ended then .fault .broken
      else .more

end Answer

end CardGateway.Http
