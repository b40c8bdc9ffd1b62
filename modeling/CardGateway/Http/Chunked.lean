import CardGateway.Http.Head

/-!
# Bodies in chunks

Each chunk comes behind its size in hexadecimal digits; one of size zero ends the body, perhaps with
header lines behind it. One pass over the bytes, one state per kind of byte that may come next.
-/

namespace CardGateway.Http.Chunked

inductive State where
  /-- The first digit of a size. -/
  | start
  | size (value : Nat)
  /-- Blanks behind a size. -/
  | sizeBlank (value : Nat)
  /-- An extension, which has no meaning here. -/
  | extension (value : Nat)
  /-- The line feed behind a size. -/
  | sizeEnd (value : Nat)
  /-- The bytes of a chunk still to come. -/
  | payload (left : Nat)
  | payloadReturn
  | payloadEnd
  | trailer
  | trailerEnd
  /-- The empty line at the end, or a header line. -/
  | lastReturn
  | lastEnd
  deriving DecidableEq, Repr

structure Progress where
  /-- The last byte first. -/
  payload : Bytes
  /-- The header lines at the end, the last byte first. -/
  trailers : Bytes
  trailerLines : Nat
  extensionBytes : Nat
  deriving Repr

def Progress.start : Progress := ⟨[], [], 0, 0⟩

/-- The most bytes in header lines at the end, and in extensions. -/
def byteLimit : Nat := 16384

/-- The largest size, in 64 bits. -/
def sizeLimit : Nat := 0x10000000000000000

def digit? (b : UInt8) : Option Nat :=
  if 48 ≤ b && b ≤ 57 then some (b.toNat - 48)
  else if 97 ≤ b && b ≤ 102 then some (b.toNat - 87)
  else if 65 ≤ b && b ≤ 70 then some (b.toNat - 55)
  else none

def grow (value digit : Nat) : Option State :=
  let next := value * 16 + digit
  if next < sizeLimit then some (.size next) else none

/-- Bytes after the digits of a size. -/
def afterSize (value : Nat) (b : UInt8) : Option State :=
  if b == 32 || b == 9 then some (.sizeBlank value)
  else if b == 59 then some (.extension value)
  else if b == 13 then some (.sizeEnd value)
  else none

def Progress.keep (progress : Progress) (b : UInt8) : Option Progress :=
  if progress.trailers.length + 1 < byteLimit then
    some { progress with trailers := b :: progress.trailers }
  else none

/-- The last bytes belong to the header lines if there are any. -/
def Progress.keepLast (progress : Progress) (b : UInt8) : Option Progress :=
  if progress.trailers.isEmpty then some progress else progress.keep b

/-- None where the byte cannot stand. The end of the body is the state without a successor. -/
def step (state : State) (progress : Progress) (b : UInt8) :
    Option (Option State × Progress) :=
  match state with
  | .start => do
      let value ← digit? b
      return (← grow 0 value, progress)
  | .size value =>
      match digit? b with
      | some digit => do return (← grow value digit, progress)
      | none => do return (← afterSize value b, progress)
  | .sizeBlank value => do return (← afterSize value b, progress)
  | .extension value =>
      if b == 13 then some (some (.sizeEnd value), progress)
      else if b == 10 then none
      else if progress.extensionBytes + 1 < byteLimit then
        some (some (.extension value),
          { progress with extensionBytes := progress.extensionBytes + 1 })
      else none
  | .sizeEnd value =>
      if b == 10 then
        match value with
        | 0 => some (some .lastReturn, progress)
        | left + 1 => some (some (.payload left), progress)
      else none
  | .payload left =>
      let progress := { progress with payload := b :: progress.payload }
      match left with
      | 0 => some (some .payloadReturn, progress)
      | left + 1 => some (some (.payload left), progress)
  | .payloadReturn => if b == 13 then some (some .payloadEnd, progress) else none
  | .payloadEnd => if b == 10 then some (some .start, progress) else none
  | .trailer => do
      let progress ← progress.keep b
      return (some (if b == 13 then .trailerEnd else .trailer), progress)
  | .trailerEnd =>
      if b == 10 && progress.trailerLines < Head.fieldLimit then do
        let progress ← progress.keep b
        return (some .lastReturn, { progress with trailerLines := progress.trailerLines + 1 })
      else none
  | .lastReturn =>
      if b == 13 then do return (some .lastEnd, ← progress.keepLast b)
      else do return (some .trailer, ← progress.keep b)
  | .lastEnd => if b == 10 then do return (none, ← progress.keepLast b) else none

structure Body where
  payload : Bytes
  /-- Header lines stood behind the last chunk. -/
  hasTrailers : Bool
  deriving DecidableEq, Repr

/-- Header lines at the end have to be such, one in a line. -/
def Progress.body? (progress : Progress) : Option Body :=
  if progress.trailers.isEmpty then some ⟨progress.payload.reverse, false⟩
  else if Head.fieldLimit ≤ progress.trailerLines then none
  else match Head.readFields progress.trailerLines progress.trailers.reverse with
    | .done _ _ => some ⟨progress.payload.reverse, true⟩
    | _ => none

def scan : State → Progress → Bytes → Reading Body
  | _, _, [] => .more
  | state, progress, b :: rest =>
      match step state progress b with
      | none => .bad
      | some (some state, progress) => scan state progress rest
      | some (none, progress) =>
          match progress.body? with
          | some body => .done body rest
          | none => .bad

def read (bytes : Bytes) : Reading Body :=
  scan .start .start bytes

end CardGateway.Http.Chunked
