import CardGateway.Text.Utf8

/-!
# Heads of answers

The status line and the header lines of an answer, read from the bytes that have come so far. Reading
ends with a value and the bytes behind it, with the wish for more bytes, or at bytes that no head has.
-/

namespace CardGateway.Http

/-- How far the bytes at hand go. -/
inductive Reading (α : Type) where
  | done (value : α) (rest : Bytes)
  | more
  | bad
  deriving Repr

namespace Reading

def bind {α β : Type} (reading : Reading α) (next : α → Bytes → Reading β) : Reading β :=
  match reading with
  | .done value rest => next value rest
  | .more => .more
  | .bad => .bad

end Reading

inductive Version where
  | http10
  | http11
  deriving DecidableEq, Repr

def Version.text : Version → String
  | .http10 => "HTTP/1.0"
  | .http11 => "HTTP/1.1"

/-- A header line, its name in lower case. -/
structure Field where
  name : Bytes
  value : Bytes
  deriving DecidableEq, Repr

structure Head where
  version : Version
  status : Nat
  fields : List Field
  deriving DecidableEq, Repr

namespace Head

def tokenSigns : Bytes := Text.Utf8.encode "!#$%&'*+-.^_|~`"

def isTokenByte (b : UInt8) : Bool :=
  (48 ≤ b && b ≤ 57) || (65 ≤ b && b ≤ 90) || (97 ≤ b && b ≤ 122) || tokenSigns.contains b

def isBlankByte (b : UInt8) : Bool := b == 32 || b == 9

def isValueByte (b : UInt8) : Bool := b == 9 || (32 ≤ b && b != 127)

def lowered (b : UInt8) : UInt8 :=
  if 65 ≤ b && b ≤ 90 then b + 32 else b

/-- Both ends of a line count, the one with a carriage return and the one without. -/
def readLineEnd : Bytes → Reading Unit
  | [] | [13] => .more
  | 13 :: 10 :: rest | 10 :: rest => .done () rest
  | _ => .bad

/-- Empty lines in front of a status line are passed over. -/
def skipEmptyLines : Bytes → Reading Unit
  | 10 :: rest => skipEmptyLines rest
  | 13 :: 10 :: rest => skipEmptyLines rest
  | [] | [13] => .more
  | 13 :: _ => .bad
  | bytes => .done () bytes

def versionStart : Bytes := Text.Utf8.encode "HTTP/1."

def readVersion (bytes : Bytes) : Reading Version :=
  if bytes.length < 8 then
    if bytes.take 7 == versionStart.take bytes.length then .more else .bad
  else if bytes.take 8 == Text.Utf8.encode Version.http10.text then .done .http10 (bytes.drop 8)
  else if bytes.take 8 == Text.Utf8.encode Version.http11.text then .done .http11 (bytes.drop 8)
  else .bad

def readByte (expected : UInt8) : Bytes → Reading Unit
  | [] => .more
  | b :: rest => if b == expected then .done () rest else .bad

def readDigits : Nat → Nat → Bytes → Reading Nat
  | 0, value, rest => .done value rest
  | _ + 1, _, [] => .more
  | count + 1, value, b :: rest =>
      if 48 ≤ b && b ≤ 57 then readDigits count (value * 10 + (b.toNat - 48)) rest else .bad

/-- The words behind a status code, if there are any. -/
def skipReason : Bytes → Reading Unit
  | 32 :: rest => readLineEnd (rest.dropWhile isValueByte)
  | bytes => readLineEnd bytes

/-- A version, a code of three digits, and perhaps words. -/
def readStatusLine (bytes : Bytes) : Reading (Version × Nat) :=
  (skipEmptyLines bytes).bind fun _ rest =>
  (readVersion rest).bind fun version rest =>
  (readByte 32 rest).bind fun _ rest =>
  (readDigits 3 0 rest).bind fun status rest =>
  (skipReason rest).bind fun _ rest =>
  .done (version, status) rest

def trimEnd (value : Bytes) : Bytes :=
  (value.reverse.dropWhile isBlankByte).reverse

def readField (bytes : Bytes) : Reading Field :=
  let name := bytes.takeWhile isTokenByte
  match bytes.drop name.length with
  | [] => .more
  | b :: rest =>
      if b != 58 || name.isEmpty then .bad
      else
        let rest := rest.dropWhile isBlankByte
        let value := rest.takeWhile isValueByte
        (readLineEnd (rest.drop value.length)).bind fun _ rest =>
        .done ⟨name.map lowered, trimEnd value⟩ rest

/-- Header lines up to the empty one. More than the limit are too many. -/
def readFields (limit : Nat) (bytes : Bytes) : Reading (List Field) :=
  match bytes with
  | [] | [13] => .more
  | 13 :: 10 :: rest | 10 :: rest => .done [] rest
  | 13 :: _ => .bad
  | bytes =>
      (readField bytes).bind fun field rest =>
      match limit with
      | 0 => .bad
      | limit + 1 => (readFields limit rest).bind fun fields rest => .done (field :: fields) rest

def fieldLimit : Nat := 100

def read (bytes : Bytes) : Reading Head :=
  (readStatusLine bytes).bind fun (version, status) rest =>
  (readFields fieldLimit rest).bind fun fields rest =>
  if status < 100 then .bad else .done ⟨version, status, fields⟩ rest

def values (head : Head) (name : String) : List Bytes :=
  (head.fields.filter fun field => field.name == Text.Utf8.encode name).map (·.value)

end Head

end CardGateway.Http
