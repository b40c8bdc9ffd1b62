import CardGateway.Json.Number
import CardGateway.Json.Text

/-!
# JSON documents

The shape of a text, as far as it is JSON. A text that breaks off has a shape as well: the lists of
items and members end in what stands where the next separator or closing bracket was due. So reading a
value off the shape meets the faults of a text in the order in which they stand in it.
-/

namespace CardGateway.Json

inductive ListStop where
  | closed
  /-- The text ends. -/
  | cut
  /-- The text ends after a comma. -/
  | cutAfterComma
  /-- The bracket comes after a comma. -/
  | danglingComma
  /-- Something else follows an item. -/
  | noComma
  deriving DecidableEq, Repr

mutual

/-- A string is kept as its bytes from behind the opening quote through the closing one, or through
the end of the text where none is found. -/
inductive Node where
  | null
  | flag (b : Bool)
  | number (text : NumberText) (stop : NumberStop)
  | text (raw : Bytes)
  | list (items : Items)
  | record (members : Members)
  /-- No value stands here. -/
  | broken (fault : Fault)

inductive Items where
  | stop (s : ListStop)
  | item (first : Node) (rest : Items)

inductive Members where
  | stop (s : ListStop)
  /-- A value stands where a key was due. -/
  | badKey (found : Node)
  | member (key : Bytes) (value : Node) (rest : Members)

end

namespace Document

def isSpace (b : UInt8) : Bool := b == 0x20 || b == 0x0A || b == 0x09 || b == 0x0D

def skipSpace (text : Bytes) : Bytes := text.dropWhile isSpace

/-- The string behind its opening quote, with its closing quote, and what follows. -/
def splitText (text : Bytes) : Bytes × Bytes :=
  match skipText text with
  | .ok rest => (text.take (text.length - rest.length), rest)
  | .error _ => (text, [])

/-- A word whose first letter is read. -/
def scanWord (node : Node) : Bytes → Bytes → Node × Bytes
  | [], text => (node, text)
  | _ :: _, [] => (.broken (.ends .word), [])
  | w :: word, b :: rest => if w == b then scanWord node word rest else (.broken .expectedIdent, [])

def opensRecord (b : UInt8) : Bool := b == 0x7B

mutual

/-- The value at the front, after blanks. Nothing is read behind a broken value. -/
def scanNode : Nat → Bytes → Node × Bytes
  | 0, _ => (.broken (.ends .value), [])
  | fuel + 1, text =>
      match skipSpace text with
      | [] => (.broken (.ends .value), [])
      | b :: rest =>
          if b == quote then
            let (raw, rest) := splitText rest
            (.text raw, rest)
          else if b == 0x5B then
            let (items, rest) := scanItems fuel true rest
            (.list items, rest)
          else if opensRecord b then
            let (members, rest) := scanMembers fuel true rest
            (.record members, rest)
          else if b == 0x6E then scanWord .null [0x75, 0x6C, 0x6C] rest
          else if b == 0x74 then scanWord (.flag true) [0x72, 0x75, 0x65] rest
          else if b == 0x66 then scanWord (.flag false) [0x61, 0x6C, 0x73, 0x65] rest
          else if b == 0x2D || isDigit b then
            let (number, stop, rest) := scanNumber (b :: rest)
            (.number number stop, if stop == .complete then rest else [])
          else (.broken .expectedValue, [])

/-- The items up to the closing bracket, the `first` of them without a comma before it. -/
def scanItems : Nat → Bool → Bytes → Items × Bytes
  | 0, _, _ => (.stop .cut, [])
  | fuel + 1, first, text =>
      match skipSpace text with
      | [] => (.stop .cut, [])
      | b :: rest =>
          if b == 0x5D then (.stop .closed, rest)
          else if first then scanItem fuel (b :: rest)
          else if b == 0x2C then
            match skipSpace rest with
            | [] => (.stop .cutAfterComma, [])
            | c :: rest =>
                if c == 0x5D then (.stop .danglingComma, []) else scanItem fuel (c :: rest)
          else (.stop .noComma, [])

def scanItem : Nat → Bytes → Items × Bytes
  | 0, _ => (.stop .cut, [])
  | fuel + 1, text =>
      let (node, rest) := scanNode fuel text
      let (items, rest) := scanItems fuel false rest
      (.item node items, rest)

/-- The members up to the closing brace, the `first` of them without a comma before it. -/
def scanMembers : Nat → Bool → Bytes → Members × Bytes
  | 0, _, _ => (.stop .cut, [])
  | fuel + 1, first, text =>
      match skipSpace text with
      | [] => (.stop .cut, [])
      | b :: rest =>
          if b == 0x7D then (.stop .closed, rest)
          else if first then scanMember fuel (b :: rest)
          else if b == 0x2C then
            match skipSpace rest with
            | [] => (.stop .cutAfterComma, [])
            | c :: rest =>
                if c == 0x7D then (.stop .danglingComma, []) else scanMember fuel (c :: rest)
          else (.stop .noComma, [])

def scanMember : Nat → Bytes → Members × Bytes
  | 0, _ => (.stop .cut, [])
  | _ + 1, [] => (.stop .cut, [])
  | fuel + 1, b :: rest =>
      if b == quote then
        let (key, rest) := splitText rest
        match skipSpace rest with
        | [] => (.member key (.broken (.ends .record)) (.stop .cut), [])
        | c :: rest =>
            if c == 0x3A then
              let (node, rest) := scanNode fuel rest
              let (members, rest) := scanMembers fuel false rest
              (.member key node members, rest)
            else (.member key (.broken .expectedColon) (.stop .cut), [])
      else (.badKey (scanNode fuel (b :: rest)).1, [])

end

end Document

/-- A text as one value with what follows it. -/
structure Document where
  root : Node
  /-- Something other than blanks follows the value. -/
  trailing : Bool

/-- No more than three calls are made for a byte. -/
def Document.parse (text : Bytes) : Document :=
  let (root, rest) := Document.scanNode (3 * text.length + 3) text
  ⟨root, !(Document.skipSpace rest).isEmpty⟩

/-- A member of a record, or its end, is asked for. -/
def ListStop.recordFault : ListStop → Option Fault
  | .closed => none
  | .cut => some (.ends .record)
  | .cutAfterComma => some (.ends .value)
  | .danglingComma => some .trailingComma
  | .noComma => some .expectedCommaOrBrace

/-- An item of a list, or its end, is asked for. -/
def ListStop.listFault : ListStop → Option Fault
  | .closed => none
  | .cut => some (.ends .list)
  | .cutAfterComma => some (.ends .value)
  | .danglingComma => some .trailingComma
  | .noComma => some .expectedCommaOrBracket

/-- All items are taken, and only the end of the list is asked for. -/
def Items.endFault : Items → Option Fault
  | .item _ _ => some .trailingCharacters
  | .stop .closed => none
  | .stop .cut => some (.ends .list)
  | .stop .danglingComma => some .trailingComma
  | .stop .cutAfterComma | .stop .noComma => some .trailingCharacters

def check : Option Fault → Except Fault Unit
  | none => .ok ()
  | some fault => .error fault

mutual

/-- Passes over a value that is not asked for. It has to be JSON, but nothing is read: a number may be
out of range, a string may be no text. A comma promises an item. -/
def Node.skip : Node → Except Fault Unit
  | .null | .flag _ => .ok ()
  | .number _ stop => if stop = .complete then .ok () else .error .number
  | .text raw => (skipText raw).map fun _ => ()
  | .list items => items.skip
  | .record members => members.skip
  | .broken fault => .error fault

def Items.skip : Items → Except Fault Unit
  | .stop .danglingComma => .error .expectedValue
  | .stop s => check s.listFault
  | .item first rest => do
      first.skip
      rest.skip

def Members.skip : Members → Except Fault Unit
  | .stop .danglingComma => .error .keyNotText
  | .stop .cutAfterComma => .error (.ends .record)
  | .stop s => check s.recordFault
  | .badKey _ => .error .keyNotText
  | .member key value rest => do
      let _ ← skipText key
      value.skip
      rest.skip

end

/-- The number, its text being whole. -/
def readNumber (text : NumberText) : NumberStop → Except Fault Number
  | .complete => Number.ofText text
  | .cut => .error (.ends .value)
  | .malformed => .error .number

/-- What stands here, for a reader that expected something else. -/
def Node.found : Node → Except Fault Found
  | .null => .ok .null
  | .flag b => .ok (.flag b)
  | .number digits stop => do return (← readNumber digits stop).found
  | .text raw => do return .text (← readText raw)
  | .list _ => .ok .list
  | .record _ => .ok .record
  | .broken fault => .error fault

def Node.mismatch {α : Type} (node : Node) (expected : String) : Except Fault α := do
  throw (.wrongType (← node.found) expected)

end CardGateway.Json
