import CardGateway.Json.Document
import CardGateway.Json.Value

/-!
# Records with named fields

`Fields` lists the fields of a record in order, each with its reader and its writer. A record is read
from an object, whose members may stand in any order among others with unknown names, or from a list
of the fields in order. Members are read as they come, so of several faults the first in the text wins.
-/

namespace CardGateway.Json

structure Codec (α : Type) where
  read : Node → Except Fault α
  write : α → Value

structure Field (α : Type) where
  name : String
  read : Node → Except Fault α
  /-- What a record without the field holds; none if the field has to be there. -/
  absent : Option α
  /-- Whether a list of the fields may end before this one, if an object may leave it out. -/
  trails : Bool
  /-- None leaves the field out. -/
  write : α → Option Value

/-- The fields of a record, the types of their values in a row, and the types of a row in which some
values are still to come. -/
inductive Fields : Type → Type → Type 1 where
  | nil : Fields Unit Unit
  | cons {α ρ δ : Type} (field : Field α) (rest : Fields ρ δ) : Fields (α × ρ) (Option α × δ)

namespace Fields

def blank : {ρ δ : Type} → Fields ρ δ → δ
  | _, _, .nil => ()
  | _, _, .cons _ rest => (none, rest.blank)

def count : {ρ δ : Type} → Fields ρ δ → Nat
  | _, _, .nil => 0
  | _, _, .cons _ rest => rest.count + 1

/-- Reads the member `name`; none if no field has that name. -/
def put : {ρ δ : Type} → Fields ρ δ → String → Node → δ → Except Fault (Option δ)
  | _, _, .nil, _, _, _ => .ok none
  | _, _, .cons field rest, name, node, (slot, slots) =>
      if field.name = name then
        match slot with
        | some _ => .error (.duplicate name)
        | none => do return some (some (← field.read node), slots)
      else do
        match ← rest.put name node slots with
        | none => return none
        | some slots => return some (slot, slots)

/-- Fields that were not met take their default. -/
def finish : {ρ δ : Type} → Fields ρ δ → δ → Except Fault ρ
  | _, _, .nil, _ => .ok ()
  | _, _, .cons field rest, (slot, slots) => do
      let value ← match slot, field.absent with
        | some value, _ => pure value
        | none, some value => pure value
        | none, none => throw (.missing field.name)
      return (value, ← rest.finish slots)

def fromMembers {ρ δ : Type} (fields : Fields ρ δ) (draft : δ) : Members → Except Fault δ
  | .stop s => do
      check s.recordFault
      return draft
  | .badKey _ => .error .keyNotText
  | .member key value rest => do
      match ← fields.put (← readText key) value draft with
      | some draft => fromMembers fields draft rest
      | none =>
          value.skip
          fromMembers fields draft rest

/-- The fields that a closed list leaves out take their default. -/
def defaults (expected : String) : {ρ δ : Type} → Fields ρ δ → Nat → Except Fault ρ
  | _, _, .nil, _ => .ok ()
  | _, _, .cons field rest, index => do
      let some value := if field.trails then field.absent else none
        | throw (.length index expected)
      return (value, ← rest.defaults expected (index + 1))

def fromItems (expected : String) : {ρ δ : Type} → Fields ρ δ → Nat → Items → Except Fault ρ
  | _, _, .nil, _, items => check items.endFault
  | _, _, .cons field rest, index, .item first items => do
      let value ← field.read first
      return (value, ← rest.fromItems expected (index + 1) items)
  | _, _, .cons field rest, index, .stop s => do
      check s.listFault
      defaults expected (.cons field rest) index

def write : {ρ δ : Type} → Fields ρ δ → ρ → List (String × Value)
  | _, _, .nil, _ => []
  | _, _, .cons field rest, (value, values) =>
      match field.write value with
      | some written => (field.name, written) :: rest.write values
      | none => rest.write values

/-- The record's name and the number of its fields, for messages. -/
def expectation {ρ δ : Type} (fields : Fields ρ δ) (name : String) : String :=
  if fields.count = 1 then s!"struct {name} with 1 element"
  else s!"struct {name} with {fields.count} elements"

def read {ρ δ : Type} (fields : Fields ρ δ) (name : String) : Node → Except Fault ρ
  | .record members => do fields.finish (← fields.fromMembers fields.blank members)
  | .list items => fields.fromItems (fields.expectation name) 0 items
  | node => node.mismatch s!"struct {name}"

/-- The codec of a structure that a row of field values makes up. -/
def codec {α ρ δ : Type} (fields : Fields ρ δ) (name : String) (build : ρ → α) (row : α → ρ) :
    Codec α where
  read node := do return build (← fields.read name node)
  write value := .record (fields.write (row value))

end Fields

namespace Codec

def text : Codec String where
  read
    | .text raw => readText raw
    | node => node.mismatch "a string"
  write := .text

/-- A value with a written form of its own, kept in a string. -/
def texted {α : Type} (parse : String → Except Fault α) (print : α → String) : Codec α where
  read node := do parse (← text.read node)
  write value := .text (print value)

def flag : Codec Bool where
  read
    | .flag b => .ok b
    | node => node.mismatch "a boolean"
  write := .flag

def readItems {α : Type} (read : Node → Except Fault α) : Items → Except Fault (List α)
  | .stop s => do
      check s.listFault
      return []
  | .item first rest => do return (← read first) :: (← readItems read rest)

def list {α : Type} (item : Codec α) : Codec (List α) where
  read
    | .list items => readItems item.read items
    | node => node.mismatch "a sequence"
  write values := .list (values.map item.write)

/-- Values with written forms of their own in a list of strings. All of it is found to be strings before
any of them is parsed. -/
def textedList {α : Type} (parse : String → Except Fault α) (print : α → String) :
    Codec (List α) where
  read node := do (← text.list.read node).mapM parse
  write values := text.list.write (values.map print)

/-- Null stands for nothing. -/
def optional {α : Type} (codec : Codec α) : Codec (Option α) where
  read
    | .null => .ok none
    | node => do return some (← codec.read node)
  write
    | none => .null
    | some value => codec.write value

def decode {α : Type} (codec : Codec α) (text : Bytes) : Except Fault α := do
  let document := Document.parse text
  let value ← codec.read document.root
  if document.trailing then throw .trailingCharacters
  return value

def encode {α : Type} (codec : Codec α) (value : α) : Bytes :=
  (codec.write value).toBytes

end Codec

namespace Field

def required {α : Type} (name : String) (codec : Codec α) : Field α :=
  ⟨name, codec.read, none, true, fun value => some (codec.write value)⟩

/-- May be missing or null; nothing is written as null. -/
def nullable {α : Type} (name : String) (codec : Codec α) : Field (Option α) :=
  ⟨name, codec.optional.read, some none, true, fun value => some (codec.optional.write value)⟩

/-- May be missing or null; nothing is left out. -/
def optional {α : Type} (name : String) (codec : Codec α) : Field (Option α) :=
  ⟨name, codec.optional.read, some none, true, fun value => value.map codec.write⟩

/-- May be missing from an object or null, but not from a list of the fields. -/
def placed {α : Type} (name : String) (codec : Codec α) : Field (Option α) :=
  { optional name codec with trails := false }

/-- May be missing. -/
def list {α : Type} (name : String) (codec : Codec α) : Field (List α) :=
  ⟨name, codec.list.read, some [], true, fun values => some (codec.list.write values)⟩

/-- May be missing; an empty list is left out. -/
def sparseList {α : Type} (name : String) (codec : Codec α) : Field (List α) :=
  ⟨name, codec.list.read, some [], true,
    fun values => if values.isEmpty then none else some (codec.list.write values)⟩

/-- May be missing or null, both for the empty list. -/
def nullableList {α : Type} (name : String) (codec : Codec (List α)) : Field (List α) :=
  ⟨name, fun node => do return (← codec.optional.read node).getD [], some [], true,
    fun values => some (codec.write values)⟩

end Field

end CardGateway.Json
