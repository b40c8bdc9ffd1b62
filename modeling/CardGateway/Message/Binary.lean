import CardGateway.Json.Record
import CardGateway.Text.Base64
import CardGateway.Text.Blank
import CardGateway.Text.Hex

/-!
# Binary fields

Byte strings travel as base64 in the standard alphabet, slot handles as hexadecimal digits. Blanks
around either are passed over.
-/

namespace CardGateway

open CardGateway.Text

namespace Json.Codec

def readBase64 (s : String) : Except Fault Bytes :=
  match Base64.decode .standard (Utf8.encode (trim s)) with
  | .ok bytes => .ok bytes
  | .error fault => .error (.content fault.message)

def base64 : Codec Bytes := .texted readBase64 (Base64.encodeText .standard)

def base64List : Codec (List Bytes) := .textedList readBase64 (Base64.encodeText .standard)

end Json.Codec

/-- The handle of a slot with a card, compared by its bytes. -/
structure SlotHandle where
  bytes : Bytes
  deriving DecidableEq, Repr

namespace SlotHandle

def wire (slot : SlotHandle) : String := Hex.encodeUpper slot.bytes

def shown (slot : SlotHandle) : String := Hex.encodeLower slot.bytes

def parse (s : String) : Except Hex.Fault SlotHandle := do
  return ⟨← Hex.decode (Utf8.encode (trim s))⟩

def codec : Json.Codec SlotHandle :=
  .texted
    (fun s =>
      match parse s with
      | .ok slot => .ok slot
      | .error fault => .error (.content fault.message))
    wire

instance : LT SlotHandle := ⟨fun a b => a.bytes < b.bytes⟩

instance (a b : SlotHandle) : Decidable (a < b) :=
  inferInstanceAs (Decidable (a.bytes < b.bytes))

/-- Puts a handle in its place in an ascending list, unless it stands there. -/
def insert (slot : SlotHandle) : List SlotHandle → List SlotHandle
  | [] => [slot]
  | first :: rest =>
      if slot < first then slot :: first :: rest
      else if slot = first then first :: rest
      else first :: insert slot rest

theorem mem_insert {slot other : SlotHandle} {slots : List SlotHandle} :
    other ∈ insert slot slots ↔ other = slot ∨ other ∈ slots := by
  induction slots with
  | nil => simp [insert]
  | cons first rest ih =>
      unfold insert
      split
      · simp
      · split
        · next h => simp [h]
        · simp only [List.mem_cons, ih]
          exact or_left_comm

def union (slots others : List SlotHandle) : List SlotHandle :=
  others.foldl (fun all slot => insert slot all) slots

theorem mem_union {other : SlotHandle} {slots others : List SlotHandle} :
    other ∈ union slots others ↔ other ∈ slots ∨ other ∈ others := by
  induction others generalizing slots with
  | nil => simp [union]
  | cons first rest ih =>
      have step : union slots (first :: rest) = union (insert first slots) rest := rfl
      rw [step, ih, mem_insert, List.mem_cons, @or_comm (other = first), or_assoc]

end SlotHandle

end CardGateway
