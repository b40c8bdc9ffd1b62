import CardGateway.Text.Utf8

/-!
# PINs

A PIN is a row of characters. Erasing it overwrites each of them.
-/

namespace CardGateway

structure Pin where
  chars : List Char
  deriving DecidableEq, Repr

namespace Pin

def filler : Char := ' '

def ofText (text : String) : Pin := ⟨text.toList⟩

def expose (pin : Pin) : String := String.ofList pin.chars

def length (pin : Pin) : Nat := pin.chars.length

def erase (pin : Pin) : Pin := ⟨pin.chars.map fun _ => filler⟩

def isErased (pin : Pin) : Bool := pin.chars.all (· == filler)

def summary (pin : Pin) : String := s!"Pin({pin.length} chars)"

theorem expose_ofText (text : String) : (ofText text).expose = text := by
  simp [ofText, expose]

theorem length_erase (pin : Pin) : pin.erase.length = pin.length := by
  simp [erase, length]

theorem isErased_erase (pin : Pin) : pin.erase.isErased = true := by
  simp [erase, isErased]

end Pin

end CardGateway
