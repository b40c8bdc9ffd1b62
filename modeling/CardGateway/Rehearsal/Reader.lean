import CardGateway.Card.Fixture
import CardGateway.Run.World

/-!
# A scripted card

Outcomes in the order of a script, the last of them over and over, or a card from a document.
-/

namespace CardGateway.Rehearsal

/-- An outcome, as far as it is not the card's own value. It comes after a delay, unless the card hangs
or breaks down or fails. -/
structure CardStep (α : Type) where
  delay : Millis
  hangs : Bool
  crashes : Bool
  fault : Option CardFault
  value : α

namespace CardStep

variable {α β : Type}

def plain (value : α) : CardStep α := ⟨0, false, false, none, value⟩

def outcome (step : CardStep α) (f : α → β) : CardOutcome β :=
  if step.crashes then .crash
  else match step.fault with
    | some fault => .fault fault
    | none => .value (f step.value)

def next (empty : α) : List (CardStep α) → CardStep α × List (CardStep α)
  | [] => (plain empty, [])
  | [step] => (step, [step])
  | step :: rest => (step, rest)

def call {σ : Type} (step : CardStep α) (f : α → β) (state : σ) : Call σ (CardOutcome β) where
  begun := state
  ends := if step.hangs then none else some (step.delay, step.outcome f, state)
  dropped _ := state

end CardStep

structure Presence where
  tokens : List TokenInfo
  /-- Slots that are connected without a token. -/
  touched : List SlotHandle

def Presence.search (presence : Presence) (filters : List TokenInfo) : TokenSearch where
  matched := presence.tokens.filter fun token => token.satisfiesAny filters
  connected :=
    SlotHandle.union [] (presence.touched ++ presence.tokens.filterMap fun token => token.slot)

inductive Reader where
  | scripted (find : List (CardStep Presence)) (certificates : List (CardStep (List CertificateInfo)))
      (sign : List (CardStep (Option Bytes)))
  | fixture (card : Fixture)

namespace Reader

/-- A search that breaks down never ends. -/
def findTokens (filters : List TokenInfo) : Reader → Call Reader (Except CardFault TokenSearch)
  | .scripted find certificates sign =>
      let (step, find) := CardStep.next ⟨[], []⟩ find
      let after := Reader.scripted find certificates sign
      { begun := after
        ends := if step.hangs then none
          else match step.outcome fun presence => presence.search filters with
            | .value search => some (step.delay, .ok search, after)
            | .fault fault => some (step.delay, .error fault, after)
            | .crash => none
        dropped := fun _ => after }
  | .fixture card => .atOnce (.fixture card) (.ok (card.findTokens filters))

def listCertificates (slot : SlotHandle) (pin : Option Pin) :
    Reader → Call Reader (CardOutcome (List CertificateInfo))
  | .scripted find certificates sign =>
      let (step, certificates) := CardStep.next [] certificates
      step.call id (.scripted find certificates sign)
  | .fixture card => .atOnce (.fixture card) (.ofExcept (card.listCertificates slot pin))

/-- A signature that the script does not give is the message backwards. -/
def sign (slot : SlotHandle) (didName : String) (pin : Option Pin) (message : Bytes) :
    Reader → Call Reader (CardOutcome Bytes)
  | .scripted find certificates sign =>
      let (step, sign) := CardStep.next none sign
      step.call (·.getD message.reverse) (.scripted find certificates sign)
  | .fixture card => .atOnce (.fixture card) (.ofExcept (card.sign slot didName pin message))

end Reader

end CardGateway.Rehearsal
