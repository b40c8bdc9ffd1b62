import CardGateway.Time.Race

/-!
# When a token fires

At a planned instant, or at the n-th occurrence of something that the run does.
-/

namespace CardGateway.Rehearsal

inductive Cue where
  | send
  | close
  | findTokens
  | listCertificates
  | sign
  | clearPins
  | updateNotice
  | errorMessage
  | connect
  | request
  deriving DecidableEq, Repr

structure Watch where
  cue : Cue
  /-- How many times it is still to occur. -/
  left : Nat
  /-- An exchange in which it occurs is answered all the same. -/
  lenient : Bool
  deriving DecidableEq, Repr

structure Alarm where
  planned : Option Millis
  watch : Option Watch
  /-- The instant at which what was waited for occurred. -/
  rung : Option Millis
  deriving DecidableEq, Repr

namespace Alarm

def fires (alarm : Alarm) : Option Millis :=
  match alarm.planned, alarm.rung with
  | some a, some b => some (min a b)
  | some a, none => some a
  | none, other => other

def isDue (alarm : Alarm) (cue : Cue) : Bool :=
  match alarm.watch with
  | some watch => watch.cue == cue && watch.left == 1
  | none => false

def hear (alarm : Alarm) (cue : Cue) (now : Millis) : Alarm :=
  match alarm.watch with
  | some watch =>
      if watch.cue ≠ cue then alarm
      else if watch.left = 1 then { alarm with watch := none, rung := some now }
      else { alarm with watch := some { watch with left := watch.left - 1 } }
  | none => alarm

/-- Whether an exchange in which the token fires is answered all the same. -/
def isLenient (alarm : Alarm) (cue : Cue) : Bool :=
  match alarm.watch with
  | some watch => alarm.isDue cue && watch.lenient
  | none => false

end Alarm

end CardGateway.Rehearsal
