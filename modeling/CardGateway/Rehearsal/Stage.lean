import CardGateway.Rehearsal.Gateway
import CardGateway.Rehearsal.Reader
import CardGateway.Run.Whole
import CardGateway.Url.Domain

/-!
# Rehearsals

A run in a world that is all scripted, and what is to be seen of it afterwards.
-/

namespace CardGateway.Rehearsal

open CardGateway.Text

structure Stage where
  line : Gateway.Line
  reader : Reader

namespace Stage

def hear (stage : Stage) (cue : Cue) (now : Millis) : Stage :=
  { stage with line := { stage.line with alarm := stage.line.alarm.hear cue now } }

def atReader {α : Type} (cue : Cue) (now : Millis) (operation : Reader → Call Reader α)
    (stage : Stage) : Call Stage α :=
  let stage := stage.hear cue now
  .carry (fun reader => { stage with reader }) (operation stage.reader)

def noticeCue : Notice → Cue
  | .update _ _ => .updateNotice
  | .error _ => .errorMessage

/-- The world of a stage. At one instant a deadline prevails over an end, and that over the token. -/
def world (challenge : Bytes) : World Stage where
  fires stage := stage.line.alarm.fires
  send now guarded resource body stage :=
    .carry (fun line => { stage with line })
      (Gateway.send challenge stage.line now guarded resource body)
  close now stage :=
    let after := { stage with line := Gateway.close stage.line now }
    ⟨after, some (0, true, after), fun _ => after⟩
  findTokens now filters := atReader .findTokens now (Reader.findTokens filters)
  listCertificates now slot _ pin :=
    atReader .listCertificates now (Reader.listCertificates slot pin)
  sign now slot didName pin message :=
    atReader .sign now (Reader.sign slot didName pin message)
  clearPins now stage := stage.hear .clearPins now
  disconnect _ _ stage := stage
  present now notice stage := stage.hear (noticeCue notice) now
  -- In the recorded runs a timer that is due fires before anything else is looked at.
  precedence _ _ := [.deadline, .ended, .fired]

end Stage

/-- What is seen of a run: entries of its journal, and where the gateway is a peer behind an HTTP
client, what that peer saw instead of the exchanges. -/
inductive Scene where
  | entry (entry : Entry)
  | sight (sight : Sight)

def between {α : Type} (items : List α) : List Nat → List (List α)
  | [] => []
  | [mark] => [items.drop mark]
  | mark :: next :: rest => (items.drop mark).take (next - mark) :: between items (next :: rest)

/-- Puts in place of each exchange what was seen of it. -/
def interleave : List Entry → List (List Sight) → List Scene
  | [], _ => []
  | entry :: rest, sights =>
      match entry.event, sights with
      | .send _ _, seen :: sights => seen.map .sight ++ interleave rest sights
      | .send _ _, [] => interleave rest []
      | .close, sights => interleave rest sights
      | _, sights => .entry entry :: interleave rest sights

def scenes (gateway : Gateway) (journal : List Entry) : List Scene :=
  match gateway with
  | .scripted _ => journal.map .entry
  | .http _ peer marks => interleave journal (between peer.seen marks)

structure Report where
  /-- None if the run never ends. -/
  result : Option (Except Failure Terminate)
  scenes : List Scene
  elapsed : Millis
  /-- The slots that were released. -/
  released : List SlotHandle
  transitions : List (Phase × Phase)
  notices : List Notice

/-- Plays a run. What is not over after the patience of a rehearsal counts as never over. -/
def play [Url.HostMapping] (setup : Setup) (stage : Stage) : Report :=
  let (ending, run) := setup.run (Stage.world setup.challenge.bytes)
    (Gateway.bound stage.line.gateway + 1) stage
  let timely := run.journal.takeWhile fun entry => entry.time < patience
  let result := match ending with
    | .finished result => if run.now < patience then some result else none
    | .endless | .cut => none
  { result
    scenes := scenes run.world.line.gateway timely
    elapsed := if result.isSome then run.now else patience
    released := timely.filterMap fun entry => match entry.event with
      | .disconnect slot => some slot
      | _ => none
    transitions := timely.filterMap fun entry => match entry.event with
      | .enter before after => some (before, after)
      | _ => none
    notices := timely.filterMap fun entry => match entry.event with
      | .present notice => some notice
      | _ => none }

/-- A text in which a challenge does not show. -/
def masked (challenge : Bytes) (text : String) : String :=
  text.replace (Base64.encodeText .standard challenge) s!"<{challenge.length} bytes>"

end CardGateway.Rehearsal
