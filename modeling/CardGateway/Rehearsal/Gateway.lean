import CardGateway.Crypto.Ecdsa
import CardGateway.Rehearsal.Alarm
import CardGateway.Rehearsal.Peer
import CardGateway.Run.World
import CardGateway.Text.Base64

/-!
# A scripted gateway

Answers in the order of a script, one per exchange, or a scripted peer behind an HTTP client. Answers
may hold a signature over the challenge of the run.
-/

namespace CardGateway.Rehearsal

open CardGateway.Crypto CardGateway.Text

inductive SignatureForm where
  | der
  | fixed
  /-- With the other one of the two values that are as good as each other. -/
  | high
  deriving DecidableEq, Repr

structure Signing where
  key : Ecdsa.PrivateKey
  form : SignatureForm
  /-- What is signed instead of the challenge. -/
  subject : Option Bytes

def Signing.signature (signing : Signing) (challenge : Bytes) : Bytes :=
  let signature := Ecdsa.sign signing.key (signing.subject.getD challenge)
  match signing.form with
  | .der => signature.toDer
  | .fixed => signature.toFixed
  | .high => signature.raised.toDer

def signatureMark : String := "\x7b\x7bSIG\x7d\x7d"

inductive ScriptedAnswer where
  | text (template : String) (signing : Option Signing)
  | bytes (body : Bytes)
  | fault (reason : TransportFault)

def ScriptedAnswer.give (challenge : Bytes) : ScriptedAnswer → Except TransportFault Bytes
  | .text template none => .ok (Utf8.encode template)
  | .text template (some signing) =>
      let signature := Base64.encodeText .standard (signing.signature challenge)
      .ok (Utf8.encode (template.replace signatureMark signature))
  | .bytes body => .ok body
  | .fault reason => .error reason

structure GatewayStep where
  delay : Millis
  hangs : Bool
  answer : ScriptedAnswer

/-- What a gateway answers that has nothing more to say. -/
def GatewayStep.last : GatewayStep := ⟨0, false, .text "\x7b\x7d" none⟩

inductive Gateway where
  | scripted (steps : List GatewayStep)
  /-- At the beginning of each exchange it is marked how much the peer had seen by then. -/
  | http (client : Http.Client) (peer : Peer) (marks : List Nat)

namespace Gateway

structure Line where
  gateway : Gateway
  alarm : Alarm

def network : Http.Network (Peer × Alarm) where
  connect now := fun (peer, alarm) =>
    let (opening, peer) := peer.connect
    (some (opening, 0), (peer, alarm.hear .connect now))
  isQuiet _ stream := fun (peer, _) => peer.isQuiet stream
  exchange now stream request := fun (peer, alarm) =>
    let (arrival, after) := peer.exchange now stream request
    let alarm := if peer.seen.length < after.seen.length then alarm.hear .request now else alarm
    (arrival, (after, alarm))

def sendScripted (challenge : Bytes) (steps : List GatewayStep) (alarm : Alarm) (now : Millis)
    (guarded : Bool) : Call Line (Except TransportFault Bytes) :=
  let step := steps.head?.getD .last
  let line : Line := ⟨.scripted steps.tail, alarm.hear .send now⟩
  let fires := if guarded && !alarm.isLenient .send then line.alarm.fires else none
  let ends := winner [(.error .cancelled, fires.map (max now)),
    (step.answer.give challenge, if step.hangs then none else some (now + step.delay))]
  { begun := line
    ends := ends.map fun (answer, t) => (t - now, answer, line)
    dropped := fun _ => line }

def sendHttp (client : Http.Client) (peer : Peer) (marks : List Nat) (alarm : Alarm) (now : Millis)
    (guarded : Bool) (resource : String) (body : Bytes) :
    Call Line (Except TransportFault Bytes) :=
  let marks := marks ++ [peer.seen.length]
  let exchange (limit : Option Millis) :=
    Http.Client.send network
      { fires := fun (_, alarm) => if guarded then alarm.fires else none, limit }
      resource body ⟨client, (peer, alarm), now⟩
  let line (s : Http.Client.Standing (Peer × Alarm)) : Line :=
    ⟨.http s.client s.network.1 marks, s.network.2⟩
  let (outcome, s) := exchange none
  { begun := line s
    ends := match outcome with
      | .result answer => some (s.now - now, answer, line s)
      | .abandoned | .stuck => none
    dropped := fun span => line (exchange (some (now + span))).2 }

def send (challenge : Bytes) (line : Line) (now : Millis) (guarded : Bool) (resource : String)
    (body : Bytes) : Call Line (Except TransportFault Bytes) :=
  match line.gateway with
  | .scripted steps => sendScripted challenge steps line.alarm now guarded
  | .http client peer marks => sendHttp client peer marks line.alarm now guarded resource body

def close (line : Line) (now : Millis) : Line :=
  match line.gateway with
  | .scripted _ => { line with alarm := line.alarm.hear .close now }
  | .http client peer marks => { line with gateway := .http client.close peer marks }

/-- As many answers as the gateway may give before it says the same thing again. -/
def bound : Gateway → Nat
  | .scripted steps => steps.length
  | .http _ peer _ => (peer.scripts.flatMap fun steps => steps.getD []).length

end Gateway

end CardGateway.Rehearsal
