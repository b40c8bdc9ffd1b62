import CardGateway.Message.Hello
import CardGateway.Message.Token
import CardGateway.Message.Wait

/-!
# Commands and replies

The server's requests and the client's responses. A command is an object in which exactly one of four
members holds a request.
-/

namespace CardGateway

open CardGateway.Json

structure ListTokensRequest where
  session : Option String
  filters : List TokenInfo
  maxWait : Option UInt64
  deriving DecidableEq, Repr

namespace ListTokensRequest

def fields :=
  Fields.cons (.nullable "SessionIdentifier" .text) <|
  .cons (.list "TokenInfo" TokenInfo.codec) <|
  .cons Wait.field .nil

def codec : Codec ListTokensRequest :=
  fields.codec "ListTokensRequest" (fun (session, filters, wait, _) => ⟨session, filters, wait⟩)
    (fun m => (m.session, m.filters, m.maxWait, ()))

end ListTokensRequest

structure ListTokensResponse where
  session : String
  result : ResultCode
  tokens : List TokenInfo
  deriving DecidableEq, Repr

namespace ListTokensResponse

def fields :=
  Fields.cons (.required "SessionIdentifier" .text) <|
  .cons (.required "Result" ResultCode.codec) <|
  .cons (.sparseList "TokenInfo" TokenInfo.codec) .nil

def codec : Codec ListTokensResponse :=
  fields.codec "ListTokensResponse" (fun (session, result, tokens, _) => ⟨session, result, tokens⟩)
    (fun m => (m.session, m.result, m.tokens, ()))

end ListTokensResponse

structure ListCertificatesRequest where
  session : Option String
  slot : SlotHandle
  /-- The encrypted PIN. -/
  pin : Option String
  filters : List CertificateFilter
  maxWait : Option UInt64
  deriving DecidableEq, Repr

namespace ListCertificatesRequest

def fields :=
  Fields.cons (.nullable "SessionIdentifier" .text) <|
  .cons (.required "SlotHandle" SlotHandle.codec) <|
  .cons (.nullable "PIN" .text) <|
  .cons (.list "CertificateFilter" CertificateFilter.codec) <|
  .cons Wait.field .nil

def codec : Codec ListCertificatesRequest :=
  fields.codec "ListCertificatesRequest"
    (fun (session, slot, pin, filters, wait, _) => ⟨session, slot, pin, filters, wait⟩)
    (fun m => (m.session, m.slot, m.pin, m.filters, m.maxWait, ()))

end ListCertificatesRequest

structure ListCertificatesResponse where
  session : String
  result : ResultCode
  certificates : List CertificateInfo
  deriving DecidableEq, Repr

namespace ListCertificatesResponse

def fields :=
  Fields.cons (.required "SessionIdentifier" .text) <|
  .cons (.required "Result" ResultCode.codec) <|
  .cons (.sparseList "CertificateInfo" CertificateInfo.codec) .nil

def codec : Codec ListCertificatesResponse :=
  fields.codec "ListCertificatesResponse"
    (fun (session, result, certificates, _) => ⟨session, result, certificates⟩)
    (fun m => (m.session, m.result, m.certificates, ()))

end ListCertificatesResponse

structure SignRequest where
  session : Option String
  slot : SlotHandle
  didName : String
  /-- The encrypted PIN. -/
  pin : Option String
  message : Bytes
  maxWait : Option UInt64
  deriving DecidableEq, Repr

namespace SignRequest

def fields :=
  Fields.cons (.nullable "SessionIdentifier" .text) <|
  .cons (.required "SlotHandle" SlotHandle.codec) <|
  .cons (.required "DIDName" .text) <|
  .cons (.nullable "PIN" .text) <|
  .cons (.required "Message" .base64) <|
  .cons Wait.field .nil

def codec : Codec SignRequest :=
  fields.codec "SignRequest"
    (fun (session, slot, didName, pin, message, wait, _) =>
      ⟨session, slot, didName, pin, message, wait⟩)
    (fun m => (m.session, m.slot, m.didName, m.pin, m.message, m.maxWait, ()))

end SignRequest

structure SignResponse where
  session : String
  result : ResultCode
  signature : Option Bytes
  deriving DecidableEq, Repr

namespace SignResponse

def fields :=
  Fields.cons (.required "SessionIdentifier" .text) <|
  .cons (.required "Result" ResultCode.codec) <|
  .cons (.optional "Signature" .base64) .nil

def codec : Codec SignResponse :=
  fields.codec "SignResponse" (fun (session, result, signature, _) => ⟨session, result, signature⟩)
    (fun m => (m.session, m.result, m.signature, ()))

end SignResponse

inductive Command where
  | listTokens (request : ListTokensRequest)
  | listCertificates (request : ListCertificatesRequest)
  | sign (request : SignRequest)
  | terminate (message : Terminate)
  deriving DecidableEq, Repr

namespace Command

def name : Command → String
  | .listTokens _ => "ListTokensRequest"
  | .listCertificates _ => "ListCertificatesRequest"
  | .sign _ => "SignRequest"
  | .terminate _ => "Terminate"

/-- The budget of a request, none for the end of the session. -/
def budget? : Command → Option Millis
  | .listTokens request => some (Wait.budget request.maxWait)
  | .listCertificates request => some (Wait.budget request.maxWait)
  | .sign request => some (Wait.budget request.maxWait)
  | .terminate _ => none

structure Slots where
  listTokens : Option ListTokensRequest
  listCertificates : Option ListCertificatesRequest
  sign : Option SignRequest
  terminate : Option Terminate

namespace Slots

def empty : Slots := ⟨none, none, none, none⟩

def fields :=
  Fields.cons (.optional "ListTokensRequest" ListTokensRequest.codec) <|
  .cons (.optional "ListCertificatesRequest" ListCertificatesRequest.codec) <|
  .cons (.optional "SignRequest" SignRequest.codec) <|
  .cons (.optional "Terminate" Terminate.codec) .nil

def codec : Codec Slots :=
  fields.codec "RawCommand" (fun (tokens, certificates, sign, terminate, _) =>
      ⟨tokens, certificates, sign, terminate⟩)
    (fun s => (s.listTokens, s.listCertificates, s.sign, s.terminate, ()))

def filled (slots : Slots) : List Command :=
  (slots.listTokens.map Command.listTokens).toList ++
    (slots.listCertificates.map Command.listCertificates).toList ++
    (slots.sign.map Command.sign).toList ++ (slots.terminate.map Command.terminate).toList

def command (slots : Slots) : Except Fault Command :=
  match slots.filled with
  | [] => .error (.content "command contains no request")
  | [command] => .ok command
  | commands =>
      .error (.content s!"command contains {commands.length} requests, expected exactly one")

end Slots

def slots : Command → Slots
  | .listTokens request => { Slots.empty with listTokens := some request }
  | .listCertificates request => { Slots.empty with listCertificates := some request }
  | .sign request => { Slots.empty with sign := some request }
  | .terminate message => { Slots.empty with terminate := some message }

theorem command_slots (command : Command) : command.slots.command = .ok command := by
  cases command <;> rfl

def codec : Codec Command where
  read node := do (← Slots.codec.read node).command
  write command := Slots.codec.write command.slots

end Command

inductive Reply where
  | listTokens (response : ListTokensResponse)
  | listCertificates (response : ListCertificatesResponse)
  | sign (response : SignResponse)
  deriving DecidableEq, Repr

namespace Reply

def result : Reply → ResultCode
  | .listTokens response => response.result
  | .listCertificates response => response.result
  | .sign response => response.result

def encode : Reply → Bytes
  | .listTokens response => ListTokensResponse.codec.encode response
  | .listCertificates response => ListCertificatesResponse.codec.encode response
  | .sign response => SignResponse.codec.encode response

end Reply

end CardGateway
