import CardGateway.Message.Binary
import CardGateway.Message.ResultCode

/-!
# Opening and closing messages

The hello with its answer, the request for a command, and the end of a session.
-/

namespace CardGateway

open CardGateway.Json

def clientVersion : String := "0.1.0"

structure HelloRequest where
  session : String
  version : String
  challenge : Bytes
  deriving DecidableEq, Repr

namespace HelloRequest

def fields :=
  Fields.cons (.required "SessionIdentifier" .text) <|
  .cons (.required "Version" .text) <|
  .cons (.required "Challenge" .base64) .nil

def codec : Codec HelloRequest :=
  fields.codec "HelloRequest" (fun (session, version, challenge, _) => ⟨session, version, challenge⟩)
    (fun m => (m.session, m.version, m.challenge, ()))

end HelloRequest

structure HelloResponse where
  session : Option String
  result : ResultCode
  signature : Option Bytes
  downloadAddress : Option String
  /-- Echoed by the server and never used. -/
  challenge : Option Bytes
  deriving DecidableEq, Repr

namespace HelloResponse

def fields :=
  Fields.cons (.nullable "SessionIdentifier" .text) <|
  .cons (.required "Result" ResultCode.codec) <|
  .cons (.nullable "Signature" .base64) <|
  .cons (.nullable "DownloadAddress" .text) <|
  .cons (.nullable "Challenge" .base64) .nil

def codec : Codec HelloResponse :=
  fields.codec "HelloResponse"
    (fun (session, result, signature, address, challenge, _) =>
      ⟨session, result, signature, address, challenge⟩)
    (fun m => (m.session, m.result, m.signature, m.downloadAddress, m.challenge, ()))

end HelloResponse

structure GetCommand where
  session : String
  deriving DecidableEq, Repr

namespace GetCommand

def fields :=
  Fields.cons (.required "SessionIdentifier" .text) .nil

def codec : Codec GetCommand :=
  fields.codec "GetCommand" (fun (session, _) => ⟨session⟩) (fun m => (m.session, ()))

end GetCommand

structure Terminate where
  session : Option String
  result : ResultCode
  deriving DecidableEq, Repr

namespace Terminate

def fields :=
  Fields.cons (.nullable "SessionIdentifier" .text) <|
  .cons (.required "Result" ResultCode.codec) .nil

def codec : Codec Terminate :=
  fields.codec "Terminate" (fun (session, result, _) => ⟨session, result⟩)
    (fun m => (m.session, m.result, ()))

end Terminate

end CardGateway
