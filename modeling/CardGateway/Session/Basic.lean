import CardGateway.Json.Record
import CardGateway.Message.Command
import CardGateway.Pin.Key
import CardGateway.Session.Failure

/-!
# Sessions

A session token names the server and the session, and perhaps a key for PINs and an address to which
the user is sent when the session fails. That address is extended by the outcome.
-/

namespace CardGateway

open CardGateway.Json

inductive Endpoint where
  | hello
  | getCommand
  | listTokens
  | listCertificates
  | sign
  | terminate
  deriving DecidableEq, Repr

def Endpoint.segment : Endpoint → String
  | .hello => "HelloRequest"
  | .getCommand => "GetCommand"
  | .listTokens => "ListTokensResponse"
  | .listCertificates => "ListCertificatesResponse"
  | .sign => "SignResponse"
  | .terminate => "Terminate"

def Reply.endpoint : Reply → Endpoint
  | .listTokens _ => .listTokens
  | .listCertificates _ => .listCertificates
  | .sign _ => .sign

structure PathSecurity where
  jwk : String
  deriving DecidableEq, Repr

namespace PathSecurity

def fields :=
  Fields.cons (.required "JWK" .text) .nil

def codec : Codec PathSecurity :=
  fields.codec "PathSecurityParameters" (fun (jwk, _) => ⟨jwk⟩) (fun p => (p.jwk, ()))

/-- The protocol under which PINs come encrypted with the key of the parameters. -/
def pinEncryption : String := "http://ws.openecard.org/pathsecurity/tlsv12-with-pin-encryption"

end PathSecurity

structure SessionToken where
  session : String
  server : String
  errorAddress : Option String
  /-- The protocol of path security. -/
  protocol : Option String
  parameters : Option PathSecurity
  deriving DecidableEq, Repr

namespace SessionToken

def fields :=
  Fields.cons (.required "SessionIdentifier" .text) <|
  .cons (.required "ServerAddress" .text) <|
  .cons (.optional "CommunicationErrorAddress" .text) <|
  .cons (.optional "PathSecurity-Protocol" .text) <|
  .cons (.optional "PathSecurity-Parameters" PathSecurity.codec) .nil

def codec : Codec SessionToken :=
  fields.codec "SessionToken"
    (fun (session, server, errorAddress, protocol, parameters, _) =>
      ⟨session, server, errorAddress, protocol, parameters⟩)
    (fun t => (t.session, t.server, t.errorAddress, t.protocol, t.parameters, ()))

/-- A key that cannot be used is as good as none. -/
def pinKey (token : SessionToken) : Option PinKey :=
  match token.protocol, token.parameters with
  | some protocol, some parameters =>
      if protocol = PathSecurity.pinEncryption then (PinKey.ofJwk parameters.jwk).toOption else none
  | _, _ => none

end SessionToken

structure Session where
  id : String
  server : Url
  errorAddress : Option String
  pinKey : Option PinKey

namespace Session

variable [Url.HostMapping]

def ofToken (token : SessionToken) : Except Failure Session :=
  match Url.parse token.server with
  | .error fault => .error (.serverAddress (.malformed fault))
  | .ok server =>
      if server.host.isNone then .error (.serverAddress .hostless)
      else .ok ⟨token.session, server, token.errorAddress, token.pinKey⟩

/-- The path of the server's address without slashes at its end. -/
def basePath (session : Session) : String :=
  String.ofList ((session.server.path.toList.reverse.dropWhile (· == '/')).reverse)

/-- The request target of an endpoint, with the query of the server's address. -/
def resource (session : Session) (endpoint : Endpoint) : String :=
  let target := session.basePath ++ "/" ++ endpoint.segment
  match session.server.query with
  | some query => target ++ "?" ++ query
  | none => target

/-- The pairs that tell the outcome of a failed session. -/
def outcome (blame : Blame) : List (String × String) :=
  [("ResultMajor", "error"), ("ResultMinor", blame.text)]

/-- The address to which the user is sent, extended by the outcome; none if the session has none. -/
def redirect (session : Session) (blame : Blame) : Except Failure (Option Url) :=
  match session.errorAddress with
  | none => .ok none
  | some address =>
      match Url.parse address with
      | .error fault => .error (.redirect address (.malformed fault))
      | .ok url =>
          if url.scheme ≠ "https" then .error (.redirect address (.scheme url.scheme))
          else .ok (some (url.withPairs (outcome blame)))

def fail (session : Session) (cause : Cause) : Failure :=
  match session.redirect cause.blame with
  | .ok redirect => .because cause redirect
  | .error failure => failure

def connectionFailure (session : Session) : TransportFault → Failure
  | .cancelled => .cancelled
  | fault => session.fail (.connection fault)

/-- Reads a message of the server. -/
def decode {α : Type} (session : Session) (codec : Codec α) (body : Bytes) : Except Failure α :=
  match codec.decode body with
  | .ok value => .ok value
  | .error fault => .error (session.fail (.message fault))

end Session

/-- Why no connection can be opened to a URL. -/
inductive Url.PeerFault where
  | hostless
  | portless
  deriving DecidableEq, Repr

def Url.PeerFault.message : Url.PeerFault → String
  | .hostless => "URL has no host"
  | .portless => "URL has no port"

def Url.peer (url : Url) : Except Url.PeerFault String :=
  match url.hostText, url.effectivePort with
  | none, _ => .error .hostless
  | some _, none => .error .portless
  | some host, some port => .ok s!"{host}:{port}"

end CardGateway
