import CardGateway.Config.Basic
import CardGateway.Message.ResultCode
import CardGateway.Transport.Fault
import CardGateway.Trust.Store
import CardGateway.Update.Policy

/-!
# Failed runs

A cause that the server is concerned with comes with the address to which the user is sent, if the
session has one. Where that address cannot be used, this is the failure, whatever the cause.
-/

namespace CardGateway

/-- Who is to blame, for the address to which the user is sent. -/
inductive Blame where
  | client
  | server
  | communication
  deriving DecidableEq, Repr

def Blame.text : Blame → String
  | .client => "clientError"
  | .server => "serverError"
  | .communication => "communicationError"

inductive Cause where
  | connection (fault : TransportFault)
  | message (fault : Json.Fault)
  | downloadAddress (fault : UpdatePolicy.Fault)
  | rejected (code : ResultCode)
  | signature
  /-- The server insists on a newer client. -/
  | outdated
  deriving DecidableEq, Repr

namespace Cause

def blame : Cause → Blame
  | .connection fault => if fault.isConnection then .communication else .server
  | .message _ | .downloadAddress _ | .rejected _ => .server
  | .signature => .communication
  | .outdated => .client

def message? : Cause → Option String
  | .connection fault =>
      fault.message.map fun text => s!"connection to the ChipGateway server failed: {text}"
  | .message fault => some s!"invalid ChipGateway message: {fault.message}"
  | .downloadAddress fault => some s!"unexpected ChipGateway message: {fault.message}"
  | .rejected code => some s!"ChipGateway server rejected the session with result {code.text}"
  | .signature => some "ChipGateway server signature over the challenge is invalid"
  | .outdated => some "client version is outdated, the ChipGateway server requires an update"

end Cause

inductive RedirectFault where
  | malformed (fault : Url.Fault)
  | scheme (name : String)
  deriving DecidableEq, Repr

def RedirectFault.message : RedirectFault → String
  | .malformed fault => fault.message
  | .scheme name => s!"scheme {name} is not https"

inductive AddressFault where
  | malformed (fault : Url.Fault)
  | hostless
  deriving DecidableEq, Repr

def AddressFault.message : AddressFault → String
  | .malformed fault => fault.message
  | .hostless => "address has no host"

inductive Failure where
  | because (cause : Cause) (redirect : Option Url)
  | redirect (address : String) (fault : RedirectFault)
  | cancelled
  | trustStore (fault : TrustStore.Fault)
  | serverAddress (fault : AddressFault)
  | config (issues : List Config.Issue)
  deriving DecidableEq, Repr

namespace Failure

inductive Kind where
  | connection
  | redirect
  | protocolData
  | authentication
  | versionTooOld
  | cancelled
  | configuration
  deriving DecidableEq, Repr

def Kind.text : Kind → String
  | .connection => "connection error"
  | .redirect => "redirect error"
  | .protocolData => "protocol data error"
  | .authentication => "authentication server error"
  | .versionTooOld => "version too old"
  | .cancelled => "cancelled"
  | .configuration => "configuration error"

def kind : Failure → Kind
  | .because (.connection _) _ => .connection
  | .because (.message _) _ | .because (.downloadAddress _) _ => .protocolData
  | .because (.rejected _) _ | .because .signature _ => .authentication
  | .because .outdated _ => .versionTooOld
  | .redirect _ _ => .redirect
  | .cancelled => .cancelled
  | .trustStore _ | .serverAddress _ | .config _ => .configuration

def elementName : String := "ServerAddress"

/-- None where only the system or a document's grammar can tell. -/
def message? : Failure → Option String
  | .because cause _ => cause.message?
  | .redirect address fault =>
      some s!"invalid communication error address {Text.Quoted.quote address}: {fault.message}"
  | .cancelled => some "ChipGateway protocol run stopped by cancellation"
  | .trustStore fault => fault.message
  | .serverAddress fault => some s!"invalid session token element {elementName}: {fault.message}"
  | .config _ => none

def redirect? : Failure → Option Url
  | .because _ target => target
  | _ => none

def isCancelled : Failure → Bool
  | .cancelled => true
  | _ => false

end Failure

end CardGateway
