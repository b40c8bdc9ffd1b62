import CardGateway.Message.Hello
import CardGateway.Pin.Remote
import CardGateway.Session.Basic

/-!
# What a run starts from

The session, the configuration, the trust store and the challenge of a run, and what the client makes
of the server's answer to its hello.
-/

namespace CardGateway

open CardGateway.Text

def Config.updatePolicy (config : Config) : UpdatePolicy :=
  .ofEntries config.enforceAllowlist config.allowlist

structure Setup where
  session : Session
  config : Config
  /-- Takes the place of the configured trust store. -/
  trusted : Option TrustStore
  /-- The contents of files, none for one that cannot be read. -/
  readFile : String → Option Bytes
  challenge : Challenge

namespace Setup

variable [Url.HostMapping]

def trustStore (setup : Setup) : Except TrustStore.Fault TrustStore :=
  match setup.trusted, setup.config.trustStore with
  | some store, _ => .ok store
  | none, some path => TrustStore.ofFile (setup.readFile path)
  | none, none => TrustStore.bundled

def pins (setup : Setup) : PinPolicy :=
  ⟨setup.config.remotePinAllowed, setup.session.pinKey⟩

def hello (setup : Setup) : HelloRequest :=
  ⟨setup.session.id, clientVersion, setup.challenge.bytes⟩

/-- The signature has to be over the challenge of the run, whatever the answer echoes. -/
def authenticate (setup : Setup) (response : HelloResponse) : Except Failure Unit :=
  if setup.config.validateChallenge then
    match setup.trustStore with
    | .error fault => .error (.trustStore fault)
    | .ok store =>
        if store.accepts setup.challenge (response.signature.getD []) then .ok ()
        else .error (setup.session.fail .signature)
  else .ok ()

/-- The address in an answer, if there is more to it than blanks. -/
def offered? (response : HelloResponse) : Option String :=
  response.downloadAddress.filter fun address => !isBlankText address

/-- A newer client that the server insists on ends the session. -/
def unlessOutdated (setup : Setup) (mandatory : Bool) : Except Failure Unit :=
  if mandatory then .error (setup.session.fail .outdated) else .ok ()

/-- What an accepted and authenticated answer means for the user and for the session. -/
def weighUpdate (setup : Setup) (response : HelloResponse) : List Notice × Except Failure Unit :=
  let mandatory := response.result == .updateRequired
  match offered? response with
  | none => ([], setup.unlessOutdated mandatory)
  | some address =>
      match setup.config.updatePolicy.check address with
      | .ok url => ([.update url mandatory], setup.unlessOutdated mandatory)
      | .error fault =>
          ([.error s!"The ChipGateway server is misconfigured: {fault.message}"],
            .error (setup.session.fail (.downloadAddress fault)))

/-- Whether the session goes on behind the answer to the hello, and what the user is told. -/
def judge (setup : Setup) (response : HelloResponse) : List Notice × Except Failure Unit :=
  if !response.result.isHelloAccepted then
    ([], .error (setup.session.fail (.rejected response.result)))
  else match setup.authenticate response with
    | .error failure => ([], .error failure)
    | .ok () => setup.weighUpdate response

end Setup

end CardGateway
