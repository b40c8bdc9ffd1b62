/-!
# Failed exchanges

How the exchange of a request and its answer can fail.
-/

namespace CardGateway

inductive TransportFault where
  /-- No connection could be opened. -/
  | connect (reason : String)
  /-- A connection broke or was closed, or the chunks of an answer are none. -/
  | broken
  /-- The answer is not framed as it has to be. -/
  | framing
  /-- The request cannot be written. -/
  | request
  /-- The answer has another status than success. -/
  | status (code : Nat)
  | cancelled
  deriving DecidableEq, Repr

namespace TransportFault

/-- None where only the network's own words would tell. -/
def message : TransportFault → Option String
  | .connect reason => some s!"failed to connect to the server: {reason}"
  | .broken | .framing | .request => none
  | .status code => some s!"server answered with HTTP status {code}"
  | .cancelled => some "operation cancelled"

/-- Whether a connection could not be opened, or counts as broken. -/
def isConnection : TransportFault → Bool
  | .connect _ | .broken => true
  | _ => false

/-- Whether an open connection counts as broken, which is worth one more attempt. -/
def isRetryable : TransportFault → Bool
  | .broken => true
  | _ => false

end TransportFault

end CardGateway
