import CardGateway.Message.ResultCode
import CardGateway.Message.Token
import CardGateway.Pin.Basic

/-!
# What cards answer

The failures of a card and their result codes, and the outcome of a search for tokens.
-/

namespace CardGateway

inductive CardFault where
  | unsupportedAlgorithm (detail : String)
  | invalidParameter (detail : String)
  | unknownSlot (slot : SlotHandle)
  | unknownDid (name : String)
  /-- The PIN is wrong, or another condition of access is not met. -/
  | securityNotSatisfied
  | malformedCertificate (detail : String)
  | other (detail : String)
  deriving DecidableEq, Repr

namespace CardFault

def message : CardFault → String
  | .unsupportedAlgorithm detail => s!"unsupported algorithm: {detail}"
  | .invalidParameter detail => s!"invalid parameter: {detail}"
  | .unknownSlot slot => s!"unknown slot {slot.shown}"
  | .unknownDid name => s!"unknown credential {name}"
  | .securityNotSatisfied => "security condition not satisfied"
  | .malformedCertificate detail => s!"malformed certificate: {detail}"
  | .other detail => s!"card error: {detail}"

def resultCode : CardFault → ResultCode
  | .unsupportedAlgorithm _ | .invalidParameter _ => .incorrectParameter
  | .unknownSlot _ => .unknownSlot
  | .unknownDid _ => .unknownDid
  | .securityNotSatisfied => .securityNotSatisfied
  | .malformedCertificate _ | .other _ => .other

end CardFault

structure TokenSearch where
  matched : List TokenInfo
  /-- The slots that the search connected, those of tokens that match or not. -/
  connected : List SlotHandle
  deriving DecidableEq, Repr

end CardGateway
