import CardGateway.Pin.Basic
import CardGateway.Pin.Key

/-!
# PINs sent by the server

A request may carry a PIN under the session's key. Where remote PINs are not allowed it is passed over
and the user is asked at the card, and so it is where the PIN is empty.
-/

namespace CardGateway

namespace RemotePin

inductive Fault where
  | keyMissing
  | encoding
  | decryption (fault : Jwe.Fault)
  deriving DecidableEq, Repr

def Fault.message : Fault → String
  | .keyMissing => "PIN sent without negotiated encryption key"
  | .encoding => "decrypted PIN is not valid UTF-8"
  | .decryption fault => s!"failed to decrypt PIN: {fault.message}"

end RemotePin

/-- Whether remote PINs are allowed, and the key for them. -/
structure PinPolicy where
  allowed : Bool
  key : Option PinKey

namespace PinPolicy

/-- None leaves the PIN to the user. -/
def unwrap (policy : PinPolicy) : Option String → Except RemotePin.Fault (Option Pin)
  | none => .ok none
  | some encrypted =>
      if !policy.allowed then .ok none
      else match policy.key with
        | none => .error .keyMissing
        | some key =>
            match key.decrypt encrypted with
            | .error fault => .error (.decryption fault)
            | .ok [] => .ok none
            | .ok plain =>
                match Text.Utf8.decode? plain with
                | some text => .ok (some (.ofText text))
                | none => .error .encoding

end PinPolicy

end CardGateway
