import CardGateway.Json.Record

/-!
# Result codes

Ten codes are known; a text that is none of them is carried along as it is.
-/

namespace CardGateway

inductive ResultCode where
  | ok
  | updateRecommended
  | updateRequired
  | timeout
  | unknownSlot
  | unknownDid
  | securityNotSatisfied
  | incorrectParameter
  | stopped
  | other
  | unrecognized (text : String)
  deriving DecidableEq, Repr

namespace ResultCode

def known : List ResultCode :=
  [.ok, .updateRecommended, .updateRequired, .timeout, .unknownSlot, .unknownDid,
    .securityNotSatisfied, .incorrectParameter, .stopped, .other]

def text : ResultCode → String
  | .ok => "OK"
  | .updateRecommended => "UPDATE_RECOMMENDED"
  | .updateRequired => "UPDATE_REQUIRED"
  | .timeout => "TIMEOUT"
  | .unknownSlot => "UNKNOWN_SLOT"
  | .unknownDid => "UNKNOWN_DID"
  | .securityNotSatisfied => "SECURITY_NOT_SATISFIED"
  | .incorrectParameter => "INCORRECT_PARAMETER"
  | .stopped => "STOPPED"
  | .other => "OTHER"
  | .unrecognized text => text

def ofText (s : String) : ResultCode :=
  (known.find? fun code => code.text == s).getD (.unrecognized s)

theorem text_ofText (s : String) : (ofText s).text = s := by
  unfold ofText
  cases h : known.find? (fun code => code.text == s) with
  | none => rfl
  | some code => simpa using List.find?_some h

theorem ofText_text_of_known {code : ResultCode} (h : code ∈ known) : ofText code.text = code := by
  revert code
  decide

def isRecognized : ResultCode → Bool
  | .unrecognized _ => false
  | _ => true

/-- Whether a session goes on after a hello answered with this code. -/
def isHelloAccepted : ResultCode → Bool
  | .ok | .updateRecommended | .updateRequired => true
  | _ => false

def codec : Json.Codec ResultCode :=
  .texted (fun s => .ok (ofText s)) text

end ResultCode

end CardGateway
