import CardGateway.Crypto.Ecdsa
import CardGateway.Text.Blank
import CardGateway.Text.Hex
import CardGateway.Toml.Document

/-!
# Trust stores

The keys whose signature over its challenge lets a client believe a server. A store loads as a whole or
not at all.
-/

namespace CardGateway

open CardGateway.Crypto CardGateway.Text

/-- The bytes that a server has to sign. -/
structure Challenge where
  bytes : Bytes
  size : bytes.length = 32

structure TrustAnchor where
  name : String
  algorithm : String
  publicKey : String
  deriving DecidableEq, Repr

namespace TrustAnchor

inductive KeyFault where
  | digits (fault : Hex.Fault)
  /-- The bytes are no point of the curve. -/
  | point
  deriving DecidableEq, Repr

def KeyFault.message : KeyFault → String
  | .digits fault => fault.message
  | .point => "signature error"

/-- The only algorithm of anchors. -/
def algorithmName : String := "ecdsa-secp256k1-sha256"

/-- An anchor is a table, or a list of its fields. -/
def ofValue? : Toml.Value → Option TrustAnchor
  | .table _ entries =>
      match Toml.Entries.find? entries "name", Toml.Entries.find? entries "algorithm",
        Toml.Entries.find? entries "public_key" with
      | some (.text name), some (.text algorithm), some (.text key) => some ⟨name, algorithm, key⟩
      | _, _, _ => none
  | .list (.text name :: .text algorithm :: .text key :: _) => some ⟨name, algorithm, key⟩
  | _ => none

/-- The anchors of a document, none if it is not made up of anchors. -/
def ofEntries? (entries : Toml.Entries) : Option (List TrustAnchor) :=
  match entries.find? "anchor" with
  | none => some []
  | some (.list items) => items.mapM ofValue?
  | some (.tables items) => items.mapM fun item => ofValue? (.table .header item)
  | some _ => none

def key (anchor : TrustAnchor) : Except KeyFault Ecdsa.PublicKey :=
  match Hex.decode (Utf8.encode (trim anchor.publicKey)) with
  | .error fault => .error (.digits fault)
  | .ok bytes =>
      match Ecdsa.PublicKey.ofBytes? bytes with
      | some key => .ok key
      | none => .error .point

end TrustAnchor

structure TrustStore where
  keys : List Ecdsa.PublicKey
  nonempty : keys ≠ []

namespace TrustStore

inductive Fault where
  | unreadable
  | document
  | algorithm (anchor algorithm : String)
  | key (anchor : String) (fault : TrustAnchor.KeyFault)
  | empty
  deriving DecidableEq, Repr

/-- None where only the system or the document's grammar can tell. -/
def Fault.message : Fault → Option String
  | .unreadable | .document => none
  | .algorithm anchor used => some s!"trust anchor {anchor} uses unsupported algorithm {used}"
  | .key anchor fault => some s!"trust anchor {anchor} has an invalid public key: {fault.message}"
  | .empty => some "trust store contains no anchors"

def anchorKey (anchor : TrustAnchor) : Except Fault Ecdsa.PublicKey :=
  if anchor.algorithm ≠ TrustAnchor.algorithmName then
    .error (.algorithm anchor.name anchor.algorithm)
  else match anchor.key with
    | .ok key => .ok key
    | .error fault => .error (.key anchor.name fault)

def ofKeys (keys : List Ecdsa.PublicKey) : Except Fault TrustStore :=
  if h : keys = [] then .error .empty else .ok ⟨keys, h⟩

def ofToml (document : String) : Except Fault TrustStore := do
  let some entries := Toml.parse? document | throw .document
  let some anchors := TrustAnchor.ofEntries? entries | throw .document
  ofKeys (← anchors.mapM anchorKey)

/-- From the content of a file, none if there is no file. -/
def ofFile : Option Bytes → Except Fault TrustStore
  | none => .error .unreadable
  | some content =>
      match Utf8.decode? content with
      | some document => ofToml document
      | none => .error .unreadable

def bundledDocument : String :=
  "[[anchor]]\n" ++
  "name = \"openecard-chipgateway-2026\"\n" ++
  "algorithm = \"ecdsa-secp256k1-sha256\"\n" ++
  "public_key = \"049dc4a48a526a80cf8416d20d6b87b391da3ce19b26e7e6d52d8570698161f00d" ++
  "53629898625e51977b046f6ebcfa9f03bb6e1975e4c6d01c85f67a739bfafab6\"\n"

def bundled : Except Fault TrustStore := ofToml bundledDocument

/-- Whether a key of the store made the signature, given in either form, over the challenge. -/
def accepts (store : TrustStore) (challenge : Challenge) (signature : Bytes) : Bool :=
  match Ecdsa.Signature.ofBytes? signature with
  | some signature =>
      store.keys.any fun key => Ecdsa.verify key challenge.bytes signature.lowered
  | none => false

end TrustStore

end CardGateway
