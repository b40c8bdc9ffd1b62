import CardGateway.Card.Service
import CardGateway.Crypto.Ecdsa

/-!
# Cards from a document

Tokens with their credentials as a JSON document describes them. All of them count as present, and
credentials sign with the keys of the document. A fixture loads as a whole or not at all.
-/

namespace CardGateway

open CardGateway.Crypto CardGateway.Json CardGateway.Text

namespace Fixture

structure CredentialEntry where
  didName : String
  algorithm : Option String
  privateKey : String
  certificates : List String
  deriving DecidableEq, Repr

def CredentialEntry.fields :=
  Fields.cons (.required "did_name" .text) <|
  .cons (.placed "algorithm" .text) <|
  .cons (.required "private_key" .text) <|
  .cons (.list "certificates" .text) .nil

def CredentialEntry.codec : Codec CredentialEntry :=
  CredentialEntry.fields.codec "CredentialEntry"
    (fun (didName, algorithm, privateKey, certificates, _) =>
      ⟨didName, algorithm, privateKey, certificates⟩)
    (fun c => (c.didName, c.algorithm, c.privateKey, c.certificates, ()))

structure TokenEntry where
  slot : String
  reader : String
  cardType : Option String
  algorithms : List String
  pin : Option String
  credentials : List CredentialEntry
  deriving DecidableEq, Repr

def TokenEntry.fields :=
  Fields.cons (.required "slot" .text) <|
  .cons (.required "reader" .text) <|
  .cons (.placed "card_type" .text) <|
  .cons (.list "algorithms" .text) <|
  .cons (.placed "pin" .text) <|
  .cons (.list "credentials" CredentialEntry.codec) .nil

def TokenEntry.codec : Codec TokenEntry :=
  TokenEntry.fields.codec "TokenEntry"
    (fun (slot, reader, cardType, algorithms, pin, credentials, _) =>
      ⟨slot, reader, cardType, algorithms, pin, credentials⟩)
    (fun t => (t.slot, t.reader, t.cardType, t.algorithms, t.pin, t.credentials, ()))

structure File where
  tokens : List TokenEntry
  deriving DecidableEq, Repr

def File.fields :=
  Fields.cons (.required "tokens" TokenEntry.codec.list) .nil

def File.codec : Codec File :=
  File.fields.codec "CardFile" (fun (tokens, _) => ⟨tokens⟩) (fun f => (f.tokens, ()))

inductive Fault where
  | unreadable
  | document (fault : Json.Fault)
  | slot (text : String) (fault : Hex.Fault)
  | keyDigits (didName : String) (fault : Hex.Fault)
  | key (didName : String)
  | certificate (didName : String) (fault : Base64.Fault)
  deriving DecidableEq, Repr

/-- What failed, and why as far as more is known. -/
def Fault.chain : Fault → List String
  | .unreadable => ["failed to read card fixture"]
  | .document fault => ["malformed card fixture", fault.message]
  | .slot text fault => [s!"bad slot handle {text}", fault.message]
  | .keyDigits didName fault => [s!"bad private key of {didName}", fault.message]
  | .key didName => [s!"invalid private key of {didName}", "signature error"]
  | .certificate didName fault => [s!"bad certificate of {didName}", fault.message]

structure Credential where
  info : CertificateInfo
  key : Ecdsa.PrivateKey

structure Token where
  info : TokenInfo
  slot : SlotHandle
  pin : Option String
  credentials : List Credential

def readCertificate (didName text : String) : Except Fault Bytes :=
  match Base64.decode .standard (Utf8.encode text) with
  | .ok bytes => .ok bytes
  | .error fault => .error (.certificate didName fault)

def CredentialEntry.load (entry : CredentialEntry) : Except Fault Credential := do
  let secret ← match Hex.decode (Utf8.encode entry.privateKey) with
    | .ok bytes => pure bytes
    | .error fault => throw (.keyDigits entry.didName fault)
  let some key := Ecdsa.PrivateKey.ofBytes? secret | throw (.key entry.didName)
  let certificates ← entry.certificates.mapM (readCertificate entry.didName)
  return ⟨⟨certificates, entry.didName, entry.algorithm, none⟩, key⟩

def Credential.hasCertificates (credential : Credential) : Bool :=
  !credential.info.certificates.isEmpty

def TokenEntry.load (entry : TokenEntry) : Except Fault Token := do
  let slot ← match Hex.decode (Utf8.encode entry.slot) with
    | .ok bytes => pure (SlotHandle.mk bytes)
    | .error fault => throw (.slot entry.slot fault)
  let credentials ← entry.credentials.mapM CredentialEntry.load
  let info : TokenInfo :=
    { slot := some slot
      reader := some entry.reader
      cardType := entry.cardType
      algorithms := entry.algorithms
      hasCertificates := some (credentials.any Credential.hasCertificates) }
  return ⟨info, slot, entry.pin, credentials⟩

/-- A token without PIN asks for none. -/
def Token.checkPin (token : Token) (pin : Option Pin) : Except CardFault Unit :=
  match token.pin, pin with
  | none, _ => .ok ()
  | some expected, some pin =>
      if pin.expose = expected then .ok () else .error .securityNotSatisfied
  | some _, none => .error .securityNotSatisfied

end Fixture

structure Fixture where
  tokens : List Fixture.Token

namespace Fixture

def ofJson (document : Bytes) : Except Fault Fixture := do
  let file ← match File.codec.decode document with
    | .ok file => pure file
    | .error fault => throw (.document fault)
  return ⟨← file.tokens.mapM TokenEntry.load⟩

def bundledDocument : String :=
  "\x7b\"tokens\": [\x7b\"slot\": \"0A01\", \"reader\": \"Fixture Reader 0\", " ++
  "\"card_type\": \"http://ws.openecard.org/cardtype/fixture\", \"algorithms\": [\"ES256K\"], " ++
  "\"pin\": \"123456\", \"credentials\": [\x7b\"did_name\": \"SIG\", \"algorithm\": \"ES256K\", " ++
  "\"private_key\": \"32595935fda38920015113e7abb28bbe14c41060615bbdfc8ada53196bdeeeb0\", " ++
  "\"certificates\": [\"MAMCAQA=\"]\x7d]\x7d]\x7d"

def bundled : Except Fault Fixture := ofJson (Utf8.encode bundledDocument)

def token (card : Fixture) (slot : SlotHandle) : Except CardFault Token :=
  match card.tokens.find? fun token => token.slot = slot with
  | some token => .ok token
  | none => .error (.unknownSlot slot)

/-- All slots are connected, whatever is asked for. -/
def findTokens (card : Fixture) (filters : List TokenInfo) : TokenSearch where
  matched := (card.tokens.map (·.info)).filter fun info => info.satisfiesAny filters
  connected := SlotHandle.union [] (card.tokens.map (·.slot))

/-- The PIN is checked only if one is given. No filter applies. -/
def listCertificates (card : Fixture) (slot : SlotHandle) (pin : Option Pin) :
    Except CardFault (List CertificateInfo) := do
  let token ← card.token slot
  if pin.isSome then token.checkPin pin
  return (token.credentials.filter Credential.hasCertificates).map (·.info)

def sign (card : Fixture) (slot : SlotHandle) (didName : String) (pin : Option Pin)
    (message : Bytes) : Except CardFault Bytes := do
  let token ← card.token slot
  let some credential := token.credentials.find? fun credential => credential.info.didName = didName
    | throw (.unknownDid didName)
  token.checkPin pin
  return (Ecdsa.sign credential.key message).toDer

end Fixture

end CardGateway
