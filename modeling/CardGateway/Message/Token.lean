import CardGateway.Message.Binary

/-!
# Tokens and certificates

Descriptions of tokens serve as search filters and as search results. A filter asks only for what it
sets.
-/

namespace CardGateway

open CardGateway.Json

structure TokenInfo where
  slot : Option SlotHandle
  reader : Option String
  cardType : Option String
  algorithms : List String
  hasCertificates : Option Bool
  deriving DecidableEq, Repr

namespace TokenInfo

def unrestricted : TokenInfo := ⟨none, none, none, [], none⟩

def fields :=
  Fields.cons (.optional "SlotHandle" SlotHandle.codec) <|
  .cons (.optional "IFDName" .text) <|
  .cons (.optional "CardType" .text) <|
  .cons (.sparseList "AlgorithmInfo" .text) <|
  .cons (.optional "HasCertificates" .flag) .nil

def codec : Codec TokenInfo :=
  fields.codec "TokenInfo"
    (fun (slot, reader, cardType, algorithms, certificates, _) =>
      ⟨slot, reader, cardType, algorithms, certificates⟩)
    (fun t => (t.slot, t.reader, t.cardType, t.algorithms, t.hasCertificates, ()))

/-- An unset wish is met by anything. -/
def meets {α : Type} [DecidableEq α] (value wanted : Option α) : Bool :=
  wanted.isNone || value == wanted

/-- Whether a token is one that the filter asks for. -/
def satisfies (token filter : TokenInfo) : Bool :=
  meets token.slot filter.slot && meets token.reader filter.reader &&
    meets token.cardType filter.cardType && meets token.hasCertificates filter.hasCertificates &&
    filter.algorithms.all fun algorithm => token.algorithms.contains algorithm

/-- Whether some filter asks for the token; without filters every token is asked for. -/
def satisfiesAny (token : TokenInfo) (filters : List TokenInfo) : Bool :=
  filters.isEmpty || filters.any fun filter => token.satisfies filter

theorem satisfies_refl (token : TokenInfo) : token.satisfies token = true := by
  simp [satisfies, meets]

end TokenInfo

structure CertificateFilter where
  policy : Option String
  issuer : Option String
  keyUsage : Option String
  deriving DecidableEq, Repr

namespace CertificateFilter

def fields :=
  Fields.cons (.optional "PolicyIdentifier" .text) <|
  .cons (.optional "Issuer" .text) <|
  .cons (.optional "KeyUsage" .text) .nil

def codec : Codec CertificateFilter :=
  fields.codec "CertificateFilter" (fun (policy, issuer, keyUsage, _) => ⟨policy, issuer, keyUsage⟩)
    (fun f => (f.policy, f.issuer, f.keyUsage, ()))

end CertificateFilter

/-- The certificates of one credential, its own first. -/
structure CertificateInfo where
  certificates : List Bytes
  didName : String
  algorithm : Option String
  uniqueSsn : Option String
  deriving DecidableEq, Repr

namespace CertificateInfo

def fields :=
  Fields.cons (.nullableList "Certificate" .base64List) <|
  .cons (.required "DIDName" .text) <|
  .cons (.optional "Algorithm" .text) <|
  .cons (.optional "UniqueSSN" .text) .nil

def codec : Codec CertificateInfo :=
  fields.codec "CertificateInfo"
    (fun (certificates, didName, algorithm, ssn, _) => ⟨certificates, didName, algorithm, ssn⟩)
    (fun c => (c.certificates, c.didName, c.algorithm, c.uniqueSsn, ()))

end CertificateInfo

end CardGateway
