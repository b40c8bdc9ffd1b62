import CardGateway.Json.Record

/-!
# Names of content encryptions and what can be wrong with an encrypted text
-/

namespace CardGateway

inductive ContentEncryption where
  | a128CbcHs256
  | a192CbcHs384
  | a256CbcHs512
  | a128Gcm
  | a192Gcm
  | a256Gcm
  deriving DecidableEq, Repr

namespace ContentEncryption

def all : List ContentEncryption :=
  [.a128CbcHs256, .a192CbcHs384, .a256CbcHs512, .a128Gcm, .a192Gcm, .a256Gcm]

theorem mem_all (enc : ContentEncryption) : enc ∈ all := by
  cases enc <;> decide

def name : ContentEncryption → String
  | .a128CbcHs256 => "A128CBC-HS256"
  | .a192CbcHs384 => "A192CBC-HS384"
  | .a256CbcHs512 => "A256CBC-HS512"
  | .a128Gcm => "A128GCM"
  | .a192Gcm => "A192GCM"
  | .a256Gcm => "A256GCM"

def ofName? (name : String) : Option ContentEncryption :=
  all.find? fun enc => enc.name == name

theorem ofName?_name (enc : ContentEncryption) : ofName? enc.name = some enc := by
  cases enc <;> decide

def keyBytes : ContentEncryption → Nat
  | .a128Gcm => 16
  | .a192Gcm => 24
  | .a128CbcHs256 | .a256Gcm => 32
  | .a192CbcHs384 => 48
  | .a256CbcHs512 => 64

open CardGateway.Json

def named (raw : Bytes) : Except Fault ContentEncryption := do
  let name ← readText raw
  match ofName? name with
  | some enc => return enc
  | none => throw (.variant name (all.map ContentEncryption.name))

/-- A name stands alone, or as the only key of an object, for null. -/
def read : Node → Except Fault ContentEncryption
  | .text raw => named raw
  | .record (.member key value rest) => do
      let enc ← named key
      match value with
      | .null => pure ()
      | node => node.mismatch "unit"
      match rest with
      | .stop .closed => return enc
      | .stop .cut => throw (.ends .record)
      | _ => throw .expectedValue
  | .record (.badKey node) => node.mismatch "variant identifier"
  | .record (.stop .cut) => .error (.ends .value)
  | .broken (.ends .value) => .error (.ends .value)
  | _ => .error .expectedValue

def codec : Codec ContentEncryption where
  read := read
  write enc := .text enc.name

end ContentEncryption

namespace Jwe

inductive KeyFault where
  | misfit (count : Nat) (enc : ContentEncryption)
  | size (count : Nat)
  | jwk (fault : Json.Fault)
  | keyType (name : String)
  | valueMissing
  | valueEncoding
  /-- The cipher of chained blocks was given a key or an initial value of another size. -/
  | chained
  /-- The cipher of counted blocks was given a key of another size. -/
  | counted
  deriving DecidableEq, Repr

def KeyFault.message : KeyFault → String
  | .misfit count enc => s!"{count} bytes do not fit {enc.name}"
  | .size count => s!"unsupported key size {count}"
  | .jwk fault => s!"malformed JWK: {fault.message}"
  | .keyType name => s!"key type {name} is not oct"
  | .valueMissing => "JWK has no key value"
  | .valueEncoding => "key value is not base64url"
  | .chained => "wrong key or IV length"
  | .counted => "wrong GCM key length"

inductive Fault where
  | malformed
  | header
  | algorithm (name : String)
  | encryption (name : String)
  | key (fault : KeyFault)
  | authentication
  | decryption
  deriving DecidableEq, Repr

def Fault.message : Fault → String
  | .malformed => "malformed JWE compact serialization"
  | .header => "malformed JWE header"
  | .algorithm name => s!"unsupported key management algorithm {name}"
  | .encryption name => s!"unsupported content encryption {name}"
  | .key fault => s!"invalid key: {fault.message}"
  | .authentication => "authentication tag mismatch"
  | .decryption => "decryption failed"

end Jwe

end CardGateway
