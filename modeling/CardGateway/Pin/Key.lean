import CardGateway.Jwe.Compact

/-!
# Keys for PINs

A key has the size of some content encryption. It comes as raw bytes or in a JSON Web Key of the type
for byte strings.
-/

namespace CardGateway

open CardGateway.Text

structure PinKey where
  bytes : Bytes
  fits : (ContentEncryption.all.any fun enc => enc.keyBytes == bytes.length) = true

namespace PinKey

def ofBytes (bytes : Bytes) : Except Jwe.Fault PinKey :=
  if h : (ContentEncryption.all.any fun enc => enc.keyBytes == bytes.length) = true then
    .ok ⟨bytes, h⟩
  else .error (.key (.size bytes.length))

structure Jwk where
  keyType : String
  value : Option String
  deriving DecidableEq, Repr

namespace Jwk

open CardGateway.Json

def fields :=
  Fields.cons (.required "kty" .text) <|
  .cons (.optional "k" .text) .nil

def codec : Codec Jwk :=
  fields.codec "Jwk" (fun (keyType, value, _) => ⟨keyType, value⟩)
    (fun k => (k.keyType, k.value, ()))

end Jwk

/-- Without the padding that may stand behind it. -/
def unpadded (value : String) : List Char :=
  (value.toList.reverse.dropWhile (· == '=')).reverse

def ofJwk (text : String) : Except Jwe.Fault PinKey := do
  let jwk ← match Jwk.codec.decode (Utf8.encode text) with
    | .ok jwk => pure jwk
    | .error fault => throw (.key (.jwk fault))
  if jwk.keyType ≠ "oct" then throw (.key (.keyType jwk.keyType))
  let some value := jwk.value | throw (.key .valueMissing)
  match Base64.decode .urlSafe ((unpadded value).flatMap Utf8.encodeChar) with
  | .ok bytes => ofBytes bytes
  | .error _ => throw (.key .valueEncoding)

def length (key : PinKey) : Nat := key.bytes.length

def summary (key : PinKey) : String := s!"PinKey({key.length} bytes)"

def encrypt (key : PinKey) (draw : Nat → Bytes) (text : String) : Except Jwe.Fault Jwe.Compact :=
  Jwe.encrypt key.bytes draw (Utf8.encode text)

/-- The encryption and the initial value are given. -/
def encryptWith (key : PinKey) (enc : ContentEncryption) (iv : Bytes) (text : String) :
    Except Jwe.Fault Jwe.Compact :=
  Jwe.encryptWith enc key.bytes iv (Utf8.encode text)

def decrypt (key : PinKey) (text : String) : Except Jwe.Fault Bytes :=
  Jwe.decrypt text key.bytes

end PinKey

end CardGateway
