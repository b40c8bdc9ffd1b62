import CardGateway.Jwe.ContentEncryption
import CardGateway.Text.Base64
import CardGateway.Text.Blank
import CardGateway.Text.Split

/-!
# Encrypted texts

Five parts between dots: the header, an encrypted key, the initial value, the sealed text and its tag.
The key is agreed upon beforehand, so the second part is empty. The header as it is written is the
data under the tag.
-/

namespace CardGateway.Jwe

open CardGateway.Text

structure Header where
  algorithm : String
  encryption : String
  deriving DecidableEq, Repr

namespace Header

open CardGateway.Json

def fields :=
  Fields.cons (.required "alg" .text) <|
  .cons (.required "enc" .text) .nil

def codec : Codec Header :=
  fields.codec "Header" (fun (algorithm, encryption, _) => ⟨algorithm, encryption⟩)
    (fun h => (h.algorithm, h.encryption, ()))

end Header

structure Compact where
  header : List Char
  encryptedKey : List Char
  iv : List Char
  sealed : List Char
  tag : List Char

namespace Compact

/-- Blanks around the text are passed over. -/
def ofText? (text : String) : Option Compact :=
  match splitOn '.' (trimChars text.toList) with
  | [header, encryptedKey, iv, sealed, tag] => some ⟨header, encryptedKey, iv, sealed, tag⟩
  | _ => none

def parts (jwe : Compact) : List (List Char) :=
  [jwe.header, jwe.encryptedKey, jwe.iv, jwe.sealed, jwe.tag]

def toText (jwe : Compact) : String :=
  String.ofList (jwe.header ++ '.' :: jwe.encryptedKey ++ '.' :: jwe.iv ++ '.' :: jwe.sealed ++
    '.' :: jwe.tag)

end Compact

def decodePart (part : List Char) : Except Fault Bytes :=
  match Base64.decode .urlSafe (part.flatMap Utf8.encodeChar) with
  | .ok bytes => .ok bytes
  | .error _ => .error .malformed

def encodePart (bytes : Bytes) : List Char := (Base64.encodeText .urlSafe bytes).toList

def readHeader (part : List Char) : Except Fault ContentEncryption := do
  let bytes ← decodePart part
  let .ok header := Header.codec.decode bytes | throw .header
  if header.algorithm ≠ "dir" then throw (.algorithm header.algorithm)
  let some enc := ContentEncryption.ofName? header.encryption
    | throw (.encryption header.encryption)
  return enc

def decrypt (text : String) (key : Bytes) : Except Fault Bytes := do
  let some jwe := Compact.ofText? text | throw .malformed
  let enc ← readHeader jwe.header
  if !jwe.encryptedKey.isEmpty then throw .malformed
  let iv ← decodePart jwe.iv
  let sealed ← decodePart jwe.sealed
  let tag ← decodePart jwe.tag
  enc.decrypt key (jwe.header.flatMap Utf8.encodeChar) iv sealed tag

def headerPart (enc : ContentEncryption) : List Char :=
  encodePart (Header.codec.encode ⟨"dir", enc.name⟩)

/-- The initial value is drawn by the caller. -/
def encryptWith (enc : ContentEncryption) (key iv text : Bytes) : Except Fault Compact := do
  if key.length ≠ enc.keyBytes then throw (.key (.misfit key.length enc))
  let header := headerPart enc
  let (sealed, tag) := enc.encrypt key (header.flatMap Utf8.encodeChar) iv text
  return ⟨header, [], encodePart iv, encodePart sealed, encodePart tag⟩

/-- The size of the key chooses the encryption, and `draw` gives an initial value of its size. -/
def encrypt (key : Bytes) (draw : Nat → Bytes) (text : Bytes) : Except Fault Compact := do
  let some enc := ContentEncryption.ofKeyBytes? key.length | throw (.key (.size key.length))
  encryptWith enc key (draw enc.ivBytes) text

end CardGateway.Jwe
