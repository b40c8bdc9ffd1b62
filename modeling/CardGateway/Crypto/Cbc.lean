import CardGateway.Crypto.Aes

/-!
# Chained blocks

Each block is added to the cipher text of the one before it. Padding names its own length in each of
its bytes and is never empty.
-/

namespace CardGateway.Crypto.Cbc

def blocks (bytes : Bytes) : List Block := (pieces 16 bytes).map Block.ofBytes

def encryptBlocks (cipher : Block → Block) : Block → List Block → List Block
  | _, [] => []
  | chain, block :: rest =>
      let sealed := cipher (block.xor chain)
      sealed :: encryptBlocks cipher sealed rest

def decryptBlocks (decipher : Block → Block) : Block → List Block → List Block
  | _, [] => []
  | chain, block :: rest => (decipher block).xor chain :: decryptBlocks decipher block rest

theorem decryptBlocks_encryptBlocks {cipher decipher : Block → Block}
    (inverse : ∀ block, decipher (cipher block) = block) (chain : Block) (text : List Block) :
    decryptBlocks decipher chain (encryptBlocks cipher chain text) = text := by
  induction text generalizing chain with
  | nil => rfl
  | cons block rest ih =>
      simp only [encryptBlocks, decryptBlocks, inverse, ih]
      congr 1
      ext i
      simp only [Block.xor, Vector.getElem_zipWith, UInt8.xor_assoc, UInt8.xor_self, UInt8.xor_zero]

def pad (text : Bytes) : Bytes :=
  let count := 16 - text.length % 16
  text ++ List.replicate count count.toUInt8

def unpad (padded : Bytes) : Option Bytes :=
  match padded.getLast? with
  | none => none
  | some last =>
      let count := last.toNat
      if 1 ≤ count ∧ count ≤ 16 ∧ count ≤ padded.length ∧
          padded.drop (padded.length - count) = List.replicate count last then
        some (padded.take (padded.length - count))
      else none

def encrypt (cipher : Block → Block) (iv text : Bytes) : Bytes :=
  (encryptBlocks cipher (Block.ofBytes iv) (blocks (pad text))).flatMap Block.toBytes

/-- Nothing but whole blocks can be decrypted. -/
def decrypt? (decipher : Block → Block) (iv sealed : Bytes) : Option Bytes :=
  if sealed.length % 16 = 0 then
    unpad ((decryptBlocks decipher (Block.ofBytes iv) (blocks sealed)).flatMap Block.toBytes)
  else none

end CardGateway.Crypto.Cbc
