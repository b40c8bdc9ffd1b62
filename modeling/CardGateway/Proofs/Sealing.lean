import CardGateway.Proofs.Aes
import CardGateway.Proofs.Jwe

/-!
# Sealed texts and the texts they are opened to

Counted blocks are opened by sealing them again, chained blocks by the inverse of the cipher, and a
padded text tells where its padding begins. So a text is opened to exactly the one it was sealed from.
-/

namespace CardGateway.Crypto

theorem pieces_append {size : Nat} (positive : 0 < size) {piece : Bytes} (full : piece.length = size)
    (rest : Bytes) : pieces size (piece ++ rest) = piece :: pieces size rest := by
  have more : ¬(piece ++ rest = [] ∨ size = 0) := by
    rintro (empty | zero)
    · simp [(List.append_eq_nil_iff.mp empty).1] at full
      omega
    · omega
  rw [pieces, if_neg more, List.take_left' full, List.drop_left' full]

theorem pieces_short {size : Nat} {piece : Bytes} (filled : piece ≠ []) (short : piece.length ≤ size) :
    pieces size piece = [piece] := by
  have more : ¬(piece = [] ∨ size = 0) := by
    rintro (empty | zero)
    · exact filled empty
    · exact filled (List.eq_nil_of_length_eq_zero (by omega))
  rw [pieces, if_neg more, List.take_of_length_le short, List.drop_of_length_le short, pieces,
    if_pos (.inl rfl)]

/-- A byte sequence is empty, or less than a piece, or a piece in front of another sequence. -/
theorem bytes_induction {size : Nat} (positive : 0 < size) {motive : Bytes → Prop} (nil : motive [])
    (last : ∀ piece, piece ≠ [] → piece.length < size → motive piece)
    (more : ∀ piece rest, piece.length = size → motive rest → motive (piece ++ rest))
    (bytes : Bytes) : motive bytes := by
  induction h : bytes.length using Nat.strongRecOn generalizing bytes with
  | ind n ih =>
      subst h
      by_cases empty : bytes = []
      · exact empty ▸ nil
      by_cases short : bytes.length < size
      · exact last bytes empty short
      have rest := ih (bytes.drop size).length (by rw [List.length_drop]; omega) _ rfl
      have whole := more (bytes.take size) (bytes.drop size) (by rw [List.length_take]; omega) rest
      rwa [List.take_append_drop] at whole

namespace Block

theorem toBytes_length (block : Block) : block.toBytes.length = 16 := by
  simp [toBytes]

theorem ofBytes_toBytes (block : Block) : ofBytes block.toBytes = block := by
  ext i _
  simp [ofBytes, toBytes]

theorem toBytes_ofBytes {bytes : Bytes} (full : bytes.length = 16) :
    (ofBytes bytes).toBytes = bytes := by
  apply List.ext_getElem
  · rw [toBytes_length, full]
  · intro i _ inside
    simp [ofBytes, toBytes, inside]

end Block

namespace Gcm

variable {cipher : Block → Block} {iv data text sealed expected : Bytes}

theorem add_twice {piece stream : Bytes} (long : piece.length ≤ stream.length) :
    List.zipWith (· ^^^ ·) (List.zipWith (· ^^^ ·) piece stream) stream = piece := by
  apply List.ext_getElem
  · simp only [List.length_zipWith]
    omega
  · intro i _ _
    simp only [List.getElem_zipWith, UInt8.xor_assoc, UInt8.xor_self, UInt8.xor_zero]

/-- The key stream added twice leaves the text as it was. -/
theorem crypt_crypt (counter : Nat) (text : Bytes) :
    crypt cipher iv counter (pieces 16 (crypt cipher iv counter (pieces 16 text))) = text := by
  induction text using bytes_induction (by decide : 0 < 16) generalizing counter with
  | nil => simp [pieces, crypt]
  | last piece filled short =>
      let stream := (cipher (counterBlock iv counter)).toBytes
      have long : piece.length ≤ stream.length := by
        rw [Block.toBytes_length]
        exact Nat.le_of_lt short
      have kept : (List.zipWith (· ^^^ ·) piece stream).length = piece.length := by
        rw [List.length_zipWith]
        omega
      have sealed : List.zipWith (· ^^^ ·) piece stream ≠ [] := by
        rw [← List.length_pos_iff, kept]
        exact List.length_pos_iff.mpr filled
      rw [pieces_short filled (Nat.le_of_lt short), crypt, crypt, List.append_nil,
        pieces_short sealed (by omega), crypt, crypt, List.append_nil]
      exact add_twice long
  | more piece rest full ih =>
      let stream := (cipher (counterBlock iv counter)).toBytes
      have long : stream.length = 16 := Block.toBytes_length _
      have kept : (List.zipWith (· ^^^ ·) piece stream).length = 16 := by
        rw [List.length_zipWith]
        omega
      rw [pieces_append (by decide) full, crypt, pieces_append (by decide) kept, crypt, ih]
      congr 1
      exact add_twice (by omega)

theorem decrypt?_eq_some_iff : decrypt? cipher iv data sealed expected = some text ↔
    encrypt cipher iv data text = (sealed, expected) := by
  unfold decrypt? encrypt
  constructor
  · intro opened
    split at opened
    · next authentic =>
        obtain rfl := Option.some.inj opened
        rw [crypt_crypt, authentic]
    · cases opened
  · intro made
    obtain ⟨rfl, rfl⟩ := Prod.mk.inj made
    rw [if_pos rfl, crypt_crypt]

end Gcm

namespace Cbc

variable {cipher decipher : Block → Block} {iv text sealed padded : Bytes}

theorem encryptBlocks_decryptBlocks (inverse : ∀ block, cipher (decipher block) = block)
    (chain : Block) (sealed : List Block) :
    encryptBlocks cipher chain (decryptBlocks decipher chain sealed) = sealed := by
  induction sealed generalizing chain with
  | nil => rfl
  | cons block rest ih => simp only [decryptBlocks, encryptBlocks, Block.xor_xor, inverse, ih]

theorem blocks_flatMap (list : List Block) : blocks (list.flatMap Block.toBytes) = list := by
  unfold blocks
  induction list with
  | nil => simp [pieces]
  | cons block rest ih =>
      rw [List.flatMap_cons, pieces_append (by decide) (Block.toBytes_length block), List.map_cons,
        Block.ofBytes_toBytes, ih]

theorem flatMap_blocks {bytes : Bytes} (whole : bytes.length % 16 = 0) :
    (blocks bytes).flatMap Block.toBytes = bytes := by
  unfold blocks
  induction bytes using bytes_induction (by decide : 0 < 16) with
  | nil => simp [pieces]
  | last piece filled short =>
      have : 0 < piece.length := List.length_pos_iff.mpr filled
      omega
  | more piece rest full ih =>
      rw [List.length_append] at whole
      rw [pieces_append (by decide) full, List.map_cons, List.flatMap_cons,
        Block.toBytes_ofBytes full, ih (by omega)]

theorem flatMap_length (list : List Block) : (list.flatMap Block.toBytes).length % 16 = 0 := by
  induction list with
  | nil => rfl
  | cons block rest ih =>
      rw [List.flatMap_cons, List.length_append, Block.toBytes_length]
      omega

theorem pad_length (text : Bytes) : (pad text).length % 16 = 0 := by
  simp only [pad, List.length_append, List.length_replicate]
  omega

theorem unpad_pad (text : Bytes) : unpad (pad text) = some text := by
  have few : 16 - text.length % 16 ≤ 16 := Nat.sub_le _ _
  have positive : 1 ≤ 16 - text.length % 16 := by omega
  unfold pad
  generalize 16 - text.length % 16 = count at few positive
  have last : (text ++ List.replicate count count.toUInt8).getLast? = .some count.toUInt8 := by
    rw [List.getLast?_append, List.getLast?_replicate, if_neg (by omega), Option.some_or]
  have size : count.toUInt8.toNat = count := by
    rw [Nat.toUInt8, UInt8.toNat_ofNat']
    omega
  have front : (text ++ List.replicate count count.toUInt8).length - count = text.length := by
    rw [List.length_append, List.length_replicate, Nat.add_sub_cancel]
  simp only [unpad, last, size, front, List.drop_left, List.take_left]
  rw [if_pos ⟨positive, few, by simp, trivial⟩]

theorem eq_pad_of_unpad (whole : padded.length % 16 = 0) (read : unpad padded = some text) :
    padded = pad text := by
  unfold unpad at read
  cases found : padded.getLast? with
  | none => simp [found] at read
  | some last =>
      simp only [found] at read
      split at read
      · next right =>
          obtain ⟨positive, few, inside, tail⟩ := right
          obtain rfl := Option.some.inj read
          have size : (padded.take (padded.length - last.toNat)).length =
              padded.length - last.toNat := by
            rw [List.length_take]
            omega
          have count : 16 - (padded.length - last.toNat) % 16 = last.toNat := by omega
          have byte : last.toNat.toUInt8 = last := UInt8.ofNat_toNat
          rw [pad, size, count, byte, ← tail, List.take_append_drop]
      · cases read

theorem unpad_eq_some_iff (whole : padded.length % 16 = 0) :
    unpad padded = some text ↔ padded = pad text := by
  constructor
  · exact eq_pad_of_unpad whole
  · rintro rfl
    exact unpad_pad text

theorem decrypt?_eq_some_iff (undone : ∀ block, decipher (cipher block) = block)
    (redone : ∀ block, cipher (decipher block) = block) :
    decrypt? decipher iv sealed = some text ↔ encrypt cipher iv text = sealed := by
  unfold decrypt? encrypt
  constructor
  · intro opened
    split at opened
    · next whole =>
        have padded := (unpad_eq_some_iff (flatMap_length _)).mp opened
        rw [← padded, blocks_flatMap, encryptBlocks_decryptBlocks redone, flatMap_blocks whole]
    · cases opened
  · rintro rfl
    rw [if_pos (flatMap_length _), blocks_flatMap, decryptBlocks_encryptBlocks undone,
      flatMap_blocks (pad_length text)]
    exact unpad_pad text

end Cbc

end CardGateway.Crypto

namespace CardGateway.ContentEncryption

open CardGateway.Crypto

variable {enc : ContentEncryption} {key data iv sealed tag plain : Bytes}

/-- A text is opened to exactly what it was sealed from, under the key, the initial value and the
data that it was sealed with. -/
theorem decrypt_eq_ok_iff_encrypt : enc.decrypt key data iv sealed tag = .ok plain ↔
    key.length = enc.keyBytes ∧ iv.length = enc.ivBytes ∧
      enc.encrypt key data iv plain = (sealed, tag) := by
  rw [decrypt_eq_ok_iff]
  refine and_congr_right fun _ => and_congr_right fun _ => ?_
  unfold authTag decipher? encrypt
  cases enc.isCounted with
  | true =>
      simp only [if_true]
      rw [← Gcm.decrypt?_eq_some_iff, Gcm.decrypt?]
      by_cases authentic : tag = Gcm.tag (Aes.encrypt (Aes.roundKeys key)) iv data sealed
      · simp [authentic]
      · simp [authentic]
  | false =>
      simp only [Bool.false_eq_true, if_false]
      rw [Cbc.decrypt?_eq_some_iff (Aes.decrypt_encrypt _) (Aes.encrypt_decrypt _), Prod.mk.injEq]
      constructor
      · rintro ⟨authentic, made⟩
        exact ⟨made, by rw [made, authentic]⟩
      · rintro ⟨made, authentic⟩
        exact ⟨by rw [← authentic, made], made⟩

end CardGateway.ContentEncryption
