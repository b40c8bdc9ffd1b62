import CardGateway.Crypto.Aes

/-!
# The block cipher as a permutation

Each step of a round has an inverse, and the steps of deciphering are these inverses in the opposite
order. So under any round keys the cipher permutes the blocks.
-/

namespace CardGateway.Crypto

theorem xor_left_comm (a b c : UInt8) : a ^^^ (b ^^^ c) = b ^^^ (a ^^^ c) := by
  rw [← UInt8.xor_assoc, UInt8.xor_comm a b, UInt8.xor_assoc]

theorem Block.xor_xor (a b : Block) : (a.xor b).xor b = a := by
  apply Vector.ext
  intro i inside
  simp only [Block.xor, Vector.getElem_zipWith, UInt8.xor_assoc, UInt8.xor_self, UInt8.xor_zero]

namespace Aes

/-- A table of all bytes that is read back byte by byte. -/
theorem read_table {table : Vector UInt8 256} {f : UInt8 → UInt8}
    (read : table.toList.map f = (List.range 256).map Nat.toUInt8) (b : UInt8) :
    f (table.get ⟨b.toNat, b.toNat_lt⟩) = b := by
  have small : b.toNat < 256 := b.toNat_lt
  have row := congrArg (fun bytes => bytes[b.toNat]?) read
  simp only [List.getElem?_map, List.getElem?_range small, Vector.getElem?_toList,
    Vector.getElem?_eq_getElem small, Option.map_some, Option.some.injEq] at row
  exact row.trans UInt8.ofNat_toNat

theorem restore_substitute (b : UInt8) : restore (substitute b) = b :=
  read_table (by decide +kernel) b

theorem substitute_restore (b : UInt8) : substitute (restore b) = b :=
  read_table (by decide +kernel) b

theorem map_restore_substitute (s : Block) : (s.map substitute).map restore = s := by
  apply Vector.ext
  intro i inside
  simp only [Vector.getElem_map, restore_substitute]

theorem map_substitute_restore (s : Block) : (s.map restore).map substitute = s := by
  apply Vector.ext
  intro i inside
  simp only [Vector.getElem_map, substitute_restore]

theorem unshiftRows_shiftRows (s : Block) : unshiftRows (shiftRows s) = s := by
  apply Vector.ext
  intro i inside
  simp only [unshiftRows, shiftRows, Vector.getElem_ofFn]
  congr 1
  omega

theorem shiftRows_unshiftRows (s : Block) : shiftRows (unshiftRows s) = s := by
  apply Vector.ext
  intro i inside
  simp only [unshiftRows, shiftRows, Vector.getElem_ofFn]
  congr 1
  omega

theorem lt_high_iff (b : UInt8) : b < 0x80 ↔ b.toBitVec.msb = false := by
  rw [UInt8.lt_iff_toNat_lt, BitVec.msb_eq_decide, decide_eq_false_iff_not, Nat.not_le]
  rfl

/-- Doubling goes through sums: the shift does, and what it pushes out is the sum of the highest
bits. -/
theorem double_xor (a b : UInt8) : double (a ^^^ b) = double a ^^^ double b := by
  have high : (a ^^^ b).toBitVec.msb = (a.toBitVec.msb ^^ b.toBitVec.msb) := by
    rw [UInt8.toBitVec_xor, BitVec.msb_xor]
  have shifted : (a ^^^ b) <<< 1 = a <<< 1 ^^^ b <<< 1 := UInt8.shiftLeft_xor
  unfold double
  simp only [lt_high_iff, high, shifted]
  cases a.toBitVec.msb <;> cases b.toBitVec.msb <;>
    simp [UInt8.xor_assoc, UInt8.xor_comm, xor_left_comm]

def triple (b : UInt8) : UInt8 := double b ^^^ b

section Times

/-! Products with a constant go through sums. -/

variable (a b : UInt8)

theorem times9_xor : times9 (a ^^^ b) = times9 a ^^^ times9 b := by
  simp only [times9, double_xor, UInt8.xor_assoc, xor_left_comm]

theorem times11_xor : times11 (a ^^^ b) = times11 a ^^^ times11 b := by
  simp only [times11, times9_xor, double_xor, UInt8.xor_assoc, xor_left_comm]

theorem times13_xor : times13 (a ^^^ b) = times13 a ^^^ times13 b := by
  simp only [times13, times9_xor, double_xor, UInt8.xor_assoc, xor_left_comm]

theorem times14_xor : times14 (a ^^^ b) = times14 a ^^^ times14 b := by
  simp only [times14, double_xor, UInt8.xor_assoc, xor_left_comm]

/-! The rows of either matrix against the columns of the other. -/

theorem own_row : times14 (double a) ^^^ times11 a ^^^ times13 a ^^^ times9 (triple a) = a := by
  simp [triple, times14, times13, times11, times9, double_xor, UInt8.xor_assoc, UInt8.xor_comm,
    xor_left_comm]

theorem next_row : times14 (triple a) ^^^ times11 (double a) ^^^ times13 a ^^^ times9 a = 0 := by
  simp [triple, times14, times13, times11, times9, double_xor, UInt8.xor_assoc, UInt8.xor_comm,
    xor_left_comm]

theorem third_row : times14 a ^^^ times11 (triple a) ^^^ times13 (double a) ^^^ times9 a = 0 := by
  simp [triple, times14, times13, times11, times9, double_xor, UInt8.xor_assoc, UInt8.xor_comm,
    xor_left_comm]

theorem last_row : times14 a ^^^ times11 a ^^^ times13 (triple a) ^^^ times9 (double a) = 0 := by
  simp [triple, times14, times13, times11, times9, double_xor, UInt8.xor_assoc, UInt8.xor_comm,
    xor_left_comm]

theorem double_times9 : double (times9 a) = times9 (double a) := by
  simp only [times9, double_xor]

theorem double_times11 : double (times11 a) = times11 (double a) := by
  simp only [times11, times9, double_xor]

theorem double_times13 : double (times13 a) = times13 (double a) := by
  simp only [times13, times9, double_xor]

theorem double_times14 : double (times14 a) = times14 (double a) := by
  simp only [times14, double_xor]

end Times

/-- A byte of a mixed column, from the bytes of the column on from its own. -/
def mixed (a b c d : UInt8) : UInt8 := double a ^^^ triple b ^^^ c ^^^ d

def unmixed (a b c d : UInt8) : UInt8 := times14 a ^^^ times11 b ^^^ times13 c ^^^ times9 d

theorem unmixed_mixed (a b c d : UInt8) :
    unmixed (mixed a b c d) (mixed b c d a) (mixed c d a b) (mixed d a b c) = a := by
  calc unmixed (mixed a b c d) (mixed b c d a) (mixed c d a b) (mixed d a b c)
      = (times14 (double a) ^^^ times11 a ^^^ times13 a ^^^ times9 (triple a)) ^^^
          (times14 (triple b) ^^^ times11 (double b) ^^^ times13 b ^^^ times9 b) ^^^
          (times14 c ^^^ times11 (triple c) ^^^ times13 (double c) ^^^ times9 c) ^^^
          (times14 d ^^^ times11 d ^^^ times13 (triple d) ^^^ times9 (double d)) := by
        simp only [unmixed, mixed, times14_xor, times13_xor, times11_xor, times9_xor]
        ac_rfl
    _ = a := by simp only [own_row, next_row, third_row, last_row, UInt8.xor_zero]

theorem mixed_unmixed (a b c d : UInt8) :
    mixed (unmixed a b c d) (unmixed b c d a) (unmixed c d a b) (unmixed d a b c) = a := by
  calc mixed (unmixed a b c d) (unmixed b c d a) (unmixed c d a b) (unmixed d a b c)
      = (times14 (double a) ^^^ times11 a ^^^ times13 a ^^^ times9 (triple a)) ^^^
          (times14 (triple b) ^^^ times11 (double b) ^^^ times13 b ^^^ times9 b) ^^^
          (times14 c ^^^ times11 (triple c) ^^^ times13 (double c) ^^^ times9 c) ^^^
          (times14 d ^^^ times11 d ^^^ times13 (triple d) ^^^ times9 (double d)) := by
        simp only [unmixed, mixed, triple, double_xor, times14_xor, times13_xor, times11_xor,
          times9_xor, double_times9, double_times11, double_times13, double_times14]
        ac_rfl
    _ = a := by simp only [own_row, next_row, third_row, last_row, UInt8.xor_zero]

section Columns

variable (s : Block) (i : Fin 16)

theorem column_lt (k : Nat) : i.val / 4 * 4 + (i.val + k) % 4 < 16 := by
  omega

theorem along_ofFn (f : Fin 16 → UInt8) (k : Nat) :
    along (Vector.ofFn f) i k = f ⟨i.val / 4 * 4 + (i.val + k) % 4, column_lt i k⟩ := by
  simp [along]

theorem along_along {j k : Nat} (inside : i.val / 4 * 4 + (i.val + k) % 4 < 16) :
    along s ⟨i.val / 4 * 4 + (i.val + k) % 4, inside⟩ j = along s i ((k + j) % 4) := by
  simp only [along]
  congr 1
  omega

theorem along_zero : along s i 0 = s[i.val] := by
  simp only [along]
  congr 1
  omega

theorem along_mixColumns (k : Nat) : along (mixColumns s) i k =
    mixed (along s i (k % 4)) (along s i ((k + 1) % 4)) (along s i ((k + 2) % 4))
      (along s i ((k + 3) % 4)) := by
  simp only [mixColumns, along_ofFn, along_along, Nat.add_zero]
  rfl

theorem along_unmixColumns (k : Nat) : along (unmixColumns s) i k =
    unmixed (along s i (k % 4)) (along s i ((k + 1) % 4)) (along s i ((k + 2) % 4))
      (along s i ((k + 3) % 4)) := by
  simp only [unmixColumns, along_ofFn, along_along, Nat.add_zero]
  rfl

theorem unmixColumns_mixColumns : unmixColumns (mixColumns s) = s := by
  apply Vector.ext
  intro i inside
  rw [← along_zero s ⟨i, inside⟩, ← along_zero _ ⟨i, inside⟩, along_unmixColumns]
  simp only [along_mixColumns]
  exact unmixed_mixed _ _ _ _

theorem mixColumns_unmixColumns : mixColumns (unmixColumns s) = s := by
  apply Vector.ext
  intro i inside
  rw [← along_zero s ⟨i, inside⟩, ← along_zero _ ⟨i, inside⟩, along_mixColumns]
  simp only [along_unmixColumns]
  exact mixed_unmixed _ _ _ _

end Columns

/-- The rounds are undone from the last one on. -/
theorem decryptRounds_encryptRounds (keys : List Block) (s : Block) :
    decryptRounds keys (encryptRounds keys s) = s := by
  induction keys generalizing s with
  | nil => rfl
  | cons key rest ih =>
      cases rest with
      | nil =>
          simp only [encryptRounds, decryptRounds, Block.xor_xor, unshiftRows_shiftRows,
            map_restore_substitute]
      | cons next others =>
          simp only [encryptRounds, decryptRounds, ih, Block.xor_xor, unmixColumns_mixColumns,
            unshiftRows_shiftRows, map_restore_substitute]

theorem encryptRounds_decryptRounds (keys : List Block) (s : Block) :
    encryptRounds keys (decryptRounds keys s) = s := by
  induction keys generalizing s with
  | nil => rfl
  | cons key rest ih =>
      cases rest with
      | nil =>
          simp only [encryptRounds, decryptRounds, map_substitute_restore, shiftRows_unshiftRows,
            Block.xor_xor]
      | cons next others =>
          simp only [encryptRounds, decryptRounds, map_substitute_restore, shiftRows_unshiftRows,
            mixColumns_unmixColumns, Block.xor_xor, ih]

/-- Under any round keys deciphering a block undoes enciphering it. -/
theorem decrypt_encrypt (keys : List Block) (s : Block) : decrypt keys (encrypt keys s) = s := by
  cases keys with
  | nil => rfl
  | cons first rest => rw [encrypt, decrypt, decryptRounds_encryptRounds, Block.xor_xor]

theorem encrypt_decrypt (keys : List Block) (s : Block) : encrypt keys (decrypt keys s) = s := by
  cases keys with
  | nil => rfl
  | cons first rest => rw [encrypt, decrypt, Block.xor_xor, encryptRounds_decryptRounds]

end Aes

end CardGateway.Crypto
