import CardGateway.Proofs.Utf8
import CardGateway.Text.Blank
import CardGateway.Url.Basic

/-!
# Forms in queries

A query is read as a form: pairs between ampersands, a name and a value around the first equals sign.
What is written for a pair reads as that pair, and an ampersand keeps the pairs on its sides apart.
-/

namespace CardGateway.Url

open CardGateway.Text

/-- A plus stands for a blank. -/
def unplussed (b : UInt8) : UInt8 := if b = 43 then 32 else b

/-- The text that a name or a value in a form stands for. -/
def formDecode (part : Bytes) : String :=
  Utf8.decodeLossy (Percent.decode (part.map unplussed))

/-- What stands around the first equals sign; without one there is no value. -/
def formPair (part : Bytes) : String × String :=
  let name := part.takeWhile (· ≠ 61)
  (formDecode name, formDecode (part.drop (name.length + 1)))

/-- The pairs of a query; nothing between two ampersands is no pair. -/
def formPairs (query : String) : List (String × String) :=
  ((splitOn 38 (Utf8.encode query)).filter fun part => !part.isEmpty).map formPair

theorem encode_append (first second : String) :
    Utf8.encode (first ++ second) = Utf8.encode first ++ Utf8.encode second := by
  simp [Utf8.encode]

@[simp] theorem formPairs_empty : formPairs "" = [] := rfl

theorem formPairs_append (first second : String) :
    formPairs (first ++ "&" ++ second) = formPairs first ++ formPairs second := by
  have between : Utf8.encode (first ++ "&" ++ second) =
      Utf8.encode first ++ 38 :: Utf8.encode second := by
    rw [encode_append, encode_append, List.append_assoc]
    rfl
  rw [formPairs, between, splitOn_append_cons, List.filter_append, List.map_append]
  rfl

section Written

/-- What a form writes for a character: its only byte, a plus for a blank, or the digits of each of its
bytes. -/
inductive Writes (c : Char) : List Char → Prop where
  | itself {b : UInt8} (single : Utf8.encodeChar c = [b])
      (free : b ≠ 37 ∧ b ≠ 38 ∧ b ≠ 43 ∧ b ≠ 61) : Writes c [c]
  | blank (same : c = ' ') : Writes c ['+']
  | bytes : Writes c ((Utf8.encodeChar c).flatMap Percent.encodeByte)

theorem range_of_isAlphanum {c : Char} (h : c.isAlphanum = true) :
    (48 ≤ c.toNat ∧ c.toNat ≤ 57) ∨ (65 ≤ c.toNat ∧ c.toNat ≤ 90) ∨
      (97 ≤ c.toNat ∧ c.toNat ≤ 122) := by
  have kinds : ((c.isUpper || c.isLower) || c.isDigit) = true := h
  rw [Bool.or_eq_true, Bool.or_eq_true] at kinds
  rcases kinds with (upper | lower) | digit
  · exact .inr (.inl (of_decide_eq_true upper))
  · obtain ⟨least, most⟩ := Bool.and_eq_true_iff.mp lower
    exact .inr (.inr ⟨of_decide_eq_true least, of_decide_eq_true most⟩)
  · exact .inl (range_of_isDigit digit)

theorem writes_formChar (c : Char) : Writes c (formChar c) := by
  unfold formChar
  split
  · next plain =>
      simp only [Bool.or_eq_true, beq_iff_eq] at plain
      rcases plain with (((letter | rfl) | rfl) | rfl) | rfl
      · have range := range_of_isAlphanum letter
        have ascii : c.toNat < 0x80 := by omega
        have single : Utf8.encodeChar c = [c.toNat.toUInt8] := if_pos ascii
        refine .itself single ?_
        simp only [ne_eq, ← UInt8.toNat_inj, Utf8.toNat_toUInt8 (Nat.lt_trans ascii (by decide))]
        refine ⟨?_, ?_, ?_, ?_⟩ <;> (simp; omega)
      · exact .itself rfl (by decide)
      · exact .itself rfl (by decide)
      · exact .itself rfl (by decide)
      · exact .itself rfl (by decide)
  · split
    · next blank => exact .blank (beq_iff_eq.mp blank)
    · exact .bytes

/-- The digits of half a byte are ASCII, mean something else nowhere, and read as that half. -/
theorem hexDigit_reads : ∀ n < 16, ∃ d : UInt8, Utf8.encodeChar (Percent.hexDigit n) = [d] ∧
    Percent.hexValue d = some n.toUInt8 ∧ d ≠ 38 ∧ d ≠ 43 ∧ d ≠ 61 := by
  intro n small
  refine ⟨(Percent.hexDigit n).toNat.toUInt8, ?_⟩
  revert n
  decide

/-- A byte in digits is read as that byte, by the form too. -/
theorem encodeByte_reads (b : UInt8) : ∃ digits : Bytes,
    (Percent.encodeByte b).flatMap Utf8.encodeChar = digits ∧ (∀ d ∈ digits, d ≠ 38 ∧ d ≠ 61) ∧
    ∀ rest, Percent.decode (digits.map unplussed ++ rest) = b :: Percent.decode rest := by
  have size := b.toNat_lt
  obtain ⟨high, spelledHigh, valueHigh, freeHigh⟩ := hexDigit_reads (b.toNat / 16) (by omega)
  obtain ⟨low, spelledLow, valueLow, freeLow⟩ := hexDigit_reads (b.toNat % 16) (by omega)
  have whole : (b.toNat / 16).toUInt8 * 16 + (b.toNat % 16).toUInt8 = b := by
    rw [← UInt8.toNat_inj, UInt8.toNat_add, UInt8.toNat_mul, Utf8.toNat_toUInt8 (by omega),
      Utf8.toNat_toUInt8 (by omega)]
    simp
    omega
  refine ⟨[37, high, low], ?_, ?_, fun rest => ?_⟩
  · simp only [Percent.encodeByte, List.flatMap_cons, List.flatMap_nil, spelledHigh, spelledLow]
    rfl
  · simp only [List.forall_mem_cons, List.not_mem_nil, false_implies, implies_true, and_true]
    exact ⟨by decide, ⟨freeHigh.1, freeHigh.2.2⟩, freeLow.1, freeLow.2.2⟩
  · have kept : [37, high, low].map unplussed = [37, high, low] := by
      simp [unplussed, freeHigh.2.1, freeLow.2.1]
    rw [kept, List.cons_append, List.cons_append, List.cons_append, List.nil_append, Percent.decode,
      valueHigh, valueLow]
    dsimp only
    rw [whole]

theorem encodeBytes_read (bytes : Bytes) :
    let digits := (bytes.flatMap Percent.encodeByte).flatMap Utf8.encodeChar
    (∀ d ∈ digits, d ≠ 38 ∧ d ≠ 61) ∧
    ∀ rest, Percent.decode (digits.map unplussed ++ rest) = bytes ++ Percent.decode rest := by
  induction bytes with
  | nil => exact ⟨by simp, fun _ => rfl⟩
  | cons b bytes ih =>
      obtain ⟨digits, spelled, free, reads⟩ := encodeByte_reads b
      dsimp only at ih ⊢
      rw [List.flatMap_cons, List.flatMap_append, spelled]
      refine ⟨List.forall_mem_append.mpr ⟨free, ih.1⟩, fun rest => ?_⟩
      rw [List.map_append, List.append_assoc, reads, ih.2, List.cons_append]

/-- What is written for a character holds no separator, and reads as the bytes of that character. -/
theorem Writes.reads {c : Char} {written : List Char} (h : Writes c written) :
    (∀ b ∈ written.flatMap Utf8.encodeChar, b ≠ 38 ∧ b ≠ 61) ∧
    ∀ rest, Percent.decode ((written.flatMap Utf8.encodeChar).map unplussed ++ rest) =
      Utf8.encodeChar c ++ Percent.decode rest := by
  cases h with
  | @itself b single free =>
      obtain ⟨percent, ampersand, plus, equals⟩ := free
      rw [List.flatMap_cons, List.flatMap_nil, List.append_nil, single]
      refine ⟨by simpa using ⟨ampersand, equals⟩, fun rest => ?_⟩
      rw [List.map_cons, List.map_nil, unplussed, if_neg plus, List.singleton_append,
        List.singleton_append, Percent.decode]
      exact fun _ _ _ same => absurd same percent
  | blank same =>
      subst same
      have plus : ['+'].flatMap Utf8.encodeChar = [43] := by decide
      rw [plus]
      exact ⟨by simp, fun rest => by simp [Percent.decode, unplussed, Utf8.encodeChar]⟩
  | bytes => exact encodeBytes_read _

theorem formText_reads (chars : List Char) :
    (∀ b ∈ (chars.flatMap formChar).flatMap Utf8.encodeChar, b ≠ 38 ∧ b ≠ 61) ∧
    Percent.decode (((chars.flatMap formChar).flatMap Utf8.encodeChar).map unplussed) =
      chars.flatMap Utf8.encodeChar := by
  induction chars with
  | nil => exact ⟨by simp, rfl⟩
  | cons c chars ih =>
      obtain ⟨free, reads⟩ := (writes_formChar c).reads
      rw [List.flatMap_cons, List.flatMap_append]
      refine ⟨List.forall_mem_append.mpr ⟨free, ih.1⟩, ?_⟩
      rw [List.map_append, reads, ih.2, List.flatMap_cons]

/-- What is written for a text holds no separator. -/
theorem formText_free (text : String) : ∀ b ∈ Utf8.encode (formText text), b ≠ 38 ∧ b ≠ 61 := by
  rw [formText, Utf8.encode_ofList]
  exact (formText_reads text.toList).1

theorem formDecode_formText (text : String) : formDecode (Utf8.encode (formText text)) = text := by
  rw [formDecode, formText, Utf8.encode_ofList, (formText_reads text.toList).2, Utf8.decodeLossy,
    Utf8.scan_encode, List.map_map]
  exact (congrArg String.ofList (List.map_id'' (fun _ => rfl) _)).trans String.ofList_toList

end Written

section Pairs

variable (pair : String × String) (pairs : List (String × String))

theorem encode_pairText : Utf8.encode (pairText pair) =
    Utf8.encode (formText pair.1) ++ 61 :: Utf8.encode (formText pair.2) := by
  rw [pairText, encode_append, encode_append, List.append_assoc]
  rfl

theorem formPair_pairText : formPair (Utf8.encode (pairText pair)) = pair := by
  have unequal : ∀ b ∈ Utf8.encode (formText pair.1), decide (b ≠ 61) = true :=
    fun b member => decide_eq_true (formText_free pair.1 b member).2
  have name : (Utf8.encode (pairText pair)).takeWhile (· ≠ 61) = Utf8.encode (formText pair.1) := by
    rw [encode_pairText, List.takeWhile_append_of_pos unequal, List.takeWhile_cons_of_neg (by simp),
      List.append_nil]
  have value : (Utf8.encode (pairText pair)).drop ((Utf8.encode (formText pair.1)).length + 1) =
      Utf8.encode (formText pair.2) := by
    rw [encode_pairText, ← List.drop_drop, List.drop_left, List.drop_one, List.tail_cons]
  rw [formPair, name, value, formDecode_formText, formDecode_formText]

/-- What is written for a pair reads as that pair alone. -/
theorem formPairs_pairText : formPairs (pairText pair) = [pair] := by
  have whole : 38 ∉ Utf8.encode (pairText pair) := by
    rw [encode_pairText]
    intro member
    rcases List.mem_append.mp member with name | rest
    · exact (formText_free pair.1 38 name).1 rfl
    · rcases List.mem_cons.mp rest with equals | value
      · exact absurd equals (by decide)
      · exact (formText_free pair.2 38 value).1 rfl
  have filled : (Utf8.encode (pairText pair)).isEmpty = false := by
    rw [encode_pairText]
    simp
  rw [formPairs, splitOn_of_notMem whole, List.filter_cons_of_pos (by simp [filled]), List.filter_nil,
    List.map_cons, List.map_nil, formPair_pairText]

/-- A query that pairs are appended to has its own pairs, and those behind them. -/
theorem formPairs_extendQuery (query : Option String) :
    formPairs (extendQuery query pairs) = formPairs (query.getD "") ++ pairs := by
  unfold extendQuery
  generalize query.getD "" = start
  induction pairs generalizing start with
  | nil => rw [List.foldl_nil, List.append_nil]
  | cons pair pairs ih =>
      rw [List.foldl_cons, ih]
      split
      · next blank =>
          rw [formPairs_pairText, String.isEmpty_iff.mp blank, formPairs_empty]
          rfl
      · rw [formPairs_append, formPairs_pairText, List.append_assoc]
        rfl

end Pairs

end CardGateway.Url
