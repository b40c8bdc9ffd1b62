import CardGateway.Json.Text
import CardGateway.Proofs.Faults
import CardGateway.Proofs.Utf8

/-!
# JSON strings as they are written

A string is written so that its own bytes are read back: what would end it, or would not be read as
itself, is escaped.
-/

namespace CardGateway.Json

open CardGateway.Text

/-- A byte that stands for itself inside a string. -/
def Plain (b : UInt8) : Prop := 0x20 ≤ b.toNat ∧ b ≠ quote ∧ b ≠ backslash

inductive Written (c : Char) : Bytes → Prop where
  | short {e b : UInt8} (stands : shortEscape e = some b) (own : Utf8.encodeChar c = [b]) :
      Written c [backslash, e]
  | code {x y : UInt8} (value : hexQuad 0x30 0x30 x y = .ok c.toNat) (low : c.toNat < 0x20) :
      Written c [backslash, letterU, 0x30, 0x30, x, y]
  | plain (stands : ∀ b ∈ Utf8.encodeChar c, Plain b) : Written c (Utf8.encodeChar c)

theorem plain_encodeChar {c : Char} (high : 0x20 ≤ c.toNat) (unquoted : c ≠ '"')
    (straight : c ≠ '\\') : ∀ b ∈ Utf8.encodeChar c, Plain b := by
  intro b member
  by_cases ascii : c.toNat < 0x80
  · have own : b.toNat = c.toNat := by
      rw [Utf8.encodeChar, if_pos ascii] at member
      rw [List.mem_singleton.mp member, Utf8.toNat_toUInt8 (by omega)]
    refine ⟨by omega, ?_, ?_⟩
    · rintro rfl
      exact unquoted (Char.toNat_inj.mp own.symm)
    · rintro rfl
      exact straight (Char.toNat_inj.mp own.symm)
  · have far := Utf8.high_of_mem_encodeChar (Nat.not_lt.mp ascii) member
    refine ⟨by omega, ?_, ?_⟩
    · rintro rfl
      exact absurd far (by decide)
    · rintro rfl
      exact absurd far (by decide)

/-- The two digits of a control character. -/
theorem control_digits : ∀ k < 0x20,
    Utf8.encodeChar (Nat.digitChar (k / 16)) = [(Nat.digitChar (k / 16)).toNat.toUInt8] ∧
    Utf8.encodeChar (Nat.digitChar (k % 16)) = [(Nat.digitChar (k % 16)).toNat.toUInt8] ∧
    hexValue (Nat.digitChar (k / 16)).toNat.toUInt8 = some (k / 16) ∧
    hexValue (Nat.digitChar (k % 16)).toNat.toUInt8 = some (k % 16) := by
  decide

theorem written_escapeChar (c : Char) : Written c ((escapeChar c).flatMap Utf8.encodeChar) := by
  unfold escapeChar
  simp only [beq_iff_eq]
  split
  · next same => subst same; exact .short (b := 0x22) (by decide) (by decide)
  split
  · next same => subst same; exact .short (b := 0x5C) (by decide) (by decide)
  split
  · next same => subst same; exact .short (b := 0x08) (by decide) (by decide)
  split
  · next same => subst same; exact .short (b := 0x0C) (by decide) (by decide)
  split
  · next same => subst same; exact .short (b := 0x0A) (by decide) (by decide)
  split
  · next same => subst same; exact .short (b := 0x0D) (by decide) (by decide)
  split
  · next same => subst same; exact .short (b := 0x09) (by decide) (by decide)
  split
  · next low =>
      obtain ⟨first, second, high, rest⟩ := control_digits c.toNat low
      have value : hexQuad 0x30 0x30 (Nat.digitChar (c.toNat / 16)).toNat.toUInt8
          (Nat.digitChar (c.toNat % 16)).toNat.toUInt8 = .ok c.toNat := by
        have zero : hexValue 0x30 = some 0 := by decide
        simp only [hexQuad, zero, high, rest, Except.ok.injEq]
        omega
      have written := Written.code value low
      simp only [List.flatMap_cons, List.flatMap_nil, first, second, List.append_nil]
      exact written
  · next unquoted straight _ _ _ _ _ high =>
      rw [List.flatMap_singleton]
      exact .plain (plain_encodeChar (by omega) unquoted straight)

section Plain

variable {bytes : Bytes} (stands : ∀ b ∈ bytes, Plain b) (rest : Bytes)

include stands

theorem unescape_plain : unescape (bytes ++ rest) = (unescape rest).map (bytes ++ ·) := by
  induction bytes with
  | nil =>
      rw [List.nil_append]
      cases unescape rest <;> rfl
  | cons b tail ih =>
      obtain ⟨high, unquoted, straight⟩ := stands b List.mem_cons_self
      have low : ¬ b < 0x20 := by
        rw [UInt8.lt_iff_toNat_lt]
        exact Nat.not_lt.mpr high
      have next := ih fun c member => stands c (List.mem_cons_of_mem _ member)
      rw [List.cons_append, unescape]
      · rw [if_neg (by simpa using unquoted), if_neg low, next]
        cases unescape rest <;> rfl
      all_goals
        intros
        exact straight ‹_›

end Plain

section Written

variable {c : Char} {bytes : Bytes} (written : Written c bytes) (rest : Bytes)

include written

theorem Written.unescape :
    unescape (bytes ++ rest) = (unescape rest).map (Utf8.encodeChar c ++ ·) := by
  cases written with
  | @short e b stands own =>
      have other : e ≠ 0x75 := by
        rintro rfl
        cases stands
      simp only [backslash, List.cons_append, List.nil_append]
      rw [Json.unescape, own]
      · rw [stands]
        cases Json.unescape rest <;> rfl
      all_goals
        intros
        exact other ‹_›
  | code value low =>
      have trailing : isTrailing c.toNat = false := by
        simp only [isTrailing, Bool.and_eq_false_iff, decide_eq_false_iff_not]
        omega
      have leading : isLeading c.toNat = false := by
        simp only [isLeading, Bool.and_eq_false_iff, decide_eq_false_iff_not]
        omega
      simp only [backslash, letterU, List.cons_append, List.nil_append]
      rw [Json.unescape, value, ok_bind]
      simp only [trailing, leading, Bool.false_eq_true, if_false, Char.ofNat_toNat]
      cases Json.unescape rest <;> rfl
  | plain stands => exact unescape_plain stands rest

end Written

def rawText (s : String) : Bytes :=
  s.toList.flatMap (fun c => (escapeChar c).flatMap Utf8.encodeChar) ++ [quote]

theorem encode_writeText (s : String) :
    (writeText s).flatMap Utf8.encodeChar = quote :: rawText s := by
  simp only [writeText, rawText, List.flatMap_cons, List.flatMap_append, List.flatMap_assoc]
  rfl

theorem unescape_rawText (s : String) : unescape (rawText s) = .ok (Utf8.encode s) := by
  unfold rawText Utf8.encode
  induction s.toList with
  | nil => rfl
  | cons c tail ih =>
      rw [List.flatMap_cons, List.append_assoc, (written_escapeChar c).unescape, ih,
        List.flatMap_cons]
      rfl

/-- The string that was written is read. -/
theorem readText_rawText (s : String) : readText (rawText s) = .ok s := by
  rw [readText, unescape_rawText, ok_bind, Utf8.decode?_encode]
  rfl

end CardGateway.Json
