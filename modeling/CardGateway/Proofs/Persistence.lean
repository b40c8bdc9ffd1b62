import Mathlib.Logic.Basic
import CardGateway.Http.Answer
import CardGateway.Text.Blank

/-!
# Which connections persist

The lines named `Connection` list options between commas, and one option for each version decides
whether the connection persists. All lines count as one for that, but only the first one is asked: an
option in another line goes unheard.
-/

namespace CardGateway.Http

open CardGateway.Text

/-- The option is listed in the line: it stands between commas, in any case of its letters and with
blanks around it. -/
def Lists (line : Bytes) (option : String) : Prop :=
  ∃ part ∈ splitOn 44 line, ∃ ahead inner behind, part = ahead ++ inner ++ behind ∧
    (∀ b ∈ ahead ++ behind, Head.isBlankByte b = true) ∧
    inner.map Head.lowered = Utf8.encode option

/-- The option that turns around what a version does by itself. -/
def Version.option : Version → String
  | .http10 => "keep-alive"
  | .http11 => "close"

/-- The rule for connections: one of version 1.0 persists if some line asks to keep it alive, one of
version 1.1 unless some line asks to close it. -/
def Persists : Version → List Bytes → Prop
  | .http10, lines => ∃ line ∈ lines, Lists line "keep-alive"
  | .http11, lines => ¬ ∃ line ∈ lines, Lists line "close"

def joined (lines : List Bytes) : Bytes := [44].intercalate lines

variable {version : Version} {line : Bytes} {lines : List Bytes} {option : String}

section Options

theorem lowered_eq_comma_iff (b : UInt8) : Head.lowered b = 44 ↔ b = 44 := by
  unfold Head.lowered
  split
  · next upper =>
      simp only [Bool.and_eq_true, decide_eq_true_eq, UInt8.le_iff_toNat_le] at upper
      rw [← UInt8.toNat_inj, ← UInt8.toNat_inj, UInt8.toNat_add]
      simp at upper ⊢
      omega
  · exact Iff.rfl

theorem isBlankByte_lowered (b : UInt8) :
    Head.isBlankByte (Head.lowered b) = Head.isBlankByte b := by
  unfold Head.lowered
  split
  · next upper =>
      simp only [Bool.and_eq_true, decide_eq_true_eq, UInt8.le_iff_toNat_le] at upper
      rw [Bool.eq_iff_iff]
      simp only [Head.isBlankByte, Bool.or_eq_true, beq_iff_eq, ← UInt8.toNat_inj, UInt8.toNat_add]
      simp at upper ⊢
      omega
  · rfl

theorem trimmed_lowered (part : Bytes) :
    Head.trimEnd ((part.map Head.lowered).dropWhile Head.isBlankByte) =
      (Head.trimEnd (part.dropWhile Head.isBlankByte)).map Head.lowered := by
  have same : Head.isBlankByte ∘ Head.lowered = Head.isBlankByte := funext isBlankByte_lowered
  simp only [Head.trimEnd, List.dropWhile_map, same, ← List.map_reverse]

theorem hasOption_iff (solid : (Utf8.encode option).any Head.isBlankByte = false)
    (filled : Utf8.encode option ≠ []) : hasOption option line = true ↔ Lists line option := by
  rw [hasOption, options, List.contains_iff_mem, splitOn_map lowered_eq_comma_iff, List.map_map,
    List.mem_map]
  constructor
  · rintro ⟨part, listed, same⟩
    obtain ⟨ahead, behind, blank, split⟩ := exists_surrounding Head.isBlankByte part
    exact ⟨part, listed, ahead, _, behind, split, blank, (trimmed_lowered part).symm.trans same⟩
  · rintro ⟨part, listed, ahead, inner, behind, rfl, blank, spelled⟩
    refine ⟨_, listed, ?_⟩
    have whole : ∀ b ∈ inner, Head.isBlankByte b = false := fun b member => by
      rw [← isBlankByte_lowered]
      exact Bool.not_eq_true _ ▸ List.any_eq_false.mp solid _ (spelled ▸ List.mem_map_of_mem member)
    have bare : Head.trimEnd ((ahead ++ inner ++ behind).dropWhile Head.isBlankByte) = inner :=
      dropEnds_surrounded blank whole fun empty => filled (by rw [← spelled, empty]; rfl)
    rw [Function.comp_apply, trimmed_lowered, bare, spelled]

theorem hasOption_own_iff : hasOption version.option line = true ↔ Lists line version.option := by
  cases version with
  | http10 => exact hasOption_iff (by decide) (by decide)
  | http11 => exact hasOption_iff (by decide) (by decide)

end Options

section Lines

/-- Joined lines list what the lines list. -/
theorem lists_joined_iff (filled : lines ≠ []) :
    Lists (joined lines) option ↔ ∃ line ∈ lines, Lists line option := by
  unfold Lists joined
  rw [splitOn_intercalate 44 filled]
  simp only [List.mem_flatMap]
  constructor
  · rintro ⟨part, ⟨line, member, listed⟩, spelled⟩
    exact ⟨line, member, part, listed, spelled⟩
  · rintro ⟨line, member, part, listed, spelled⟩
    exact ⟨part, ⟨line, member, listed⟩, spelled⟩

theorem not_lists_nil : ¬ Lists [] version.option := by
  rw [← hasOption_own_iff]
  cases version <;> decide

/-- The rule asks for nothing but one option. -/
theorem persists_congr_iff {others : List Bytes} :
    (Persists version lines ↔ Persists version others) ↔
      ((∃ line ∈ lines, Lists line version.option) ↔
        ∃ line ∈ others, Lists line version.option) := by
  cases version with
  | http10 => exact Iff.rfl
  | http11 => exact not_iff_not

/-- The rule is applied to the first line. -/
theorem keepsAlive_iff : keepsAlive version lines = true ↔ Persists version (lines.take 1) := by
  have own (line : Bytes) := @hasOption_own_iff version line
  cases version with
  | http10 =>
      cases lines with
      | nil => simp [keepsAlive, Persists]
      | cons first rest => simpa [keepsAlive, Persists, Version.option] using own first
  | http11 =>
      cases lines with
      | nil => simp [keepsAlive, Persists]
      | cons first rest =>
          simpa [keepsAlive, Persists, Version.option] using not_congr (own first)

/-- One line can say everything. -/
theorem keepsAlive_joined_iff :
    keepsAlive version [joined lines] = true ↔ Persists version lines := by
  refine keepsAlive_iff.trans (persists_congr_iff.mpr ?_)
  cases lines with
  | nil => simpa [joined] using not_lists_nil
  | cons first rest => simpa using lists_joined_iff (List.cons_ne_nil first rest)

/-- The first line decides as if it were the only one. That is as the rule has it for all lines just
when the option that turns the version's habit around is in the first line or in none, and always when
the lines are joined. -/
theorem first_line_decides (version : Version) (lines : List Bytes) :
    (keepsAlive version lines = true ↔ Persists version (lines.take 1)) ∧
    ((keepsAlive version lines = true ↔ Persists version lines) ↔
      ((∃ line ∈ lines, Lists line version.option) →
        ∃ line ∈ lines.take 1, Lists line version.option)) ∧
    (keepsAlive version [joined lines] = true ↔ Persists version lines) := by
  refine ⟨keepsAlive_iff, ?_, keepsAlive_joined_iff⟩
  rw [keepsAlive_iff, persists_congr_iff]
  constructor
  · exact fun same => same.mpr
  · rintro heard
    exact ⟨fun ⟨line, member, listed⟩ => ⟨line, List.mem_of_mem_take member, listed⟩, heard⟩

/-- Options in a second line, unlike the same options in one line. -/
theorem second_line_unheard :
    keepsAlive .http10 [Utf8.encode "x", Utf8.encode "keep-alive"] = false ∧
    Persists .http10 [Utf8.encode "x", Utf8.encode "keep-alive"] ∧
    keepsAlive .http10 [Utf8.encode "x,keep-alive"] = true ∧
    keepsAlive .http11 [Utf8.encode "keep-alive", Utf8.encode "close"] = true ∧
    ¬ Persists .http11 [Utf8.encode "keep-alive", Utf8.encode "close"] ∧
    keepsAlive .http11 [Utf8.encode "keep-alive,close"] = false := by
  refine ⟨by decide, ?_, by decide, by decide, ?_, by decide⟩
  · exact keepsAlive_joined_iff.mp (by decide)
  · exact fun kept => absurd (keepsAlive_joined_iff.mpr kept) (by decide)

end Lines

end CardGateway.Http
