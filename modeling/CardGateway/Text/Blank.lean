/-!
# Blank characters

The characters with the Unicode property `White_Space`, and texts trimmed of them.
-/

namespace CardGateway.Text

/-- The property `White_Space` of the Unicode character database. -/
def isBlank (c : Char) : Bool :=
  let n := c.toNat
  (9 ≤ n && n ≤ 13) || n == 0x20 || n == 0x85 || n == 0xA0 || n == 0x1680 ||
    (0x2000 ≤ n && n ≤ 0x200A) || n == 0x2028 || n == 0x2029 || n == 0x202F ||
    n == 0x205F || n == 0x3000

theorem range_of_isDigit {c : Char} (digit : c.isDigit = true) : 48 ≤ c.toNat ∧ c.toNat ≤ 57 := by
  simpa [Char.isDigit, Char.le_def, UInt32.le_iff_toNat_le] using digit

theorem isBlank_of_isDigit {c : Char} (digit : c.isDigit = true) : isBlank c = false := by
  have range := range_of_isDigit digit
  simp only [isBlank, Bool.or_eq_false_iff, Bool.and_eq_false_iff, decide_eq_false_iff_not,
    beq_eq_false_iff_ne]
  omega

/-- Drops the blanks at both ends. -/
def trimChars (text : List Char) : List Char :=
  ((text.dropWhile isBlank).reverse.dropWhile isBlank).reverse

def trim (text : String) : String :=
  String.ofList (trimChars text.toList)

section Surrounded

variable {α : Type} {isEdge : α → Bool} {ahead inner behind : List α}

theorem dropWhile_edges (edge : ∀ c ∈ ahead, isEdge c = true)
    (solid : ∀ c ∈ inner.head?, isEdge c = false) : (ahead ++ inner).dropWhile isEdge = inner := by
  rw [List.dropWhile_append_of_pos edge]
  cases inner with
  | nil => rfl
  | cons c rest => rw [List.dropWhile_cons_of_neg (by simp [solid c rfl])]

/-- What stands around something solid is dropped from both ends. -/
theorem dropEnds_surrounded (edge : ∀ c ∈ ahead ++ behind, isEdge c = true)
    (solid : ∀ c ∈ inner, isEdge c = false) (filled : inner ≠ []) :
    (((ahead ++ inner ++ behind).dropWhile isEdge).reverse.dropWhile isEdge).reverse = inner := by
  have front : (ahead ++ (inner ++ behind)).dropWhile isEdge = inner ++ behind := by
    refine dropWhile_edges (fun c member => edge c (List.mem_append_left _ member)) ?_
    cases inner with
    | nil => exact absurd rfl filled
    | cons c rest => simpa using solid c List.mem_cons_self
  have back : (behind.reverse ++ inner.reverse).dropWhile isEdge = inner.reverse := by
    refine dropWhile_edges (fun c member => ?_) fun c last => ?_
    · exact edge c (List.mem_append_right _ (List.mem_reverse.mp member))
    · exact solid c (List.mem_reverse.mp (List.mem_of_mem_head? last))
  rw [List.append_assoc, front, List.reverse_append, back, List.reverse_reverse]

/-- What is dropped from both ends stood around the rest. -/
theorem exists_surrounding (isEdge : α → Bool) (text : List α) :
    ∃ ahead behind, (∀ c ∈ ahead ++ behind, isEdge c = true) ∧
      text = ahead ++ ((text.dropWhile isEdge).reverse.dropWhile isEdge).reverse ++ behind := by
  refine ⟨text.takeWhile isEdge, ((text.dropWhile isEdge).reverse.takeWhile isEdge).reverse, ?_, ?_⟩
  · intro c member
    rcases List.mem_append.mp member with front | back
    · exact List.all_eq_true.mp List.all_takeWhile c front
    · exact List.all_eq_true.mp List.all_takeWhile c (List.mem_reverse.mp back)
  · rw [List.append_assoc, ← List.reverse_append, List.takeWhile_append_dropWhile,
      List.reverse_reverse, List.takeWhile_append_dropWhile]

/-- Blanks around a text without any are trimmed. -/
theorem trimChars_surrounded {ahead inner behind : List Char}
    (blank : ∀ c ∈ ahead ++ behind, isBlank c = true) (solid : ∀ c ∈ inner, isBlank c = false)
    (filled : inner ≠ []) : trimChars (ahead ++ inner ++ behind) = inner :=
  dropEnds_surrounded blank solid filled

end Surrounded

/-- Nothing is trimmed off a text without blanks. -/
theorem trimChars_eq_self {text : List Char} (solid : ∀ c ∈ text, isBlank c = false) :
    trimChars text = text := by
  cases text with
  | nil => rfl
  | cons c rest =>
      have trimmed := @trimChars_surrounded [] (c :: rest) []
        (fun d member => absurd member List.not_mem_nil) solid (List.cons_ne_nil c rest)
      rwa [List.nil_append, List.append_nil] at trimmed

theorem trim_toList (text : String) : (trim text).toList = trimChars text.toList := by
  simp [trim]

theorem trim_eq_self {text : String} (solid : ∀ c ∈ text.toList, isBlank c = false) :
    trim text = text := by
  rw [trim, trimChars_eq_self solid, String.ofList_toList]

/-- Whether nothing but blanks stands in a text. -/
def isBlankText (text : String) : Bool :=
  text.toList.all isBlank

end CardGateway.Text
