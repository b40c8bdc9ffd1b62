/-!
# Texts in parts

The parts of a text, or of any sequence, between a separator: one more than there are separators.
-/

namespace CardGateway.Text

def splitOn {α : Type} [DecidableEq α] (separator : α) : List α → List (List α)
  | [] => [[]]
  | c :: rest =>
      if c = separator then [] :: splitOn separator rest
      else match splitOn separator rest with
        | first :: parts => (c :: first) :: parts
        | [] => [[c]]

theorem splitOn_ne_nil {α : Type} [DecidableEq α] (separator : α) (text : List α) :
    splitOn separator text ≠ [] := by
  cases text with
  | nil => simp [splitOn]
  | cons c rest =>
      unfold splitOn
      split
      · simp
      · split <;> simp

/-- A separator ends the parts in front of it. -/
theorem splitOn_append_cons {α : Type} [DecidableEq α] (separator : α) (text rest : List α) :
    splitOn separator (text ++ separator :: rest) =
      splitOn separator text ++ splitOn separator rest := by
  induction text with
  | nil => simp [splitOn]
  | cons c tail ih =>
      by_cases same : c = separator
      · simp [splitOn, same, ih]
      · cases found : splitOn separator tail with
        | nil => exact absurd found (splitOn_ne_nil separator tail)
        | cons first parts => simp [splitOn, same, ih, found]

theorem splitOn_of_notMem {α : Type} [DecidableEq α] {separator : α} {part : List α}
    (h : separator ∉ part) : splitOn separator part = [part] := by
  induction part with
  | nil => rfl
  | cons c tail ih =>
      have ne : ¬ c = separator := fun e => h (by simp [e])
      have next := ih fun m => h (List.mem_cons_of_mem _ m)
      simp [splitOn, ne, next]

/-- A part without separators stands for itself in front of the next separator. -/
theorem splitOn_append {α : Type} [DecidableEq α] {separator : α} {part : List α}
    (h : separator ∉ part) (rest : List α) :
    splitOn separator (part ++ separator :: rest) = part :: splitOn separator rest := by
  rw [splitOn_append_cons, splitOn_of_notMem h]
  rfl

/-- The parts tell the whole. -/
theorem intercalate_splitOn {α : Type} [DecidableEq α] (separator : α) (text : List α) :
    [separator].intercalate (splitOn separator text) = text := by
  induction text with
  | nil => rfl
  | cons c rest ih =>
      rw [splitOn]
      cases found : splitOn separator rest with
      | nil => exact absurd found (splitOn_ne_nil separator rest)
      | cons first parts =>
          rw [found] at ih
          by_cases same : c = separator
          · rw [if_pos same, List.intercalate_cons_cons, ih, same]
            rfl
          · rw [if_neg same]
            cases parts with
            | nil => simpa using ih
            | cons next others =>
                rw [List.intercalate_cons_cons] at ih ⊢
                rw [List.cons_append, List.cons_append, ih]

/-- Texts that a separator joins have the parts of each. -/
theorem splitOn_intercalate {α : Type} [DecidableEq α] (separator : α) {texts : List (List α)}
    (filled : texts ≠ []) :
    splitOn separator ([separator].intercalate texts) = texts.flatMap (splitOn separator) := by
  induction texts with
  | nil => exact absurd rfl filled
  | cons text rest ih =>
      cases rest with
      | nil => simp
      | cons next others =>
          rw [List.intercalate_cons_cons, List.append_assoc, List.singleton_append,
            splitOn_append_cons, ih (List.cons_ne_nil next others)]
          rfl

/-- The parts change with the text where separators remain separators and nothing else becomes one. -/
theorem splitOn_map {α β : Type} [DecidableEq α] [DecidableEq β] {f : α → β} {separator : α}
    {other : β} (only : ∀ c, f c = other ↔ c = separator) (text : List α) :
    splitOn other (text.map f) = (splitOn separator text).map (List.map f) := by
  induction text with
  | nil => rfl
  | cons c rest ih =>
      rw [List.map_cons, splitOn, splitOn, ih]
      by_cases same : c = separator
      · rw [if_pos same, if_pos ((only c).mpr same)]
        rfl
      · rw [if_neg same, if_neg (mt (only c).mp same)]
        cases splitOn separator rest <;> rfl

/-- What holds of a separator and throughout some texts holds throughout the text that they make. -/
theorem forall_mem_intercalate {α : Type} {P : α → Prop} {separator : α} {texts : List (List α)}
    (between : P separator) (each : ∀ text ∈ texts, ∀ c ∈ text, P c) :
    ∀ c ∈ [separator].intercalate texts, P c := by
  induction texts with
  | nil => simp
  | cons text rest ih =>
      obtain ⟨first, others⟩ := List.forall_mem_cons.mp each
      cases rest with
      | nil => simpa using first
      | cons next more =>
          rw [List.intercalate_cons_cons]
          simp only [List.forall_mem_append, List.mem_singleton, forall_eq]
          exact ⟨⟨first, between⟩, ih others⟩

theorem splitOn_inj {α : Type} [DecidableEq α] {separator : α} {text other : List α}
    (same : splitOn separator text = splitOn separator other) : text = other := by
  rw [← intercalate_splitOn separator text, same, intercalate_splitOn]

end CardGateway.Text
