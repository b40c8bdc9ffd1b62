/-!
# Races

Instants are counted in milliseconds. Of several things that may happen, each at its instant or never,
the earliest happens; of those at one instant, the one named first.
-/

namespace CardGateway

/-- Points in time and spans, in milliseconds. -/
abbrev Millis := Nat

/-- The earliest of the contenders, with its instant. -/
def winner {α : Type} : List (α × Option Millis) → Option (α × Millis)
  | [] => none
  | (_, none) :: rest => winner rest
  | (value, some t) :: rest =>
      match winner rest with
      | some (other, u) => if t ≤ u then some (value, t) else some (other, u)
      | none => some (value, t)

theorem winner_mem {α : Type} {contenders : List (α × Option Millis)} {value : α} {t : Millis}
    (h : winner contenders = some (value, t)) : (value, some t) ∈ contenders := by
  induction contenders with
  | nil => simp [winner] at h
  | cons head rest ih =>
      obtain ⟨other, _ | u⟩ := head
      · exact List.mem_cons_of_mem _ (ih (by simpa [winner] using h))
      · cases later : winner rest with
        | none =>
            simp only [winner, later, Option.some.injEq, Prod.mk.injEq] at h
            simp [h.1, h.2]
        | some found =>
            obtain ⟨next, v⟩ := found
            simp only [winner, later] at h
            split at h
            · simp only [Option.some.injEq, Prod.mk.injEq] at h
              simp [h.1, h.2]
            · simp only [Option.some.injEq, Prod.mk.injEq] at h
              exact List.mem_cons_of_mem _ (ih (by rw [later, h.1, h.2]))

theorem winner_ne_none {α : Type} {contenders : List (α × Option Millis)} {value : α} {t : Millis}
    (m : (value, some t) ∈ contenders) : winner contenders ≠ none := by
  induction contenders with
  | nil => simp at m
  | cons head rest ih =>
      obtain ⟨other, _ | u⟩ := head
      · simpa [winner] using ih (by simpa using m)
      · simp only [winner]
        split
        · split <;> simp
        · simp

/-- Nothing happens before the winner. -/
theorem winner_le {α : Type} {contenders : List (α × Option Millis)} {value other : α}
    {t u : Millis} (h : winner contenders = some (value, t)) (m : (other, some u) ∈ contenders) :
    t ≤ u := by
  induction contenders generalizing value t with
  | nil => simp at m
  | cons head rest ih =>
      obtain ⟨first, _ | v⟩ := head
      · exact ih (by simpa [winner] using h) (by simpa using m)
      · cases later : winner rest with
        | none =>
            simp only [winner, later, Option.some.injEq, Prod.mk.injEq] at h
            rcases List.mem_cons.mp m with e | e
            · simp only [Prod.mk.injEq, Option.some.injEq] at e
              exact Nat.le_of_eq (h.2.symm.trans e.2.symm)
            · exact absurd later (winner_ne_none e)
        | some found =>
            obtain ⟨next, w⟩ := found
            simp only [winner, later] at h
            rcases List.mem_cons.mp m with e | e
            · simp only [Prod.mk.injEq, Option.some.injEq] at e
              split at h <;> simp only [Option.some.injEq, Prod.mk.injEq] at h
              · exact Nat.le_of_eq (h.2.symm.trans e.2.symm)
              · rw [← h.2, e.2]
                exact Nat.le_of_lt (Nat.lt_of_not_le (by assumption))
            · have below := ih later e
              split at h <;> simp only [Option.some.injEq, Prod.mk.injEq] at h
              · exact Nat.le_trans (Nat.le_of_eq h.2.symm) (Nat.le_trans (by assumption) below)
              · exact h.2 ▸ below

/-- One that is named before the winner comes later. -/
theorem winner_lt {α : Type} {before after : List (α × Option Millis)} {value other : α}
    {t u : Millis} (h : winner (before ++ after) = some (value, t)) (m : (other, some u) ∈ before)
    (fresh : ∀ v, (value, some v) ∉ before) : t < u := by
  induction before generalizing t with
  | nil => simp at m
  | cons head rest ih =>
      have fresher : ∀ v, (value, some v) ∉ rest := fun v held =>
        fresh v (List.mem_cons_of_mem _ held)
      obtain ⟨first, _ | v⟩ := head
      · exact ih (by simpa [winner] using h) (by simpa using m) fresher
      · have unlike : first ≠ value := fun same => fresh v (by simp [same])
        cases later : winner (rest ++ after) with
        | none => simp [winner, later, unlike] at h
        | some found =>
            obtain ⟨next, w⟩ := found
            simp only [List.cons_append, winner, later] at h
            split at h
            · simp [unlike] at h
            · obtain ⟨rfl, rfl⟩ := by simpa using h
              rcases List.mem_cons.mp m with e | e
              · simp only [Prod.mk.injEq, Option.some.injEq] at e
                exact e.2 ▸ Nat.lt_of_not_le (by assumption)
              · exact ih later e fresher

end CardGateway
