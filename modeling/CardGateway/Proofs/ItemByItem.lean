import Mathlib.Data.List.Forall2
import CardGateway.Proofs.Faults

/-!
# Lists read item by item

A list is read if each of its items is, and then in order. What is told of a list that is not read is
told of the first item that is not.
-/

namespace CardGateway

variable {ε α β : Type}

theorem related_of_mem {Related : α → β → Prop} {items : List α} {values : List β}
    (each : List.Forall₂ Related items values) : ∀ item ∈ items, ∃ value, Related item value := by
  induction each with
  | nil => nofun
  | cons first _ later => exact List.forall_mem_cons.mpr ⟨⟨_, first⟩, later⟩

theorem mapM_eq_some_iff {read : α → Option β} {items : List α} {values : List β} :
    items.mapM read = some values ↔
      List.Forall₂ (fun item value => read item = some value) items values := by
  induction items generalizing values with
  | nil =>
      rw [List.forall₂_nil_left_iff, List.mapM_nil]
      exact ⟨fun read => (Option.some.inj read).symm, fun empty => by rw [empty]; rfl⟩
  | cons item rest ih =>
      rw [List.mapM_cons, List.forall₂_cons_left_iff]
      simp only [Option.bind_eq_bind, Option.bind_eq_some_iff, Option.pure_def, Option.some.injEq, ih]
      constructor
      · rintro ⟨value, first, others, more, rfl⟩
        exact ⟨value, others, first, more, rfl⟩
      · rintro ⟨value, others, first, more, rfl⟩
        exact ⟨value, first, others, more, rfl⟩

variable {read : α → Except ε β} {items : List α} {values : List β} {fault : ε}

theorem mapM_eq_ok_iff :
    items.mapM read = .ok values ↔
      List.Forall₂ (fun item value => read item = .ok value) items values := by
  induction items generalizing values with
  | nil =>
      rw [List.forall₂_nil_left_iff, List.mapM_nil]
      exact ⟨fun read => (Except.ok.inj read).symm, fun empty => by rw [empty]; rfl⟩
  | cons item rest ih =>
      rw [List.mapM_cons, List.forall₂_cons_left_iff]
      simp only [bind_eq_ok_iff, pure_eq_ok, Except.ok.injEq, ih]
      constructor
      · rintro ⟨value, first, others, more, rfl⟩
        exact ⟨value, others, first, more, rfl⟩
      · rintro ⟨value, others, first, more, rfl⟩
        exact ⟨value, first, others, more, rfl⟩

theorem readable_of_mapM_eq_ok (each : items.mapM read = .ok values) :
    ∀ item ∈ items, ∃ value, read item = .ok value :=
  related_of_mem (mapM_eq_ok_iff.mp each)

/-- The first item that is not read tells why the list is not. -/
theorem mapM_eq_error_iff : items.mapM read = .error fault ↔
    ∃ front bad back, items = front ++ bad :: back ∧
      (∀ item ∈ front, ∃ value, read item = .ok value) ∧ read bad = .error fault := by
  induction items with
  | nil =>
      refine iff_of_false nofun ?_
      rintro ⟨front, bad, back, split, -⟩
      cases front <;> cases split
  | cons item rest ih =>
      rw [List.mapM_cons]
      cases first : read item with
      | error other =>
          rw [error_bind, Except.error.injEq]
          constructor
          · rintro rfl
            exact ⟨[], item, rest, rfl, nofun, first⟩
          · rintro ⟨front, bad, back, split, readable, refused⟩
            cases front with
            | nil =>
                obtain ⟨rfl, -⟩ := List.cons.inj split
                exact Except.error.inj (first.symm.trans refused)
            | cons head more =>
                obtain ⟨rfl, -⟩ := List.cons.inj split
                obtain ⟨value, found⟩ := readable item List.mem_cons_self
                cases first.symm.trans found
      | ok value =>
          have later : (Except.ok value >>= fun value => rest.mapM read >>= fun others =>
              pure (value :: others)) = Except.error fault ↔ rest.mapM read = .error fault := by
            rw [ok_bind]
            cases rest.mapM read <;> simp
          rw [later, ih]
          constructor
          · rintro ⟨front, bad, back, rfl, readable, refused⟩
            refine ⟨item :: front, bad, back, rfl, ?_, refused⟩
            exact List.forall_mem_cons.mpr ⟨⟨value, first⟩, readable⟩
          · rintro ⟨front, bad, back, split, readable, refused⟩
            cases front with
            | nil =>
                obtain ⟨rfl, -⟩ := List.cons.inj split
                cases first.symm.trans refused
            | cons head more =>
                obtain ⟨rfl, rfl⟩ := List.cons.inj split
                exact ⟨more, bad, back, rfl, (List.forall_mem_cons.mp readable).2, refused⟩

end CardGateway
