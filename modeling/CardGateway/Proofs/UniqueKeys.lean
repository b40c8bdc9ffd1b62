import Mathlib.Data.List.Nodup
import Mathlib.Data.Option.Basic
import CardGateway.Toml.Document

/-!
# Each key of a document stands once

Whatever a line of a document does to the tables below, at the top it puts one value. So no key comes
to stand twice there.
-/

namespace CardGateway.Toml

namespace Entries

variable {entries changed : Entries} {key : String} {value : Value} {path : List String}
  {change : Entries → Option Entries}

def Extends (entries changed : Entries) : Prop := ∃ key value, changed = entries.put key value

theorem mem_keys_put {name : String} (member : name ∈ (entries.put key value).map Prod.fst) :
    name = key ∨ name ∈ entries.map Prod.fst := by
  induction entries with
  | nil => simpa [put] using member
  | cons entry rest ih =>
      unfold put at member
      split at member
      · exact .inr member
      · rcases List.mem_cons.mp member with rfl | later
        · exact .inr List.mem_cons_self
        · exact (ih later).imp_right (List.mem_cons_of_mem _)

theorem nodup_put (once : (entries.map Prod.fst).Nodup) :
    ((entries.put key value).map Prod.fst).Nodup := by
  induction entries with
  | nil => exact List.nodup_singleton key
  | cons entry rest ih =>
      obtain ⟨fresh, later⟩ := List.nodup_cons.mp once
      unfold put
      split
      · exact once
      · next other =>
          refine List.nodup_cons.mpr ⟨fun member => ?_, ih later⟩
          rcases mem_keys_put member with same | old
          · exact other same
          · exact fresh old

theorem Extends.nodup (extended : Extends entries changed)
    (once : (entries.map Prod.fst).Nodup) : (changed.map Prod.fst).Nodup := by
  obtain ⟨key, value, rfl⟩ := extended
  exact nodup_put once

/-- What is put may depend on something that has to be found first. -/
theorem extends_of_bind {α : Type} {found : Option α} {build : α → Value}
    (done : (found >>= fun inner => pure (entries.put key (build inner))) = some changed) :
    Extends entries changed := by
  obtain ⟨inner, -, same⟩ := Option.bind_eq_some_iff.mp done
  exact ⟨key, build inner, (Option.some.inj same).symm⟩

theorem extends_putDotted (done : putDotted value path entries = some changed) :
    Extends entries changed := by
  unfold putDotted at done
  split at done
  · cases done
  · split at done
    · cases done
    · exact ⟨_, _, (Option.some.inj done).symm⟩
  · split at done
    · exact extends_of_bind done
    · exact extends_of_bind done
    · obtain ⟨-, -, rest⟩ := Option.bind_eq_some_iff.mp done
      exact extends_of_bind rest
    · cases done

theorem extends_openTable (done : openTable key entries = some changed) :
    Extends entries changed := by
  unfold openTable at done
  split at done
  · exact ⟨_, _, (Option.some.inj done).symm⟩
  · exact ⟨_, _, (Option.some.inj done).symm⟩
  · cases done

theorem extends_openItem (done : openItem key entries = some changed) :
    Extends entries changed := by
  unfold openItem at done
  split at done
  · exact ⟨_, _, (Option.some.inj done).symm⟩
  · exact ⟨_, _, (Option.some.inj done).symm⟩
  · cases done

/-- A change at the top puts one value, and so does a change further down. -/
theorem extends_alter (top : ∀ changed, change entries = some changed → Extends entries changed)
    (done : alter change path entries = some changed) : Extends entries changed := by
  unfold alter at done
  split at done
  · exact top changed done
  · split at done
    · exact extends_of_bind done
    · cases done
    · exact extends_of_bind done
    · split at done
      · exact extends_of_bind done
      · cases done
    · cases done

end Entries

namespace Draft

open Entries (Extends)

variable {draft next last : Draft} {path : List String} {value : Value} {text rest : List Char}
  {steps : Nat}

theorem extends_of_alter {change : Entries → Option Entries} {header : List String}
    (top : ∀ changed, change draft.root = some changed → Extends draft.root changed)
    (done : (draft.root.alter change path >>= fun root => pure ⟨root, header⟩) = some next) :
    Extends draft.root next.root := by
  obtain ⟨root, altered, same⟩ := Option.bind_eq_some_iff.mp done
  obtain rfl := Option.some.inj same
  exact Entries.extends_alter top altered

theorem extends_openTable (done : draft.openTable path = some next) :
    Extends draft.root next.root := by
  obtain ⟨key, -, opened⟩ := Option.bind_eq_some_iff.mp done
  exact extends_of_alter (fun _ => Entries.extends_openTable) opened

theorem extends_openItem (done : draft.openItem path = some next) :
    Extends draft.root next.root := by
  obtain ⟨key, -, opened⟩ := Option.bind_eq_some_iff.mp done
  exact extends_of_alter (fun _ => Entries.extends_openItem) opened

theorem extends_put (done : draft.put path value = some next) : Extends draft.root next.root :=
  extends_of_alter (fun _ => Entries.extends_putDotted) done

theorem extends_of_ended {does : Option Draft} {behind : List Char}
    (each : ∀ next, does = some next → Extends draft.root next.root)
    (done : (does >>= fun next => endOfLine? behind >>= fun rest => pure (next, rest)) =
      some (next, rest)) : Extends draft.root next.root := by
  obtain ⟨own, did, ended⟩ := Option.bind_eq_some_iff.mp done
  obtain ⟨left, -, same⟩ := Option.bind_eq_some_iff.mp ended
  obtain ⟨rfl, -⟩ := Prod.mk.inj (Option.some.inj same)
  exact each own did

/-- A line puts one value at the top. -/
theorem extends_line (done : draft.line? text = some (next, rest)) :
    Extends draft.root next.root := by
  unfold line? at done
  split at done
  · obtain ⟨⟨path, behind⟩, -, done⟩ := Option.bind_eq_some_iff.mp done
    dsimp only at done
    split at done
    · exact extends_of_ended (fun _ => extends_openItem) done
    · cases done
  · obtain ⟨⟨path, behind⟩, -, done⟩ := Option.bind_eq_some_iff.mp done
    dsimp only at done
    split at done
    · exact extends_of_ended (fun _ => extends_openTable) done
    · cases done
  · obtain ⟨⟨key, behind⟩, -, done⟩ := Option.bind_eq_some_iff.mp done
    dsimp only at done
    split at done
    · obtain ⟨⟨value, behind⟩, -, done⟩ := Option.bind_eq_some_iff.mp done
      exact extends_of_ended (fun _ => extends_put) done
    · cases done

theorem nodup_lines (once : (draft.root.map Prod.fst).Nodup)
    (done : lines? steps draft text = some last) : (last.root.map Prod.fst).Nodup := by
  induction steps generalizing draft text with
  | zero => cases done
  | succ steps ih =>
      unfold lines? at done
      split at done
      · obtain rfl := Option.some.inj done
        exact once
      · obtain ⟨⟨next, rest⟩, line, done⟩ := Option.bind_eq_some_iff.mp done
        exact ih ((extends_line line).nodup once) done

end Draft

/-- No key stands twice at the top of a document. -/
theorem nodup_of_parse {text : String} {entries : Entries} (parsed : parse? text = some entries) :
    (entries.map Prod.fst).Nodup := by
  obtain ⟨draft, done, rfl⟩ := Option.map_eq_some_iff.mp parsed
  have empty : ((Draft.mk [] []).root.map Prod.fst).Nodup := List.nodup_nil
  exact Draft.nodup_lines empty done

end CardGateway.Toml
