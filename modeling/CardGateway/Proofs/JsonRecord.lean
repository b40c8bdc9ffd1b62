import CardGateway.Proofs.ItemByItem
import CardGateway.Proofs.JsonDocument
import CardGateway.Proofs.JsonMembers

/-!
# Records that are read as they were written

A codec is faithful for the values with some property if what it writes for such a value is read as
that value, and if it reads no others. The codecs of the kinds of fields are, and so is that of a
record whose fields are.
-/

namespace CardGateway.Json

variable {α : Type} {P : α → Prop}

theorem mismatch_ne_ok {node : Node} {expected : String} {value : α} :
    (node.mismatch expected : Except Fault α) ≠ .ok value := by
  intro read
  obtain ⟨found, -, thrown⟩ := bind_eq_ok_iff.mp read
  cases thrown

structure Codec.Faithful (codec : Codec α) (P : α → Prop) : Prop where
  read_write : ∀ {value}, P value → codec.read (codec.write value).node = .ok value
  of_read : ∀ {node value}, codec.read node = .ok value → P value
  /-- Null is left to stand for nothing. -/
  solid : ∀ value, codec.write value ≠ .null

/-- A field that is left out reads as its default. -/
structure Field.Faithful (field : Field α) (P : α → Prop) : Prop where
  read_write : ∀ {value written}, P value → field.write value = some written →
    field.read written.node = .ok value
  absent_write : ∀ {value}, P value → field.write value = none → field.absent = some value
  of_read : ∀ {node value}, field.read node = .ok value → P value
  of_absent : ∀ {value}, field.absent = some value → P value

theorem Field.Faithful.of_holds {field : Field α} (faithful : field.Faithful P) {values : List Node}
    {value : α} (holds : field.Holds values value) : P value := by
  cases holds with
  | absent default => exact faithful.of_absent default
  | given read => exact faithful.of_read read

theorem node_ne_null {value : Value} (solid : value ≠ .null) : value.node ≠ .null := by
  cases value with
  | null => exact absurd rfl solid
  | _ => simp [Value.node]

namespace Codec

variable {codec : Codec α}

theorem text_faithful : text.Faithful fun _ => True where
  read_write _ := readText_rawText _
  of_read _ := trivial
  solid _ := by simp [text]

theorem flag_faithful : flag.Faithful fun _ => True where
  read_write _ := rfl
  of_read _ := trivial
  solid _ := by simp [flag]

theorem texted_faithful {parse : String → Except Fault α} {print : α → String}
    (read : ∀ {value}, P value → parse (print value) = .ok value)
    (sound : ∀ {text value}, parse text = .ok value → P value) :
    (texted parse print).Faithful P where
  read_write {value} holds := by
    have whole : text.read (text.write (print value)).node = .ok (print value) :=
      text_faithful.read_write trivial
    show text.read (text.write (print value)).node >>= parse = .ok value
    rw [whole, ok_bind, read holds]
  of_read {node value} done := by
    obtain ⟨text, -, parsed⟩ := bind_eq_ok_iff.mp done
    exact sound parsed
  solid _ := by simp [texted]

namespace Faithful

theorem readItems_write (faithful : codec.Faithful P) {values : List α}
    (holds : ∀ value ∈ values, P value) :
    readItems codec.read (Value.itemNodes (values.map codec.write)) = .ok values := by
  induction values with
  | nil => rfl
  | cons first rest ih =>
      have others := ih fun value member => holds value (List.mem_cons_of_mem _ member)
      rw [List.map_cons, Value.itemNodes, readItems, faithful.read_write (holds first (by simp)),
        ok_bind, others]
      rfl

theorem of_readItems (faithful : codec.Faithful P) {items : Items} {values : List α}
    (read : readItems codec.read items = .ok values) : ∀ value ∈ values, P value := by
  induction items using readItems.induct generalizing values with
  | case1 s =>
      obtain ⟨-, -, same⟩ := bind_eq_ok_iff.mp read
      obtain rfl := Except.ok.inj same
      simp
  | case2 first rest ih =>
      obtain ⟨value, one, more⟩ := bind_eq_ok_iff.mp read
      obtain ⟨others, rest, same⟩ := bind_eq_ok_iff.mp more
      obtain rfl := Except.ok.inj same
      intro other member
      rcases List.mem_cons.mp member with rfl | later
      · exact faithful.of_read one
      · exact ih rest other later

theorem list (faithful : codec.Faithful P) :
    codec.list.Faithful fun values => ∀ value ∈ values, P value where
  read_write holds := faithful.readItems_write holds
  of_read {node values} read := by
    unfold Codec.list at read
    dsimp only at read
    split at read
    · exact faithful.of_readItems read
    · exact absurd read mismatch_ne_ok
  solid _ := by simp [Codec.list]

theorem textedList {parse : String → Except Fault α} {print : α → String}
    (read : ∀ {value}, P value → parse (print value) = .ok value)
    (sound : ∀ {text value}, parse text = .ok value → P value) :
    (textedList parse print).Faithful fun values => ∀ value ∈ values, P value where
  read_write {values} holds := by
    have whole : text.list.read (text.list.write (values.map print)).node = .ok (values.map print) :=
      text_faithful.list.read_write fun _ _ => trivial
    show text.list.read (text.list.write (values.map print)).node >>= (·.mapM parse) = .ok values
    rw [whole, ok_bind, mapM_eq_ok_iff, List.forall₂_map_left_iff, List.forall₂_same]
    exact fun value member => read (holds value member)
  of_read {node values} done := by
    obtain ⟨texts, -, parsed⟩ := bind_eq_ok_iff.mp done
    rw [mapM_eq_ok_iff] at parsed
    clear done
    induction parsed with
    | nil => nofun
    | cons first _ later => exact List.forall_mem_cons.mpr ⟨sound first, later⟩
  solid _ := by simp [Codec.textedList, Codec.list]

theorem read_optional {node : Node} (present : node ≠ .null) :
    codec.optional.read node = (codec.read node).map .some := by
  cases node with
  | null => exact absurd rfl present
  | _ => unfold Codec.optional; dsimp only; cases codec.read _ <;> rfl

theorem optional_read_write (faithful : codec.Faithful P) {value : Option α}
    (holds : ∀ v ∈ value, P v) :
    codec.optional.read (codec.optional.write value).node = .ok value := by
  cases value with
  | none => rfl
  | some v =>
      show codec.optional.read (codec.write v).node = .ok (some v)
      rw [read_optional (node_ne_null (faithful.solid v)), faithful.read_write (holds v rfl)]
      rfl

theorem of_read_optional (faithful : codec.Faithful P) {node : Node} {value : Option α}
    (read : codec.optional.read node = .ok value) : ∀ v ∈ value, P v := by
  by_cases null : node = .null
  · subst null
    obtain rfl := Except.ok.inj read
    rintro v ⟨⟩
  · rw [read_optional null] at read
    cases found : codec.read node with
    | error fault =>
        rw [found] at read
        cases read
    | ok v =>
        rw [found] at read
        obtain rfl := Except.ok.inj read
        rintro w ⟨⟩
        exact faithful.of_read found

end Faithful

end Codec

namespace Field

variable {codec : Codec α} (name : String)

@[simp]
theorem optional_name : (optional name codec).name = name := rfl

theorem required_faithful (faithful : codec.Faithful P) : (required name codec).Faithful P where
  read_write holds wrote := by
    obtain rfl := Option.some.inj wrote
    exact faithful.read_write holds
  absent_write _ wrote := by cases wrote
  of_read read := faithful.of_read read
  of_absent absent := by cases absent

theorem nullable_faithful (faithful : codec.Faithful P) :
    (nullable name codec).Faithful fun value => ∀ v ∈ value, P v where
  read_write holds wrote := by
    obtain rfl := Option.some.inj wrote
    exact faithful.optional_read_write holds
  absent_write _ wrote := by cases wrote
  of_read read := faithful.of_read_optional read
  of_absent absent := by
    obtain rfl := Option.some.inj absent
    rintro v ⟨⟩

theorem optional_faithful (faithful : codec.Faithful P) :
    (optional name codec).Faithful fun value => ∀ v ∈ value, P v where
  read_write {value written} holds wrote := by
    obtain ⟨v, rfl, rfl⟩ := Option.map_eq_some_iff.mp wrote
    have back : codec.optional.read (codec.write v).node = .ok (some v) :=
      faithful.optional_read_write holds
    exact back
  absent_write {value} _ wrote := by
    obtain rfl := Option.map_eq_none_iff.mp wrote
    rfl
  of_read read := faithful.of_read_optional read
  of_absent absent := by
    obtain rfl := Option.some.inj absent
    rintro v ⟨⟩

theorem list_faithful (faithful : codec.Faithful P) :
    (list name codec).Faithful fun values => ∀ v ∈ values, P v where
  read_write holds wrote := by
    obtain rfl := Option.some.inj wrote
    exact faithful.list.read_write holds
  absent_write _ wrote := by cases wrote
  of_read read := faithful.list.of_read read
  of_absent absent := by
    obtain rfl := Option.some.inj absent
    rintro v ⟨⟩

theorem sparseList_faithful (faithful : codec.Faithful P) :
    (sparseList name codec).Faithful fun values => ∀ v ∈ values, P v where
  read_write {values written} holds wrote := by
    cases values with
    | nil => cases wrote
    | cons first rest =>
        obtain rfl := Option.some.inj wrote
        exact faithful.list.read_write holds
  absent_write {values} _ wrote := by
    cases values with
    | nil => rfl
    | cons first rest => cases wrote
  of_read read := faithful.list.of_read read
  of_absent absent := by
    obtain rfl := Option.some.inj absent
    rintro v ⟨⟩

theorem nullableList_faithful {codec : Codec (List α)} {Q : List α → Prop} (empty : Q [])
    (faithful : codec.Faithful Q) : (nullableList name codec).Faithful Q where
  read_write {values written} holds wrote := by
    obtain rfl := Option.some.inj wrote
    have kept : ∀ found ∈ some values, Q found := by
      rintro _ ⟨⟩
      exact holds
    have whole : codec.optional.read (codec.write values).node = .ok (some values) :=
      faithful.optional_read_write kept
    show codec.optional.read (codec.write values).node >>= _ = .ok values
    rw [whole]
    rfl
  absent_write _ wrote := by cases wrote
  of_read {node values} read := by
    obtain ⟨found, whole, same⟩ := bind_eq_ok_iff.mp read
    obtain rfl := Except.ok.inj same
    cases found with
    | none => exact empty
    | some values => exact faithful.of_read_optional whole values rfl
  of_absent absent := by
    obtain rfl := Option.some.inj absent
    exact empty

end Field

namespace Fields

/-- The fields of a record are faithful and have names of their own. `Q` is what holds of the row of
their values. -/
inductive Faithful : {ρ δ : Type} → Fields ρ δ → (ρ → Prop) → Prop where
  | nil : Faithful .nil fun _ => True
  | cons {α ρ δ : Type} {field : Field α} {rest : Fields ρ δ} {P : α → Prop} {Q : ρ → Prop}
      (first : field.Faithful P) (fresh : field.name ∉ rest.names) (others : Faithful rest Q) :
      Faithful (.cons field rest) fun row => P row.1 ∧ Q row.2

/-- The members that are written for a row. -/
def written {ρ δ : Type} (fields : Fields ρ δ) (row : ρ) : List (Bytes × Node) :=
  (fields.write row).map fun member => (rawText member.1, member.2.node)

variable {ρ δ : Type} {fields : Fields ρ δ} {Q : ρ → Prop}

theorem name_mem_names {row : ρ} {name : String} {value : Value}
    (member : (name, value) ∈ fields.write row) : name ∈ fields.names := by
  induction fields with
  | nil => cases member
  | cons field rest ih =>
      obtain ⟨first, values⟩ := row
      rw [names]
      rw [write] at member
      split at member
      · rcases List.mem_cons.mp member with same | later
        · rw [(Prod.mk.inj same).1]
          exact List.mem_cons_self
        · exact List.mem_cons_of_mem _ (ih later)
      · exact List.mem_cons_of_mem _ (ih member)

theorem passes_written (row : ρ) : ∀ member ∈ fields.written row, Passes fields.names member := by
  intro member mem
  obtain ⟨⟨name, value⟩, wrote, rfl⟩ := List.mem_map.mp mem
  exact ⟨name, readText_rawText name, .inl (name_mem_names wrote)⟩

/-- Nothing is written under other names. -/
theorem valuesOf_written {name : String} (unknown : name ∉ fields.names) (row : ρ) :
    valuesOf name (fields.written row) = [] := by
  rw [List.eq_nil_iff_forall_not_mem]
  intro value mem
  obtain ⟨key, mem, text⟩ := mem_valuesOf_iff.mp mem
  obtain ⟨⟨other, value⟩, wrote, same⟩ := List.mem_map.mp mem
  obtain ⟨rfl, -⟩ := Prod.mk.inj same
  rw [readText_rawText] at text
  exact unknown (Except.ok.inj text ▸ name_mem_names wrote)

namespace Faithful

variable (faithful : fields.Faithful Q)

include faithful

theorem distinct : fields.names.Nodup := by
  induction faithful with
  | nil => exact List.nodup_nil
  | cons first fresh others ih => exact List.nodup_cons.mpr ⟨fresh, ih⟩

/-- The fields get back the values that were written. -/
theorem holds_written {row : ρ} (holds : Q row) :
    fields.Holds (fun name => valuesOf name (fields.written row)) row := by
  induction faithful with
  | nil => trivial
  | @cons α ρ δ field rest P Q first fresh others ih =>
      obtain ⟨value, values⟩ := row
      have later := ih holds.2
      cases wrote : field.write value with
      | none =>
          have same : (Fields.cons field rest).written (value, values) = rest.written values := by
            simp only [written, write, wrote]
          rw [same]
          refine ⟨?_, later⟩
          dsimp only
          rw [valuesOf_written fresh]
          exact .absent (first.absent_write holds.1 wrote)
      | some text =>
          have same : (Fields.cons field rest).written (value, values) =
              (rawText field.name, text.node) :: rest.written values := by
            simp only [written, write, wrote, List.map_cons]
          have own : readText (rawText field.name) = .ok field.name := readText_rawText _
          rw [same]
          refine ⟨?_, (holds_congr fun other known => (valuesOf_cons_neg ?_).symm).mp later⟩
          · dsimp only
            rw [valuesOf_cons_pos own, valuesOf_written fresh]
            exact .given (first.read_write holds.1 wrote)
          · rw [own]
            rintro ⟨⟩
            exact fresh known

theorem of_holds {values : String → List Node} {row : ρ} (holds : fields.Holds values row) : Q row := by
  induction faithful with
  | nil => trivial
  | cons first fresh others ih =>
      exact ⟨first.of_holds holds.1, ih holds.2⟩

theorem of_defaults {expected : String} {index : Nat} {row : ρ}
    (read : fields.defaults expected index = .ok row) : Q row := by
  induction faithful generalizing index with
  | nil => trivial
  | @cons α ρ δ field rest P Q first fresh others ih =>
      rw [defaults] at read
      split at read
      · next value found =>
          obtain ⟨values, later, same⟩ := bind_eq_ok_iff.mp read
          obtain rfl := Except.ok.inj same
          refine ⟨first.of_absent ?_, ih later⟩
          split at found
          · exact found
          · cases found
      · cases read

theorem of_fromItems {expected : String} {index : Nat} {items : Items} {row : ρ}
    (read : fields.fromItems expected index items = .ok row) : Q row := by
  induction faithful generalizing index items with
  | nil => trivial
  | @cons α ρ δ field rest P Q first fresh others ih =>
      cases items with
      | stop s =>
          obtain ⟨-, -, defaults⟩ := bind_eq_ok_iff.mp read
          exact (Faithful.cons first fresh others).of_defaults defaults
      | item node items =>
          obtain ⟨value, one, more⟩ := bind_eq_ok_iff.mp read
          obtain ⟨values, later, same⟩ := bind_eq_ok_iff.mp more
          obtain rfl := Except.ok.inj same
          exact ⟨first.of_read one, ih later⟩

theorem of_read {name : String} {node : Node} {row : ρ} (read : fields.read name node = .ok row) :
    Q row := by
  cases node with
  | record members =>
      obtain ⟨draft, met, -⟩ := bind_eq_ok_iff.mp read
      obtain ⟨members, rfl⟩ := exists_closed met
      exact faithful.of_holds ((read_record_eq_ok_iff faithful.distinct).mp read).2
  | list items => exact faithful.of_fromItems read
  | _ => exact absurd read mismatch_ne_ok

/-- The codec of a structure that has the fields' values, its property being that of the row. -/
theorem codec {name : String} {build : ρ → α} {row : α → ρ} (whole : ∀ value, build (row value) = value)
    (holds : ∀ {value}, P value → Q (row value)) (kept : ∀ {values}, Q values → P (build values)) :
    (fields.codec name build row).Faithful P where
  read_write {value} proper := by
    have found : fields.read name (.record (.closed (fields.written (row value)))) = .ok (row value) :=
      (read_record_eq_ok_iff faithful.distinct).mpr
        ⟨passes_written _, faithful.holds_written (holds proper)⟩
    simp only [Fields.codec, Value.node, Value.memberNodes_eq_closed]
    rw [written] at found
    rw [found, ok_bind, whole]
    rfl
  of_read {node value} read := by
    obtain ⟨values, found, same⟩ := bind_eq_ok_iff.mp read
    obtain rfl := Except.ok.inj same
    exact kept (faithful.of_read found)
  solid _ := by simp [Fields.codec]

end Faithful

end Fields

namespace Codec.Faithful

variable {codec : Codec α}

theorem congr {P' : α → Prop} (faithful : codec.Faithful P) (same : ∀ value, P value ↔ P' value) :
    codec.Faithful P' :=
  funext (fun value => propext (same value)) ▸ faithful

/-- A written document is read as the value that it was written for. -/
theorem decode_encode (faithful : codec.Faithful P) {value : α} (holds : P value) :
    codec.decode (codec.encode value) = .ok value := by
  simp [decode, encode, Document.parse_toBytes, faithful.read_write holds]

theorem of_decode (faithful : codec.Faithful P) {body : Bytes} {value : α}
    (read : codec.decode body = .ok value) : P value := by
  obtain ⟨found, whole, same⟩ := bind_eq_ok_iff.mp read
  split at same
  · cases same
  · obtain rfl := Except.ok.inj same
    exact faithful.of_read whole

end Codec.Faithful

end CardGateway.Json
