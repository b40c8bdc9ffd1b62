import CardGateway.Proofs.JsonRecord

/-!
# Variations of a message

The records of a message may have members that it does not know, in any order, and may leave out
what is null. Reading a message is shown to be blind to that, from the fields up.
-/

namespace CardGateway.Json

inductive Layout where
  | list (item : Layout)
  /-- A record with these fields, and what is inside those that hold records themselves. -/
  | record (names : List String) (nested : List (String × Layout))

/-- One more member that is not known, another order, one null less, or any of these further
inside. -/
inductive Varies : Layout → Node → Node → Prop where
  | refl {layout : Layout} {node : Node} : Varies layout node node
  | trans {layout : Layout} {first second third : Node} (forth : Varies layout first second)
      (further : Varies layout second third) : Varies layout first third
  | insert {names : List String} {nested : List (String × Layout)} (before : List (Bytes × Node))
      {after : List (Bytes × Node)} {key : Bytes} {name : String} {value : Node} {text : Bytes}
      (named : readText key = .ok name) (unknown : name ∉ names)
      (json : Spelling (.node value) text) :
      Varies (.record names nested) (.record (.closed (before ++ after)))
        (.record (.closed (before ++ (key, value) :: after)))
  | permute {names : List String} {nested : List (String × Layout)}
      {members others : List (Bytes × Node)} (perm : members.Perm others) :
      Varies (.record names nested) (.record (.closed members)) (.record (.closed others))
  | drop {names : List String} {nested : List (String × Layout)} (before : List (Bytes × Node))
      {after : List (Bytes × Node)} {key : Bytes} :
      Varies (.record names nested) (.record (.closed (before ++ (key, .null) :: after)))
        (.record (.closed (before ++ after)))
  | within {names : List String} {nested : List (String × Layout)} {layout : Layout}
      (before : List (Bytes × Node)) {after : List (Bytes × Node)} {key : Bytes} {name : String}
      {value other : Node} (named : readText key = .ok name) (known : name ∈ names)
      (inner : (name, layout) ∈ nested) (varies : Varies layout value other) :
      Varies (.record names nested) (.record (.closed (before ++ (key, value) :: after)))
        (.record (.closed (before ++ (key, other) :: after)))
  | item {layout : Layout} (before : List Node) {after : List Node} {value other : Node}
      (varies : Varies layout value other) :
      Varies (.list layout) (.list (.closed (before ++ value :: after)))
        (.list (.closed (before ++ other :: after)))

theorem Varies.null_iff {layout : Layout} {node other : Node} (varies : Varies layout node other) :
    node = .null ↔ other = .null := by
  induction varies with
  | refl => exact Iff.rfl
  | trans _ _ first second => exact first.trans second
  | insert | permute | drop | within | item => exact ⟨nofun, nofun⟩

/-- What is read from a node is read from its variations. -/
def Tolerates {α : Type} (read : Node → Except Fault α) (layout : Layout) : Prop :=
  ∀ node other value, Varies layout node other → read node = .ok value → read other = .ok value

section Values

variable {α β : Type} {read : Node → Except Fault α} {layout : Layout}

theorem Tolerates.bind (tolerates : Tolerates read layout) (go : α → Except Fault β) :
    Tolerates (fun node => read node >>= go) layout := by
  intro node other value varies found
  obtain ⟨first, one, rest⟩ := bind_eq_ok_iff.mp found
  exact bind_eq_ok_iff.mpr ⟨first, tolerates node other first varies one, rest⟩

theorem Tolerates.optional {codec : Codec α} (tolerates : Tolerates codec.read layout) :
    Tolerates codec.optional.read layout := by
  intro node other value varies found
  by_cases null : node = .null
  · rw [varies.null_iff.mp null]
    rwa [null] at found
  · rw [Codec.Faithful.read_optional null] at found
    rw [Codec.Faithful.read_optional (mt varies.null_iff.mpr null)]
    cases one : codec.read node with
    | error fault => simp [one, Except.map] at found
    | ok first =>
        rw [one] at found
        rw [tolerates node other first varies one]
        exact found

theorem text_solid (value : String) : Codec.text.read .null ≠ .ok value :=
  mismatch_ne_ok

theorem texted_solid {parse : String → Except Fault α} {print : α → String} (value : α) :
    (Codec.texted parse print).read .null ≠ .ok value := by
  intro read
  obtain ⟨text, found, -⟩ := bind_eq_ok_iff.mp read
  exact text_solid text found

theorem readItems_change {before after : List Node} {value other : Node} {values : List α}
    (change : ∀ first, read value = .ok first → read other = .ok first)
    (found : Codec.readItems read (.closed (before ++ value :: after)) = .ok values) :
    Codec.readItems read (.closed (before ++ other :: after)) = .ok values := by
  induction before generalizing values with
  | nil =>
      obtain ⟨first, one, rest⟩ := bind_eq_ok_iff.mp found
      exact bind_eq_ok_iff.mpr ⟨first, change first one, rest⟩
  | cons node before ih =>
      obtain ⟨first, one, rest⟩ := bind_eq_ok_iff.mp found
      obtain ⟨others, later, same⟩ := bind_eq_ok_iff.mp rest
      exact bind_eq_ok_iff.mpr ⟨first, one, bind_eq_ok_iff.mpr ⟨others, ih later, same⟩⟩

theorem Tolerates.list {codec : Codec α} (tolerates : Tolerates codec.read layout) :
    Tolerates codec.list.read (.list layout) := by
  intro node other values varies found
  generalize whole : Layout.list layout = outer at varies
  induction varies with
  | refl => exact found
  | trans _ _ first second => exact second (first found whole) whole
  | insert | permute | drop | within => cases whole
  | item before varies =>
      cases whole
      exact readItems_change (fun first => tolerates _ _ first varies) found

end Values

namespace Field

variable {α : Type} {field : Field α} {value : α}

/-- Null is as good as nothing, if it is read at all. -/
def NullAsAbsent (field : Field α) : Prop :=
  ∀ value, field.read .null = .ok value → field.absent = some value

/-- Reading the field is blind to variations, with what is inside it laid out as `nested` says. -/
structure Tolerant (nested : List (String × Layout)) (field : Field α) : Prop where
  null : field.NullAsAbsent
  inner : ∀ layout, (field.name, layout) ∈ nested → Tolerates field.read layout

theorem Tolerant.leaf {nested : List (String × Layout)} (null : field.NullAsAbsent)
    (outside : field.name ∉ nested.map Prod.fst) : field.Tolerant nested where
  null := null
  inner _ inside := absurd (List.mem_map_of_mem inside) outside

theorem Tolerant.branch {nested : List (String × Layout)} {layout : Layout}
    (null : field.NullAsAbsent) (tolerates : Tolerates field.read layout)
    (only : ∀ other, (field.name, other) ∈ nested → other = layout) : field.Tolerant nested where
  null := null
  inner other inside := only other inside ▸ tolerates

section Kinds

variable (name : String) {codec : Codec α}

theorem required_nullAsAbsent (solid : ∀ value, codec.read .null ≠ .ok value) :
    (required name codec).NullAsAbsent :=
  fun value read => absurd read (solid value)

theorem nullable_nullAsAbsent : (nullable name codec).NullAsAbsent := by
  rintro value ⟨⟩
  rfl

theorem optional_nullAsAbsent : (optional name codec).NullAsAbsent := by
  rintro value ⟨⟩
  rfl

theorem list_nullAsAbsent : (list name codec).NullAsAbsent :=
  fun _ read => absurd read mismatch_ne_ok

theorem sparseList_nullAsAbsent : (sparseList name codec).NullAsAbsent :=
  fun _ read => absurd read mismatch_ne_ok

theorem nullableList_nullAsAbsent {codec : Codec (List α)} :
    (nullableList name codec).NullAsAbsent := by
  rintro value ⟨⟩
  rfl

end Kinds

theorem Holds.middle {before after : List Node} {node : Node}
    (holds : field.Holds (before ++ node :: after) value) :
    before = [] ∧ after = [] ∧ field.read node = .ok value := by
  generalize whole : before ++ node :: after = values at holds
  cases holds with
  | absent => simp at whole
  | given read =>
      obtain ⟨rfl, rfl, rfl⟩ : before = [] ∧ node = _ ∧ after = [] := by
        simpa [List.append_eq_cons_iff] using whole
      exact ⟨rfl, rfl, read⟩

theorem Holds.perm {values others : List Node} (perm : values.Perm others)
    (holds : field.Holds values value) : field.Holds others value := by
  cases holds with
  | absent default =>
      rw [perm.nil_eq.symm]
      exact .absent default
  | given read =>
      rw [List.perm_singleton.mp perm.symm]
      exact .given read

end Field

namespace Fields

variable {ρ δ : Type}

/-- All fields are blind to variations. -/
inductive Tolerant (nested : List (String × Layout)) : {ρ δ : Type} → Fields ρ δ → Prop where
  | nil : Tolerant nested .nil
  | cons {α ρ δ : Type} {field : Field α} {rest : Fields ρ δ} (first : field.Tolerant nested)
      (others : Tolerant nested rest) : Tolerant nested (.cons field rest)

theorem Holds.change {fields : Fields ρ δ} {nested : List (String × Layout)}
    (tolerant : fields.Tolerant nested) {values others : String → List Node} {row : ρ}
    (change : ∀ {α : Type} (field : Field α) (value : α), field.Tolerant nested →
      field.Holds (values field.name) value → field.Holds (others field.name) value)
    (holds : fields.Holds values row) : fields.Holds others row := by
  induction tolerant with
  | nil => trivial
  | cons first _ ih => exact ⟨change _ row.1 first holds.1, ih holds.2⟩

section Record

variable {fields : Fields ρ δ} {nested : List (String × Layout)} {before after : List (Bytes × Node)}
  {key : Bytes} {row : ρ}

/-- A member that no field knows is passed over. -/
theorem Holds.insert {name : String} {value : Node} (named : readText key = .ok name)
    (unknown : name ∉ fields.names)
    (holds : fields.Holds (fun name => valuesOf name (before ++ after)) row) :
    fields.Holds (fun name => valuesOf name (before ++ (key, value) :: after)) row := by
  refine (holds_congr fun other known => ?_).mp holds
  refine (valuesOf_middle_neg ?_).symm
  rw [named]
  rintro ⟨⟩
  exact unknown known

theorem Holds.permute (tolerant : fields.Tolerant nested) {members others : List (Bytes × Node)}
    (perm : members.Perm others) (holds : fields.Holds (fun name => valuesOf name members) row) :
    fields.Holds (fun name => valuesOf name others) row := by
  refine holds.change tolerant fun field value _ held => ?_
  have same : (valuesOf field.name members).Perm (valuesOf field.name others) := valuesOf_perm perm
  exact held.perm same

theorem Holds.drop (tolerant : fields.Tolerant nested)
    (holds : fields.Holds (fun name => valuesOf name (before ++ (key, .null) :: after)) row) :
    fields.Holds (fun name => valuesOf name (before ++ after)) row := by
  refine holds.change tolerant fun field value own held => ?_
  by_cases named : readText key = .ok field.name
  · rw [valuesOf_middle_pos named] at held
    obtain ⟨front, back, read⟩ := held.middle
    rw [valuesOf_append, front, back]
    exact .absent (own.null value read)
  · rwa [valuesOf_middle_neg named] at held

theorem Holds.within (tolerant : fields.Tolerant nested) {name : String} {layout : Layout}
    {value other : Node} (named : readText key = .ok name) (inner : (name, layout) ∈ nested)
    (varies : Varies layout value other)
    (holds : fields.Holds (fun name => valuesOf name (before ++ (key, value) :: after)) row) :
    fields.Holds (fun name => valuesOf name (before ++ (key, other) :: after)) row := by
  refine holds.change tolerant fun field found own held => ?_
  by_cases same : readText key = .ok field.name
  · obtain rfl := Except.ok.inj (named.symm.trans same)
    rw [valuesOf_middle_pos same] at held ⊢
    obtain ⟨front, back, read⟩ := held.middle
    rw [front, back]
    exact .given (own.inner layout inner value other found varies read)
  · rw [valuesOf_middle_neg same] at held ⊢
    exact held

theorem forall_middle {α : Type} {P : α → Prop} {before after : List α} {one : α} :
    (∀ x ∈ before ++ one :: after, P x) ↔ P one ∧ ∀ x ∈ before ++ after, P x := by
  simp only [List.forall_mem_append, List.forall_mem_cons]
  exact and_left_comm

/-- A record whose fields are blind to variations is blind to its own. -/
theorem tolerates (distinct : fields.names.Nodup) (tolerant : fields.Tolerant nested)
    (name : String) : Tolerates (fields.read name) (.record fields.names nested) := by
  intro node other row varies found
  generalize whole : Layout.record fields.names nested = layout at varies
  induction varies with
  | refl => exact found
  | trans _ _ first second => exact second (first found whole) whole
  | insert before named unknown json =>
      cases whole
      obtain ⟨pass, holds⟩ := (read_record_eq_ok_iff distinct).mp found
      refine (read_record_eq_ok_iff distinct).mpr ⟨?_, holds.insert named unknown⟩
      exact forall_middle.mpr ⟨⟨_, named, .inr json.skip_eq⟩, pass⟩
  | permute perm =>
      cases whole
      obtain ⟨pass, holds⟩ := (read_record_eq_ok_iff distinct).mp found
      exact (read_record_eq_ok_iff distinct).mpr
        ⟨fun member mem => pass member (perm.mem_iff.mpr mem), holds.permute tolerant perm⟩
  | drop =>
      cases whole
      obtain ⟨pass, holds⟩ := (read_record_eq_ok_iff distinct).mp found
      exact (read_record_eq_ok_iff distinct).mpr ⟨(forall_middle.mp pass).2, holds.drop tolerant⟩
  | within before named known inner varies =>
      cases whole
      obtain ⟨pass, holds⟩ := (read_record_eq_ok_iff distinct).mp found
      refine (read_record_eq_ok_iff distinct).mpr ⟨?_, holds.within tolerant named inner varies⟩
      exact forall_middle.mpr ⟨⟨_, named, .inl known⟩, (forall_middle.mp pass).2⟩
  | item => cases whole

theorem Tolerant.codec {α : Type} (tolerant : fields.Tolerant nested)
    (distinct : fields.names.Nodup) {name : String} {build : ρ → α} {write : α → ρ} :
    Tolerates (fields.codec name build write).read (.record fields.names nested) :=
  (fields.tolerates distinct tolerant name).bind fun row => .ok (build row)

end Record

end Fields

end CardGateway.Json
