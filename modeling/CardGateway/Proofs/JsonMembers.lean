import CardGateway.Proofs.JsonGrammar

/-!
# What a record is read from

A record is read from the values that its members give to each of its names, whatever the order of
the members and whatever else stands among them.
-/

namespace CardGateway.Json

def isNamed (name : String) (member : Bytes × Node) : Bool :=
  (readText member.1).toOption == some name

/-- The values of the members with a name, in their order. -/
def valuesOf (name : String) (members : List (Bytes × Node)) : List Node :=
  (members.filter (isNamed name)).map Prod.snd

theorem isNamed_iff {name : String} {member : Bytes × Node} :
    isNamed name member = true ↔ readText member.1 = .ok name := by
  rw [isNamed, beq_iff_eq]
  cases readText member.1 <;> simp [Except.toOption]

section Values

variable {name : String} {member : Bytes × Node} {members : List (Bytes × Node)}

theorem valuesOf_cons_pos (named : readText member.1 = .ok name) :
    valuesOf name (member :: members) = member.2 :: valuesOf name members := by
  rw [valuesOf, List.filter_cons_of_pos (isNamed_iff.mpr named)]
  rfl

theorem valuesOf_cons_neg (unnamed : readText member.1 ≠ .ok name) :
    valuesOf name (member :: members) = valuesOf name members := by
  rw [valuesOf, List.filter_cons_of_neg fun named => unnamed (isNamed_iff.mp named)]
  rfl

theorem valuesOf_append (others : List (Bytes × Node)) :
    valuesOf name (members ++ others) = valuesOf name members ++ valuesOf name others := by
  simp only [valuesOf, List.filter_append, List.map_append]

section Middle

variable {before after : List (Bytes × Node)} {key : Bytes} {value : Node}

theorem valuesOf_middle_pos (named : readText key = .ok name) :
    valuesOf name (before ++ (key, value) :: after) =
      valuesOf name before ++ value :: valuesOf name after := by
  rw [valuesOf_append, valuesOf_cons_pos named]

theorem valuesOf_middle_neg (unnamed : readText key ≠ .ok name) :
    valuesOf name (before ++ (key, value) :: after) = valuesOf name (before ++ after) := by
  rw [valuesOf_append, valuesOf_cons_neg unnamed, valuesOf_append]

end Middle

theorem valuesOf_perm {others : List (Bytes × Node)} (perm : members.Perm others) :
    (valuesOf name members).Perm (valuesOf name others) :=
  (perm.filter _).map _

theorem mem_valuesOf_iff {value : Node} :
    value ∈ valuesOf name members ↔ ∃ key, (key, value) ∈ members ∧ readText key = .ok name := by
  simp only [valuesOf, List.mem_map, List.mem_filter, isNamed_iff, Prod.exists, exists_eq_right]

/-- The members with other names keep what they give to those. -/
theorem valuesOf_others {other : String} (apart : other ≠ name) :
    valuesOf other (members.filter fun member => !isNamed name member) = valuesOf other members := by
  rw [valuesOf, valuesOf, List.filter_filter]
  congr 1
  refine List.filter_congr fun member _ => ?_
  cases named : isNamed other member with
  | false => rfl
  | true =>
      have second : isNamed name member = false := by
        rw [Bool.eq_false_iff]
        intro both
        have same := (isNamed_iff.mp named).symm.trans (isNamed_iff.mp both)
        exact apart (Except.ok.inj same)
      rw [second]
      rfl

end Values

/-- A member can stand in a record: its name is a text, and what a field does not read is JSON. -/
def Passes (names : List String) (member : Bytes × Node) : Prop :=
  ∃ name, readText member.1 = .ok name ∧ (name ∈ names ∨ member.2.skip = .ok ())

/-- A member that a field reads can stand anywhere. -/
theorem passes_cons_iff {name : String} {names : List String} {members : List (Bytes × Node)} :
    (∀ member ∈ members, Passes (name :: names) member) ↔
      ∀ member ∈ members.filter fun member => !isNamed name member, Passes names member := by
  constructor
  · intro pass member mem
    obtain ⟨mem, other⟩ := List.mem_filter.mp mem
    obtain ⟨own, text, known | skipped⟩ := pass member mem
    · rcases List.mem_cons.mp known with rfl | later
      · simp [isNamed_iff.mpr text] at other
      · exact ⟨own, text, .inl later⟩
    · exact ⟨own, text, .inr skipped⟩
  · intro pass member mem
    cases named : isNamed name member with
    | true => exact ⟨name, isNamed_iff.mp named, .inl List.mem_cons_self⟩
    | false =>
        obtain ⟨own, text, known⟩ := pass member (List.mem_filter.mpr ⟨mem, by rw [named]; rfl⟩)
        exact ⟨own, text, known.imp_left (List.mem_cons_of_mem _)⟩

section Fields

variable {α ρ δ : Type}

/-- A field's value, from the values of the members with its name. -/
inductive Field.Holds (field : Field α) : List Node → α → Prop where
  | absent {value : α} (default : field.absent = some value) : field.Holds [] value
  | given {node : Node} {value : α} (read : field.read node = .ok value) : field.Holds [node] value

theorem Field.Holds.unique {field : Field α} {values : List Node} {value other : α}
    (holds : field.Holds values value) (again : field.Holds values other) : value = other := by
  cases holds with
  | absent default =>
      cases again with
      | absent second => exact Option.some.inj (default.symm.trans second)
  | given read =>
      cases again with
      | given second => exact Except.ok.inj (read.symm.trans second)

/-- What a field that held `slot` holds behind the members with its name. -/
inductive Field.Takes (field : Field α) : Option α → List Node → Option α → Prop where
  | nothing {slot : Option α} : field.Takes slot [] slot
  | one {node : Node} {value : α} (read : field.read node = .ok value) :
      field.Takes none [node] (some value)

def Fields.names : {ρ δ : Type} → Fields ρ δ → List String
  | _, _, .nil => []
  | _, _, .cons field rest => field.name :: rest.names

def Fields.Holds : {ρ δ : Type} → Fields ρ δ → (String → List Node) → ρ → Prop
  | _, _, .nil, _, _ => True
  | _, _, .cons field rest, values, row =>
      field.Holds (values field.name) row.1 ∧ rest.Holds values row.2

theorem Field.holds_iff_takes {field : Field α} {values : List Node} {value : α} :
    field.Holds values value ↔ ∃ slot, field.Takes none values slot ∧
      (slot = some value ∨ slot = none ∧ field.absent = some value) := by
  constructor
  · intro holds
    cases holds with
    | absent default => exact ⟨none, .nothing, .inr ⟨rfl, default⟩⟩
    | given read => exact ⟨some value, .one read, .inl rfl⟩
  · rintro ⟨slot, takes, settled⟩
    cases takes with
    | nothing =>
        rcases settled with held | ⟨-, default⟩
        · cases held
        · exact .absent default
    | one read =>
        rcases settled with held | ⟨held, -⟩
        · obtain rfl := Option.some.inj held
          exact .given read
        · cases held

namespace Field.Takes

variable {field : Field α} {node : Node} {values : List Node} {slot last : Option α} {value : α}

theorem cons_some : ¬ field.Takes (some value) (node :: values) last := by
  rintro ⟨⟩

theorem cons_none : field.Takes none (node :: values) last ↔
    ∃ value, field.read node = .ok value ∧ field.Takes (some value) values last := by
  constructor
  · rintro ⟨⟩
    next read => exact ⟨_, read, .nothing⟩
  · rintro ⟨value, read, rest⟩
    cases rest with
    | nothing => exact .one read

end Field.Takes

namespace Fields

theorem holds_congr {fields : Fields ρ δ} {values others : String → List Node} {row : ρ}
    (same : ∀ name ∈ fields.names, values name = others name) :
    fields.Holds values row ↔ fields.Holds others row := by
  induction fields with
  | nil => exact Iff.rfl
  | cons field rest ih =>
      rw [Holds, Holds, same _ List.mem_cons_self,
        ih fun name member => same name (List.mem_cons_of_mem _ member)]

/-- The values of the fields follow from those of the members. -/
theorem Holds.agree {fields : Fields ρ δ} {values others : String → List Node} {row other : ρ}
    (same : ∀ name ∈ fields.names, values name = others name) (holds : fields.Holds values row)
    (again : fields.Holds others other) : row = other := by
  induction fields with
  | nil => rfl
  | cons field rest ih =>
      have own : values field.name = others field.name := same _ List.mem_cons_self
      have first : row.1 = other.1 := (own ▸ holds.1).unique again.1
      have rest : ∀ name ∈ rest.names, values name = others name :=
        fun name member => same name (List.mem_cons_of_mem _ member)
      exact Prod.ext first (ih rest holds.2 again.2)

/-- The first field takes the members with its name, and the others go on to the other fields. -/
theorem fromMembers_cons_iff {field : Field α} {rest : Fields ρ δ} {members : List (Bytes × Node)}
    {slot last : Option α} {slots next : δ} :
    (cons field rest).fromMembers (slot, slots) (.closed members) = .ok (last, next) ↔
      field.Takes slot (valuesOf field.name members) last ∧
      rest.fromMembers slots (.closed (members.filter fun member => !isNamed field.name member)) =
        .ok next := by
  induction members generalizing slot slots with
  | nil =>
      constructor
      · intro same
        obtain ⟨rfl, rfl⟩ := Prod.mk.inj (Except.ok.inj same)
        exact ⟨.nothing, rfl⟩
      · rintro ⟨takes, same⟩
        cases takes
        obtain rfl := Except.ok.inj same
        rfl
  | cons member members ih =>
      obtain ⟨key, value⟩ := member
      cases text : readText key with
      | error fault =>
          have unnamed : isNamed field.name (key, value) = false := by
            simp [isNamed, text, Except.toOption]
          simp [Members.closed, fromMembers, text, unnamed]
      | ok name =>
          by_cases same : field.name = name
          · subst same
            have named : isNamed field.name (key, value) = true := isNamed_iff.mpr text
            rw [valuesOf_cons_pos text, List.filter_cons_of_neg (by simp [named])]
            cases slot with
            | some held =>
                simp [Members.closed, fromMembers, text, put, Field.Takes.cons_some]
            | none =>
                rw [Field.Takes.cons_none]
                cases read : field.read value with
                | error fault => simp [Members.closed, fromMembers, text, put, read]
                | ok found => simp [Members.closed, fromMembers, text, put, read, ih]
          · have unnamed : isNamed field.name (key, value) = false := by
              simp [isNamed, text, Except.toOption, Ne.symm same]
            have apart : readText (key, value).1 ≠ .ok field.name := by
              simp [text, Ne.symm same]
            rw [valuesOf_cons_neg apart, List.filter_cons_of_pos (by simp [unnamed])]
            cases met : rest.put name value slots with
            | error fault => simp [Members.closed, fromMembers, text, put, same, met]
            | ok found =>
                cases found with
                | some slots => simp [Members.closed, fromMembers, text, put, same, met, ih]
                | none =>
                    cases skipped : value.skip with
                    | error fault => simp [Members.closed, fromMembers, text, put, same, met, skipped]
                    | ok done => simp [Members.closed, fromMembers, text, put, same, met, skipped, ih]

/-- Behind all fields only JSON is left, under names that are texts. -/
theorem fromMembers_nil_iff {members : List (Bytes × Node)} :
    Fields.nil.fromMembers () (.closed members) = .ok () ↔ ∀ member ∈ members, Passes [] member := by
  induction members with
  | nil => exact ⟨fun _ member mem => absurd mem List.not_mem_nil, fun _ => rfl⟩
  | cons member members ih =>
      obtain ⟨key, value⟩ := member
      rw [List.forall_mem_cons, ← ih]
      cases text : readText key with
      | error fault => simp [Members.closed, fromMembers, text, Passes]
      | ok name =>
          cases skipped : value.skip with
          | error fault => simp [Members.closed, fromMembers, text, put, skipped, Passes]
          | ok done => simp [Members.closed, fromMembers, text, put, skipped, Passes]

/-- Members that are read end in a brace. -/
theorem exists_closed {fields : Fields ρ δ} {draft next : δ} {members : Members}
    (read : fields.fromMembers draft members = .ok next) : ∃ list, members = .closed list := by
  induction draft, members using fromMembers.induct with
  | case1 draft s =>
      cases s with
      | closed => exact ⟨[], rfl⟩
      | _ => cases read
  | case2 => cases read
  | case3 draft key value rest known unknown =>
      obtain ⟨name, -, read⟩ := bind_eq_ok_iff.mp read
      obtain ⟨found, -, later⟩ := bind_eq_ok_iff.mp read
      have closed : ∃ list, rest = .closed list := by
        cases found with
        | some draft => exact known draft later
        | none =>
            obtain ⟨-, -, later⟩ := bind_eq_ok_iff.mp later
            exact unknown later
      obtain ⟨list, rfl⟩ := closed
      exact ⟨(key, value) :: list, rfl⟩

theorem finish_cons_iff {field : Field α} {rest : Fields ρ δ} {slot : Option α} {slots : δ} {value : α}
    {row : ρ} : (cons field rest).finish (slot, slots) = .ok (value, row) ↔
      (slot = some value ∨ slot = none ∧ field.absent = some value) ∧ rest.finish slots = .ok row := by
  cases slot with
  | some held => cases later : rest.finish slots <;> simp [finish, later]
  | none =>
      cases default : field.absent with
      | none => simp [finish, default]
      | some value => cases later : rest.finish slots <;> simp [finish, default, later]

/-- A record is read exactly if every member can stand in it and every field gets a value. -/
theorem read_record_eq_ok_iff {fields : Fields ρ δ} (distinct : fields.names.Nodup) {name : String}
    {members : List (Bytes × Node)} {row : ρ} :
    fields.read name (.record (.closed members)) = .ok row ↔
      (∀ member ∈ members, Passes fields.names member) ∧
        fields.Holds (fun name => valuesOf name members) row := by
  have split : fields.read name (.record (.closed members)) = .ok row ↔
      ∃ draft, fields.fromMembers fields.blank (.closed members) = .ok draft ∧
        fields.finish draft = .ok row := bind_eq_ok_iff
  rw [split]
  clear split
  induction fields generalizing members with
  | nil =>
      constructor
      · rintro ⟨_, read, _⟩
        exact ⟨fromMembers_nil_iff.mp read, trivial⟩
      · rintro ⟨pass, _⟩
        exact ⟨(), fromMembers_nil_iff.mpr pass, rfl⟩
  | cons field rest ih =>
      obtain ⟨value, values⟩ := row
      obtain ⟨fresh, distinct⟩ := List.nodup_cons.mp distinct
      have same : ∀ other ∈ rest.names, valuesOf other
          (members.filter fun member => !isNamed field.name member) = valuesOf other members := by
        intro other mem
        exact valuesOf_others fun equal => fresh (equal ▸ mem)
      rw [names, passes_cons_iff, Holds, ← holds_congr same, Field.holds_iff_takes]
      constructor
      · rintro ⟨⟨slot, slots⟩, met, done⟩
        obtain ⟨takes, later⟩ := fromMembers_cons_iff.mp met
        obtain ⟨settled, rest⟩ := finish_cons_iff.mp done
        obtain ⟨pass, holds⟩ := (ih distinct).mp ⟨slots, later, rest⟩
        exact ⟨pass, ⟨slot, takes, settled⟩, holds⟩
      · rintro ⟨pass, ⟨slot, takes, settled⟩, holds⟩
        obtain ⟨slots, later, rest⟩ := (ih distinct).mpr ⟨pass, holds⟩
        exact ⟨(slot, slots), fromMembers_cons_iff.mpr ⟨takes, later⟩,
          finish_cons_iff.mpr ⟨settled, rest⟩⟩

theorem codec_read_eq_ok_iff {fields : Fields ρ δ} (distinct : fields.names.Nodup) {name : String}
    {build : ρ → α} {row : α → ρ} (whole : ∀ value, build (row value) = value)
    (back : ∀ values, row (build values) = values) {members : List (Bytes × Node)} {value : α} :
    (fields.codec name build row).read (.record (.closed members)) = .ok value ↔
      (∀ member ∈ members, Passes fields.names member) ∧
        fields.Holds (fun name => valuesOf name members) (row value) := by
  rw [← read_record_eq_ok_iff distinct]
  constructor
  · intro read
    obtain ⟨values, found, same⟩ := bind_eq_ok_iff.mp read
    obtain rfl := Except.ok.inj same
    rw [back]
    exact found
  · intro found
    refine bind_eq_ok_iff.mpr ⟨row value, found, ?_⟩
    rw [whole]
    rfl

end Fields

end Fields

/-- The values in a record that is JSON are JSON. -/
theorem Members.skip_of_closed {members : List (Bytes × Node)}
    (skipped : (Members.closed members).skip = .ok ()) :
    ∀ member ∈ members, member.2.skip = .ok () := by
  induction members with
  | nil => exact fun member mem => absurd mem List.not_mem_nil
  | cons first rest ih =>
      rw [closed, skip] at skipped
      obtain ⟨_, -, skipped⟩ := bind_eq_ok_iff.mp skipped
      obtain ⟨_, one, others⟩ := bind_eq_ok_iff.mp skipped
      exact List.forall_mem_cons.mpr ⟨one, ih others⟩

/-- In a text of the grammar only the names can keep the members from standing in a record. -/
theorem Denotes.passes_iff {text : Bytes} {members : List (Bytes × Node)}
    (denotes : Denotes text (.record (.closed members))) {names : List String} :
    (∀ member ∈ members, Passes names member) ↔
      ∀ member ∈ members, ∃ name, readText member.1 = .ok name := by
  have skipped : (Members.closed members).skip = .ok () := denotes.skip_eq
  constructor
  · intro pass member mem
    obtain ⟨name, text, -⟩ := pass member mem
    exact ⟨name, text⟩
  · intro named member mem
    obtain ⟨name, text⟩ := named member mem
    exact ⟨name, text, .inr (Members.skip_of_closed skipped member mem)⟩

section Lenses

/-- Where a field stands among others: how its value is read off a row, and put into one. -/
inductive Fields.Lens {β : Type} (field : Field β) :
    {ρ δ : Type} → Fields ρ δ → (ρ → β) → (β → ρ → ρ) → Prop where
  | here {ρ δ : Type} {rest : Fields ρ δ} :
      Lens field (.cons field rest) (fun row => row.1) fun value row => (value, row.2)
  | there {α ρ δ : Type} {first : Field α} {rest : Fields ρ δ} {get : ρ → β} {set : β → ρ → ρ}
      (lens : Lens field rest get set) :
      Lens field (.cons first rest) (fun row => get row.2) fun value row => (row.1, set value row.2)

/-- A field that has a value has it from no more than one member. -/
theorem Field.Holds.of_middle {β : Type} {field : Field β} {front back : List Node} {node : Node}
    {value : β} (holds : field.Holds (front ++ node :: back) value) :
    front = [] ∧ back = [] ∧ field.read node = .ok value := by
  generalize given : front ++ node :: back = values at holds
  cases holds with
  | absent default => simp at given
  | given read =>
      cases front with
      | nil =>
          obtain ⟨rfl, rfl⟩ := List.cons.inj given
          exact ⟨rfl, rfl, read⟩
      | cons first more => simp at given

namespace Fields.Lens

variable {α β ρ δ : Type} {field : Field β} {fields : Fields ρ δ} {get : ρ → β} {set : β → ρ → ρ}
  {before after : List (Bytes × Node)} {key : Bytes} {node other : Node} {row : ρ} {value : β}
  (lens : Lens field fields get set)

include lens

theorem mem : field.name ∈ fields.names := by
  induction lens with
  | here => exact List.mem_cons_self
  | there _ ih => exact List.mem_cons_of_mem _ ih

/-- Another value for a field's member gives another value to that field alone. -/
theorem holds_replace (distinct : fields.names.Nodup) (named : readText key = .ok field.name)
    (holds : fields.Holds (fun name => valuesOf name (before ++ (key, other) :: after)) row)
    (read : field.read node = .ok value) :
    fields.Holds (fun name => valuesOf name (before ++ (key, node) :: after)) (set value row) := by
  have same {name : String} (apart : name ≠ field.name) :
      valuesOf name (before ++ (key, other) :: after) =
        valuesOf name (before ++ (key, node) :: after) := by
    have unnamed : readText key ≠ .ok name := by
      rw [named]
      exact fun equal => apart (Except.ok.inj equal).symm
    rw [valuesOf_middle_neg unnamed, valuesOf_middle_neg unnamed]
  induction lens with
  | here =>
      obtain ⟨own, rest⟩ := holds
      refine ⟨?_, (holds_congr fun name member => same ?_).mp rest⟩
      · simp only [valuesOf_middle_pos named] at own ⊢
        obtain ⟨front, back, -⟩ := own.of_middle
        rw [front, back]
        exact .given read
      · rintro rfl
        exact (List.nodup_cons.mp distinct).1 ‹_›
  | @there _ _ _ first _ _ _ lens ih =>
      obtain ⟨own, rest⟩ := holds
      obtain ⟨fresh, distinct⟩ := List.nodup_cons.mp distinct
      have apart : first.name ≠ field.name := by
        intro equal
        rw [equal] at fresh
        exact fresh lens.mem
      simp only [same apart] at own
      exact ⟨own, ih distinct rest⟩

/-- A record is read only with what its field reads from the member. -/
theorem read_of_holds (named : readText key = .ok field.name)
    (holds : fields.Holds (fun name => valuesOf name (before ++ (key, node) :: after)) row) :
    field.read node = .ok (get row) := by
  induction lens with
  | here =>
      have own := holds.1
      simp only [valuesOf_middle_pos named] at own
      exact own.of_middle.2.2
  | there _ ih => exact ih holds.2

theorem set_get (row : ρ) : set (get row) row = row := by
  induction lens with
  | here => rfl
  | there _ ih => exact congrArg (Prod.mk row.1) (ih row.2)

section Decoding

variable {γ : Type} {name : String} {build : ρ → γ} {row : γ → ρ} {base : γ} {text : Bytes}
  (distinct : fields.names.Nodup) (whole : ∀ value, build (row value) = value)
  (back : ∀ values, row (build values) = values) (named : readText key = .ok field.name)

include distinct whole back named

theorem read_of_read (read : (fields.codec name build row).read
    (.record (.closed (before ++ (key, node) :: after))) = .ok base) :
    field.read node = .ok (get (row base)) :=
  lens.read_of_holds named ((codec_read_eq_ok_iff distinct whole back).mp read).2

/-- Another value for a field's member, in a record that is read, is read with it. -/
theorem read_replace (valid : (fields.codec name build row).read
      (.record (.closed (before ++ (key, other) :: after))) = .ok base)
    (read : field.read node = .ok value) :
    (fields.codec name build row).read (.record (.closed (before ++ (key, node) :: after))) =
      .ok (build (set value (row base))) := by
  rw [codec_read_eq_ok_iff distinct whole back] at valid ⊢
  obtain ⟨pass, holds⟩ := valid
  rw [back]
  refine ⟨fun member mem => ?_, lens.holds_replace distinct named holds read⟩
  simp only [List.mem_append, List.mem_cons] at mem pass
  rcases mem with early | rfl | late
  · exact pass member (.inl early)
  · exact ⟨field.name, named, .inl lens.mem⟩
  · exact pass member (.inr (.inr late))

/-- What a field's member is replaced by makes no difference if the field reads the same from it. -/
theorem read_alike (valid : (fields.codec name build row).read
      (.record (.closed (before ++ (key, other) :: after))) = .ok base)
    (same : ∀ value, field.read other = .ok value → field.read node = .ok value) :
    (fields.codec name build row).read
      (.record (.closed (before ++ (key, node) :: after))) = .ok base := by
  have read := same _ (lens.read_of_read distinct whole back named valid)
  have replaced := lens.read_replace distinct whole back named valid read
  rwa [lens.set_get, whole] at replaced

variable (denotes : Denotes text (.record (.closed (before ++ (key, node) :: after))))

include denotes

theorem decode_replace (valid : (fields.codec name build row).read
      (.record (.closed (before ++ (key, other) :: after))) = .ok base)
    (read : field.read node = .ok value) :
    (fields.codec name build row).decode text = .ok (build (set value (row base))) := by
  rw [denotes.decode_eq]
  exact lens.read_replace distinct whole back named valid read

theorem read_of_decode (decoded : (fields.codec name build row).decode text = .ok base) :
    field.read node = .ok (get (row base)) :=
  lens.read_of_read distinct whole back named (denotes.decode_eq _ ▸ decoded)

end Decoding

end Fields.Lens

end Lenses

/-- Half of a surrogate pair: a string of the grammar that is no text. -/
def lone : Bytes := [0x5C, 0x75, 0x64, 0x38, 0x30, 0x30, 0x22]

theorem quoted_lone : Quoted lone := .code rfl .close

theorem readText_lone : readText lone = .error .escapeEnds := rfl

end CardGateway.Json
