import Mathlib
import CardGateway.Config.Basic
import CardGateway.Proofs.ItemByItem

/-!
# Which layer gives a setting

A variable gives a setting if its name is that of the setting behind the common start. The environment
stands above the file, so the file gives a setting only if no variable does; within the environment the
last variable that gives a setting is in force.
-/

namespace CardGateway.Config

open CardGateway.Text

variable {name value key : String} {setting : Setting} {environment : List (String × String)}
  {entries : Toml.Entries} {layer : Layer} {lead rest below : List Char}

/-- A variable is named by the start, by a key, both in any letter case, and by what stands below the
key. Blanks may stand around the last two. -/
structure Names (name key : String) (below : List Char) : Prop where
  spelled : ∃ lead rest word, name.toList = lead ++ rest ∧ lead.map Char.toUpper = variableStart ∧
    trimChars rest = word ++ below ∧ word.map Char.toLower = key.toList
  filled : key ≠ ""
  whole : '.' ∉ key.toList

/-- What a variable gives: its own value for the key that it names, and a record for the key above a
point behind which other keys follow. -/
inductive Gives (name value key : String) : Setting → Prop where
  | whole (names : Names name key []) : Gives name value key (.ofText value)
  | below {path : List Char} (names : Names name key ('.' :: path))
      (filled : ∀ part ∈ splitOn '.' path, part ≠ []) : Gives name value key .record

/-- No variable gives the setting. -/
def Silent (environment : List (String × String)) (key : String) : Prop :=
  ∀ entry ∈ environment, ∀ setting, ¬ Gives entry.1 entry.2 key setting

/-- The environment gives a setting by the last variable that does. -/
def Given (environment : List (String × String)) (key : String) (setting : Setting) : Prop :=
  ∃ before name value after, environment = before ++ (name, value) :: after ∧
    Gives name value key setting ∧ Silent after key

/-- The value in force: that of the environment, else that of the file, else none but the default. -/
inductive Effective (entries : Toml.Entries) (environment : List (String × String)) (key : String) :
    Option Setting → Prop where
  | environment {setting : Setting} (given : Given environment key setting) :
      Effective entries environment key (some setting)
  | file {value : Toml.Value} (silent : Silent environment key) (written : (key, value) ∈ entries) :
      Effective entries environment key (some (.ofToml value))
  | default (silent : Silent environment key) (absent : ∀ value, (key, value) ∉ entries) :
      Effective entries environment key none

theorem length_of_start (start : lead.map Char.toUpper = variableStart) :
    lead.length = variableStart.length := by
  rw [← start, List.length_map]

section Spelling

variable (split : name.toList = lead ++ rest) (start : lead.map Char.toUpper = variableStart)
include split start

theorem take_of_start : name.toList.take variableStart.length = lead := by
  rw [split, ← length_of_start start, List.take_left]

theorem drop_of_start : name.toList.drop variableStart.length = rest := by
  rw [split, ← length_of_start start, List.drop_left]

/-- A name without a point gives its value to one key. -/
theorem ofVariable?_of_no_point (plain : '.' ∉ trimChars rest) : ofVariable? name value =
    if trimChars rest = [] then none
    else some (String.ofList ((trimChars rest).map Char.toLower), .ofText value) := by
  simp only [ofVariable?, take_of_start split start, drop_of_start split start, if_pos start,
    splitOn_of_notMem plain, List.map_cons, List.map_nil]
  simp

/-- A name with a point gives a record to the key in front of it, unless there is a gap. -/
theorem ofVariable?_of_point {first path : List Char} (pointed : trimChars rest = first ++ '.' :: path)
    (plain : '.' ∉ first) : ofVariable? name value =
      if first = [] ∨ [] ∈ splitOn '.' path then none
      else some (String.ofList (first.map Char.toLower), .record) := by
  simp only [ofVariable?, take_of_start split start, drop_of_start split start, if_pos start,
    pointed, splitOn_append plain, List.map_cons]
  cases parts : splitOn '.' path with
  | nil => exact absurd parts (splitOn_ne_nil '.' path)
  | cons second more => simp

end Spelling

theorem toLower_eq_point_iff {c : Char} : c.toLower = '.' ↔ c = '.' := by
  constructor
  · intro lower
    have letter : c.isAlpha = false := by
      rw [← Char.isAlpha_toLower_eq_isAlpha, lower]
      rfl
    have small : ¬ c.isUpper = true := fun upper => by simp [Char.isAlpha, upper] at letter
    rwa [Char.toLower_eq_of_not_isUpper small] at lower
  · rintro rfl
    rfl

theorem point_mem_iff {word : List Char} (same : word.map Char.toLower = key.toList) :
    '.' ∈ word ↔ '.' ∈ key.toList := by
  rw [← same, List.mem_map]
  simp [toLower_eq_point_iff]

theorem eq_empty_iff {word : List Char} (same : word.map Char.toLower = key.toList) :
    word = [] ↔ key = "" := by
  rw [← String.toList_eq_nil_iff, ← same, List.map_eq_nil_iff]

theorem gives_of_read (read : ofVariable? name value = some (key, setting)) :
    Gives name value key setting := by
  by_cases start : (name.toList.take variableStart.length).map Char.toUpper = variableStart
  case neg => cases read.symm.trans (if_neg start)
  have split := (List.take_append_drop variableStart.length name.toList).symm
  by_cases point : '.' ∈ trimChars (name.toList.drop variableStart.length)
  · obtain ⟨first, path, pointed, plain⟩ := List.eq_append_cons_of_mem point
    rw [ofVariable?_of_point split start pointed plain] at read
    split at read
    · cases read
    · next filled =>
        obtain ⟨rfl, rfl⟩ := Prod.mk.inj (Option.some.inj read)
        have same : first.map Char.toLower = (String.ofList (first.map Char.toLower)).toList :=
          String.toList_ofList.symm
        refine .below ⟨⟨_, _, first, split, start, pointed, same⟩, ?_, ?_⟩ fun part member empty => ?_
        · exact fun empty => filled (.inl ((eq_empty_iff same).mpr empty))
        · exact fun member => plain ((point_mem_iff same).mpr member)
        · exact filled (.inr (empty ▸ member))
  · rw [ofVariable?_of_no_point split start point] at read
    split at read
    · cases read
    · next filled =>
        obtain ⟨rfl, rfl⟩ := Prod.mk.inj (Option.some.inj read)
        have same : (trimChars (name.toList.drop variableStart.length)).map Char.toLower =
            (String.ofList ((trimChars (name.toList.drop variableStart.length)).map
              Char.toLower)).toList := String.toList_ofList.symm
        refine .whole ⟨⟨_, _, _, split, start, (List.append_nil _).symm, same⟩, ?_, ?_⟩
        · exact fun empty => filled ((eq_empty_iff same).mpr empty)
        · exact fun member => point ((point_mem_iff same).mpr member)

/-- A variable gives what it is read as. -/
theorem ofVariable?_eq_some_iff :
    ofVariable? name value = some (key, setting) ↔ Gives name value key setting := by
  refine ⟨gives_of_read, fun gives => ?_⟩
  cases gives with
  | whole names =>
      obtain ⟨⟨lead, rest, word, split, start, trimmed, same⟩, filled, whole⟩ := names
      rw [List.append_nil] at trimmed
      subst trimmed
      rw [ofVariable?_of_no_point split start (mt (point_mem_iff same).mp whole),
        if_neg (mt (eq_empty_iff same).mp filled), same, String.ofList_toList]
  | @below path names filled =>
      obtain ⟨⟨lead, rest, word, split, start, trimmed, same⟩, named, whole⟩ := names
      have gapless : ¬ (word = [] ∨ [] ∈ splitOn '.' path) := by
        rintro (empty | gap)
        · exact named ((eq_empty_iff same).mp empty)
        · exact filled [] gap rfl
      rw [ofVariable?_of_point split start trimmed (mt (point_mem_iff same).mp whole),
        if_neg gapless, same, String.ofList_toList]

/-- The last of some entries is in force. -/
theorem find?_eq_some_iff : layer.find? key = some setting ↔
    ∃ before after, layer = before ++ (key, setting) :: after ∧ ∀ entry ∈ after, entry.1 ≠ key := by
  simp only [Layer.find?, Option.map_eq_some_iff, List.find?_eq_some_iff_append]
  constructor
  · rintro ⟨⟨own, setting⟩, ⟨same, after, before, split, others⟩, rfl⟩
    obtain rfl : own = key := of_decide_eq_true same
    refine ⟨before.reverse, after.reverse, ?_, fun entry member => ?_⟩
    · rw [← List.reverse_inj, split]
      simp
    · simpa using others entry (List.mem_reverse.mp member)
  · rintro ⟨before, after, rfl, others⟩
    refine ⟨(key, setting), ⟨decide_eq_true rfl, after.reverse, before.reverse, by simp, ?_⟩, rfl⟩
    intro entry member
    simpa using others entry (List.mem_reverse.mp member)

theorem find?_eq_none_iff : layer.find? key = none ↔ ∀ entry ∈ layer, entry.1 ≠ key := by
  simp [Layer.find?]

theorem find?_ofEnvironment_eq_some_iff :
    (ofEnvironment environment).find? key = some setting ↔ Given environment key setting := by
  rw [find?_eq_some_iff]
  constructor
  · rintro ⟨before, after, split, others⟩
    obtain ⟨front, back, rfl, -, later⟩ := List.filterMap_eq_append_iff.mp split
    obtain ⟨skipped, ⟨name, value⟩, rest, rfl, -, read, ended⟩ := List.filterMap_eq_cons_iff.mp later
    refine ⟨front ++ skipped, name, value, rest, by simp, gives_of_read read, ?_⟩
    intro entry member setting gives
    have listed : (key, setting) ∈ after :=
      ended ▸ List.mem_filterMap.mpr ⟨entry, member, ofVariable?_eq_some_iff.mpr gives⟩
    exact others _ listed rfl
  · rintro ⟨before, name, value, after, rfl, gives, silent⟩
    refine ⟨ofEnvironment before, ofEnvironment after, ?_, fun entry member same => ?_⟩
    · simp [ofEnvironment, ofVariable?_eq_some_iff.mpr gives]
    · obtain ⟨⟨name, value⟩, stands, read⟩ := List.mem_filterMap.mp member
      obtain ⟨own, setting⟩ := entry
      obtain rfl : own = key := same
      exact silent _ stands setting (gives_of_read read)

theorem find?_ofEnvironment_eq_none_iff :
    (ofEnvironment environment).find? key = none ↔ Silent environment key := by
  rw [find?_eq_none_iff]
  constructor
  · intro silent entry member setting gives
    exact silent _ (List.mem_filterMap.mpr ⟨entry, member, ofVariable?_eq_some_iff.mpr gives⟩) rfl
  · rintro silent ⟨own, setting⟩ member rfl
    obtain ⟨⟨name, value⟩, stands, read⟩ := List.mem_filterMap.mp member
    exact silent _ stands setting (gives_of_read read)

/-- Where no key stands twice, each entry of a file is in force. -/
theorem find?_ofEntries_eq_some_iff (once : (entries.map Prod.fst).Nodup) :
    (ofEntries entries).find? key = some setting ↔
      ∃ value, (key, value) ∈ entries ∧ Setting.ofToml value = setting := by
  rw [find?_eq_some_iff]
  constructor
  · rintro ⟨before, after, split, -⟩
    have member : (key, setting) ∈ ofEntries entries := by simp [split]
    obtain ⟨⟨own, value⟩, written, same⟩ := List.mem_map.mp member
    obtain ⟨rfl, rfl⟩ := Prod.mk.inj same
    exact ⟨value, written, rfl⟩
  · rintro ⟨value, written, rfl⟩
    obtain ⟨before, after, rfl⟩ := List.append_of_mem written
    refine ⟨ofEntries before, ofEntries after, by simp [ofEntries], fun entry member same => ?_⟩
    obtain ⟨⟨own, other⟩, stands, rfl⟩ := List.mem_map.mp member
    obtain rfl : own = key := same
    have later : own ∉ after.map Prod.fst := by
      simp only [List.map_append, List.map_cons, List.nodup_append, List.nodup_cons] at once
      exact once.2.1.1
    exact later (List.mem_map_of_mem stands)

theorem find?_ofEntries_eq_none_iff :
    (ofEntries entries).find? key = none ↔ ∀ value, (key, value) ∉ entries := by
  rw [find?_eq_none_iff]
  constructor
  · intro unwritten value written
    exact unwritten _ (List.mem_map_of_mem written) rfl
  · rintro absent entry member rfl
    obtain ⟨⟨own, value⟩, written, rfl⟩ := List.mem_map.mp member
    exact absent value written

/-- The two layers give the value in force. -/
theorem setting?_eq_iff (once : (entries.map Prod.fst).Nodup) {effective : Option Setting} :
    setting? (ofEntries entries) (ofEnvironment environment) key = effective ↔
      Effective entries environment key effective := by
  constructor
  · rintro rfl
    unfold setting?
    cases above : (ofEnvironment environment).find? key with
    | some setting => exact .environment (find?_ofEnvironment_eq_some_iff.mp above)
    | none =>
        have silent := find?_ofEnvironment_eq_none_iff.mp above
        cases below : (ofEntries entries).find? key with
        | none => exact .default silent (find?_ofEntries_eq_none_iff.mp below)
        | some setting =>
            obtain ⟨value, written, rfl⟩ := (find?_ofEntries_eq_some_iff once).mp below
            exact .file silent written
  · intro effective
    unfold setting?
    cases effective with
    | environment given => rw [find?_ofEnvironment_eq_some_iff.mpr given]; rfl
    | file silent written =>
        rw [find?_ofEnvironment_eq_none_iff.mpr silent,
          (find?_ofEntries_eq_some_iff once).mpr ⟨_, written, rfl⟩]
        rfl
    | default silent absent =>
        rw [find?_ofEnvironment_eq_none_iff.mpr silent, find?_ofEntries_eq_none_iff.mpr absent]
        rfl

/-- Nothing is trimmed off a name without blanks. -/
theorem Names.split_of_solid (solid : ∀ c ∈ name.toList, isBlank c = false)
    (names : Names name key below) : ∃ lead word, name.toList = lead ++ (word ++ below) ∧
      lead.map Char.toUpper = variableStart ∧ word.map Char.toLower = key.toList := by
  obtain ⟨⟨lead, rest, word, split, start, trimmed, same⟩, -, -⟩ := names
  refine ⟨lead, word, ?_, start, same⟩
  rw [split, ← trimmed, trimChars_eq_self]
  exact fun c member => solid c (split ▸ List.mem_append_right lead member)

/-- A name without blanks and points that gives a key is the start and the key. -/
theorem lower_of_gives (plain : ∀ c ∈ name.toList, isBlank c = false ∧ c ≠ '.')
    (gives : Gives name value key setting) :
    name.toLower.toList = variableStart.map Char.toLower ++ key.toList := by
  have solid : ∀ c ∈ name.toList, isBlank c = false := fun c member => (plain c member).1
  cases gives with
  | whole names =>
      obtain ⟨lead, word, split, start, same⟩ := names.split_of_solid solid
      have lower : lead.map Char.toLower = variableStart.map Char.toLower := by
        rw [← start, List.map_map]
        exact List.map_congr_left fun c _ => (Char.toLower_toUpper_eq_toLower c).symm
      rw [String.toLower, String.toList_map, split, List.append_nil, List.map_append, lower, same]
  | below names =>
      obtain ⟨lead, word, split, -, -⟩ := names.split_of_solid solid
      have point : '.' ∈ name.toList := by simp [split]
      exact absurd rfl (plain '.' point).2

/-- Where no two names are alike but for the case of their letters, and none has a blank or a point in it,
the order of the variables does not matter. -/
theorem given_iff_of_distinct (distinct : (environment.map fun entry => entry.1.toLower).Nodup)
    (plain : ∀ entry ∈ environment, ∀ c ∈ entry.1.toList, isBlank c = false ∧ c ≠ '.') :
    Given environment key setting ↔ ∃ entry ∈ environment, Gives entry.1 entry.2 key setting := by
  constructor
  · rintro ⟨before, name, value, after, rfl, gives, -⟩
    exact ⟨(name, value), by simp, gives⟩
  · rintro ⟨⟨name, value⟩, member, gives⟩
    obtain ⟨before, after, rfl⟩ := List.append_of_mem member
    refine ⟨before, name, value, after, rfl, gives, fun later stands other again => ?_⟩
    have same : name.toLower = later.1.toLower := by
      rw [← String.toList_inj, lower_of_gives (plain _ (by simp)) gives,
        lower_of_gives (plain later (by simp [stands])) again]
    simp only [List.map_append, List.map_cons, List.nodup_append, List.nodup_cons] at distinct
    exact distinct.2.1.1 (List.mem_map.mpr ⟨later, stands, same.symm⟩)

end CardGateway.Config
