import CardGateway.Proofs.Layers
import CardGateway.Proofs.UniqueKeys
import CardGateway.Proofs.Utf8

/-!
# Settings are overridden one by one

Each setting is what its value in force means, or its default, whatever the other settings are. What a
higher layer overrides has no effect, not even by its type.
-/

namespace CardGateway

open CardGateway.Text

namespace Setting

variable {text : String} {b : Bool} {chars word rest tail : List Char} {steps : Nat}

def flagWord : Bool → List Char
  | true => ['t', 'r', 'u', 'e']
  | false => ['f', 'a', 'l', 's', 'e']

theorem integer?_ne_flag : integer? word ≠ some (.flag b) := by
  intro read
  simp only [integer?, Option.bind_eq_bind, Option.bind_eq_some_iff] at read
  obtain ⟨_, _, read⟩ := read
  split at read
  · split at read <;> simp at read
  · split at read <;> simp at read

theorem real?_ne_flag : real? word ≠ some (.flag b) := by
  intro read
  simp only [real?, Option.bind_eq_bind, Option.bind_eq_some_iff, Option.pure_def] at read
  obtain ⟨_, _, _, _, read⟩ := read
  split at read <;> simp [Option.bind_eq_some_iff] at read

/-- A word that is not marked is a number or a text. -/
theorem ofWord_ne_flag : ofWord word ≠ .flag b := by
  change Option.getD _ _ ≠ _
  cases real : real? (trimChars word) with
  | some setting => exact fun same => real?_ne_flag (real.trans (congrArg some same))
  | none =>
      cases integer : integer? (trimChars word) with
      | some setting => exact fun same => integer?_ne_flag (integer.trans (congrArg some same))
      | none => nofun

theorem behind?_eq_some_iff : behind? word chars = some rest ↔ chars = word ++ rest := by
  unfold behind?
  split
  · next front =>
      obtain ⟨tail, rfl⟩ := List.isPrefixOf_iff_prefix.mp front
      simp [eq_comm]
  · next other =>
      refine iff_of_false nofun ?_
      rintro rfl
      exact other (List.isPrefixOf_iff_prefix.mpr (List.prefix_append word rest))

theorem flagWord_of_value? (read : value? (steps + 1) chars = some (.flag b, rest)) :
    ∃ tail, chars.dropWhile isBlank = flagWord b ++ tail ∧ tail.dropWhile isBlank = rest := by
  rw [value?] at read
  split at read
  · next yes =>
      cases read
      exact ⟨_, behind?_eq_some_iff.mp yes, rfl⟩
  · next no =>
      cases read
      exact ⟨_, behind?_eq_some_iff.mp no, rfl⟩
  -- Records, lists, quoted texts, single characters and unmarked words are no flags.
  · split at read
    · simp [Option.bind_eq_some_iff] at read
    · simp [Option.bind_eq_some_iff] at read
    · simp [Option.bind_eq_some_iff] at read
    · cases read
    · cases read
    · split at read <;> simp at read
    · simp [ofWord_ne_flag] at read

theorem value?_of_flagWord (front : chars.dropWhile isBlank = flagWord b ++ tail) :
    value? (steps + 1) chars = some (.flag b, tail.dropWhile isBlank) := by
  rw [value?, front]
  cases b <;> rfl

theorem dropWhile_eq_flagWord_iff : chars.dropWhile isBlank = flagWord b ++ tail ↔
    ∃ ahead, (∀ c ∈ ahead, isBlank c = true) ∧ chars = ahead ++ (flagWord b ++ tail) := by
  constructor
  · intro front
    refine ⟨chars.takeWhile isBlank, List.all_eq_true.mp List.all_takeWhile, ?_⟩
    rw [← front, List.takeWhile_append_dropWhile]
  · rintro ⟨ahead, blank, rfl⟩
    refine dropWhile_edges blank fun c first => ?_
    cases b <;> cases first <;> rfl

theorem value?_eq_flag_iff (steps : Nat) : value? (steps + 1) chars = some (.flag b, []) ↔
    ∃ ahead behind, (∀ c ∈ ahead ++ behind, isBlank c = true) ∧
      chars = ahead ++ flagWord b ++ behind := by
  constructor
  · intro read
    obtain ⟨behind, front, ended⟩ := flagWord_of_value? read
    obtain ⟨ahead, blank, rfl⟩ := dropWhile_eq_flagWord_iff.mp front
    refine ⟨ahead, behind, fun c member => ?_, (List.append_assoc _ _ _).symm⟩
    exact (List.mem_append.mp member).elim (blank c) (List.dropWhile_eq_nil_iff.mp ended c)
  · rintro ⟨ahead, behind, blank, rfl⟩
    have front : (ahead ++ flagWord b ++ behind).dropWhile isBlank = flagWord b ++ behind :=
      dropWhile_eq_flagWord_iff.mpr
        ⟨ahead, fun c member => blank c (List.mem_append_left _ member), List.append_assoc _ _ _⟩
    have ended : behind.dropWhile isBlank = [] :=
      List.dropWhile_eq_nil_iff.mpr fun c member => blank c (List.mem_append_right _ member)
    rw [value?_of_flagWord front, ended]

/-- A variable says yes or no by one word, with blanks around it or none. -/
theorem ofText_eq_flag_iff : ofText text = .flag b ↔
    ∃ ahead behind, (∀ c ∈ ahead ++ behind, isBlank c = true) ∧
      text.toList = ahead ++ flagWord b ++ behind := by
  rw [← value?_eq_flag_iff (3 * text.length + 2)]
  unfold ofText
  split
  · next value read => simp [read]
  · next other =>
      refine iff_of_false nofun fun read => ?_
      exact other _ read

end Setting

namespace Config

variable {α : Type} {file newFile : Option Bytes} {entries newEntries : Toml.Entries}
  {environment newEnvironment : List (String × String)} {key : String} {setting : Setting}
  {config : Config} {layers others : String → Option Setting} {effective : Option Setting}

inductive FileGives : Option Bytes → Toml.Entries → Prop where
  | absent : FileGives none []
  | content {content : Bytes} {text : String} {entries : Toml.Entries}
      (decoded : Utf8.decode? content = some text) (parsed : Toml.parse? text = some entries) :
      FileGives (some content) entries

def MeansFlag (setting : Setting) (b : Bool) : Prop := setting = .flag b

def MeansTexts (setting : Setting) (texts : List String) : Prop := setting = .list (texts.map .text)

def MeansPath (setting : Setting) (path : Option String) : Prop :=
  ∃ s, setting = .text s ∧ path = some s

inductive Shape where
  | flag
  | texts
  | path

def Shape.Fits : Shape → Setting → Prop
  | .flag, setting => ∃ b, MeansFlag setting b
  | .texts, setting => ∃ texts, MeansTexts setting texts
  | .path, setting => ∃ path, MeansPath setting path

/-- The keys that are known, each with the type of its setting. -/
def shapes : List (String × Shape) :=
  [("enforce_update_allowlist", .flag), ("remote_pin_allowed", .flag), ("trust_store", .path),
    ("update_allowlist", .texts), ("validate_challenge_response", .flag)]

/-- The value is what the setting in force means, or the default where there is none. -/
def Takes (entries : Toml.Entries) (environment : List (String × String)) (key : String)
    (Means : Setting → α → Prop) (default value : α) : Prop :=
  (∃ setting, Effective entries environment key (some setting) ∧ Means setting value) ∨
    Effective entries environment key none ∧ value = default

theorem readFlag_eq_ok_iff {b : Bool} : readFlag key setting = .ok b ↔ MeansFlag setting b := by
  cases setting <;> simp [readFlag, MeansFlag]

theorem readPath_eq_ok_iff {path : Option String} :
    readPath key setting = .ok path ↔ MeansPath setting path := by
  cases setting <;> simp [readPath, MeansPath, eq_comm]

theorem readTexts_eq_ok_iff {index : Nat} {items : List Setting} {texts : List String} :
    readTexts key index items = .ok texts ↔ items = texts.map .text := by
  induction items generalizing index texts with
  | nil => simp [readTexts, eq_comm]
  | cons item rest ih =>
      cases item with
      | text s =>
          rw [readTexts, bind_eq_ok_iff]
          simp only [ih, pure_eq_ok, Except.ok.injEq]
          constructor
          · rintro ⟨_, rfl, rfl⟩
            rfl
          · intro same
            cases texts with
            | nil => cases same
            | cons first later =>
                obtain ⟨head, rfl⟩ := List.cons.inj same
                cases head
                exact ⟨later, rfl, rfl⟩
      | _ => cases texts <;> simp [readTexts]

theorem readList_eq_ok_iff {texts : List String} :
    readList key setting = .ok texts ↔ MeansTexts setting texts := by
  cases setting with
  | list items => simp [readList, readTexts_eq_ok_iff, MeansTexts]
  | _ => simp [readList, MeansTexts]

theorem ofLayers_eq_ok_iff : ofLayers layers = .ok config ↔
    take layers "validate_challenge_response" readFlag true = .ok config.validateChallenge ∧
    take layers "remote_pin_allowed" readFlag true = .ok config.remotePinAllowed ∧
    take layers "enforce_update_allowlist" readFlag true = .ok config.enforceAllowlist ∧
    take layers "update_allowlist" readList ["openecard.org", "*.openecard.org"] =
      .ok config.allowlist ∧
    take layers "trust_store" readPath none = .ok config.trustStore := by
  obtain ⟨validate, remote, enforce, allowlist, store⟩ := config
  simp only [ofLayers, bind_eq_ok_iff, pure_eq_ok, Except.ok.injEq, Config.mk.injEq, standard]
  constructor
  · rintro ⟨_, first, _, second, _, third, _, fourth, _, fifth, rfl, rfl, rfl, rfl, rfl⟩
    exact ⟨fifth, second, first, fourth, third⟩
  · rintro ⟨fifth, second, first, fourth, third⟩
    exact ⟨_, first, _, second, _, third, _, fourth, _, fifth, rfl, rfl, rfl, rfl, rfl⟩

theorem ofLayers_congr (same : ∀ entry ∈ shapes, layers entry.1 = others entry.1) :
    ofLayers layers = ofLayers others := by
  simp only [shapes, List.forall_mem_cons] at same
  obtain ⟨enforce, remote, store, allowlist, validate, -⟩ := same
  simp only [ofLayers, take, enforce, remote, store, allowlist, validate]

theorem FileGives.nodup (gives : FileGives file entries) : (entries.map Prod.fst).Nodup := by
  cases gives with
  | absent => exact List.nodup_nil
  | content decoded parsed => exact Toml.nodup_of_parse parsed

theorem FileGives.load_eq (gives : FileGives file entries) :
    load file environment = ofLayers (setting? (ofEntries entries) (ofEnvironment environment)) := by
  cases gives with
  | absent => rfl
  | content decoded parsed => simp [load, decoded, parsed]

section Once

variable (once : (entries.map Prod.fst).Nodup)
include once

/-- There is one value in force, if it be that there is none but the default. -/
theorem existsUnique_effective (environment : List (String × String)) (key : String) :
    ∃! effective, Effective entries environment key effective :=
  ⟨_, (setting?_eq_iff once).mp rfl, fun _ other => ((setting?_eq_iff once).mpr other).symm⟩

theorem take_eq_ok_iff {read : String → Setting → Except Issue α} {Means : Setting → α → Prop}
    {default value : α} (reads : ∀ setting, read key setting = .ok value ↔ Means setting value) :
    take (setting? (ofEntries entries) (ofEnvironment environment)) key read default = .ok value ↔
      Takes entries environment key Means default value := by
  unfold take Takes
  simp only [← setting?_eq_iff once]
  split
  · next setting found => simp [found, reads]
  · next missing => simp [missing, eq_comm]

theorem exists_takes_iff {Means : Setting → α → Prop} {default : α} :
    (∃ value, Takes entries environment key Means default value) ↔
      ∀ setting, Effective entries environment key (some setting) →
        ∃ value, Means setting value := by
  obtain ⟨effective, stands, unique⟩ := existsUnique_effective once environment key
  constructor
  · rintro ⟨value, ⟨setting, given, means⟩ | ⟨missing, -⟩⟩ other effective
    · obtain rfl := Option.some.inj ((unique _ given).trans (unique _ effective).symm)
      exact ⟨value, means⟩
    · cases (unique _ missing).trans (unique _ effective).symm
  · intro fits
    cases effective with
    | some setting => exact (fits setting stands).imp fun _ means => .inl ⟨setting, stands, means⟩
    | none => exact ⟨default, .inr ⟨stands, rfl⟩⟩

end Once

theorem silent_iff : Silent environment key ↔ ∀ setting, ¬ Given environment key setting := by
  rw [← find?_ofEnvironment_eq_none_iff, Option.eq_none_iff_forall_ne_some]
  simp only [ne_eq, find?_ofEnvironment_eq_some_iff]

/-- What stands in the file below the environment has no effect. -/
theorem Effective.transfer
    (given : ∀ setting, Given environment key setting ↔ Given newEnvironment key setting)
    (written : Silent environment key → ∀ value, (key, value) ∈ entries ↔ (key, value) ∈ newEntries)
    (stands : Effective entries environment key effective) :
    Effective newEntries newEnvironment key effective := by
  have silenced (silent : Silent environment key) : Silent newEnvironment key :=
    silent_iff.mpr fun setting => mt (given setting).mpr (silent_iff.mp silent setting)
  cases stands with
  | environment stands => exact .environment ((given _).mp stands)
  | file silent stands => exact .file (silenced silent) ((written silent _).mp stands)
  | default silent absent =>
      exact .default (silenced silent) fun value => mt (written silent value).mpr (absent value)

/-- The layers differ from new ones only in what is overridden and under keys that are not known. -/
structure Alike (entries : Toml.Entries) (environment : List (String × String))
    (newEntries : Toml.Entries) (newEnvironment : List (String × String)) : Prop where
  given : ∀ entry ∈ shapes, ∀ setting,
    Given environment entry.1 setting ↔ Given newEnvironment entry.1 setting
  written : ∀ entry ∈ shapes, Silent environment entry.1 →
    ∀ value, (entry.1, value) ∈ entries ↔ (entry.1, value) ∈ newEntries

theorem Alike.load_eq (alike : Alike entries environment newEntries newEnvironment)
    (gives : FileGives file entries) (newGives : FileGives newFile newEntries) :
    load newFile newEnvironment = load file environment := by
  rw [gives.load_eq, newGives.load_eq]
  refine ofLayers_congr fun entry known => (setting?_eq_iff newGives.nodup).mpr ?_
  exact ((setting?_eq_iff gives.nodup).mp rfl).transfer (alike.given entry known)
    (alike.written entry known)

/-- The configuration whose settings are each taken from the highest layer that gives it. -/
structure TakenFrom (entries : Toml.Entries) (environment : List (String × String))
    (config : Config) : Prop where
  validateChallenge : Takes entries environment "validate_challenge_response" MeansFlag true
    config.validateChallenge
  remotePinAllowed : Takes entries environment "remote_pin_allowed" MeansFlag true
    config.remotePinAllowed
  enforceAllowlist : Takes entries environment "enforce_update_allowlist" MeansFlag true
    config.enforceAllowlist
  allowlist : Takes entries environment "update_allowlist" MeansTexts
    ["openecard.org", "*.openecard.org"] config.allowlist
  trustStore : Takes entries environment "trust_store" MeansPath none config.trustStore

theorem FileGives.load_eq_ok_iff (gives : FileGives file entries) :
    load file environment = .ok config ↔ TakenFrom entries environment config := by
  have once := gives.nodup
  rw [gives.load_eq, ofLayers_eq_ok_iff, take_eq_ok_iff once fun _ => readFlag_eq_ok_iff,
    take_eq_ok_iff once fun _ => readFlag_eq_ok_iff, take_eq_ok_iff once fun _ => readFlag_eq_ok_iff,
    take_eq_ok_iff once fun _ => readList_eq_ok_iff, take_eq_ok_iff once fun _ => readPath_eq_ok_iff]
  constructor
  · rintro ⟨validate, remote, enforce, allowlist, store⟩
    exact ⟨validate, remote, enforce, allowlist, store⟩
  · rintro ⟨validate, remote, enforce, allowlist, store⟩
    exact ⟨validate, remote, enforce, allowlist, store⟩

theorem FileGives.loads_iff (gives : FileGives file entries) :
    (∃ config, load file environment = .ok config) ↔
      ∀ entry ∈ shapes, ∀ setting, Effective entries environment entry.1 (some setting) →
        entry.2.Fits setting := by
  simp only [gives.load_eq_ok_iff, shapes, List.forall_mem_cons]
  have once := gives.nodup
  constructor
  · rintro ⟨config, taken⟩
    exact ⟨(exists_takes_iff once).mp ⟨_, taken.enforceAllowlist⟩,
      (exists_takes_iff once).mp ⟨_, taken.remotePinAllowed⟩,
      (exists_takes_iff once).mp ⟨_, taken.trustStore⟩,
      (exists_takes_iff once).mp ⟨_, taken.allowlist⟩,
      (exists_takes_iff once).mp ⟨_, taken.validateChallenge⟩, nofun⟩
  · rintro ⟨enforce, remote, store, allowlist, validate, -⟩
    obtain ⟨_, enforces⟩ := (exists_takes_iff once).mpr enforce
    obtain ⟨_, remotes⟩ := (exists_takes_iff once).mpr remote
    obtain ⟨_, stores⟩ := (exists_takes_iff once).mpr store
    obtain ⟨_, lists⟩ := (exists_takes_iff once).mpr allowlist
    obtain ⟨_, validates⟩ := (exists_takes_iff once).mpr validate
    exact ⟨⟨_, _, _, _, _⟩, ⟨validates, remotes, enforces, lists, stores⟩⟩

/-- The highest layer that gives the setting says no. -/
def SaysNo (entries : Toml.Entries) (environment : List (String × String)) (key : String) : Prop :=
  Given environment key (.flag false) ∨
    Silent environment key ∧ (key, Toml.Value.flag false) ∈ entries

theorem effective_no_iff :
    Effective entries environment key (some (.flag false)) ↔ SaysNo entries environment key := by
  constructor
  · generalize same : some (Setting.flag false) = effective
    rintro (given | ⟨silent, written⟩ | -)
    · cases same
      exact .inl given
    · rename_i value
      cases value <;> simp [Setting.ofToml] at same
      exact .inr ⟨silent, same ▸ written⟩
    · cases same
  · rintro (given | ⟨silent, written⟩)
    · exact .environment given
    · exact .file silent written

theorem takes_no_iff {b : Bool} (once : (entries.map Prod.fst).Nodup)
    (takes : Takes entries environment key MeansFlag true b) :
    b = false ↔ SaysNo entries environment key := by
  rw [← effective_no_iff]
  constructor
  · rintro rfl
    obtain ⟨_, stands, rfl⟩ | ⟨-, odd⟩ := takes
    · exact stands
    · cases odd
  · intro no
    obtain ⟨_, stands, rfl⟩ | ⟨stands, -⟩ := takes
    · cases (existsUnique_effective once environment key).unique stands no
      rfl
    · cases (existsUnique_effective once environment key).unique stands no

theorem gives_flag_iff {name value : String} {b : Bool} : Gives name value key (.flag b) ↔
    Names name key [] ∧ ∃ ahead behind, (∀ c ∈ ahead ++ behind, Setting.isBlank c = true) ∧
      value.toList = ahead ++ Setting.flagWord b ++ behind := by
  rw [← Setting.ofText_eq_flag_iff]
  constructor
  · generalize same : Setting.flag b = setting
    rintro (names | -)
    · exact ⟨names, rfl⟩
    · cases same
  · rintro ⟨names, means⟩
    exact means ▸ .whole names

/-- Each setting has one value in force. A configuration is loaded if each of these values is of the type of
its setting, and consists of what they mean and of the defaults in place of the missing ones. Neither
what is overridden nor what stands under other keys has an effect. A check is off only if the highest
layer that gives it says no. Of variables without blanks and points, no two of which differ by letter case
alone, the order does not matter. -/
theorem settings_overridden_one_by_one (gives : FileGives file entries)
    (environment : List (String × String)) :
    (∀ key, ∃! effective, Effective entries environment key effective) ∧
    (∀ config, load file environment = .ok config ↔ TakenFrom entries environment config) ∧
    ((∃ config, load file environment = .ok config) ↔
      ∀ entry ∈ shapes, ∀ setting, Effective entries environment entry.1 (some setting) →
        entry.2.Fits setting) ∧
    (∀ newFile newEntries newEnvironment, FileGives newFile newEntries →
      Alike entries environment newEntries newEnvironment →
      load newFile newEnvironment = load file environment) ∧
    (∀ config, load file environment = .ok config →
      (config.validateChallenge = false ↔
        SaysNo entries environment "validate_challenge_response") ∧
      (config.enforceAllowlist = false ↔ SaysNo entries environment "enforce_update_allowlist")) ∧
    (∀ name value key b, Gives name value key (.flag b) ↔
      Names name key [] ∧ ∃ ahead behind, (∀ c ∈ ahead ++ behind, Setting.isBlank c = true) ∧
        value.toList = ahead ++ Setting.flagWord b ++ behind) ∧
    ((environment.map fun entry => entry.1.toLower).Nodup →
      (∀ entry ∈ environment, ∀ c ∈ entry.1.toList, isBlank c = false ∧ c ≠ '.') →
      ∀ key setting, Given environment key setting ↔
        ∃ entry ∈ environment, Gives entry.1 entry.2 key setting) := by
  have once := gives.nodup
  refine ⟨existsUnique_effective once environment, fun config => gives.load_eq_ok_iff,
    gives.loads_iff, ?_, fun config loaded => ?_, fun name value key b => gives_flag_iff, ?_⟩
  · exact fun newFile newEntries newEnvironment newGives alike => alike.load_eq gives newGives
  · have taken := gives.load_eq_ok_iff.mp loaded
    exact ⟨takes_no_iff once taken.validateChallenge, takes_no_iff once taken.enforceAllowlist⟩
  · exact fun distinct plain key setting => given_iff_of_distinct distinct plain

def oddDocument : String := "trust_store=3\nx=1\nremote_pin_allowed=false"

def oddEntries : Toml.Entries :=
  [("trust_store", .integer 3), ("x", .integer 1), ("remote_pin_allowed", .flag false)]

def oddEnvironment : List (String × String) :=
  [("PATH", "/"), ("ChipGateway_Trust_Store", "a"),
    ("CHIPGATEWAY_VALIDATE_CHALLENGE_RESPONSE", " false")]

theorem oddEntries_alike : Alike oddEntries oddEnvironment
    [("remote_pin_allowed", .flag false)] oddEnvironment where
  given _ _ _ := Iff.rfl
  written := by
    have given : ¬ Silent oddEnvironment "trust_store" := by
      rw [← find?_ofEnvironment_eq_none_iff]
      exact Option.ne_none_iff_isSome.mpr (by decide +kernel)
    simp [shapes, oddEntries, given]

theorem names_odd_variable : Names "ChipGateway_Trust_Store" "trust_store" [] where
  spelled := ⟨"ChipGateway_".toList, "Trust_Store".toList, "Trust_Store".toList, by decide +kernel⟩
  filled := by decide
  whole := by decide +kernel

theorem oddEnvironment_plain :
    ∀ entry ∈ oddEnvironment, ∀ c ∈ entry.1.toList, isBlank c = false ∧ c ≠ '.' := by
  have solid : oddEnvironment.all
      fun entry => entry.1.toList.all fun c => !isBlank c && c != '.' := by decide +kernel
  simpa only [List.all_eq_true, Bool.and_eq_true, Bool.not_eq_true', bne_iff_ne] using solid

/-- The number does not prevent loading while a variable stands above it, and the unknown key does not
count. -/
theorem odd_number_overridden :
    let file := some (Utf8.encode oddDocument)
    let config := { standard with
      validateChallenge := false, remotePinAllowed := false, trustStore := some "a" }
    load file oddEnvironment = .ok config ∧
      TakenFrom oddEntries oddEnvironment config ∧
      load (some (Utf8.encode "remote_pin_allowed=false")) oddEnvironment = .ok config ∧
      SaysNo oddEntries oddEnvironment "validate_challenge_response" ∧
      Given oddEnvironment "trust_store" (.text "a") ∧
      ¬ ∃ config, load file [] = .ok config := by
  intro file config
  have gives : FileGives file oddEntries := .content (Utf8.decode?_encode _) (by cbv)
  have plain : FileGives (some (Utf8.encode "remote_pin_allowed=false"))
      [("remote_pin_allowed", .flag false)] := .content (Utf8.decode?_encode _) (by cbv)
  have loaded : load file oddEnvironment = .ok config := by decide +kernel
  obtain ⟨-, taken, -, same, off, -, orderless⟩ :=
    settings_overridden_one_by_one gives oddEnvironment
  obtain ⟨-, -, loads, -⟩ := settings_overridden_one_by_one gives []
  refine ⟨loaded, (taken config).mp loaded, (same _ _ _ plain oddEntries_alike).trans loaded,
    (off config loaded).1.mp rfl, ?_, fun loadable => ?_⟩
  · have text : Setting.ofText "a" = .text "a" := by cbv
    refine (orderless (by decide +kernel) oddEnvironment_plain "trust_store" (.text "a")).mpr ?_
    exact ⟨("ChipGateway_Trust_Store", "a"), by simp [oddEnvironment],
      text ▸ .whole names_odd_variable⟩
  · have written : ("trust_store", Toml.Value.integer 3) ∈ oddEntries := List.mem_cons_self
    have silent : Silent [] "trust_store" := fun _ member => absurd member List.not_mem_nil
    obtain ⟨_, _, odd, -⟩ :=
      loads.mp loadable ("trust_store", .path) (by simp [shapes]) _ (.file silent written)
    cases odd

end Config

end CardGateway
