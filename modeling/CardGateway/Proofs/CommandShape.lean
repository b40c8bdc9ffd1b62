import CardGateway.Proofs.JsonMembers
import CardGateway.Proofs.MessageRoundTrip
import CardGateway.Proofs.Notices

/-!
# Objects that hold one command

An object is a command exactly if one of four members holds a request. What the other members hold,
and where they stand, makes no difference.
-/

namespace CardGateway

open CardGateway.Json

/-- There is one value at most, and it is null. -/
def Json.Vacant (values : List Node) : Prop := values.length ≤ 1 ∧ ∀ value ∈ values, value = .null

theorem Json.Vacant.nil : Vacant [] :=
  ⟨Nat.zero_le _, fun _ member => absurd member List.not_mem_nil⟩

theorem Json.Vacant.null : Vacant [.null] :=
  ⟨Nat.le_refl _, fun _ member => List.mem_singleton.mp member⟩

namespace Json.Field

variable {α : Type} {codec : Codec α} {name : String} {values : List Node}

theorem optional_read : (optional name codec).read = codec.optional.read := rfl

theorem optional_holds_none_iff : (optional name codec).Holds values none ↔ Vacant values := by
  constructor
  · intro holds
    cases holds with
    | absent => exact .nil
    | @given node _ read =>
        refine ⟨Nat.le_refl _, fun value member => ?_⟩
        obtain rfl := List.mem_singleton.mp member
        by_contra some
        rw [optional_read, Codec.Faithful.read_optional some] at read
        cases inner : codec.read value <;> simp [inner, Except.map] at read
  · rintro ⟨once, null⟩
    match values, once with
    | [], _ => exact .absent rfl
    | [value], _ =>
        obtain rfl := null value List.mem_cons_self
        exact .given rfl

theorem optional_holds_some_iff {found : α} : (optional name codec).Holds values (some found) ↔
    ∃ value, values = [value] ∧ value ≠ .null ∧ codec.read value = .ok found := by
  constructor
  · intro holds
    cases holds with
    | absent default => cases default
    | @given value _ read =>
        have present : value ≠ .null := by
          rintro rfl
          cases read
        rw [optional_read, Codec.Faithful.read_optional present] at read
        refine ⟨value, rfl, present, ?_⟩
        cases inner : codec.read value with
        | error fault => simp [inner, Except.map] at read
        | ok other =>
            rw [inner] at read
            obtain rfl := Option.some.inj (Except.ok.inj read)
            rfl
  · rintro ⟨value, rfl, present, read⟩
    refine .given ?_
    rw [optional_read, Codec.Faithful.read_optional present, read]
    rfl

end Json.Field

namespace Command

def ReadFrom (value : Node) : Command → Prop
  | .listTokens request => ListTokensRequest.codec.read value = .ok request
  | .listCertificates request => ListCertificatesRequest.codec.read value = .ok request
  | .sign request => SignRequest.codec.read value = .ok request
  | .terminate message => Terminate.codec.read value = .ok message

/-- No name of a request stands twice; the command's has a value other than null, from which its
request is read; the other three have none. -/
structure Sole (members : List (Bytes × Node)) (command : Command) : Prop where
  once : ∀ name ∈ Slots.fields.names, (valuesOf name members).length ≤ 1
  told : ∃ value ∈ valuesOf command.name members, value ≠ .null ∧ command.ReadFrom value
  alone : ∀ name ∈ Slots.fields.names, name ≠ command.name →
    ∀ value ∈ valuesOf name members, value = .null

theorem Slots.names_eq :
    Slots.fields.names =
      ["ListTokensRequest", "ListCertificatesRequest", "SignRequest", "Terminate"] := rfl

theorem name_mem (command : Command) : command.name ∈ Slots.fields.names := by
  rw [Slots.names_eq]
  cases command <;> simp [name]

theorem sole_iff {members : List (Bytes × Node)} {command : Command} : Sole members command ↔
    (∃ value, valuesOf command.name members = [value] ∧ value ≠ .null ∧ command.ReadFrom value) ∧
      ∀ name ∈ Slots.fields.names, name ≠ command.name → Vacant (valuesOf name members) := by
  constructor
  · rintro ⟨once, ⟨value, mem, told⟩, alone⟩
    refine ⟨⟨value, ?_, told⟩, fun name known other => ⟨once name known, alone name known other⟩⟩
    obtain ⟨only, same⟩ := List.length_eq_one_iff.mp
      (Nat.le_antisymm (once _ command.name_mem) (List.length_pos_of_mem mem))
    rw [same] at mem ⊢
    rw [List.mem_singleton.mp mem]
  · rintro ⟨⟨value, same, told⟩, vacant⟩
    refine ⟨fun name known => ?_, ⟨value, by rw [same]; exact List.mem_cons_self, told⟩,
      fun name known other => (vacant name known other).2⟩
    by_cases own : name = command.name
    · rw [own, same]
      exact Nat.le_refl _
    · exact (vacant name known own).1

namespace Slots

theorem holds_slots_iff {members : List (Bytes × Node)} {command : Command} :
    Slots.fields.Holds (fun name => valuesOf name members) (command.slots.listTokens,
      command.slots.listCertificates, command.slots.sign, command.slots.terminate, ()) ↔
        Sole members command := by
  rw [sole_iff]
  cases command <;>
    simp [Slots.fields, Fields.Holds, Fields.names, Field.optional_holds_none_iff,
      Field.optional_holds_some_iff, ReadFrom, Command.name, Command.slots, Slots.empty,
      and_left_comm, and_comm, and_assoc]

end Slots

theorem read_eq_ok_iff {members : List (Bytes × Node)} {command : Command} :
    Command.codec.read (.record (.closed members)) = .ok command ↔
      (∀ member ∈ members, Passes Slots.fields.names member) ∧ Sole members command := by
  have split : Command.codec.read (.record (.closed members)) = .ok command ↔
      Slots.codec.read (.record (.closed members)) = .ok command.slots := by
    refine bind_eq_ok_iff.trans ⟨?_, fun read => ⟨_, read, command_slots command⟩⟩
    rintro ⟨slots, read, one⟩
    rwa [Slots.command_eq_ok_iff.mp one] at read
  rw [split, ← Slots.holds_slots_iff]
  exact Fields.codec_read_eq_ok_iff (by decide) (fun _ => rfl) fun _ => rfl

/-- All names are texts. -/
def Named (members : List (Bytes × Node)) : Prop :=
  ∀ member ∈ members, ∃ name, readText member.1 = .ok name

/-- Whatever text an object has, it is read as the one command that it holds, and as no other. An
object that holds no command, or has a name that is no text, is the server's fault. A command is
written as an object with one member. -/
theorem decode_object [Url.HostMapping] (session : Session) :
    (∀ text members, Denotes text (.record (.closed members)) →
      (∀ command, session.decode Command.codec text = .ok command ↔
        Named members ∧ Sole members command) ∧
      ((∀ command, ¬ (Named members ∧ Sole members command)) →
        ∃ fault failure, session.decode Command.codec text = .error failure ∧
          session.Fails (.message fault) failure ∧ (Cause.message fault).blame = .server)) ∧
    ∀ command : Command, ∃ key value,
      Denotes (Command.codec.encode command) (.record (.closed [(key, value)])) ∧
        readText key = .ok command.name := by
  refine ⟨fun text members denotes => ?_, fun command => ?_⟩
  · have read : ∀ command, session.decode Command.codec text = .ok command ↔
        Named members ∧ Sole members command := by
      intro command
      rw [Session.decode_eq_ok_iff, denotes.decode_eq, read_eq_ok_iff, denotes.passes_iff]
      exact Iff.rfl
    refine ⟨read, fun unnamed => ?_⟩
    cases decoded : Command.codec.decode text with
    | ok command =>
        exact absurd ((read command).mp (Session.decode_eq_ok_iff.mpr decoded)) (unnamed command)
    | error fault =>
        have refused : session.decode Command.codec text =
            .error (session.fail (.message fault)) := by
          rw [Session.decode, decoded]
        exact ⟨fault, _, refused, session.fails (.message fault), rfl⟩
  · obtain ⟨value, written⟩ :
        ∃ value, Command.codec.write command = .record [(command.name, value)] := by
      cases command <;> exact ⟨_, rfl⟩
    have denotes := (Command.codec.write command).denotes_toBytes
    rw [written] at denotes
    exact ⟨rawText command.name, value.node, by rw [Codec.encode, written]; exact denotes,
      readText_rawText command.name⟩

def ending : Node := .record (.closed [(rawText "Result", .text (rawText "OK"))])

theorem readFrom_ending : ReadFrom ending (.terminate ⟨none, .ok⟩) := rfl

theorem spelling_ending : ∃ text, Spelling (.node ending) text ∧
    text = Text.Utf8.encode "\x7b\"Result\":\"OK\"\x7d" :=
  ⟨_, .record (.member (.opening .nil) (quoted_rawText "Result") .nil .nil
    (.text (quoted_rawText "OK")) (.endMembers .nil)), by decide +kernel⟩

theorem sole_ending {members : List (Bytes × Node)} (own : valuesOf "Terminate" members = [ending])
    (tokens : Vacant (valuesOf "ListTokensRequest" members))
    (certificates : Vacant (valuesOf "ListCertificatesRequest" members))
    (sign : Vacant (valuesOf "SignRequest" members)) : Sole members (.terminate ⟨none, .ok⟩) := by
  rw [sole_iff]
  refine ⟨⟨ending, own, by simp [ending], readFrom_ending⟩, fun name known other => ?_⟩
  simp only [Slots.names_eq, List.mem_cons, List.not_mem_nil, or_false] at known
  rcases known with rfl | rfl | rfl | rfl
  · exact tokens
  · exact certificates
  · exact sign
  · exact absurd rfl other

/-- An object that holds the end of a session, with an unknown member and a request that is null. -/
def mixed : Bytes := Text.Utf8.encode
  " \x7b\"X\": \"\\ud800\",\"SignRequest\":null , \"Terminate\":\x7b\"Result\":\"OK\"\x7d\x7d"

def mixedMembers : List (Bytes × Node) :=
  [(rawText "X", .text lone), (rawText "SignRequest", .null), (rawText "Terminate", ending)]

theorem denotes_mixed : Denotes mixed (.record (.closed mixedMembers)) := by
  obtain ⟨text, spelled, rfl⟩ := spelling_ending
  have whole := Denotes.mk .space (.record (.member (.opening .nil) (quoted_rawText "X") .nil .space
    (.text quoted_lone) (.member (.comma .nil .nil) (quoted_rawText "SignRequest") .nil .nil .null
      (.member (.comma .space .space) (quoted_rawText "Terminate") .nil .nil spelled
        (.endMembers .nil))))) .nil
  exact whole.of_eq (by decide +kernel)

theorem sole_mixed : Sole mixedMembers (.terminate ⟨none, .ok⟩) :=
  sole_ending rfl .nil .nil .null

/-- The end of the session is read behind other members; in an empty object nothing is. -/
theorem objects_decoded :
    Session.bare.decode Command.codec mixed = .ok (.terminate ⟨none, .ok⟩) ∧
      ∃ fault failure, Session.bare.decode Command.codec [0x7B, 0x7D] = .error failure ∧
        Session.bare.Fails (.message fault) failure ∧ (Cause.message fault).blame = .server := by
  have named : Named mixedMembers := by simp [Named, mixedMembers, readText_rawText]
  have empty : Denotes [0x7B, 0x7D] (.record (.closed [])) :=
    .mk .nil (.record (.endMembers .nil)) .nil
  have unnamed : ∀ command, ¬ (Named [] ∧ Sole [] command) := by
    rintro command ⟨-, sole⟩
    obtain ⟨value, mem, -⟩ := sole.told
    cases mem
  obtain ⟨read, -⟩ := decode_object .bare
  exact ⟨((read _ _ denotes_mixed).1 _).mpr ⟨named, sole_mixed⟩, (read _ _ empty).2 unnamed⟩

/-- An object that holds the end of a session, and a name that is no text. -/
def nameless : Bytes :=
  Text.Utf8.encode "\x7b\"\\ud800\":0,\"Terminate\":\x7b\"Result\":\"OK\"\x7d\x7d"

def namelessMembers : List (Bytes × Node) :=
  [(lone, .number ⟨false, [0], none, none⟩ .complete), (rawText "Terminate", ending)]

theorem denotes_nameless : Denotes nameless (.record (.closed namelessMembers)) := by
  obtain ⟨text, spelled, rfl⟩ := spelling_ending
  have whole := Denotes.mk .nil (.record (.member (.opening .nil) quoted_lone .nil .nil
    (.number (.positive (.mk whole_zero .absent .absent)))
      (.member (.comma .nil .nil) (quoted_rawText "Terminate") .nil .nil spelled
        (.endMembers .nil)))) .nil
  exact whole.of_eq (by decide +kernel)

/-- A name that is no text is not passed over, though what it names is. -/
theorem nameless_member_not_skipped : Denotes nameless (.record (.closed namelessMembers)) ∧
    Sole namelessMembers (.terminate ⟨none, .ok⟩) ∧
      Session.bare.decode Command.codec nameless ≠ .ok (.terminate ⟨none, .ok⟩) := by
  refine ⟨denotes_nameless, sole_ending rfl .nil .nil .nil, fun read => ?_⟩
  rw [Session.decode_eq_ok_iff, denotes_nameless.decode_eq, read_eq_ok_iff] at read
  obtain ⟨name, text, -⟩ := read.1 _ List.mem_cons_self
  cases text

end Command

end CardGateway
