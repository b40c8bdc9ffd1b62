import Mathlib.Data.List.Forall2
import CardGateway.Proofs.CommandShape
import CardGateway.Proofs.Echo

/-!
# Texts that differ in echoes

Two texts of the server that are read, and whose objects differ in nothing but the members that echo
something, are read alike but for what they echo.
-/

namespace CardGateway

open CardGateway.Json

/-- Two objects give the same values to all names but some. -/
def Json.AgreeBut (left : List String) (members others : List (Bytes × Node)) : Prop :=
  ∀ name ∉ left, valuesOf name members = valuesOf name others

/-- The same value, or objects that may name different sessions. -/
inductive Json.Likewise : Node → Node → Prop where
  | refl {node : Node} : Likewise node node
  | record {members others : List (Bytes × Node)}
      (agree : AgreeBut ["SessionIdentifier"] members others) :
      Likewise (.record (.closed members)) (.record (.closed others))

/-- The values of a field follow from those of its members. -/
theorem Json.Field.Holds.agree {α : Type} {field : Field α} {left : List String}
    {members others : List (Bytes × Node)} {value other : α} (agree : AgreeBut left members others)
    (holds : field.Holds (valuesOf field.name members) value)
    (again : field.Holds (valuesOf field.name others) other) (kept : field.name ∉ left) :
    value = other :=
  (agree _ kept ▸ holds).unique again

theorem HelloResponse.unechoed_eq {members others : List (Bytes × Node)}
    (agree : AgreeBut ["SessionIdentifier", "Challenge"] members others)
    {response other : HelloResponse}
    (read : HelloResponse.codec.read (.record (.closed members)) = .ok response)
    (again : HelloResponse.codec.read (.record (.closed others)) = .ok other) :
    response.unechoed = other.unechoed := by
  have values {members : List (Bytes × Node)} {response : HelloResponse}
      (read : HelloResponse.codec.read (.record (.closed members)) = .ok response) :=
    ((Fields.codec_read_eq_ok_iff (by decide) (fun _ => rfl) fun _ => rfl).mp read).2
  obtain ⟨-, code, signature, address, -⟩ := values read
  obtain ⟨-, code', signature', address', -⟩ := values again
  have result : response.result = other.result := code.agree agree code' (by decide)
  have signed : response.signature = other.signature := signature.agree agree signature' (by decide)
  have offered : response.downloadAddress = other.downloadAddress :=
    address.agree agree address' (by decide)
  rw [HelloResponse.unechoed, HelloResponse.unechoed, result, signed, offered]

/-- A record that begins with a session is read alike but for it. -/
theorem Json.Likewise.rest_eq {α ρ δ : Type} {field : Field (Option String)} {rest : Fields ρ δ}
    {name : String} {build : Option String × ρ → α} {row : α → Option String × ρ}
    (whole : ∀ value, build (row value) = value) (back : ∀ values, row (build values) = values)
    (distinct : (Fields.cons field rest).names.Nodup) (session : field.name = "SessionIdentifier")
    {node other : Node} (likewise : Likewise node other) {value twin : α}
    (read : ((Fields.cons field rest).codec name build row).read node = .ok value)
    (again : ((Fields.cons field rest).codec name build row).read other = .ok twin) :
    (row value).2 = (row twin).2 := by
  cases likewise with
  | refl => rw [Except.ok.inj (read.symm.trans again)]
  | record agree =>
      obtain ⟨-, -, holds⟩ := (Fields.codec_read_eq_ok_iff distinct whole back).mp read
      obtain ⟨-, -, second⟩ := (Fields.codec_read_eq_ok_iff distinct whole back).mp again
      refine holds.agree (fun name known => agree name ?_) second
      rw [List.mem_singleton]
      rintro rfl
      exact (List.nodup_cons.mp distinct).1 (session ▸ known)

theorem Json.Likewise.null_iff {node other : Node} (likewise : Likewise node other) :
    node = .null ↔ other = .null := by
  cases likewise with
  | refl => exact Iff.rfl
  | record => exact ⟨nofun, nofun⟩

/-- A request is read alike but for the session that it names. -/
theorem Command.unnamed_eq {value other : Node} (likewise : Likewise value other)
    {command again : Command} (same : command.name = again.name) (read : command.ReadFrom value)
    (second : again.ReadFrom other) : command.unnamed = again.unnamed := by
  cases command with
  | listTokens request =>
      cases again with
      | listTokens twin =>
          have rest := likewise.rest_eq (fun _ => rfl) (fun _ => rfl) (by decide) rfl read second
          simpa [Command.unnamed] using rest
      | _ => simp [Command.name] at same
  | listCertificates request =>
      cases again with
      | listCertificates twin =>
          have rest := likewise.rest_eq (fun _ => rfl) (fun _ => rfl) (by decide) rfl read second
          simpa [Command.unnamed] using rest
      | _ => simp [Command.name] at same
  | sign request =>
      cases again with
      | sign twin =>
          have rest := likewise.rest_eq (fun _ => rfl) (fun _ => rfl) (by decide) rfl read second
          simpa [Command.unnamed] using rest
      | _ => simp [Command.name] at same
  | terminate message =>
      cases again with
      | terminate twin =>
          have rest := likewise.rest_eq (fun _ => rfl) (fun _ => rfl) (by decide) rfl read second
          simpa [Command.unnamed] using rest
      | _ => simp [Command.name] at same

/-- Objects whose requests differ in nothing but their sessions hold commands that are the same but for
that. -/
theorem Command.Sole.unnamed_eq {members others : List (Bytes × Node)}
    (likewise : ∀ name ∈ Slots.fields.names,
      List.Forall₂ Likewise (valuesOf name members) (valuesOf name others))
    {command twin : Command} (sole : Sole members command) (again : Sole others twin) :
    command.unnamed = twin.unnamed := by
  obtain ⟨⟨value, only, solid, read⟩, -⟩ := sole_iff.mp sole
  obtain ⟨⟨other, second, -, later⟩, -⟩ := sole_iff.mp again
  have paired := likewise command.name command.name_mem
  rw [only] at paired
  cases met : valuesOf command.name others with
  | nil =>
      rw [met] at paired
      cases paired
  | cons partner rest =>
      rw [met] at paired
      obtain ⟨alike, -⟩ := List.forall₂_cons.mp paired
      have same : command.name = twin.name := by
        by_contra apart
        have vacant := again.alone _ command.name_mem apart partner (met ▸ List.mem_cons_self)
        exact solid (alike.null_iff.mpr vacant)
      rw [← same, met] at second
      obtain ⟨rfl, -⟩ := List.cons.inj second
      exact Command.unnamed_eq alike same read later

namespace Setup

variable {setup : Setup} {answer other : Bytes} {members others : List (Bytes × Node)}
  (denotes : Denotes answer (.record (.closed members)))
  (again : Denotes other (.record (.closed others)))

include denotes again

/-- Answers to the hello that are read, and differ in nothing but the session and the challenge. -/
theorem echoes_of_greetings (agree : AgreeBut ["SessionIdentifier", "Challenge"] members others)
    {response twin : HelloResponse} (read : HelloResponse.codec.decode answer = .ok response)
    (second : HelloResponse.codec.decode other = .ok twin) :
    setup.Echoes (setup.session.resource .hello) answer other := by
  rw [echoes_hello, read, second]
  rw [denotes.decode_eq] at read
  rw [again.decode_eq] at second
  exact congrArg Except.ok (HelloResponse.unechoed_eq agree read second)

/-- Commands that are read, and differ in nothing but the sessions that they name. -/
theorem echoes_of_commands {resource : String} (apart : resource ≠ setup.session.resource .hello)
    (likewise : ∀ name ∈ Command.Slots.fields.names,
      List.Forall₂ Likewise (valuesOf name members) (valuesOf name others))
    {command twin : Command} (read : Command.codec.decode answer = .ok command)
    (second : Command.codec.decode other = .ok twin) : setup.Echoes resource answer other := by
  rw [echoes_of_ne apart, read, second]
  rw [denotes.decode_eq, Command.read_eq_ok_iff] at read
  rw [again.decode_eq, Command.read_eq_ok_iff] at second
  exact congrArg Except.ok (read.2.unnamed_eq likewise second.2)

end Setup

end CardGateway
