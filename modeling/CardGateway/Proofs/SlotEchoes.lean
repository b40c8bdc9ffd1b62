import CardGateway.Proofs.BinaryFields
import CardGateway.Proofs.CommandShape
import CardGateway.Proofs.PinProvenance

/-!
# Slot handles that come back

The server is told of a slot by the text of its handle, and names the slot by that text in its
requests. In whatever case of letters the text comes back, the request is read as if it were the text
that was sent, and it is this slot that the card is asked about.
-/

namespace CardGateway

open CardGateway.Json CardGateway.Text

theorem ListCertificatesRequest.slotLens :
    Fields.Lens (.required "SlotHandle" SlotHandle.codec) ListCertificatesRequest.fields
      (fun (_, slot, _) => slot) fun slot (session, _, rest) => (session, slot, rest) :=
  .there .here

theorem SignRequest.slotLens :
    Fields.Lens (.required "SlotHandle" SlotHandle.codec) SignRequest.fields
      (fun (_, slot, _) => slot) fun slot (session, _, rest) => (session, slot, rest) :=
  .there .here

theorem Command.Slots.certificatesLens :
    Fields.Lens (.optional "ListCertificatesRequest" ListCertificatesRequest.codec) Slots.fields
      (fun (_, certificates, _) => certificates)
      fun certificates (tokens, _, rest) => (tokens, certificates, rest) :=
  .there .here

theorem Command.Slots.signLens :
    Fields.Lens (.optional "SignRequest" SignRequest.codec) Slots.fields
      (fun (_, _, sign, _) => sign)
      fun sign (tokens, certificates, _, rest) => (tokens, certificates, sign, rest) :=
  .there (.there .here)

def PinRequest.slot : PinRequest → SlotHandle
  | .listCertificates request => request.slot
  | .sign request => request.slot

def Event.slot? : Event → Option SlotHandle
  | .listCertificates slot _ _ => some slot
  | .sign slot _ _ _ => some slot
  | _ => none

theorem PinRequest.slot?_call (request : PinRequest) (pin : Option Pin) :
    (request.call pin).slot? = some request.slot := by
  cases request <;> rfl

/-- An object with a request in it, but for what names the slot. -/
structure SlotFrame where
  /-- The name under which the request stands. -/
  request : Bytes
  front : List (Bytes × Node)
  back : List (Bytes × Node)
  slot : Bytes
  before : List (Bytes × Node)
  after : List (Bytes × Node)
  named : readText slot = .ok "SlotHandle"

namespace SlotFrame

def around (frame : SlotFrame) (node : Node) : Node :=
  .record (.closed (frame.front ++ (frame.request,
    .record (.closed (frame.before ++ (frame.slot, node) :: frame.after))) :: frame.back))

variable {frame : SlotFrame} {request : PinRequest} {node other : Node}

section Reading

theorem optional_read_record {α : Type} {codec : Codec α} {name : String} {members : Members}
    {value : Option α} : (Field.optional name codec).read (.record members) = .ok value ↔
      ∃ found, value = some found ∧ codec.read (.record members) = .ok found := by
  rw [Field.optional_read, Codec.Faithful.read_optional (by simp)]
  cases codec.read (.record members) <;> simp [Except.map, eq_comm]

variable (named : readText frame.request = .ok request.command.name)
  (read : Command.codec.read (frame.around node) = .ok request.command)

include named read

theorem slot_read : SlotHandle.codec.read node = .ok request.slot := by
  obtain ⟨slots, held, one⟩ := bind_eq_ok_iff.mp read
  obtain rfl := Command.Slots.command_eq_ok_iff.mp one
  cases request with
  | listCertificates request =>
      have outer : (Field.optional _ _).read _ = .ok (some request) :=
        Command.Slots.certificatesLens.read_of_read (by decide) (fun _ => rfl) (fun _ => rfl) named
          held
      obtain ⟨_, ⟨⟩, inner⟩ := optional_read_record.mp outer
      exact ListCertificatesRequest.slotLens.read_of_read (by decide) (fun _ => rfl) (fun _ => rfl)
        frame.named inner
  | sign request =>
      have outer : (Field.optional _ _).read _ = .ok (some request) :=
        Command.Slots.signLens.read_of_read (by decide) (fun _ => rfl) (fun _ => rfl) named held
      obtain ⟨_, ⟨⟩, inner⟩ := optional_read_record.mp outer
      exact SignRequest.slotLens.read_of_read (by decide) (fun _ => rfl) (fun _ => rfl) frame.named
        inner

/-- Where the slot is named in another way, the object is read as the same request. -/
theorem read_renamed (same : ∀ slot, SlotHandle.codec.read node = .ok slot →
      SlotHandle.codec.read other = .ok slot) :
    Command.codec.read (frame.around other) = .ok request.command := by
  obtain ⟨slots, held, one⟩ := bind_eq_ok_iff.mp read
  refine bind_eq_ok_iff.mpr ⟨slots, ?_, one⟩
  cases request with
  | listCertificates request =>
      refine Command.Slots.certificatesLens.read_alike (by decide) (fun _ => rfl) (fun _ => rfl) named
        held fun value outer => ?_
      obtain ⟨found, rfl, inner⟩ := optional_read_record.mp outer
      exact optional_read_record.mpr ⟨found, rfl, ListCertificatesRequest.slotLens.read_alike
        (by decide) (fun _ => rfl) (fun _ => rfl) frame.named inner same⟩
  | sign request =>
      refine Command.Slots.signLens.read_alike (by decide) (fun _ => rfl) (fun _ => rfl) named held
        fun value outer => ?_
      obtain ⟨found, rfl, inner⟩ := optional_read_record.mp outer
      exact optional_read_record.mpr ⟨found, rfl, SignRequest.slotLens.read_alike (by decide)
        (fun _ => rfl) (fun _ => rfl) frame.named inner same⟩

end Reading

section Echoes

variable {echo : String} {slot : SlotHandle}

theorem isBlank_toUpper (c : Char) : isBlank c.toUpper = isBlank c := by
  by_cases ascii : c.toNat < 0x80
  · have table : ∀ k < 0x80, isBlank (Char.ofNat k).toUpper = isBlank (Char.ofNat k) := by decide
    rw [← Char.ofNat_toNat c]
    exact table c.toNat ascii
  · rw [Hex.toUpper_high (Nat.not_lt.mp ascii)]

theorem trim_toUpper (text : String) : trim text.toUpper = (trim text).toUpper := by
  have same : isBlank ∘ Char.toUpper = isBlank := funext isBlank_toUpper
  rw [← String.toList_inj, trim_toList, String.toUpper, String.toUpper, String.toList_map,
    String.toList_map, trim_toList]
  simp only [trimChars, List.dropWhile_map, same, ← List.map_reverse]

/-- In any case of its letters the text of a handle is read as that handle. -/
theorem read_echo {raw : Bytes} (text : readText raw = .ok echo) (same : echo.toUpper = slot.wire) :
    SlotHandle.codec.read (.text raw) = .ok slot := by
  have own := @SlotHandle.codec_faithful.read_write slot trivial
  have sent : Codec.text.read (SlotHandle.codec.write slot).node = .ok slot.wire := readText_rawText _
  have back : Codec.text.read (.text raw) = .ok echo := text
  refine (SlotHandle.spells.alike sent back own).mpr ?_
  rw [← trim_toUpper, ← trim_toUpper, same, SlotHandle.wire, Hex.toUpper_encodeUpper]

/-- Where the text of a handle comes back in any case, the object is read as with the text that was
sent, and its request is about that slot. -/
theorem read_echo_iff (named : readText frame.request = .ok request.command.name) {raw : Bytes}
    (text : readText raw = .ok echo) (same : echo.toUpper = slot.wire) :
    Command.codec.read (frame.around (.text raw)) = .ok request.command ↔ request.slot = slot ∧
      Command.codec.read (frame.around (SlotHandle.codec.write slot).node) = .ok request.command := by
  have own := @SlotHandle.codec_faithful.read_write slot trivial
  have echoed := read_echo text same
  constructor
  · intro read
    refine ⟨Except.ok.inj ((slot_read named read).symm.trans echoed), ?_⟩
    refine read_renamed named read fun other meant => ?_
    rw [← meant, echoed, own]
  · rintro ⟨-, read⟩
    refine read_renamed named read fun other meant => ?_
    rw [← meant, echoed, own]

end Echoes

end SlotFrame

namespace Setup

variable {σ : Type} {setup : Setup} {world : World σ} {bound : Nat} {state : σ}
  {before after : List Event} {event : Event} {body : Bytes} {request : PinRequest}

/-- The card is asked right behind an answer with the request for it, and about the slot that the
request names. -/
structure Asks (before : List Event) (event : Event) (body : Bytes) (request : PinRequest) :
    Prop where
  behind : ∃ earlier phase, before = earlier ++ [.answer (.ok body), .enter phase .dispatching]
  meant : Command.codec.decode body = .ok request.command
  asked : ∃ pin, event = request.call pin

theorem Calls.asks [Url.HostMapping] (h : setup.Calls world state before event) :
    ∃ body request, Asks before event body request := by
  cases h with
  | @intro count request arrival pin takesUp alive unspent granted =>
      obtain ⟨body, last, meant⟩ := takesUp.2
      obtain ⟨earlier, events⟩ := List.getLast?_eq_some_iff.mp last
      refine ⟨body, request, ⟨earlier, arrival.phase, ?_⟩, meant, pin, rfl⟩
      rw [Run.events_entered, events, List.append_assoc]
      rfl

/-- The slot that the card is asked about is the one whose text has come back. -/
theorem Asks.slot_eq (h : Asks before event body request) {frame : SlotFrame} {raw : Bytes}
    {echo : String} {slot : SlotHandle} (named : readText frame.request = .ok request.command.name)
    (denotes : Denotes body (frame.around (.text raw))) (text : readText raw = .ok echo)
    (same : echo.toUpper = slot.wire) : event.slot? = some slot := by
  obtain ⟨pin, rfl⟩ := h.asked
  have read := h.meant
  rw [denotes.decode_eq, SlotFrame.read_echo_iff named text same] at read
  rw [request.slot?_call, read.1]

end Setup

/-- Each byte string has one text, and what is read as these bytes is that text but for blanks around
it and the case of letters in handles. Handles have the order of their texts, and a set of them depends
on nothing but what their texts mean. Where the text of a handle comes back in any case, it is read as
that handle, and about this slot the card is asked. -/
theorem texts_stand_for_bytes [Url.HostMapping] :
    (SlotHandle.codec.Spells (fun s => (trim s).toUpper) ∧ Codec.base64.Spells trim) ∧
    (∀ name, (Field.optional name Codec.base64).Returns ∧ ∀ node value,
      (Field.optional name Codec.base64).read node = .ok value ↔
        node = .null ∧ value = none ∨ ∃ bytes, value = some bytes ∧
          Codec.base64.read node = .ok bytes) ∧
    (∀ name, (Field.nullableList name Codec.base64List).Returns ∧ ∀ node values,
      (Field.nullableList name Codec.base64List).read node = .ok values ↔
        node = .null ∧ values = [] ∨ ∃ texts, Codec.text.list.read node = .ok texts ∧
          texts.map trim = values.map (Base64.encodeText .standard)) ∧
    (∀ a b : SlotHandle, a < b ↔ a.wire < b.wire) ∧
    (∀ (texts : List String) slots, texts.mapM SlotHandle.parse = .ok slots →
      ((SlotHandle.union [] slots).map SlotHandle.wire).Pairwise (· < ·) ∧
      (SlotHandle.union [] slots).Perm slots.dedup ∧
      (∀ slot, slot ∈ SlotHandle.union [] slots ↔ ∃ text ∈ texts, SlotHandle.parse text = .ok slot) ∧
      ∀ others, (∀ slot, slot ∈ others ↔ slot ∈ slots) →
        SlotHandle.union [] others = SlotHandle.union [] slots) ∧
    (∀ (frame : SlotFrame) (request : PinRequest) (slot : SlotHandle) raw echo body,
      readText frame.request = .ok request.command.name → readText raw = .ok echo →
      echo.toUpper = slot.wire → Denotes body (frame.around (.text raw)) →
        (Command.codec.decode body = .ok request.command ↔ request.slot = slot ∧
          Command.codec.read (frame.around (SlotHandle.codec.write slot).node) =
            .ok request.command)) ∧
    ∀ (σ : Type) (setup : Setup) (world : World σ) bound state before event after,
      (setup.run world bound state).2.events = before ++ event :: after → event.isPinned = true →
        ∃ body request, Setup.Asks before event body request ∧
          ∀ (frame : SlotFrame) raw echo (slot : SlotHandle),
            readText frame.request = .ok request.command.name →
            Denotes body (frame.around (.text raw)) → readText raw = .ok echo →
            echo.toUpper = slot.wire → event.slot? = some slot := by
  refine ⟨⟨SlotHandle.spells, spells_base64⟩, fun name => ⟨?_, fun node value => ?_⟩,
    fun name => ⟨?_, fun node values => ?_⟩, fun a b => SlotHandle.lt_iff_wire_lt, ?_, ?_, ?_⟩
  · exact (Field.optional_faithful name Codec.base64_faithful).returns fun _ _ _ => trivial
  · exact optional_read_eq_ok_iff spells_base64.solid
  · exact (Field.nullableList_faithful name nofun Codec.base64List_faithful).returns
      fun _ _ _ => trivial
  · rw [nullableList_read_eq_ok_iff base64List_solid, base64List_read_eq_ok_iff]
  · intro texts slots read
    refine ⟨SlotHandle.wires_ascending slots, SlotHandle.union_perm_dedup slots, fun slot => ?_,
      fun others same => SlotHandle.union_eq_of_same same⟩
    rw [SlotHandle.mem_union_nil, SlotHandle.mem_of_texts read]
  · intro frame request slot raw echo body named text same denotes
    rw [denotes.decode_eq, SlotFrame.read_echo_iff named text same]
  · intro σ setup world bound state before event after split pinned
    obtain ⟨body, request, asks⟩ :=
      (Setup.accounts_run setup world bound state before event after split pinned).asks
    exact ⟨body, request, asks, fun frame raw echo slot named denotes text same =>
      asks.slot_eq named denotes text same⟩

def listingFrame : SlotFrame :=
  ⟨rawText "ListCertificatesRequest", [], [], rawText "SlotHandle", [], [], readText_rawText _⟩

def listingOf (text : String) : Value :=
  .record [("ListCertificatesRequest", .record [("SlotHandle", .text text)])]

/-- Handles stand in order and once, a request may name one in lower case, and it reaches the card. -/
theorem lower_case_understood :
    ((SlotHandle.union [] [⟨[10]⟩, ⟨[2, 1]⟩, ⟨[10]⟩]).map SlotHandle.wire).Pairwise (· < ·) ∧
    Command.codec.decode (listingOf "0a0b").toBytes =
      .ok (.listCertificates ⟨none, ⟨[10, 11]⟩, none, [], none⟩) ∧
    ∃ before event body request, event.isPinned = true ∧ Setup.Asks before event body request := by
  obtain ⟨-, -, -, -, sets, echoes, calls⟩ := texts_stand_for_bytes
  have lower : "0a0b".toUpper = SlotHandle.wire ⟨[10, 11]⟩ := by
    rw [← String.toList_inj, String.toUpper, String.toList_map]
    decide
  refine ⟨(sets ["0A", "0201", " 0a"] _ rfl).1, ?_, ?_⟩
  · refine (echoes listingFrame (.listCertificates ⟨none, ⟨[10, 11]⟩, none, [], none⟩) ⟨[10, 11]⟩
      (rawText "0a0b") "0a0b" _ (readText_rawText _) (readText_rawText _) lower
      (listingOf "0a0b").denotes_toBytes).mpr ⟨rfl, ?_⟩
    rfl
  · have asked : (Setup.keyless.run (.scripted none) 1
        [World.accepting, (listingOf "0a0b").toBytes]).2.events.any Event.isPinned = true := by
      decide +kernel
    obtain ⟨event, member, pinned⟩ := List.any_eq_true.mp asked
    obtain ⟨before, after, split⟩ := List.append_of_mem member
    obtain ⟨body, request, asks, -⟩ := calls _ _ _ _ _ before event after split pinned
    exact ⟨before, event, body, request, pinned, asks⟩

end CardGateway
