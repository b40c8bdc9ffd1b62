import CardGateway.Run.Whole

/-!
# Transcripts

What the journal of a run tells, with the times left out: the messages that were posted and the
commands that were taken up. A run only writes behind what is written already; `Run.Wrote` says of
which kind the later events are.
-/

namespace CardGateway

open CardGateway.Json

/-- An element of a list in two parts stands in the first, or behind all of it. -/
theorem split_append {α : Type} {front back before after : List α} {element : α}
    (split : front ++ back = before ++ element :: after) :
    (∃ rest, front = before ++ element :: rest) ∨
      ∃ more, before = front ++ more ∧ back = more ++ element :: after := by
  rcases List.append_eq_append_iff.mp split with ⟨more, within, rest⟩ | ⟨more, within, rest⟩
  · exact .inr ⟨more, within, rest⟩
  · cases more with
    | nil => exact .inr ⟨[], by simpa using within.symm, rest.symm⟩
    | cons first others =>
        obtain rfl : element = first := (List.cons.inj rest).1
        exact .inl ⟨others, within⟩

inductive Post where
  | hello
  | getCommand
  | reply (message : Reply)
  /-- The session is stopped. -/
  | stop
  deriving DecidableEq, Repr

namespace Post

def endpoint : Post → Endpoint
  | .hello => .hello
  | .getCommand => .getCommand
  | .reply message => message.endpoint
  | .stop => .terminate

def body (setup : Setup) : Post → Bytes
  | .hello => HelloRequest.codec.encode setup.hello
  | .getCommand => GetCommand.codec.encode ⟨setup.session.id⟩
  | .reply message => message.encode
  | .stop => Terminate.codec.encode ⟨some setup.session.id, .stopped⟩

/-- What is handed to the gateway: the resource and the body. -/
def written (setup : Setup) (post : Post) : String × Bytes :=
  (setup.session.resource post.endpoint, post.body setup)

theorem written_hello (setup : Setup) : Post.hello.written setup =
    (setup.session.resource .hello, HelloRequest.codec.encode setup.hello) := rfl

theorem written_stop (setup : Setup) : Post.stop.written setup =
    (setup.session.resource .terminate, Terminate.codec.encode ⟨some setup.session.id, .stopped⟩) :=
  rfl

/-- The messages of a session in which so many commands were answered. -/
def conversation (replies : List Reply) : List Post :=
  .hello :: .getCommand :: replies.map .reply

end Post

namespace Event

def posted? : Event → Option (String × Bytes)
  | .send resource body => some (resource, body)
  | _ => none

@[simp] theorem posted?_send (resource : String) (body : Bytes) :
    (Event.send resource body).posted? = some (resource, body) := rfl

def isDispatch : Event → Bool
  | .enter _ .dispatching => true
  | _ => false

def isCardCall : Event → Bool
  | .findTokens _ | .listCertificates _ _ _ | .sign _ _ _ _ => true
  | _ => false

end Event

def sent (events : List Event) : List (String × Bytes) := events.filterMap Event.posted?

def dispatches (events : List Event) : Nat := events.countP Event.isDispatch

@[simp] theorem sent_nil : sent [] = [] := rfl

@[simp] theorem sent_append (front back : List Event) :
    sent (front ++ back) = sent front ++ sent back :=
  List.filterMap_append

theorem mem_sent {message : String × Bytes} {events : List Event} :
    message ∈ sent events ↔ .send message.1 message.2 ∈ events := by
  constructor
  · intro posted
    obtain ⟨event, member, told⟩ := List.mem_filterMap.mp posted
    cases event with
    | send resource body =>
        obtain rfl := Option.some.inj told
        exact member
    | _ => cases told
  · intro member
    exact List.mem_filterMap.mpr ⟨_, member, rfl⟩

@[simp] theorem sent_cons_send (resource : String) (body : Bytes) (rest : List Event) :
    sent (.send resource body :: rest) = (resource, body) :: sent rest := rfl

@[simp] theorem sent_cons_enter (before after : Phase) (rest : List Event) :
    sent (.enter before after :: rest) = sent rest := rfl

@[simp] theorem sent_cons_answer (answer : Except TransportFault Bytes) (rest : List Event) :
    sent (.answer answer :: rest) = sent rest := rfl

@[simp] theorem dispatches_append (front back : List Event) :
    dispatches (front ++ back) = dispatches front + dispatches back :=
  List.countP_append

theorem sent_eq_nil {events : List Event} (h : ∀ event ∈ events, event.posted? = none) :
    sent events = [] :=
  List.filterMap_eq_nil_iff.mpr h

theorem dispatches_eq_zero {events : List Event} (h : ∀ event ∈ events, event.isDispatch = false) :
    dispatches events = 0 := by
  refine List.countP_eq_zero.mpr ?_
  intro event member
  simp [h event member]

namespace Run

variable {σ : Type}

def events (run : Run σ) : List Event := run.journal.map Entry.event

def noted (event : Event) (run : Run σ) : Run σ :=
  { run with journal := run.journal ++ [⟨run.now, event⟩] }

def entered (phase : Phase) (run : Run σ) : Run σ :=
  { run with phase, journal := run.journal ++ [⟨run.now, .enter run.phase phase⟩] }

def passed (span : Millis) (after : σ) (run : Run σ) : Run σ :=
  { run with now := run.now + span, world := after }

def returned (event : Event) (span : Millis) (after : σ) (run : Run σ) : Run σ :=
  (run.passed span after).noted event

@[simp] theorem events_fresh (state : σ) : (Run.fresh state).events = [] := rfl

@[simp] theorem events_noted (event : Event) (run : Run σ) :
    (run.noted event).events = run.events ++ [event] := by
  simp [events, noted]

@[simp] theorem events_entered (phase : Phase) (run : Run σ) :
    (run.entered phase).events = run.events ++ [.enter run.phase phase] := by
  simp [events, entered]

@[simp] theorem noted_now (event : Event) (run : Run σ) : (run.noted event).now = run.now := rfl

@[simp] theorem noted_world (event : Event) (run : Run σ) :
    (run.noted event).world = run.world := rfl

@[simp] theorem entered_now (phase : Phase) (run : Run σ) : (run.entered phase).now = run.now := rfl

@[simp] theorem entered_world (phase : Phase) (run : Run σ) :
    (run.entered phase).world = run.world := rfl

@[simp] theorem events_returned (event : Event) (span : Millis) (after : σ) (run : Run σ) :
    (run.returned event span after).events = run.events ++ [event] := by
  simp [events, returned, passed, noted]

@[simp] theorem returned_now (event : Event) (span : Millis) (after : σ) (run : Run σ) :
    (run.returned event span after).now = run.now + span := rfl

@[simp] theorem returned_world (event : Event) (span : Millis) (after : σ) (run : Run σ) :
    (run.returned event span after).world = after := rfl

@[simp] theorem sent_entered (phase : Phase) (run : Run σ) :
    sent (run.entered phase).events = sent run.events := by
  rw [events_entered, sent_append]
  exact List.append_nil _

theorem entered_grows (phase : Phase) (run : Run σ) :
    run.journal <+: (run.entered phase).journal :=
  List.prefix_append _ _

theorem events_grow {first later : Run σ} (h : first.journal <+: later.journal) :
    first.events <+: later.events :=
  h.map Entry.event

/-- A later run in which all that was written since is of a kind. -/
def Wrote (P : Event → Prop) (run after : Run σ) : Prop :=
  ∃ written, after.journal = run.journal ++ written ∧ ∀ entry ∈ written, P entry.event

namespace Wrote

variable {P Q : Event → Prop} {run mid after : Run σ}

theorem of_journal_eq (same : after.journal = run.journal) : Wrote P run after :=
  ⟨[], by rw [same, List.append_nil], by simp⟩

theorem refl (run : Run σ) : Wrote P run run := of_journal_eq rfl

theorem trans (first : Wrote P run mid) (later : Wrote P mid after) : Wrote P run after := by
  obtain ⟨front, journal, kind⟩ := first
  obtain ⟨back, further, kindBack⟩ := later
  refine ⟨front ++ back, by rw [further, journal, List.append_assoc], ?_⟩
  intro entry member
  rcases List.mem_append.mp member with inFront | inBack
  · exact kind entry inFront
  · exact kindBack entry inBack

theorem mono (h : Wrote P run after) (weaker : ∀ event, P event → Q event) : Wrote Q run after := by
  obtain ⟨written, journal, kind⟩ := h
  exact ⟨written, journal, fun entry member => weaker _ (kind entry member)⟩

theorem noted {event : Event} (kind : P event) (run : Run σ) : Wrote P run (run.noted event) :=
  ⟨[⟨run.now, event⟩], rfl, by simpa using kind⟩

theorem returned {event : Event} (kind : P event) (span : Millis) (after : σ) (run : Run σ) :
    Wrote P run (run.returned event span after) :=
  ⟨[⟨run.now + span, event⟩], rfl, by simpa using kind⟩

theorem entered {phase : Phase} (run : Run σ) (kind : P (.enter run.phase phase)) :
    Wrote P run (run.entered phase) :=
  ⟨[⟨run.now, .enter run.phase phase⟩], rfl, by simpa using kind⟩

theorem grows (h : Wrote P run after) : run.journal <+: after.journal := by
  obtain ⟨written, journal, _⟩ := h
  exact ⟨written, journal.symm⟩

theorem events (h : Wrote P run after) :
    ∃ written, after.events = run.events ++ written ∧ ∀ event ∈ written, P event := by
  obtain ⟨written, journal, kind⟩ := h
  refine ⟨written.map Entry.event, by simp [Run.events, journal], ?_⟩
  intro event member
  obtain ⟨entry, inside, rfl⟩ := List.mem_map.mp member
  exact kind entry inside

/-- Nothing is posted where no such event is written. -/
theorem sent_eq (h : Wrote P run after) (silent : ∀ event, P event → event.posted? = none) :
    sent after.events = sent run.events := by
  obtain ⟨written, events, kind⟩ := h.events
  rw [events, sent_append, sent_eq_nil fun event member => silent event (kind event member),
    List.append_nil]

theorem dispatches_eq (h : Wrote P run after) (still : ∀ event, P event → event.isDispatch = false) :
    dispatches after.events = dispatches run.events := by
  obtain ⟨written, events, kind⟩ := h.events
  rw [events, dispatches_append,
    dispatches_eq_zero fun event member => still event (kind event member), Nat.add_zero]

end Wrote

/-- A later run in which these events were written since. -/
def Writes (events : List Event) (run after : Run σ) : Prop :=
  ∃ written, after.journal = run.journal ++ written ∧ written.map Entry.event = events

namespace Writes

variable {front back : List Event} {run mid after : Run σ}

theorem of_journal_eq (same : after.journal = run.journal) : Writes [] run after :=
  ⟨[], by rw [same, List.append_nil], rfl⟩

theorem refl (run : Run σ) : Writes [] run run := of_journal_eq rfl

theorem trans (first : Writes front run mid) (later : Writes back mid after) :
    Writes (front ++ back) run after := by
  obtain ⟨written, journal, rfl⟩ := first
  obtain ⟨further, journal', rfl⟩ := later
  exact ⟨written ++ further, by rw [journal', journal, List.append_assoc], List.map_append⟩

theorem noted (event : Event) (run : Run σ) : Writes [event] run (run.noted event) :=
  ⟨[⟨run.now, event⟩], rfl, rfl⟩

theorem entered (phase : Phase) (run : Run σ) :
    Writes [.enter run.phase phase] run (run.entered phase) :=
  ⟨[⟨run.now, .enter run.phase phase⟩], rfl, rfl⟩

theorem events_eq (h : Writes front run after) : after.events = run.events ++ front := by
  obtain ⟨written, journal, rfl⟩ := h
  rw [events, journal, List.map_append, events]

theorem wrote {P : Event → Prop} (h : Writes front run after) (kind : ∀ event ∈ front, P event) :
    Wrote P run after := by
  obtain ⟨written, journal, rfl⟩ := h
  refine ⟨written, journal, ?_⟩
  intro entry member
  exact kind entry.event (List.mem_map.mpr ⟨entry, member, rfl⟩)

end Writes

end Run

namespace Act

variable {σ α β : Type}

theorem note_apply (event : Event) (run : Run σ) :
    (note event : Act σ Unit) run = (.ok (), run.noted event) := rfl

theorem enter_apply (phase : Phase) (run : Run σ) :
    (enter phase : Act σ Unit) run = (.ok (), run.entered phase) := rfl

theorem view_apply (f : Run σ → α) (run : Run σ) : view f run = (.ok (f run), run) := rfl

theorem touch_apply (f : Millis → σ → σ) (run : Run σ) :
    touch f run = (.ok (), { run with world := f run.now run.world }) := rfl

theorem start_apply (call : Millis → σ → Call σ α) (run : Run σ) :
    start call run =
      (.ok (call run.now run.world), { run with world := (call run.now run.world).begun }) := rfl

theorem finish_ended {call : Call σ α} {span : Millis} {value : α} {after : σ} {run : Run σ}
    (ends : call.ends = some (span, value, after)) :
    finish call run = (.ok value, run.passed span after) := by
  rw [finish, ends]
  rfl

theorem finish_endless {call : Call σ α} {run : Run σ} (never : call.ends = none) :
    finish call run = (.error .endless, run) := by
  rw [finish, never]
  rfl

theorem bind_ok {act : Act σ α} {next : α → Act σ β} {run after : Run σ} {value : α}
    (h : act run = (.ok value, after)) : (act >>= next) run = next value after := by
  rw [bind_apply, h]

theorem bind_error {act : Act σ α} {next : α → Act σ β} {run after : Run σ} {reason : Halt}
    (h : act run = (.error reason, after)) : (act >>= next) run = (.error reason, after) := by
  rw [bind_apply, h]

end Act

end CardGateway
