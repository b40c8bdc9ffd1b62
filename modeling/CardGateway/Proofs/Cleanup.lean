import CardGateway.Proofs.HelloGate
import CardGateway.Proofs.Past

/-!
# What is cleaned up behind a run

While it goes on a run keeps account of the slots that its searches have connected. Behind its
conversation PINs are forgotten, the connection is closed, each of these slots is released once, and
only then the user is told what there is. How closing and releasing fare makes no difference.
-/

namespace CardGateway

namespace SlotHandle

variable {slot : SlotHandle} {slots others : List SlotHandle}

theorem insert_ascending (sorted : slots.Pairwise (· < ·)) :
    (insert slot slots).Pairwise (· < ·) := by
  induction slots with
  | nil => exact List.pairwise_singleton _ _
  | cons first rest ih =>
      obtain ⟨least, tail⟩ := List.pairwise_cons.mp sorted
      unfold insert
      split
      · next below =>
          refine List.pairwise_cons.mpr ⟨?_, sorted⟩
          intro other member
          rcases List.mem_cons.mp member with rfl | later
          · exact below
          · exact List.lt_trans below (least other later)
      · next above =>
          split
          · exact sorted
          · next apart =>
              have ne : first.bytes ≠ slot.bytes := by
                intro same
                obtain ⟨bytes⟩ := slot
                obtain rfl : first.bytes = bytes := same
                exact apart rfl
              refine List.pairwise_cons.mpr ⟨?_, ih tail⟩
              intro other member
              rcases mem_insert.mp member with rfl | later
              · show first.bytes < other.bytes
                exact Std.lt_of_le_of_ne (List.not_lt.mp above) ne
              · exact least other later

theorem union_ascending (sorted : slots.Pairwise (· < ·)) :
    (union slots others).Pairwise (· < ·) := by
  induction others generalizing slots with
  | nil => exact sorted
  | cons first rest ih => exact ih (insert_ascending sorted)

theorem nodup_of_ascending (sorted : slots.Pairwise (· < ·)) : slots.Nodup := by
  show slots.Pairwise (· ≠ ·)
  refine sorted.imp ?_
  rintro a b below rfl
  exact List.lt_irrefl a.bytes below

end SlotHandle

namespace Event

def isCleanup : Event → Bool
  | .clearPins | .close | .disconnect _ | .present _ => true
  | _ => false

/-- An event at which nothing is cleaned up and no slot becomes known. -/
def Neutral (event : Event) : Prop :=
  event.isCleanup = false ∧ ∀ found, event ≠ .found (.ok found)

end Event

namespace Run

variable {σ : Type} {run after : Run σ}

/-- A run in its conversation, that knows the slots which its searches have reported, each once. -/
structure Accounts (run : Run σ) : Prop where
  talking : ∀ event ∈ run.events, event.isCleanup = false
  ascending : run.connected.Pairwise (· < ·)
  known : ∀ slot, slot ∈ run.connected ↔
    ∃ found, Event.found (.ok found) ∈ run.events ∧ slot ∈ found.connected

namespace Accounts

theorem fresh (state : σ) : (Run.fresh state).Accounts where
  talking := by simp
  ascending := List.Pairwise.nil
  known slot := by simp [Run.fresh, Run.events]

theorem of_wrote (h : run.Accounts) (wrote : Run.Wrote Event.Neutral run after)
    (same : after.connected = run.connected) : after.Accounts := by
  obtain ⟨written, events, neutral⟩ := wrote.events
  constructor
  · intro event member
    rw [events] at member
    rcases List.mem_append.mp member with earlier | later
    · exact h.talking event earlier
    · exact (neutral event later).1
  · rw [same]
    exact h.ascending
  · intro slot
    rw [same, h.known, events]
    refine exists_congr fun found => and_congr_left fun _ => ?_
    rw [List.mem_append, or_iff_left]
    intro later
    exact (neutral _ later).2 found rfl

theorem holding (h : run.Accounts) (result : Except CardFault TokenSearch) (span : Millis) (last : σ) :
    ((run.returned (.found result) span last).holding result).Accounts := by
  cases result with
  | error fault => exact h.of_wrote (.returned ⟨rfl, by simp⟩ span last run) rfl
  | ok found =>
      have events : ((run.returned (.found (.ok found)) span last).holding (.ok found)).events =
          run.events ++ [.found (.ok found)] := Run.events_returned _ _ _ _
      constructor
      · intro event member
        rw [events] at member
        rcases List.mem_append.mp member with earlier | new
        · exact h.talking event earlier
        · obtain rfl := List.mem_singleton.mp new
          rfl
      · exact SlotHandle.union_ascending h.ascending
      · intro slot
        have joined : slot ∈ SlotHandle.union run.connected found.connected ↔
            slot ∈ run.connected ∨ slot ∈ found.connected := SlotHandle.mem_union
        rw [events]
        refine joined.trans ?_
        rw [h.known]
        constructor
        · rintro (⟨other, earlier, reported⟩ | reported)
          · exact ⟨other, List.mem_append_left _ earlier, reported⟩
          · exact ⟨found, List.mem_append_right _ List.mem_cons_self, reported⟩
        · rintro ⟨other, member, reported⟩
          rcases List.mem_append.mp member with earlier | new
          · exact .inl ⟨other, earlier, reported⟩
          · obtain rfl : other = found := by simpa using new
            exact .inr reported

end Accounts

structure Keeps (run after : Run σ) : Prop where
  connected : after.connected = run.connected
  notices : after.notices = run.notices

theorem stopped_keeps (world : World σ) (setup : Setup) (run : Run σ) :
    run.Keeps (run.stopped world setup.session) := by
  obtain ⟨after, notified, same⟩ := run.exists_notified world setup
  rw [same]
  cases notified <;> exact ⟨rfl, rfl⟩

end Run

namespace Act

variable {σ α : Type} {world : World σ} {setup : Setup} {run after : Run σ}

theorem Exchanges.neutral {post : Post} {event : Event} (h : Exchanges setup post event) :
    event.Neutral := by
  cases h <;> exact ⟨rfl, by simp⟩

theorem Exchanged.keeps [Url.HostMapping] {endpoint : Endpoint} {body : Bytes}
    {codec : Json.Codec α} {result : Except Halt α}
    (h : Exchanged world setup.session endpoint body codec run result after) : run.Keeps after := by
  cases h with
  | fired lapsed => exact Run.stopped_keeps world setup run
  | endless alive never => exact ⟨rfl, rfl⟩
  | answered alive comes meant => exact ⟨rfl, rfl⟩
  | undecodable alive comes meant => exact ⟨rfl, rfl⟩
  | refused alive comes loud => exact ⟨rfl, rfl⟩
  | @cancelled alive span last comes =>
      have stopped := Run.stopped_keeps world setup
        ((run.posted world true (setup.session.resource endpoint) body).returned
          (.answer (.error .cancelled)) span last)
      exact ⟨stopped.connected, stopped.notices⟩

theorem Asked.keeps {ρ : Type} {pins : PinPolicy} {encrypted : Option String} {budget : Millis}
    {refused : ResultCode → ρ} {granted : α → ρ} {begun : Option Pin → Event}
    {done : CardOutcome α → Event} {operation : Option Pin → Millis → σ → Call σ (CardOutcome α)}
    {reply : Option ρ}
    (h : Asked world pins encrypted budget refused granted begun done operation run reply after) :
    run.Keeps after := by
  cases h with
  | fired lapsed => exact ⟨rfl, rfl⟩
  | spent alive spent => exact ⟨rfl, rfl⟩
  | unusable alive unspent unwrapped => exact ⟨rfl, rfl⟩
  | worked alive unspent unwrapped step => cases step <;> exact ⟨rfl, rfl⟩

/-- Whatever a search finds is taken down, with its slots. -/
theorem Searched.accounts {filters : List TokenInfo}
    {result : Except Halt (Option (Except CardFault TokenSearch))}
    (h : Searched world filters run result after) (before : run.Accounts) : after.Accounts := by
  have asked : (Event.findTokens filters).Neutral := ⟨rfl, by simp⟩
  cases h with
  | fired lapsed => exact before
  | overtaken alive begun first => exact before.of_wrote (.dropped asked _ _ run) rfl
  | endless alive begun never settled => exact before.of_wrote (.called asked _ run) rfl
  | found alive begun comes => exact (before.of_wrote (.called asked _ run) rfl).holding _ _ _

/-- However a poll ends, the slots of all its searches are known. -/
theorem Polled.accounts {session : String} {filters : List TokenInfo} {deadline : Millis}
    {result : Except Halt (Option ListTokensResponse)}
    (h : Polled world session filters deadline run result after) (before : run.Accounts) :
    after.Accounts := by
  induction h with
  | halted step => exact step.accounts before
  | stopped step => exact step.accounts before
  | failed step => exact step.accounts before
  | matched step hit => exact step.accounts before
  | late step miss lapsed => exact step.accounts before
  | fired step miss early first => exact (step.accounts before).of_wrote (.of_journal_eq rfl) rfl
  | again step miss early rest ih => exact ih ((step.accounts before).of_wrote (.of_journal_eq rfl) rfl)

theorem Handled.accounts {command : Command} {result : Except Halt (Terminate ⊕ Option Reply)}
    (h : Handled world setup run command result after) (before : run.Accounts) : after.Accounts := by
  cases h with
  | terminate message => exact before
  | endless step => exact step.accounts before
  | listTokens step => exact step.accounts before
  | listCertificates step =>
      exact before.of_wrote (step.wrote (fun _ _ => ⟨rfl, by simp⟩) fun _ => ⟨rfl, by simp⟩)
        step.keeps.connected
  | sign step =>
      exact before.of_wrote (step.wrote (fun _ _ => ⟨rfl, by simp⟩) fun _ => ⟨rfl, by simp⟩)
        step.keeps.connected

end Act

namespace Setup

variable [Url.HostMapping] {σ : Type} {setup : Setup} {world : World σ} {bound : Nat} {state : σ}

theorem accounts_preserves (setup : Setup) (world : World σ) (state : σ) :
    setup.Preserves world state Run.Accounts where
  fresh := .fresh state
  entered {run} phase before := before.of_wrote (.entered run ⟨rfl, by simp⟩) rfl
  informed _ before := before.of_wrote (.of_journal_eq rfl) rfl
  stopped {run} before :=
    before.of_wrote (Run.stopped_wrote ⟨rfl, by simp⟩ (fun _ => ⟨rfl, by simp⟩)
      (fun _ => ⟨rfl, by simp⟩) run) (Run.stopped_keeps world setup run).connected
  exchanged _ before step :=
    before.of_wrote (step.wrote.mono fun _ => Act.Exchanges.neutral) step.keeps.connected
  handled _ before handling := (Act.handled_of_eq handling).accounts before

/-- A run that ends had a conversation that ended so, and all was cleaned up behind it. -/
theorem exists_cleaned {outcome : Except Failure Terminate}
    (ended : (setup.run world bound state).1 = .finished outcome) :
    ∃ mid last, Act.converse world setup bound (Run.fresh state) = (outcome.mapError .failed, mid) ∧
      Run.Writes ([.clearPins, .close] ++ (mid.connected.map .disconnect ++
        (mid.notices.map .present ++ last))) mid (setup.run world bound state).2 ∧
      (last = [] ∨ ∃ before, last = [.enter before .terminated]) := by
  rcases conversing : Act.converse world setup bound (Run.fresh state) with ⟨result, mid⟩
  have left := leaves conversing
  rw [ended] at left
  cases left with
  | cleaned step =>
      cases step with
      | done closed wrote ended => exact ⟨mid, mid.lapse, rfl, wrote, mid.lapse_eq⟩

end Setup

section Reclosed

/-! A conversation does not know how closing and releasing will fare. -/

variable {σ : Type} (world : World σ) (setup : Setup) (close : Millis → σ → Call σ Bool)
  (disconnect : Millis → SlotHandle → σ → σ)

def World.reclosed : World σ := { world with close, disconnect }

theorem Act.converse_reclosed [Url.HostMapping] (bound : Nat) :
    converse (world.reclosed close disconnect) setup bound = converse world setup bound := by
  funext run
  have talks : (Coupling.behind []).Talks world (world.reclosed close disconnect) :=
    Coupling.behind_talks world close disconnect
  exact (Coupling.ties_converse talks Coupling.behind_reads bound).eq_behind
    (fun _ _ => Coupling.messages_behind) run

end Reclosed

/-- The message with which the server has ended the session. -/
def Ending.message? : Ending → Option Terminate
  | .finished (.ok message) => some message
  | _ => none

theorem Ending.message?_eq_some_iff {ending : Ending} {message : Terminate} :
    ending.message? = some message ↔ ending = .finished (.ok message) := by
  constructor
  · intro told
    unfold message? at told
    split at told
    · rw [Option.some.inj told]
    · cases told
  · rintro rfl
    rfl

namespace Setup

/-- Behind all that a run posts that ends, PINs are forgotten once, the connection is closed once, and
then each slot that some search has reported as connected is released once, and no other; only then
the user is told something. What the run comes to is the same however closing and releasing fare, as
long as the closing ends. -/
theorem cleaned_up_once [Url.HostMapping] {σ : Type} (setup : Setup) (world : World σ)
    (bound : Nat) (state : σ) {outcome : Except Failure Terminate}
    (ended : (setup.run world bound state).1 = .finished outcome) :
    (∃ (talk : List Event) (slots : List SlotHandle) (notices : List Notice) (last : List Event),
      (setup.run world bound state).2.events =
        talk ++ ([.clearPins, .close] ++ (slots.map .disconnect ++ (notices.map .present ++ last))) ∧
      (∀ event ∈ talk, event.isCleanup = false) ∧
      (last = [] ∨ ∃ before, last = [.enter before .terminated]) ∧
      slots.Nodup ∧
      ∀ slot, slot ∈ slots ↔ ∃ found, .found (.ok found) ∈ talk ∧ slot ∈ found.connected) ∧
    ∀ close disconnect,
      (setup.run { world with close, disconnect } bound state).1 = .finished outcome ∨
      (setup.run { world with close, disconnect } bound state).1 = .endless ∧
        ∃ now state, (close now state).ends = none := by
  obtain ⟨mid, last, conversing, wrote, final⟩ := exists_cleaned ended
  have conversed := Act.conversed world setup bound state
  rw [conversing] at conversed
  have accounts := (accounts_preserves setup world state).conversed conversed
  constructor
  · exact ⟨mid.events, mid.connected, mid.notices, last, wrote.events_eq, accounts.talking, final,
      SlotHandle.nodup_of_ascending accounts.ascending, accounts.known⟩
  · intro close disconnect
    let other := world.reclosed close disconnect
    have again : Act.converse other setup bound (Run.fresh state) =
        (outcome.mapError .failed, mid) := by
      rw [Act.converse_reclosed, conversing]
    have ending : (setup.run other bound state).1 =
        .of (mid.closes other) (outcome.mapError .failed) := (run_of_converse again).1
    cases closing : mid.closes other with
    | true =>
        rw [closing] at ending
        left
        rw [show { world with close, disconnect } = other from rfl, ending]
        cases outcome <;> rfl
    | false =>
        rw [closing] at ending
        right
        constructor
        · rw [show { world with close, disconnect } = other from rfl, ending]
          cases outcome <;> rfl
        · have never : (other.close mid.now (other.clearPins mid.now mid.world)).ends = none := by
            simpa [Run.closes] using closing
          exact ⟨mid.now, other.clearPins mid.now mid.world, never⟩

/-- A world with a card that no search asks for, though each connects its slot. -/
def connecting : World (List Bytes) :=
  { World.scripted none with findTokens := fun _ _ answers => .atOnce answers (.ok ⟨[], [⟨[1]⟩]⟩) }

/-- A search that has time for no second try, and the end of the session. -/
def lastCommands : List Bytes :=
  [Text.Utf8.encode "\x7b\"ListTokensRequest\":\x7b\"MaxWaitSeconds\":0\x7d\x7d",
    Text.Utf8.encode "\x7b\"Terminate\":\x7b\"Result\":\"OK\"\x7d\x7d"]

/-- A search that times out and the end of the session, with the slot that was connected. -/
theorem late_search_cleaned_up :
    ∃ (message : Terminate) (talk : List Event) (slots : List SlotHandle) (notices : List Notice)
      (last : List Event),
      (plain.run connecting 2 (World.accepting :: lastCommands)).1 = .finished (.ok message) ∧
      (plain.run connecting 2 (World.accepting :: lastCommands)).2.events =
        talk ++ ([.clearPins, .close] ++ (slots.map .disconnect ++ (notices.map .present ++ last))) ∧
      slots.Nodup ∧
      ∀ slot, slot ∈ slots ↔ ∃ found, .found (.ok found) ∈ talk ∧ slot ∈ found.connected := by
  have good : (plain.run connecting 2 (World.accepting :: lastCommands)).1.message?.isSome = true := by
    decide +kernel
  obtain ⟨message, told⟩ := Option.isSome_iff_exists.mp good
  have ended := Ending.message?_eq_some_iff.mp told
  obtain ⟨⟨talk, slots, notices, last, events, -, -, unique, known⟩, -⟩ :=
    cleaned_up_once plain connecting 2 (World.accepting :: lastCommands) ended
  exact ⟨message, talk, slots, notices, last, ended, events, unique, known⟩

end Setup

end CardGateway
