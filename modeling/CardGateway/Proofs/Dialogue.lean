import CardGateway.Proofs.Conversation

/-!
# The dialogue with the server

The messages of a run are a hello, a request for a command and a reply to each command in the order in
which they came, as far as the run gets, and the notice that it is stopped. A run ends well when the
last command that came is to end the session.
-/

namespace CardGateway

open CardGateway.Json

namespace Post

/-- Whether a message names the session of the run first. -/
def Names (setup : Setup) (post : Post) : Prop :=
  ∃ others, post.body setup =
    (Value.record (("SessionIdentifier", .text setup.session.id) :: others)).toBytes

theorem names_of_write {α : Type} (codec : Codec α) (value : α) {id : String}
    (h : ∃ others, codec.write value = .record (("SessionIdentifier", .text id) :: others)) :
    ∃ others, codec.encode value =
      (Value.record (("SessionIdentifier", .text id) :: others)).toBytes := by
  obtain ⟨others, written⟩ := h
  exact ⟨others, by rw [Codec.encode, written]⟩

theorem names_hello (setup : Setup) : Post.hello.Names setup :=
  names_of_write HelloRequest.codec setup.hello ⟨_, rfl⟩

theorem names_getCommand (setup : Setup) : Post.getCommand.Names setup :=
  names_of_write GetCommand.codec ⟨setup.session.id⟩ ⟨_, rfl⟩

theorem names_stop (setup : Setup) : Post.stop.Names setup :=
  names_of_write Terminate.codec ⟨some setup.session.id, .stopped⟩ ⟨_, rfl⟩

theorem names_reply {setup : Setup} {reply : Reply} (own : reply.session = setup.session.id) :
    (Post.reply reply).Names setup := by
  rw [Names, ← own]
  cases reply with
  | listTokens response => exact names_of_write ListTokensResponse.codec response ⟨_, rfl⟩
  | listCertificates response =>
      exact names_of_write ListCertificatesResponse.codec response ⟨_, rfl⟩
  | sign response => exact names_of_write SignResponse.codec response ⟨_, rfl⟩

theorem names_of_mem {setup : Setup} {replies : List Reply} {post : Post}
    (own : ∀ reply ∈ replies, reply.session = setup.session.id)
    (member : post ∈ conversation replies ++ [.stop]) : post.Names setup := by
  simp only [conversation, List.cons_append, List.mem_cons, List.mem_append, List.mem_map,
    List.not_mem_nil, or_false] at member
  rcases member with rfl | rfl | ⟨reply, inside, rfl⟩ | rfl
  · exact names_hello setup
  · exact names_getCommand setup
  · exact names_reply (own reply inside)
  · exact names_stop setup

end Post

def Event.isTraffic : Event → Bool
  | .send _ _ | .answer _ => true
  | _ => false

/-- A reply is what the handling of a command came to, at the place in the run that so many replies had
led up to. The last thing that had happened there was that the command came, and what had been posted
last was the request for it, or the last of these replies. -/
inductive Setup.Replied [Url.HostMapping] {σ : Type} (setup : Setup) (world : World σ) (state : σ)
    (final : Run σ) (earlier : List Reply) (reply : Reply) : Prop where
  | intro {command : Command} {arrival mid : Run σ}
      (takesUp : setup.TakesUp world state earlier.length command arrival)
      (posted : sent arrival.events = (Post.conversation earlier).map (Post.written setup))
      (count : dispatches arrival.events = earlier.length)
      (produced : Act.Produced world setup command arrival reply mid)
      (grown : mid.journal <+: final.journal)
      (kind : reply.Answers command) (own : reply.session = setup.session.id)

namespace Act

variable [Url.HostMapping] {σ : Type} {world : World σ} {setup : Setup} {state : σ}
  {first command : Command} {opened run arrival mid after final : Run σ} {replies : List Reply}
  {reply : Reply}

theorem Opened.sent_turns (opening : Opened world setup state first opened)
    (turns : Turns world setup first opened replies command arrival) :
    sent arrival.events = (Post.conversation replies).map (Post.written setup) := by
  rw [turns.sent_eq, opening.sent_eq, Post.conversation, List.map_cons, List.map_cons, List.map_map]
  rfl

theorem Opened.replied (opening : Opened world setup state first opened)
    (turns : Turns world setup first opened replies command arrival)
    (produced : Produced world setup command arrival reply mid)
    (grown : mid.journal <+: final.journal) :
    setup.Replied world state final replies reply := by
  have taken := Setup.takesUp_iff.mpr ⟨first, opened, replies, opening, turns, rfl⟩
  have count : dispatches arrival.events = replies.length := by
    rw [turns.dispatches_eq, opening.dispatches_eq, Nat.zero_add]
  obtain ⟨kind, own⟩ := (handled_of_eq produced.handling).answers
  exact .intro taken (opening.sent_turns turns) count produced grown kind own

theorem Opened.replied_turns (opening : Opened world setup state first opened)
    (turns : Turns world setup first opened replies command arrival)
    (grown : arrival.journal <+: final.journal) {i : Nat} (found : replies[i]? = some reply) :
    setup.Replied world state final (replies.take i) reply := by
  obtain ⟨command, taken, next, after, before, turn, growth⟩ := turns.turn_of_getElem? found
  cases turn with
  | intro produced answer =>
      rename_i mid
      have answered := (exchanged_post (.reply reply) answer).wrote
      exact opening.replied before produced
        ((mid.entered_grows .awaitingCommand).trans (answered.grows.trans (growth.trans grown)))

/-- A command that is the last one has its reply posted at most, and the notice if the run is stopped. -/
theorem Ends.sent_eq {result : Except Halt Terminate}
    (h : Ends world setup command run result after) :
    ∃ own : List Reply, own.length ≤ 1 ∧
      (∀ reply ∈ own, ∃ mid, Produced world setup command run reply mid ∧
        mid.journal <+: after.journal) ∧
      sent after.events = sent run.events ++
        (own.map Post.reply ++ Post.notice result).map (Post.written setup) := by
  cases h with
  | fired lapsed =>
      refine ⟨[], Nat.zero_le 1, by simp, ?_⟩
      rw [Run.sent_stopped]
      rfl
  | terminated alive asked =>
      refine ⟨[], Nat.zero_le 1, by simp, ?_⟩
      rw [Run.sent_entered, Run.sent_entered]
      exact (List.append_nil _).symm
  | endless alive handling =>
      refine ⟨[], Nat.zero_le 1, by simp, ?_⟩
      rw [(handled_of_eq handling).sent_eq, Run.sent_entered]
      exact (List.append_nil _).symm
  | stopped alive handling =>
      refine ⟨[], Nat.zero_le 1, by simp, ?_⟩
      rw [Run.sent_stopped, (handled_of_eq handling).sent_eq, Run.sent_entered]
      rfl
  | broken produced answer =>
      rename_i reply mid reason
      have exchanged := exchanged_post (.reply reply) answer
      obtain ⟨own, single, _, posted⟩ := exchanged.sent_eq
      have growth := (mid.entered_grows .awaitingCommand).trans
        exchanged.wrote.grows
      rw [Run.sent_entered, produced.sent_eq] at posted
      rcases List.prefix_cons_iff.mp single with rfl | ⟨rest, rfl, nothing⟩
      · exact ⟨[], Nat.zero_le 1, by simp, posted⟩
      · obtain rfl := List.prefix_nil.mp nothing
        refine ⟨[reply], Nat.le_refl 1, ?_, posted⟩
        intro other member
        obtain rfl := List.mem_singleton.mp member
        exact ⟨mid, produced, growth⟩

theorem Ends.dispatches_le {result : Except Halt Terminate}
    (h : Ends world setup command run result after) :
    dispatches after.events ≤ dispatches run.events + 1 := by
  have taken : dispatches (run.entered .dispatching).events = dispatches run.events + 1 := by
    rw [Run.events_entered, dispatches_append]
    rfl
  have stopped (run : Run σ) :
      dispatches (run.stopped world setup.session).events = dispatches run.events :=
    (Run.stopped_wrote (P := Exchanges setup .stop) .own .answer .terminated run).dispatches_eq
      fun _ => Exchanges.isDispatch_eq_false
  cases h with
  | fired lapsed =>
      rw [stopped]
      exact Nat.le_succ _
  | terminated alive asked =>
      rw [Run.events_entered, dispatches_append, taken]
      exact Nat.le_refl _
  | endless alive handling =>
      exact Nat.le_of_eq (by rw [(handled_of_eq handling).dispatches_eq, taken])
  | stopped alive handling =>
      exact Nat.le_of_eq (by rw [stopped, (handled_of_eq handling).dispatches_eq, taken])
  | broken produced answer =>
      rename_i reply mid reason
      have answered := (exchanged_post (.reply reply) answer).wrote
      rw [answered.dispatches_eq fun _ => Exchanges.isDispatch_eq_false, Run.events_entered,
        dispatches_append, produced.dispatches_eq]
      exact Nat.le_refl _

end Act

/-- The dialogue of a run: the first messages of a conversation with such replies, perhaps with a notice
behind them. Each reply was produced in its place, and no command was taken up but for one of the
replies, or as the last one. -/
structure Setup.Dialogue [Url.HostMapping] {σ : Type} (setup : Setup) (world : World σ) (state : σ)
    (final : Run σ) (replies : List Reply) (notice : List Post) : Prop where
  posted : ∃ own, own <+: Post.conversation replies ∧ replies.length ≤ own.length - 2 ∧
    sent final.events = (own ++ notice).map (Post.written setup)
  replied : ∀ (i : Nat) (reply : Reply), replies[i]? = some reply →
    setup.Replied world state final (replies.take i) reply
  once : dispatches final.events ≤ replies.length + 1
  names : ∀ post ∈ Post.conversation replies ++ [.stop], post.Names setup

namespace Setup

variable [Url.HostMapping] {σ : Type} {setup : Setup} {world : World σ} {state : σ} {final : Run σ}
  {replies : List Reply}

theorem Replied.mono {later : Run σ} {reply : Reply} (growth : final.journal <+: later.journal)
    (h : setup.Replied world state final replies reply) :
    setup.Replied world state later replies reply := by
  cases h with
  | intro takesUp posted count produced grown kind own =>
      exact .intro takesUp posted count produced (grown.trans growth) kind own

theorem Replied.session_eq {reply : Reply} (h : setup.Replied world state final replies reply) :
    reply.session = setup.session.id := by
  cases h with
  | intro takesUp posted count produced grown kind own => exact own

namespace Dialogue

variable {notice : List Post}

theorem unopened {own : List Post} (begins : own <+: [.hello, .getCommand])
    (posted : sent final.events = (own ++ notice).map (Post.written setup))
    (idle : dispatches final.events = 0) : setup.Dialogue world state final [] notice where
  posted := ⟨own, begins, Nat.zero_le _, posted⟩
  replied i reply found := by simp at found
  once := by rw [idle]; exact Nat.zero_le _
  names post member := Post.names_of_mem (by simp) member

theorem opened (replied : ∀ (i : Nat) (reply : Reply), replies[i]? = some reply →
      setup.Replied world state final (replies.take i) reply)
    (posted : sent final.events = (Post.conversation replies ++ notice).map (Post.written setup))
    (once : dispatches final.events ≤ replies.length + 1) :
    setup.Dialogue world state final replies notice where
  posted := ⟨Post.conversation replies, List.prefix_rfl, by simp [Post.conversation], posted⟩
  replied := replied
  once := once
  names post member := by
    refine Post.names_of_mem ?_ member
    intro reply inside
    obtain ⟨i, found⟩ := List.mem_iff_getElem?.mp inside
    exact (replied i reply found).session_eq

/-- What happens later without a message and without a command does not change the dialogue. -/
theorem later {after : Run σ} {P : Event → Prop} (h : setup.Dialogue world state final replies notice)
    (wrote : Run.Wrote P final after) (silent : ∀ event, P event → event.posted? = none)
    (still : ∀ event, P event → event.isDispatch = false) :
    setup.Dialogue world state after replies notice where
  posted := by
    rw [wrote.sent_eq silent]
    exact h.posted
  replied i reply found := (h.replied i reply found).mono wrote.grows
  once := by
    rw [wrote.dispatches_eq still]
    exact h.once
  names := h.names

end Dialogue

end Setup

namespace Act

theorem Clears.isTraffic_eq_false {event : Event} (h : Clears event) : event.isTraffic = false := by
  cases h <;> rfl

variable [Url.HostMapping] {σ : Type} {world : World σ} {setup : Setup} {state : σ} {after : Run σ}

theorem Greeted.dispatches_eq {run : Run σ} {result : Except Halt Unit}
    (h : Greeted world setup run result after) : dispatches after.events = dispatches run.events := by
  have hailed : dispatches (run.entered .helloSent).events = dispatches run.events := by
    rw [Run.events_entered, dispatches_append]
    rfl
  have exchanged {result : Except Halt HelloResponse} {mid : Run σ}
      (answer : exchange world setup.session .hello (HelloRequest.codec.encode setup.hello)
        HelloResponse.codec (run.entered .helloSent) = (result, mid)) :
      dispatches mid.events = dispatches run.events := by
    rw [(exchanged_post .hello answer).wrote.dispatches_eq
      fun _ => Exchanges.isDispatch_eq_false, hailed]
  cases h with
  | admitted answer verdict => rw [Run.events_informed, exchanged answer]
  | refused answer verdict => rw [Run.events_informed, exchanged answer]
  | broken answer => exact exchanged answer

theorem Conversed.dialogue {bound : Nat} {result : Except Halt Terminate}
    (h : Conversed world setup bound state result after) :
    ∃ replies, setup.Dialogue world state after replies (Post.notice result) := by
  cases h with
  | unheard greeting =>
      have greeted := greeted_of_eq greeting
      obtain ⟨own, begins, posted⟩ := greeted.sent_eq
      exact ⟨[], .unopened (begins.trans (List.prefix_append [Post.hello] [.getCommand])) posted
        greeted.dispatches_eq⟩
  | unasked greeting asking =>
      rename_i mid reason
      have greeted := greeted_of_eq greeting
      have asked := exchanged_post .getCommand asking
      obtain ⟨answer, response, events, _⟩ := greeted.events_eq
      obtain ⟨own, begins, _, posted⟩ := asked.sent_eq
      have idle : dispatches after.events = 0 := by
        rw [asked.wrote.dispatches_eq
          fun _ => Exchanges.isDispatch_eq_false, Run.events_entered, dispatches_append,
          greeted.dispatches_eq]
        rfl
      have whole : Post.hello :: own <+: [.hello, .getCommand] :=
        List.cons_prefix_cons.mpr ⟨rfl, begins⟩
      refine ⟨[], .unopened whole ?_ idle⟩
      rw [posted, Run.sent_entered, events]
      simp [Post.notice]
  | served opening serving =>
      cases serving with
      | cut turns spent =>
          refine ⟨_, .opened (fun i reply => opening.replied_turns turns List.prefix_rfl) ?_ ?_⟩
          · rw [opening.sent_turns turns]
            exact (congrArg _ (List.append_nil _)).symm
          · rw [turns.dispatches_eq, opening.dispatches_eq, Nat.zero_add]
            exact Nat.le_succ _
      | ended turns left ending =>
          rename_i replies last arrival
          obtain ⟨own, single, produced, posted⟩ := ending.sent_eq
          have taken := ending.dispatches_le
          rw [turns.dispatches_eq, opening.dispatches_eq, Nat.zero_add] at taken
          refine ⟨replies ++ own, .opened ?_ ?_ ?_⟩
          · intro i reply found
            by_cases earlier : i < replies.length
            · rw [List.getElem?_append_left earlier] at found
              rw [List.take_append_of_le_length (Nat.le_of_lt earlier)]
              exact opening.replied_turns turns ending.grows found
            · have reached := Nat.le_of_not_lt earlier
              rw [List.getElem?_append_right reached] at found
              have first : i = replies.length := by
                have inside := (List.getElem?_eq_some_iff.mp found).1
                omega
              obtain ⟨mid, production, grown⟩ := produced reply (List.mem_of_getElem? found)
              rw [first, List.take_left]
              exact opening.replied turns production grown
          · rw [posted, opening.sent_turns turns, ← List.map_append]
            simp [Post.conversation]
          · refine Nat.le_trans taken (Nat.succ_le_succ ?_)
            rw [List.length_append]
            exact Nat.le_add_right _ _

theorem Ends.of_ok {command : Command} {run : Run σ} {message : Terminate}
    (h : Ends world setup command run (.ok message) after) :
    world.hasFired run.now run.world = false ∧ command = .terminate message := by
  cases h with
  | terminated alive asked => exact ⟨alive, asked⟩

end Act

namespace Setup

variable [Url.HostMapping] {σ : Type} {setup : Setup} {world : World σ} {bound : Nat} {state : σ}

/-- The command to end the session has come, before the bound, and the token has not fired. -/
def Concludes (setup : Setup) (world : World σ) (bound : Nat) (state : σ) (message : Terminate)
    (arrival : Run σ) : Prop :=
  ∃ count, count < bound ∧ setup.TakesUp world state count (.terminate message) arrival ∧
    world.hasFired arrival.now arrival.world = false

theorem Concludes.converse_eq {message : Terminate} {arrival : Run σ}
    (h : setup.Concludes world bound state message arrival) :
    Act.converse world setup bound (Run.fresh state) =
      (.ok message, (arrival.entered .dispatching).entered .terminated) := by
  obtain ⟨count, early, taken, alive⟩ := h
  obtain ⟨first, opened, replies, opening, turns, rfl⟩ := takesUp_iff.mp taken
  obtain ⟨left, rfl⟩ := Nat.exists_eq_add_of_lt early
  rw [Act.converse_opened opening, Nat.add_assoc, turns.serve_eq]
  exact Act.serve_alive alive rfl

theorem concludes_of_converse {message : Terminate} {after : Run σ}
    (h : Act.converse world setup bound (Run.fresh state) = (.ok message, after)) :
    ∃ arrival, setup.Concludes world bound state message arrival := by
  have conversed := Act.conversed world setup bound state
  rw [h] at conversed
  cases conversed with
  | served opening serving =>
      cases serving with
      | ended turns left ending =>
          obtain ⟨alive, rfl⟩ := ending.of_ok
          exact ⟨_, _, left, takesUp_iff.mpr ⟨_, _, _, opening, turns, rfl⟩, alive⟩

/-- Behind the command to end the session nothing is posted or answered. -/
theorem Concludes.events_eq {message : Terminate} {arrival : Run σ}
    (h : setup.Concludes world bound state message arrival) :
    ∃ rest, (setup.run world bound state).2.events = arrival.events ++ rest ∧
      ∀ event ∈ rest, event.isTraffic = false := by
  obtain ⟨_, cleaning⟩ := run_of_converse h.converse_eq
  obtain ⟨cleared, events, kind⟩ := cleaning.events
  rw [Run.events_entered, Run.events_entered, List.append_assoc, List.append_assoc] at events
  refine ⟨_, events, ?_⟩
  intro event member
  rcases List.mem_append.mp member with taken | later
  · rw [List.mem_singleton.mp taken]
    rfl
  · rcases List.mem_append.mp later with ended | clearing
    · rw [List.mem_singleton.mp ended]
      rfl
    · exact (kind event clearing).isTraffic_eq_false

/-- A run posts a hello, a request for a command and one reply to each command, in order, and perhaps
the notice that it is stopped. It ends well, once its connection is closed, exactly if the last command
that came is to end the session, and then nothing is posted behind it. -/
theorem one_reply_per_command (setup : Setup) (world : World σ) (bound : Nat) (state : σ) :
    (∃ replies notice, (notice = [] ∨ notice = [Post.stop]) ∧
      setup.Dialogue world state (setup.run world bound state).2 replies notice) ∧
    (∀ message, (setup.run world bound state).1 = .finished (.ok message) ↔
      ∃ arrival, setup.Concludes world bound state message arrival ∧ arrival.closes world = true) ∧
    ∀ message arrival, setup.Concludes world bound state message arrival →
      ∃ rest, (setup.run world bound state).2.events = arrival.events ++ rest ∧
        ∀ event ∈ rest, event.isTraffic = false := by
  refine ⟨?_, ?_, ?_⟩
  · obtain ⟨result, mid, _, conversed, _, cleaning⟩ := exists_conversed setup world bound state
    obtain ⟨replies, dialogue⟩ := conversed.dialogue
    exact ⟨replies, Post.notice result, Post.notice_eq result, dialogue.later cleaning
      (fun _ => Act.Clears.posted?_eq_none) (fun _ => Act.Clears.isDispatch_eq_false)⟩
  · intro message
    constructor
    · intro finished
      rcases conversing : Act.converse world setup bound (Run.fresh state) with ⟨result, mid⟩
      obtain ⟨ending, _⟩ := run_of_converse conversing
      obtain ⟨rfl, closed⟩ := Ending.of_eq_finished (ending.symm.trans finished)
      obtain ⟨arrival, concludes⟩ := concludes_of_converse conversing
      refine ⟨arrival, concludes, ?_⟩
      rw [concludes.converse_eq] at conversing
      cases conversing
      exact closed
    · rintro ⟨arrival, concludes, closed⟩
      obtain ⟨ending, _⟩ := run_of_converse concludes.converse_eq
      rw [ending]
      change Ending.of (arrival.closes world) _ = _
      rw [closed]
      rfl
  · intro message arrival concludes
    exact concludes.events_eq

end Setup

end CardGateway
