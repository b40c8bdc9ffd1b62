import CardGateway.Proofs.AnswerReading
import CardGateway.Proofs.Attempts
import CardGateway.Rehearsal.Peer

/-!
# Which answer belongs to which request

A stream is kept only behind a whole answer with nothing behind it. So where a peer answers in order,
what is read on a stream that was kept is the answer to the request that went out last.
-/

namespace CardGateway.Http

structure Intake where
  bytes : Bytes
  /-- It is read to the end of the stream. -/
  ended : Bool

namespace Arrival

def takenFrom (closes : Option Millis) : Bytes → List (Millis × Bytes) → Intake
  | got, [] => ⟨got, closes.isSome⟩
  | got, (_, piece) :: rest =>
      match Answer.read (got ++ piece) false with
      | .more => takenFrom closes (got ++ piece) rest
      | _ => ⟨got ++ piece, false⟩

def taken (arrival : Arrival) : Intake := takenFrom arrival.closes [] arrival.pieces

variable {closes : Option Millis} {got : Bytes} {pieces : List (Millis × Bytes)}
  {arrival : Arrival} {answer : Answer} {t : Millis}

theorem read_takenFrom (settles : settleFrom closes got pieces = some (.ok answer, t))
    (unended : ∀ other, Answer.read got false ≠ .done other) :
    Answer.read (takenFrom closes got pieces).bytes (takenFrom closes got pieces).ended =
        .done answer ∧
      ((takenFrom closes got pieces).ended = true →
        ∀ other, Answer.read (takenFrom closes got pieces).bytes false ≠ .done other) := by
  induction pieces generalizing got with
  | nil =>
      cases closes with
      | none => cases settles
      | some u =>
          rw [settleFrom] at settles
          cases found : Answer.read got true with
          | done answer =>
              rw [found] at settles
              obtain ⟨rfl, rfl⟩ : answer = _ ∧ u = t := by simpa using settles
              exact ⟨found, fun _ => unended⟩
          | fault fault =>
              rw [found] at settles
              cases settles
          | more =>
              rw [found] at settles
              cases settles
  | cons first rest ih =>
      obtain ⟨u, piece⟩ := first
      rw [settleFrom] at settles
      rw [takenFrom]
      cases found : Answer.read (got ++ piece) false with
      | done answer =>
          rw [found] at settles
          obtain ⟨rfl, rfl⟩ : answer = _ ∧ u = t := by simpa using settles
          exact ⟨found, by simp⟩
      | fault fault =>
          rw [found] at settles
          cases settles
      | more =>
          rw [found] at settles
          exact ih settles (by simp [found])

theorem read_taken (settles : arrival.settle = some (.ok answer, t)) :
    Answer.read arrival.taken.bytes arrival.taken.ended = .done answer ∧
      (arrival.taken.ended = true →
        ∀ other, Answer.read arrival.taken.bytes false ≠ .done other) :=
  read_takenFrom settles fun _ => Answer.read_nil_ne_done

/-- An answer is complete or given up when a piece comes, or the end of the stream. -/
theorem settleFrom_mem {result : Except TransportFault Answer}
    (settles : settleFrom closes got pieces = some (result, t)) :
    (∃ piece, (t, piece) ∈ pieces) ∨ closes = some t := by
  induction pieces generalizing got with
  | nil =>
      cases closes with
      | none => cases settles
      | some u =>
          rw [settleFrom] at settles
          right
          cases found : Answer.read got true <;> simp_all
  | cons first rest ih =>
      obtain ⟨u, piece⟩ := first
      rw [settleFrom] at settles
      cases found : Answer.read (got ++ piece) false with
      | done answer =>
          rw [found] at settles
          obtain ⟨-, rfl⟩ : _ ∧ u = t := by simpa using settles
          exact .inl ⟨piece, List.mem_cons_self⟩
      | fault fault =>
          rw [found] at settles
          obtain ⟨-, rfl⟩ : _ ∧ u = t := by simpa using settles
          exact .inl ⟨piece, List.mem_cons_self⟩
      | more =>
          rw [found] at settles
          rcases ih settles with ⟨later, member⟩ | closes
          · exact .inl ⟨later, List.mem_cons_of_mem _ member⟩
          · exact .inr closes

end Arrival

/-- Nothing comes back before it is asked for. -/
def Network.Causal {σ : Type} (network : Network σ) : Prop :=
  ∀ now stream request state,
    (∀ piece ∈ (network.exchange now stream request state).1.pieces, now ≤ piece.1) ∧
      ∀ t, (network.exchange now stream request state).1.closes = some t → now ≤ t

structure Reply where
  bytes : Bytes
  /-- It runs to the end of the stream. -/
  ended : Bool
  answer : Answer

/-- The bytes are those of the answer, neither fewer nor more. -/
structure Reply.Spelled (reply : Reply) : Prop where
  read : Answer.read reply.bytes reply.ended = .done reply.answer
  first : ∀ front other, front <+: reply.bytes → Answer.read front false = .done other →
    front = reply.bytes ∧ reply.ended = false

/-- An answer whose stream is used again has no byte behind it. -/
theorem Reply.Spelled.of_reusable {bytes : Bytes} {answer : Answer}
    (read : Answer.read bytes false = .done answer) (reusable : answer.reusable = true) :
    (Reply.mk bytes false answer).Spelled := by
  refine ⟨read, ?_⟩
  rintro front other ⟨more, split⟩ early
  have longer := Answer.read_append early more false
  rw [split, read] at longer
  rw [Answer.Progress.done.inj longer] at reusable
  have nothing : more = [] := List.isEmpty_iff.mp (Bool.and_eq_true_iff.mp reusable).2
  exact ⟨by simpa [nothing] using split, rfl⟩

/-- What is read where a reply stands is that reply, perhaps with bytes behind it. -/
structure Reply.IsRead (reply : Reply) (bytes : Bytes) (answer : Answer) (more : Bytes) : Prop where
  split : bytes = reply.bytes ++ more
  answer_eq : answer = reply.answer.followed more
  nothing : reply.ended = true → more = []

theorem Reply.Spelled.isRead {reply : Reply} (h : reply.Spelled) {bytes : Bytes} {ended : Bool}
    {answer : Answer} (read : Answer.read bytes ended = .done answer)
    (unended : ended = true → ∀ other, Answer.read bytes false ≠ .done other)
    (near : bytes <+: reply.bytes ∨ reply.bytes <+: bytes)
    (last : reply.ended = true → bytes <+: reply.bytes ∧ (ended = true → bytes = reply.bytes)) :
    ∃ more, reply.IsRead bytes answer more := by
  have whole := h.read
  have same (equal : bytes = reply.bytes) (alike : ended = reply.ended) :
      reply.IsRead bytes answer [] := by
    rw [equal, alike, whole] at read
    obtain rfl := Answer.Progress.done.inj read
    exact ⟨by simp [equal], by simp [Answer.followed], fun _ => rfl⟩
  have inside (within : bytes <+: reply.bytes) : reply.IsRead bytes answer [] := by
    cases ended with
    | false =>
        obtain ⟨equal, runs⟩ := h.first bytes answer within read
        exact same equal runs.symm
    | true =>
        cases runs : reply.ended with
        | true => exact same ((last runs).2 rfl) runs.symm
        | false =>
            obtain ⟨more, split⟩ := within
            rw [runs, ← split] at whole
            exact absurd whole (Answer.read_append_ne_done read (unended rfl) more _)
  cases runs : reply.ended with
  | true => exact ⟨[], inside (last runs).1⟩
  | false =>
      rcases near with within | ⟨more, rfl⟩
      · exact ⟨[], inside within⟩
      · rw [runs] at whole
        rw [Answer.read_append whole] at read
        exact ⟨more, rfl, (Answer.Progress.done.inj read).symm, by simp [runs]⟩

section Pairing

variable {σ : Type}

/-- A request has been answered with success, and the answer has been read to its end and not beyond,
and its peer keeps the stream open. -/
structure Exchange.Answers (exchange : Exchange σ) (answer : Answer) (t : Millis) : Prop where
  settles : exchange.arrival.settle = some (.ok answer, t)
  success : answer.head.status = 200
  alive : keepsAlive answer.head.version (answer.head.values "connection") = true
  spelled : (Reply.mk exchange.arrival.taken.bytes false answer).Spelled

theorem Exchange.Answers.of_reusable {exchange : Exchange σ} {answer : Answer} {t : Millis}
    (settles : exchange.arrival.settle = some (.ok answer, t)) (success : answer.head.status = 200)
    (reusable : answer.reusable = true) : exchange.Answers answer t := by
  obtain ⟨goesOn, whole⟩ := Answer.of_reusable (Arrival.read_taken settles).1 reusable
  exact ⟨settles, success, (Bool.and_eq_true_iff.mp goesOn).1, .of_reusable whole reusable⟩

/-- The replies of a peer that come on one stream, one for each request and in their order. -/
structure InOrder (replies : List Reply) (exchanges : List (Exchange σ)) : Prop where
  spelled : ∀ reply ∈ replies, reply.Spelled
  /-- Nothing comes behind a reply that runs to the end. -/
  last : replies.Pairwise fun earlier _ => earlier.ended = false
  /-- What is read of them is no more than there is. -/
  comes : exchanges.flatMap (·.arrival.taken.bytes) <+: replies.flatMap (·.bytes)
  /-- A reply that runs to the end is over where the stream ends. -/
  closes : ∀ reply ∈ replies, reply.ended = true → ∀ exchange ∈ exchanges,
    exchange.arrival.taken.ended = true →
      exchanges.flatMap (·.arrival.taken.bytes) = replies.flatMap (·.bytes)

namespace InOrder

variable {reply : Reply} {replies : List Reply} {first own : Exchange σ}
  {exchanges earlier : List (Exchange σ)} {answer : Answer} {t : Millis}

/-- What is read first on a stream is the first reply. -/
theorem first_eq (h : InOrder replies (first :: exchanges))
    (settles : first.arrival.settle = some (.ok answer, t))
    (whole : first.arrival.taken.ended = true → exchanges = []) :
    ∃ reply rest more, replies = reply :: rest ∧ reply.Spelled ∧
      reply.IsRead first.arrival.taken.bytes answer more := by
  obtain ⟨read, unended⟩ := Arrival.read_taken settles
  have comes := h.comes
  rw [List.flatMap_cons] at comes
  have begins := (List.prefix_append _ _).trans comes
  cases replies with
  | nil =>
      have untaken : first.arrival.taken.bytes = [] := List.prefix_nil.mp begins
      rw [untaken] at read
      exact absurd read Answer.read_nil_ne_done
  | cons reply rest =>
      rw [List.flatMap_cons] at begins
      have near := List.prefix_or_prefix_of_prefix begins (List.prefix_append _ _)
      have alone (runs : reply.ended = true) : rest = [] := by
        cases rest with
        | nil => rfl
        | cons other behind =>
            have unlike := (List.pairwise_cons.mp h.last).1 other List.mem_cons_self
            simp [runs] at unlike
      have spelled := h.spelled reply List.mem_cons_self
      obtain ⟨more, isRead⟩ := spelled.isRead read unended near fun runs => by
        obtain rfl := alone runs
        refine ⟨by simpa using begins, fun closed => ?_⟩
        obtain rfl := whole closed
        simpa using h.closes reply List.mem_cons_self runs first List.mem_cons_self closed
      exact ⟨reply, rest, more, rfl, spelled, isRead⟩

/-- Behind the first one the other replies come. -/
theorem tail (h : InOrder (reply :: replies) (first :: exchanges))
    (same : first.arrival.taken.bytes = reply.bytes) : InOrder replies exchanges where
  spelled other member := h.spelled other (List.mem_cons_of_mem _ member)
  last := (List.pairwise_cons.mp h.last).2
  comes := by
    have comes := h.comes
    rw [List.flatMap_cons, List.flatMap_cons, same] at comes
    exact (List.prefix_append_right_inj _).mp comes
  closes other member runs exchange among closed := by
    have equal := h.closes other (List.mem_cons_of_mem _ member) runs exchange
      (List.mem_cons_of_mem _ among) closed
    rw [List.flatMap_cons, List.flatMap_cons, same] at equal
    exact List.append_cancel_left equal

/-- Behind requests that have been answered, the reply to the next request is read. -/
theorem reply_eq (h : InOrder replies (earlier ++ [own]))
    (answered : ∀ exchange ∈ earlier, ∃ answer t, exchange.Answers answer t)
    (settles : own.arrival.settle = some (.ok answer, t)) :
    ∃ reply more, replies[earlier.length]? = some reply ∧ answer = reply.answer.followed more := by
  -- Each request answered before has taken exactly its reply, so that the next one comes first.
  induction earlier generalizing replies with
  | nil =>
      obtain ⟨reply, rest, more, rfl, -, isRead⟩ := h.first_eq settles fun _ => rfl
      exact ⟨reply, more, rfl, isRead.answer_eq⟩
  | cons first earlier ih =>
      obtain ⟨before, u, answers⟩ := answered first List.mem_cons_self
      have unended : first.arrival.taken.ended ≠ true := fun closed =>
        (Arrival.read_taken answers.settles).2 closed before answers.spelled.read
      obtain ⟨reply, rest, more, rfl, spelled, isRead⟩ :=
        h.first_eq answers.settles fun closed => absurd closed unended
      have same : first.arrival.taken.bytes = reply.bytes := by
        cases runs : reply.ended with
        | true => rw [isRead.split, isRead.nothing runs, List.append_nil]
        | false =>
            have read := spelled.read
            rw [runs] at read
            exact (answers.spelled.first _ _ ⟨more, isRead.split.symm⟩ read).1.symm
      exact ih (h.tail same) fun exchange member =>
        answered exchange (List.mem_cons_of_mem _ member)

end InOrder

def Deed.isOn (stream : Nat) : Deed σ → Bool
  | .connect _ => false
  | .exchange sent => sent.stream == stream

end Pairing

namespace Client

variable {σ : Type} {network : Network σ} {patience : Patience σ} {request : Request} {fresh : Bool}
  {resource : String} {body bytes : Bytes} {s after : Standing σ} {past : List (Deed σ)}
  {tried : Attempt σ} {outcome : Outcome} {attempts : List (Attempt σ)}

def Standing.Paired (network : Network σ) (s : Standing σ) (past : List (Deed σ)) : Prop :=
  ∀ connection, s.client.retained = some connection →
    ∀ exchange ∈ exchangesOn connection.stream past,
      ∃ answer t, exchange.Answers answer t ∧ (network.Causal → t ≤ s.now)

/-- A request goes out on a stream behind those that have been answered on it. -/
structure Follows (network : Network σ) (past deeds : List (Deed σ)) (own : Exchange σ)
    (earlier : List (Exchange σ)) : Prop where
  last : deeds.getLast? = some (.exchange own)
  log : exchangesOn own.stream (past ++ deeds) = earlier ++ [own]
  answered : ∀ exchange ∈ earlier, ∃ answer t, exchange.Answers answer t ∧
    (network.Causal → t ≤ own.begun)
  asked : ∃ request state, own = network.exchanging own.begun own.stream request state

theorem Follows.member {deeds : List (Deed σ)} {own : Exchange σ} {earlier : List (Exchange σ)}
    (h : Follows network past deeds own earlier) : .exchange own ∈ deeds :=
  List.mem_of_getLast? h.last

theorem Follows.behind {first deeds : List (Deed σ)} {own : Exchange σ} {earlier : List (Exchange σ)}
    (h : Follows network (past ++ first) deeds own earlier) :
    Follows network past (first ++ deeds) own earlier where
  last := by rw [List.getLast?_append, h.last, Option.some_or]
  log := by rw [← List.append_assoc, h.log]
  answered := h.answered
  asked := h.asked

/-- An answer comes no earlier than its request. -/
theorem Follows.begun_le {deeds : List (Deed σ)} {own : Exchange σ} {earlier : List (Exchange σ)}
    {result : Except TransportFault Answer} {t : Millis} (h : Follows network past deeds own earlier)
    (causal : network.Causal) (settles : own.arrival.settle = some (result, t)) : own.begun ≤ t := by
  obtain ⟨request, state, asked⟩ := h.asked
  obtain ⟨pieces, closes⟩ := causal own.begun own.stream request state
  have arrival : own.arrival = (network.exchange own.begun own.stream request state).1 :=
    congrArg Exchange.arrival asked
  rw [← arrival] at pieces closes
  rcases Arrival.settleFrom_mem settles with ⟨piece, member⟩ | closed
  · exact pieces _ member
  · exact closes t closed

namespace Attempted

/-- An attempt either asks on a stream where all has been answered, or leaves none and has no answer. -/
theorem follows (h : Attempted network patience request fresh s tried outcome after)
    (paired : s.Paired network past) :
    (∃ own earlier turn connection, Follows network past tried.deeds own earlier ∧
      patience.Awaits own.begun own.after own.arrival.settle turn ∧ outcome = .of turn ∧
      connection.stream = own.stream ∧ after.client.retained = kept connection turn ∧
      ∀ value t, turn = some (value, t) → after.now = t) ∨
    (after.client.retained = none ∧ ∀ bytes, outcome ≠ .result (.ok bytes)) := by
  cases h with
  | @reused allowed connection held exchange exchanges turn awaits =>
      refine .inl ⟨exchange, exchangesOn connection.stream past, turn, connection, ?_, awaits, rfl,
        congrArg Exchange.stream exchanges.symm, rfl, ?_⟩
      · have retained : s.client.retained = some connection :=
          (Option.filter_eq_some_iff.mp held).1
        have stream : exchange.stream = connection.stream := congrArg Exchange.stream exchanges
        have begun : exchange.begun = s.now := congrArg Exchange.begun exchanges
        constructor
        case last => rfl
        case log => rw [Attempt.deeds, exchangesOn_exchange, if_pos rfl, stream]
        case answered =>
          rw [begun]
          exact paired connection retained
        case asked =>
          rw [exchanges]
          exact ⟨_, _, rfl⟩
      · rintro value t rfl
        rfl
  | @opened opening opens stream t arrives mid stands exchange exchanges turn awaits =>
      refine .inl ⟨exchange, [], turn, ⟨stream, .http11⟩, ?_, awaits, rfl,
        congrArg Exchange.stream exchanges.symm, rfl, ?_⟩
      · -- Whatever the record tells of this number was on another stream.
        have opened : opening.opens exchange.stream = true := by
          rw [exchanges]
          exact arrives.opens
        constructor
        case last => rfl
        case log =>
          have split : past ++ (Attempt.opened opening exchange).deeds =
              past ++ [.connect opening] ++ [.exchange exchange] := by simp [Attempt.deeds]
          rw [split, exchangesOn_exchange, if_pos rfl, exchangesOn_connect, if_pos opened]
        case answered => simp
        case asked =>
          rw [exchanges]
          exact ⟨_, _, rfl⟩
      · rintro value t rfl
        rfl
  | unopened opens comes =>
      refine .inr ⟨rfl, fun bytes => ?_⟩
      cases comes <;> simp [Outcome.of]

theorem paired (h : Attempted network patience request fresh s tried outcome after)
    (paired : s.Paired network past) : after.Paired network (past ++ tried.deeds) := by
  intro connection retained
  rcases h.follows paired with
    ⟨own, earlier, turn, used, follows, awaits, -, stream, left, now⟩ | ⟨unread, -⟩
  · rw [left] at retained
    obtain ⟨answer, t, rfl, success, reusable, rfl⟩ := kept_eq_some_iff.mp retained
    have settles : own.arrival.settle = some (.ok answer, t) := awaits.comes
    have ends : after.now = t := now _ t rfl
    rw [stream, follows.log]
    intro exchange member
    rcases List.mem_append.mp member with before | last
    · obtain ⟨other, u, answers, early⟩ := follows.answered exchange before
      refine ⟨other, u, answers, fun causal => ?_⟩
      calc u ≤ own.begun := early causal
        _ ≤ t := follows.begun_le causal settles
        _ = after.now := ends.symm
    · obtain rfl := List.mem_singleton.mp last
      exact ⟨answer, t, .of_reusable settles success reusable, fun _ => Nat.le_of_eq ends.symm⟩
  · rw [unread] at retained
    cases retained

end Attempted

theorem Sent.paired (h : Sent network patience resource body s attempts outcome after)
    (paired : s.Paired network past) :
    after.Paired network (past ++ attempts.flatMap Attempt.deeds) := by
  cases h with
  | lapsed fired => simpa using paired
  | unwritable alive unmade => simpa using paired
  | once alive made attempted settled => simpa using attempted.paired paired
  | twice alive made attempted still again =>
      simpa using again.paired (attempted.paired paired)

theorem Standing.recorded_inj {s other : Standing σ} {past deeds : List (Deed σ)}
    (same : s.recorded past = other.recorded deeds) : s = other ∧ past = deeds := by
  obtain ⟨client, network, now⟩ := s
  obtain ⟨client', network', now'⟩ := other
  obtain ⟨rfl, state, rfl⟩ := Standing.mk.inj same
  obtain ⟨rfl, rfl⟩ := Prod.mk.inj state
  exact ⟨rfl, rfl⟩

/-- What a client goes through: requests are sent, each with a patience of its own, and it is closed, at
whatever instants, and the other side may change in between. -/
inductive Reached (network : Network σ) (authority : String) :
    Standing σ → List (Deed σ) → Prop where
  | start (state : σ) (now : Millis) : Reached network authority ⟨start authority, state, now⟩ []
  | send {s after : Standing σ} {past deeds : List (Deed σ)} (reached : Reached network authority s past)
      (patience : Patience σ) (resource : String) (body : Bytes) {outcome : Outcome}
      (sends : send network.recorded patience.recorded resource body (s.recorded past) =
        (outcome, after.recorded deeds)) : Reached network authority after deeds
  | close {s : Standing σ} {past : List (Deed σ)} (reached : Reached network authority s past) :
      Reached network authority { s with client := s.client.close } past
  | pause {s : Standing σ} {past : List (Deed σ)} (reached : Reached network authority s past)
      (state : σ) {now : Millis} (later : s.now ≤ now) :
      Reached network authority { s with network := state, now } past

theorem Reached.paired {authority : String} (h : Reached network authority s past) :
    s.Paired network past := by
  induction h with
  | start state now =>
      intro connection retained
      cases retained
  | @send s after past deeds _ patience resource body outcome sends ih =>
      obtain ⟨attempts, _, _, sent, -, does⟩ := send_does network patience resource body s
      obtain ⟨-, same⟩ := Prod.mk.inj ((does past).symm.trans sends)
      obtain ⟨rfl, rfl⟩ := Standing.recorded_inj same
      exact sent.paired ih
  | close reached ih =>
      intro connection retained
      cases retained
  | pause reached state later ih =>
      intro connection retained exchange member
      obtain ⟨answer, t, answers, early⟩ := ih connection retained exchange member
      exact ⟨answer, t, answers, fun causal => Nat.le_trans (early causal) later⟩

/-- How a client comes to return bytes. -/
structure Returns (network : Network σ) (patience : Patience σ) (resource : String) (body : Bytes)
    (s : Standing σ) (past : List (Deed σ)) (bytes : Bytes) (after : Standing σ)
    (deeds : List (Deed σ)) (own : Exchange σ) (earlier : List (Exchange σ)) : Prop where
  does : Does (fun network patience => send network patience resource body) network patience s deeds
    (.result (.ok bytes)) after
  /-- The request that goes out last is the caller's. -/
  last : deeds.getLast? = some (.exchange own)
  same : ∃ request version, Request.make? s.client.authority resource body = some request ∧
    own.request = { request with version }
  /-- All requests before it on its stream had been answered. -/
  log : exchangesOn own.stream (past ++ deeds) = earlier ++ [own]
  answered : ∀ exchange ∈ earlier, ∃ answer t, exchange.Answers answer t
  /-- Where the peer answers in order, the bytes are the body of the reply that has the same place. -/
  own : ∀ replies, InOrder replies (earlier ++ [own]) → ∃ reply,
    replies[earlier.length]? = some reply ∧ reply.answer.head.status = 200 ∧ reply.answer.body = bytes

namespace Attempted

theorem returns (h : Attempted network patience request fresh s tried outcome after)
    (paired : s.Paired network past) (ok : outcome = .result (.ok bytes)) :
    ∃ own earlier answer t, Follows network past tried.deeds own earlier ∧
      own.arrival.settle = some (.ok answer, t) ∧ answer.head.status = 200 ∧ answer.body = bytes := by
  rcases h.follows paired with
    ⟨own, earlier, turn, -, follows, awaits, told, -⟩ | ⟨-, other⟩
  · rw [told] at ok
    obtain ⟨answer, t, rfl, success, same⟩ := Outcome.of_eq_ok_iff.mp ok
    have settles : own.arrival.settle = some (.ok answer, t) := awaits.comes
    exact ⟨own, earlier, answer, t, follows, settles, success, same⟩
  · exact absurd ok (other bytes)

end Attempted

theorem Sent.returns (h : Sent network patience resource body s attempts outcome after)
    (paired : s.Paired network past) (ok : outcome = .result (.ok bytes)) :
    ∃ own earlier answer t,
      Follows network past (attempts.flatMap Attempt.deeds) own earlier ∧
      (∃ request version, Request.make? s.client.authority resource body = some request ∧
        own.request = { request with version }) ∧
      own.arrival.settle = some (.ok answer, t) ∧ answer.head.status = 200 ∧ answer.body = bytes := by
  cases h with
  | lapsed fired => cases ok
  | unwritable alive unmade => cases ok
  | @once alive request made first outcome after attempted settled =>
      obtain ⟨own, earlier, answer, t, follows, settles⟩ := attempted.returns paired ok
      obtain ⟨version, same⟩ := attempted.request_eq follows.member
      rw [List.flatMap_singleton]
      exact ⟨own, earlier, answer, t, follows, ⟨request, version, made, same⟩, settles⟩
  | @twice alive request made first second mid outcome after attempted still again =>
      obtain ⟨own, earlier, answer, t, follows, settles⟩ :=
        again.returns (attempted.paired paired) ok
      obtain ⟨version, same⟩ := again.request_eq follows.member
      rw [List.flatMap_cons, List.flatMap_singleton]
      exact ⟨own, earlier, answer, t, follows.behind, ⟨request, version, made, same⟩, settles⟩

/-- A stream is kept only if all requests on it have been answered, so the bytes that come of a request
are the answer to it. -/
theorem reply_to_own_request {authority : String} (reached : Reached network authority s past) :
    s.Paired network past ∧ ∀ patience resource body bytes after,
      send network patience resource body s = (.result (.ok bytes), after) →
      ∃ deeds own earlier,
        Returns network patience resource body s past bytes after deeds own earlier := by
  refine ⟨reached.paired, fun patience resource body bytes after sends => ?_⟩
  obtain ⟨attempts, _, _, sent, does⟩ := send_does network patience resource body s
  obtain ⟨rfl, rfl⟩ := Prod.mk.inj (does.1.symm.trans sends)
  obtain ⟨own, earlier, answer, t, follows, same, settles, success, body⟩ :=
    sent.returns reached.paired rfl
  have answered (exchange : Exchange σ) (member : exchange ∈ earlier) :
      ∃ answer t, exchange.Answers answer t := by
    obtain ⟨answer, t, answers, -⟩ := follows.answered exchange member
    exact ⟨answer, t, answers⟩
  refine ⟨_, own, earlier, does, follows.last, same, follows.log, answered, fun replies inOrder => ?_⟩
  obtain ⟨reply, more, found, rfl⟩ := inOrder.reply_eq answered settles
  exact ⟨reply, found, success, body⟩

section Rehearsed

open Rehearsal Text

def Standing.plain (s : Standing (σ × List (Deed σ))) : Standing σ :=
  ⟨s.client, s.network.1, s.now⟩

/-- The record of what is done grows by its deeds. -/
theorem Does.past_eq {act : {τ : Type} → Network τ → Patience τ → Standing τ → Outcome × Standing τ}
    {s : Standing (σ × List (Deed σ))} {deeds : List (Deed σ)}
    (h : Does act network patience s.plain deeds outcome after) :
    (act network.recorded patience.recorded s).2.network.2 = s.network.2 ++ deeds := by
  have recorded : act network.recorded patience.recorded s =
      (outcome, after.recorded (s.network.2 ++ deeds)) := h.2 s.network.2
  rw [recorded]
  rfl

theorem Reached.sent {authority : String} (h : Reached network authority s past)
    (patience : Patience σ) (resource : String) (body : Bytes) :
    Reached network authority
      (Client.send network.recorded patience.recorded resource body (s.recorded past)).2.plain
      (Client.send network.recorded patience.recorded resource body (s.recorded past)).2.network.2 :=
  h.send patience resource body rfl

def wordReply (word : String) : Reply where
  bytes := Utf8.encode ("HTTP/1.1 200 OK\r\ncontent-length: 3\r\n\r\n" ++ word)
  ended := false
  answer := ⟨⟨.http11, 200, [⟨Utf8.encode "content-length", Utf8.encode "3"⟩]⟩, Utf8.encode word, true⟩

theorem wordReply_spelled {word : String} (member : word ∈ ["one", "two"]) :
    (wordReply word).Spelled := by
  refine .of_reusable ?_ rfl
  obtain rfl | rfl : word = "one" ∨ word = "two" := by simpa using member
  · decide +kernel
  · decide +kernel

def calm : Patience Peer := ⟨fun _ => none, none⟩

def answering : Peer :=
  .ofScripts [some [.answer (wordReply "one").bytes 5, .answer (wordReply "two").bytes 5]]

def greeted : Standing (Peer × List (Deed Peer)) :=
  (send Peer.network.recorded calm.recorded "first" []
    (Standing.recorded [] ⟨start "host", answering, 0⟩)).2

theorem second_reply_returned :
    greeted.client.retained = some ⟨0, .http11⟩ ∧
    greeted.plain.Paired Peer.network greeted.network.2 ∧
    ∃ after deeds own earlier,
      Returns Peer.network calm "second" [] greeted.plain greeted.network.2 (Utf8.encode "two")
        after deeds own earlier ∧
      earlier.length = 1 ∧ InOrder [wordReply "one", wordReply "two"] (earlier ++ [own]) := by
  have begun : Reached Peer.network "host" ⟨start "host", answering, 0⟩ [] := .start answering 0
  have reached : Reached Peer.network "host" greeted.plain greeted.network.2 := by
    unfold greeted
    exact begun.sent calm "first" []
  obtain ⟨paired, returns⟩ := reply_to_own_request reached
  refine ⟨by decide +kernel, paired, ?_⟩
  obtain ⟨⟨outcome, after⟩, sends⟩ :
      ∃ result, send Peer.network calm "second" [] greeted.plain = result := ⟨_, rfl⟩
  have told : (send Peer.network calm "second" [] greeted.plain).1.bytes? =
      some (Utf8.encode "two") := by decide +kernel
  rw [sends] at told
  obtain rfl := Outcome.bytes?_eq_some_iff.mp told
  obtain ⟨deeds, own, earlier, done⟩ := returns calm "second" [] _ _ sends
  have record := done.does.past_eq
  have stream : own.stream = 0 := by
    have last : (greeted.network.2 ++ deeds).getLast?.any (·.isOn 0) = true := by
      rw [← record]
      decide +kernel
    rw [List.getLast?_append, done.last] at last
    simpa [Deed.isOn] using last
  have log := done.log
  rw [stream, ← record] at log
  have both : (earlier ++ [own]).length = 2 := by
    rw [← log]
    decide +kernel
  have comes : (earlier ++ [own]).flatMap (·.arrival.taken.bytes) =
      [wordReply "one", wordReply "two"].flatMap (·.bytes) := by
    rw [← log]
    decide +kernel
  refine ⟨after, deeds, own, earlier, done, by simpa using both, ?_⟩
  constructor
  case spelled =>
    intro reply member
    obtain rfl | rfl : reply = wordReply "one" ∨ reply = wordReply "two" := by simpa using member
    · exact wordReply_spelled (by simp)
    · exact wordReply_spelled (by simp)
  case last => simp [wordReply]
  case comes => exact comes ▸ List.prefix_rfl
  case closes => simp [wordReply]

end Rehearsed

end Client

end CardGateway.Http
