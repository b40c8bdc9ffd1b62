import CardGateway.Http.Client

/-!
# Attempts

A network may keep a record of what is asked of it, and a client does the same with it. What the record
of a request shows is one attempt, or two, or none.
-/

namespace CardGateway.Http

open CardGateway.Text

/-- A stream is asked for at an instant: what comes of it, and the network behind that. -/
structure Opening (σ : Type) where
  begun : Millis
  result : Option (Except String Nat × Millis)
  after : σ

/-- A request goes out on a stream at an instant: what comes back, and the network behind that. -/
structure Exchange (σ : Type) where
  begun : Millis
  stream : Nat
  request : Request
  arrival : Arrival
  after : σ

inductive Deed (σ : Type) where
  | connect (opening : Opening σ)
  | exchange (exchange : Exchange σ)

def Opening.ends {σ : Type} (opening : Opening σ) : Option (Except String Nat × Millis) :=
  opening.result.map fun (result, span) => (result, opening.begun + span)

def Opening.opens {σ : Type} (stream : Nat) (opening : Opening σ) : Bool :=
  match opening.result with
  | some (.ok opened, _) => opened == stream
  | _ => false

/-- The requests that went out on a stream since it was opened. -/
def exchangesOn {σ : Type} (stream : Nat) (deeds : List (Deed σ)) : List (Exchange σ) :=
  deeds.foldl (fun found deed =>
    match deed with
    | .connect opening => if opening.opens stream then [] else found
    | .exchange exchange => if exchange.stream = stream then found ++ [exchange] else found) []

section Record

variable {σ : Type} {stream : Nat} {deeds : List (Deed σ)}

theorem exchangesOn_connect {opening : Opening σ} :
    exchangesOn stream (deeds ++ [.connect opening]) =
      if opening.opens stream then [] else exchangesOn stream deeds := by
  rw [exchangesOn, List.foldl_append]
  rfl

theorem exchangesOn_exchange {exchange : Exchange σ} :
    exchangesOn stream (deeds ++ [.exchange exchange]) =
      if exchange.stream = stream then exchangesOn stream deeds ++ [exchange]
      else exchangesOn stream deeds := by
  rw [exchangesOn, List.foldl_append]
  rfl

end Record

namespace Network

variable {σ : Type}

def opening (network : Network σ) (now : Millis) (state : σ) : Opening σ :=
  ⟨now, (network.connect now state).1, (network.connect now state).2⟩

def exchanging (network : Network σ) (now : Millis) (stream : Nat) (request : Request) (state : σ) :
    Exchange σ :=
  ⟨now, stream, request, (network.exchange now stream request state).1,
    (network.exchange now stream request state).2⟩

def recorded (network : Network σ) : Network (σ × List (Deed σ)) where
  connect now := fun (state, past) =>
    let opening := network.opening now state
    (opening.result, opening.after, past ++ [.connect opening])
  isQuiet now stream := fun (state, _) => network.isQuiet now stream state
  exchange now stream request := fun (state, past) =>
    let exchange := network.exchanging now stream request state
    (exchange.arrival, exchange.after, past ++ [.exchange exchange])

end Network

namespace Client

variable {σ α : Type}

def Patience.recorded (patience : Patience σ) : Patience (σ × List (Deed σ)) where
  fires := fun (state, _) => patience.fires state
  limit := patience.limit

def Standing.recorded (past : List (Deed σ)) (s : Standing σ) : Standing (σ × List (Deed σ)) :=
  ⟨s.client, (s.network, past), s.now⟩

/-- What waiting comes to that begins at an instant, with the network in some state: the token fires, or
what is waited for comes, or the caller loses patience, or nothing ever happens. The first of these
happens, and the token comes before the end, and the end before the loss of patience, at one instant. -/
inductive Patience.Awaits (patience : Patience σ) (begun : Millis) (state : σ)
    (ends : Option (α × Millis)) : Option (Turn α × Millis) → Prop where
  | fired {t : Millis} (fires : patience.fires state = some t)
      (pending : ∀ value u, ends = some (value, u) → max begun t ≤ u)
      (patient : ∀ u, patience.limit = some u → max begun t ≤ max begun u) :
      Awaits patience begun state ends (some (.fired, max begun t))
  | ended {value : α} {t : Millis} (comes : ends = some (value, t))
      (alive : ∀ u, patience.fires state = some u → t < max begun u)
      (patient : ∀ u, patience.limit = some u → t ≤ max begun u) :
      Awaits patience begun state ends (some (.ended value, t))
  | abandoned {t : Millis} (lost : patience.limit = some t)
      (alive : ∀ u, patience.fires state = some u → max begun t < max begun u)
      (pending : ∀ value u, ends = some (value, u) → max begun t < u) :
      Awaits patience begun state ends (some (.abandoned, max begun t))
  | never (alive : patience.fires state = none) (pending : ends = none)
      (patient : patience.limit = none) : Awaits patience begun state ends none

def Patience.contenders (patience : Patience σ) (s : Standing σ) (ends : Option (α × Millis)) :
    List (Turn α × Option Millis) :=
  (.fired, (patience.fires s.network).map (max s.now)) ::
    match ends with
    | some (value, t) => [(.ended value, some t)]
    | none => []

theorem Patience.awaits (patience : Patience σ) (s : Standing σ) (ends : Option (α × Millis)) :
    patience.Awaits s.now s.network ends (patience.await s ends) := by
  have awaiting : patience.await s ends = winner (patience.contenders s ends ++
      [(.abandoned, patience.limit.map (max s.now))]) := rfl
  have fires {t : Millis} (settled : patience.fires s.network = some t) :
      (.fired, some (max s.now t)) ∈ patience.contenders s ends := by
    simp [contenders, settled]
  have comes {value : α} {t : Millis} (pending : ends = some (value, t)) :
      (.ended value, some t) ∈ patience.contenders s ends := by
    simp [contenders, pending]
  have lost {t : Millis} (settled : patience.limit = some t) :
      (.abandoned, some (max s.now t)) ∈ patience.contenders s ends ++
        [(.abandoned, patience.limit.map (max s.now))] := by
    simp [settled]
  rcases won : patience.await s ends with _ | ⟨turn, instant⟩
  · rw [awaiting] at won
    refine .never ?_ ?_ ?_
    · exact Option.eq_none_iff_forall_ne_some.mpr fun t settled =>
        winner_ne_none (List.mem_append_left _ (fires settled)) won
    · exact Option.eq_none_iff_forall_ne_some.mpr fun (value, t) pending =>
        winner_ne_none (List.mem_append_left _ (comes pending)) won
    · exact Option.eq_none_iff_forall_ne_some.mpr fun t settled => winner_ne_none (lost settled) won
  · rw [awaiting] at won
    have member := winner_mem won
    cases turn with
    | fired =>
        have due : (patience.fires s.network).map (max s.now) = some instant := by
          cases ends <;> simpa [contenders, eq_comm] using member
        obtain ⟨t, settled, rfl⟩ := Option.map_eq_some_iff.mp due
        exact .fired settled
          (fun value u pending => winner_le won (List.mem_append_left _ (comes pending)))
          fun u settled => winner_le won (lost settled)
    | ended value =>
        have pending : ends = some (value, instant) := by
          cases ends <;> simp_all [contenders]
        refine .ended pending (fun u settled => ?_) fun u settled => winner_le won (lost settled)
        have order : winner ([(Turn.fired, (patience.fires s.network).map (max s.now))] ++
            [(Turn.ended value, some instant), (.abandoned, patience.limit.map (max s.now))]) =
              some (Turn.ended value, instant) := by
          rwa [pending] at won
        have early : (Turn.fired, some (max s.now u)) ∈
            [((Turn.fired : Turn α), (patience.fires s.network).map (max s.now))] := by
          simp [settled]
        exact winner_lt order early (by simp)
    | abandoned =>
        have due : patience.limit.map (max s.now) = some instant := by
          cases ends <;> simpa [contenders, eq_comm] using member
        obtain ⟨t, settled, rfl⟩ := Option.map_eq_some_iff.mp due
        have fresh (v : Millis) : (Turn.abandoned, some v) ∉ patience.contenders s ends := by
          cases ends <;> simp [contenders]
        exact .abandoned settled (fun u settled => winner_lt won (fires settled) fresh)
          fun value u pending => winner_lt won (comes pending) fresh

/-- What ends a wait is what was waited for. -/
theorem Patience.Awaits.comes {patience : Patience σ} {begun : Millis} {state : σ}
    {ends : Option (α × Millis)} {value : α} {t : Millis}
    (h : patience.Awaits begun state ends (some (.ended value, t))) : ends = some (value, t) := by
  cases h with
  | ended comes alive patient => exact comes

theorem Patience.Awaits.unique {patience : Patience σ} {begun : Millis} {state : σ}
    {ends : Option (α × Millis)} {first second : Option (Turn α × Millis)}
    (h : patience.Awaits begun state ends first) (again : patience.Awaits begun state ends second) :
    first = second := by
  cases h with
  | fired fires pending patient =>
      cases again with
      | fired settled => rw [Option.some.inj (fires.symm.trans settled)]
      | ended comes alive => exact absurd (alive _ fires) (Nat.not_lt.mpr (pending _ _ comes))
      | abandoned lost alive => exact absurd (alive _ fires) (Nat.not_lt.mpr (patient _ lost))
      | never alive => simp [fires] at alive
  | ended comes alive patient =>
      cases again with
      | fired fires pending => exact absurd (alive _ fires) (Nat.not_lt.mpr (pending _ _ comes))
      | ended settled =>
          obtain ⟨rfl, rfl⟩ := Prod.mk.inj (Option.some.inj (comes.symm.trans settled))
          rfl
      | abandoned lost _ pending => exact absurd (pending _ _ comes) (Nat.not_lt.mpr (patient _ lost))
      | never _ pending => simp [comes] at pending
  | abandoned lost alive pending =>
      cases again with
      | fired fires _ patient => exact absurd (alive _ fires) (Nat.not_lt.mpr (patient _ lost))
      | ended comes _ patient => exact absurd (pending _ _ comes) (Nat.not_lt.mpr (patient _ lost))
      | abandoned settled => rw [Option.some.inj (lost.symm.trans settled)]
      | never _ _ patient => simp [lost] at patient
  | never alive pending patient =>
      cases again with
      | fired fires => simp [alive] at fires
      | ended comes => simp [pending] at comes
      | abandoned lost => simp [patient] at lost
      | never => rfl

def Outcome.of : Option (Turn (Except TransportFault Answer) × Millis) → Outcome
  | none => .stuck
  | some (.fired, _) => .result (.error .cancelled)
  | some (.abandoned, _) => .abandoned
  | some (.ended (.error fault), _) => .result (.error fault)
  | some (.ended (.ok answer), _) =>
      if answer.head.status ≠ 200 then .result (.error (.status answer.head.status))
      else .result (.ok answer.body)

theorem Outcome.of_eq_ok_iff {turn : Option (Turn (Except TransportFault Answer) × Millis)}
    {bytes : Bytes} :
    Outcome.of turn = .result (.ok bytes) ↔ ∃ answer t, turn = some (.ended (.ok answer), t) ∧
      answer.head.status = 200 ∧ answer.body = bytes := by
  rcases turn with _ | ⟨_ | (fault | answer) | _, t⟩
  · simp [Outcome.of]
  · simp [Outcome.of]
  · simp [Outcome.of]
  · by_cases success : answer.head.status = 200 <;> simp [Outcome.of, success]
  · simp [Outcome.of]

def Outcome.bytes? : Outcome → Option Bytes
  | .result (.ok bytes) => some bytes
  | _ => none

theorem Outcome.bytes?_eq_some_iff {outcome : Outcome} {bytes : Bytes} :
    outcome.bytes? = some bytes ↔ outcome = .result (.ok bytes) := by
  rcases outcome with (_ | _) | _ | _ <;> simp [Outcome.bytes?]

/-- The stream that is kept behind a wait for an answer on it: that of a whole answer with success, if
its peer keeps it open. -/
def kept (connection : Connection) :
    Option (Turn (Except TransportFault Answer) × Millis) → Option Connection
  | some (.ended (.ok answer), _) =>
      if answer.head.status = 200 ∧ answer.reusable = true then
        some { connection with version := answer.head.version }
      else none
  | _ => none

theorem kept_eq_some_iff {connection kept : Connection}
    {turn : Option (Turn (Except TransportFault Answer) × Millis)} :
    Client.kept connection turn = some kept ↔ ∃ answer t, turn = some (.ended (.ok answer), t) ∧
      answer.head.status = 200 ∧ answer.reusable = true ∧
        kept = { connection with version := answer.head.version } := by
  rcases turn with _ | ⟨_ | (fault | answer) | _, t⟩
  · simp [Client.kept]
  · simp [Client.kept]
  · simp [Client.kept]
  · constructor
    · intro same
      obtain ⟨⟨success, reusable⟩, left⟩ := Option.ite_none_right_eq_some.mp same
      exact ⟨answer, t, rfl, success, reusable, (Option.some.inj left).symm⟩
    · rintro ⟨_, _, same, success, reusable, rfl⟩
      obtain ⟨rfl, rfl⟩ : answer = _ ∧ t = _ := by simpa using same
      exact if_pos ⟨success, reusable⟩
  · simp [Client.kept]

namespace Standing

def behind (s : Standing σ) (retained : Option Connection) (state : σ)
    (turn : Option (Turn α × Millis)) : Standing σ :=
  ⟨{ s.client with retained }, state, (turn.map Prod.snd).getD s.now⟩

def exchange (s : Standing σ) (network : Network σ) (request : Request) (connection : Connection) :
    Exchange σ :=
  network.exchanging s.now connection.stream { request with version := connection.version } s.network

def opening (s : Standing σ) (network : Network σ) : Opening σ := network.opening s.now s.network

end Standing

/-- No stream is kept while one is in use. -/
theorem exchangeOn_eq (network : Network σ) (patience : Patience σ) (request : Request)
    (connection : Connection) (s : Standing σ) :
    exchangeOn network patience request connection (release s) =
      let exchange := s.exchange network request connection
      let turn := patience.await { release s with network := exchange.after } exchange.arrival.settle
      (.of turn, s.behind (kept connection turn) exchange.after turn) := by
  unfold exchangeOn
  dsimp only [release, Standing.exchange, Network.exchanging]
  cases patience.await _ _ with
  | none => rfl
  | some ended =>
      obtain ⟨turn, t⟩ := ended
      cases turn with
      | fired => rfl
      | abandoned => rfl
      | ended result =>
          cases result with
          | error fault => rfl
          | ok answer =>
              by_cases success : answer.head.status = 200
              · cases reusable : answer.reusable <;>
                  simp [conclude, Outcome.of, Standing.behind, kept, success, reusable]
              · simp [conclude, Outcome.of, Standing.behind, kept, success]

def goOn (s : Standing σ) (next : Nat → Standing σ → Outcome × Standing σ) :
    Option (Turn (Except String Nat) × Millis) → Outcome × Standing σ
  | none => (.stuck, s)
  | some (.fired, t) => (.result (.error .cancelled), { s with now := t })
  | some (.abandoned, t) => (.abandoned, { s with now := t })
  | some (.ended (.error reason), t) => (.result (.error (.connect reason)), { s with now := t })
  | some (.ended (.ok stream), t) => next stream { s with now := t }

theorem connectFirst_eq (network : Network σ) (patience : Patience σ) (request : Request)
    (s : Standing σ) :
    connectFirst network patience request s =
      goOn { s with network := (s.opening network).after }
        (fun stream => exchangeOn network patience request ⟨stream, .http11⟩)
        (patience.await { s with network := (s.opening network).after } (s.opening network).ends) := by
  unfold connectFirst
  dsimp only [Standing.opening, Network.opening, Opening.ends]
  cases patience.await _ _ with
  | none => rfl
  | some ended =>
      obtain ⟨turn, t⟩ := ended
      cases turn with
      | fired => rfl
      | abandoned => rfl
      | ended result => cases result <;> rfl

inductive Attempt (σ : Type) where
  /-- On the stream that was kept. -/
  | reused (exchange : Exchange σ)
  /-- On a new stream. -/
  | opened (opening : Opening σ) (exchange : Exchange σ)
  | unopened (opening : Opening σ)

namespace Attempt

def deeds : Attempt σ → List (Deed σ)
  | .reused exchange => [.exchange exchange]
  | .opened opening exchange => [.connect opening, .exchange exchange]
  | .unopened opening => [.connect opening]

/-- The request that goes out, and what comes back. -/
def exchange? : Attempt σ → Option (Exchange σ)
  | .reused exchange | .opened _ exchange => some exchange
  | .unopened _ => none

/-- The network while it is waited for the end of the attempt. -/
def state : Attempt σ → σ
  | .reused exchange => exchange.after
  | .opened _ exchange => exchange.after
  | .unopened opening => opening.after

inductive Comes (patience : Patience σ) :
    Attempt σ → Option (Turn (Except TransportFault Answer) × Millis) → Prop where
  | reused {exchange : Exchange σ} {turn : Option (Turn (Except TransportFault Answer) × Millis)}
      (awaits : patience.Awaits exchange.begun exchange.after exchange.arrival.settle turn) :
      Comes patience (.reused exchange) turn
  | opened {opening : Opening σ} {exchange : Exchange σ}
      {turn : Option (Turn (Except TransportFault Answer) × Millis)}
      (awaits : patience.Awaits exchange.begun exchange.after exchange.arrival.settle turn) :
      Comes patience (.opened opening exchange) turn
  | refused {opening : Opening σ} {reason : String} {t : Millis}
      (awaits : patience.Awaits opening.begun opening.after opening.ends
        (some (.ended (.error reason), t))) :
      Comes patience (.unopened opening) (some (.ended (.error (.connect reason)), t))
  | fired {opening : Opening σ} {t : Millis}
      (awaits : patience.Awaits opening.begun opening.after opening.ends (some (.fired, t))) :
      Comes patience (.unopened opening) (some (.fired, t))
  | abandoned {opening : Opening σ} {t : Millis}
      (awaits : patience.Awaits opening.begun opening.after opening.ends (some (.abandoned, t))) :
      Comes patience (.unopened opening) (some (.abandoned, t))
  | never {opening : Opening σ}
      (awaits : patience.Awaits opening.begun opening.after opening.ends none) :
      Comes patience (.unopened opening) none

theorem Comes.unique {patience : Patience σ} {attempt : Attempt σ}
    {first second : Option (Turn (Except TransportFault Answer) × Millis)}
    (h : attempt.Comes patience first) (again : attempt.Comes patience second) : first = second := by
  cases h with
  | reused awaits => cases again with | reused also => exact awaits.unique also
  | opened awaits => cases again with | opened also => exact awaits.unique also
  | refused awaits =>
      cases again <;> cases awaits.unique (by assumption)
      rfl
  | fired awaits =>
      cases again <;> cases awaits.unique (by assumption)
      rfl
  | abandoned awaits =>
      cases again <;> cases awaits.unique (by assumption)
      rfl
  | never awaits =>
      cases again <;> cases awaits.unique (by assumption)
      rfl

end Attempt

theorem Patience.Awaits.opens {patience : Patience σ} {opening : Opening σ} {stream : Nat} {t : Millis}
    (h : patience.Awaits opening.begun opening.after opening.ends (some (.ended (.ok stream), t))) :
    opening.opens stream = true := by
  obtain ⟨⟨result, span⟩, told, same⟩ := Option.map_eq_some_iff.mp h.comes
  obtain ⟨rfl, -⟩ := Prod.mk.inj same
  simp [Opening.opens, told]

/-- How an attempt may go: on the stream that was kept, or on a new one, or there is none. -/
inductive Attempted (network : Network σ) (patience : Patience σ) (request : Request) (fresh : Bool)
    (s : Standing σ) : Attempt σ → Outcome → Standing σ → Prop where
  | reused (allowed : fresh = false) {connection : Connection}
      (held : reusable? network s = some connection) {exchange : Exchange σ}
      (exchanges : exchange = s.exchange network request connection)
      {turn : Option (Turn (Except TransportFault Answer) × Millis)}
      (awaits : patience.Awaits exchange.begun exchange.after exchange.arrival.settle turn) :
      Attempted network patience request fresh s (.reused exchange) (.of turn)
        (s.behind (kept connection turn) exchange.after turn)
  | opened {opening : Opening σ} (opens : opening = s.opening network) {stream : Nat} {t : Millis}
      (arrives : patience.Awaits opening.begun opening.after opening.ends
        (some (.ended (.ok stream), t)))
      {mid : Standing σ} (stands : mid = ⟨{ s.client with retained := none }, opening.after, t⟩)
      {exchange : Exchange σ}
      (exchanges : exchange = mid.exchange network request ⟨stream, .http11⟩)
      {turn : Option (Turn (Except TransportFault Answer) × Millis)}
      (awaits : patience.Awaits exchange.begun exchange.after exchange.arrival.settle turn) :
      Attempted network patience request fresh s (.opened opening exchange) (.of turn)
        (mid.behind (kept ⟨stream, .http11⟩ turn) exchange.after turn)
  | unopened {opening : Opening σ} (opens : opening = s.opening network)
      {turn : Option (Turn (Except TransportFault Answer) × Millis)}
      (comes : (Attempt.unopened opening).Comes patience turn) :
      Attempted network patience request fresh s (.unopened opening) (.of turn)
        (s.behind none opening.after turn)

/-- What a client does, with the deeds that the record tells if it is kept: that changes nothing else. -/
def Does (act : {τ : Type} → Network τ → Patience τ → Standing τ → Outcome × Standing τ)
    (network : Network σ) (patience : Patience σ) (s : Standing σ) (deeds : List (Deed σ))
    (outcome : Outcome) (after : Standing σ) : Prop :=
  act network patience s = (outcome, after) ∧
    ∀ past, act network.recorded patience.recorded (s.recorded past) =
      (outcome, after.recorded (past ++ deeds))

theorem exchangeOn_does (network : Network σ) (patience : Patience σ) (request : Request)
    (connection : Connection) (s : Standing σ) :
    ∃ turn, patience.Awaits (s.exchange network request connection).begun
        (s.exchange network request connection).after
        (s.exchange network request connection).arrival.settle turn ∧
      Does (fun network patience s => exchangeOn network patience request connection (release s))
        network patience s [.exchange (s.exchange network request connection)] (.of turn)
        (s.behind (kept connection turn) (s.exchange network request connection).after turn) :=
  ⟨_, patience.awaits { release s with network := (s.exchange network request connection).after } _,
    exchangeOn_eq network patience request connection s, fun past =>
      exchangeOn_eq network.recorded patience.recorded request connection (s.recorded past)⟩

theorem connectFirst_does (network : Network σ) (patience : Patience σ) (request : Request)
    (fresh : Bool) (s : Standing σ) :
    ∃ attempt outcome after, Attempted network patience request fresh s attempt outcome after ∧
      Does (fun network patience s => connectFirst network patience request (release s)) network
        patience s attempt.deeds outcome after := by
  obtain ⟨opened, opens⟩ : ∃ opened : Standing σ, opened =
    { release s with network := (s.opening network).after } := ⟨_, rfl⟩
  have awaits := patience.awaits opened (s.opening network).ends
  have plain : connectFirst network patience request (release s) = goOn opened
      (fun stream => exchangeOn network patience request ⟨stream, .http11⟩)
      (patience.await opened (s.opening network).ends) := by
    subst opens
    exact connectFirst_eq network patience request (release s)
  have recorded (past : List (Deed σ)) : connectFirst network.recorded patience.recorded request
      (release (s.recorded past)) = goOn (opened.recorded (past ++ [.connect (s.opening network)]))
        (fun stream => exchangeOn network.recorded patience.recorded request ⟨stream, .http11⟩)
        (patience.await opened (s.opening network).ends) := by
    subst opens
    exact connectFirst_eq network.recorded patience.recorded request (release (s.recorded past))
  generalize patience.await opened (s.opening network).ends = turn at awaits plain recorded
  subst opens
  rcases turn with _ | ⟨turn, t⟩
  · exact ⟨_, _, _, .unopened rfl (.never awaits), plain, recorded⟩
  · cases turn with
    | fired => exact ⟨_, _, _, .unopened rfl (.fired awaits), plain, recorded⟩
    | abandoned => exact ⟨_, _, _, .unopened rfl (.abandoned awaits), plain, recorded⟩
    | ended result =>
        cases result with
        | error reason => exact ⟨_, _, _, .unopened rfl (.refused awaits), plain, recorded⟩
        | ok stream =>
            obtain ⟨turn, answers, does, keeping⟩ := exchangeOn_does network patience request
              ⟨stream, .http11⟩ ⟨{ s.client with retained := none }, (s.opening network).after, t⟩
            have arrives : patience.Awaits (s.opening network).begun (s.opening network).after
                (s.opening network).ends (some (.ended (.ok stream), t)) := awaits
            refine ⟨_, _, _, .opened rfl arrives rfl rfl answers, plain.trans does, fun past => ?_⟩
            have kept := (recorded past).trans (keeping (past ++ [Deed.connect (s.opening network)]))
            rwa [List.append_assoc] at kept

/-- An attempt is one of those that may be made, and is recorded. -/
theorem attempt_does (network : Network σ) (patience : Patience σ) (request : Request)
    (fresh : Bool) (s : Standing σ) :
    ∃ tried outcome after, Attempted network patience request fresh s tried outcome after ∧
      Does (fun network patience => attempt network patience request fresh) network patience s
        tried.deeds outcome after := by
  have plain : attempt network patience request fresh s =
      (if fresh then none else reusable? network s).elim
        (connectFirst network patience request (release s))
        fun connection => exchangeOn network patience request connection (release s) := by
    unfold attempt
    cases (if fresh then none else reusable? network s) <;> rfl
  have recorded (past : List (Deed σ)) :
      attempt network.recorded patience.recorded request fresh (s.recorded past) =
        (if fresh then none else reusable? network s).elim
          (connectFirst network.recorded patience.recorded request (release (s.recorded past)))
          fun connection => exchangeOn network.recorded patience.recorded request connection
            (release (s.recorded past)) := by
    have same : reusable? network.recorded (s.recorded past) = reusable? network s := rfl
    unfold attempt
    rw [same]
    cases (if fresh then none else reusable? network s) <;> rfl
  cases chosen : (if fresh then none else reusable? network s) with
  | none =>
      obtain ⟨tried, outcome, after, attempted, does, keeping⟩ :=
        connectFirst_does network patience request fresh s
      rw [chosen] at plain recorded
      exact ⟨tried, outcome, after, attempted, plain.trans does, fun past =>
        (recorded past).trans (keeping past)⟩
  | some connection =>
      obtain ⟨turn, awaits, does, keeping⟩ := exchangeOn_does network patience request connection s
      rw [chosen] at plain recorded
      cases fresh with
      | true => simp at chosen
      | false =>
          exact ⟨_, _, _, .reused rfl (by simpa using chosen) rfl awaits, plain.trans does,
            fun past => (recorded past).trans (keeping past)⟩

/-- Whatever goes out is the request, written for the version of the peer. -/
theorem Attempted.request_eq {network : Network σ} {patience : Patience σ} {request : Request}
    {fresh : Bool} {s after : Standing σ} {tried : Attempt σ} {outcome : Outcome}
    (h : Attempted network patience request fresh s tried outcome after) {exchange : Exchange σ}
    (member : .exchange exchange ∈ tried.deeds) :
    ∃ version, exchange.request = { request with version } := by
  cases h with
  | reused allowed held exchanges awaits =>
      obtain rfl : exchange = _ := by simpa [Attempt.deeds] using member
      exact ⟨_, congrArg Exchange.request exchanges⟩
  | opened opens arrives stands exchanges awaits =>
      obtain rfl : exchange = _ := by simpa [Attempt.deeds] using member
      exact ⟨_, congrArg Exchange.request exchanges⟩
  | unopened opens comes => simp [Attempt.deeds] at member

section Sending

variable {network : Network σ} {patience : Patience σ} {resource : String} {body : Bytes}
  {request : Request} {s after : Standing σ} {outcome : Outcome}

/-- How a request may be sent: in no attempt, or in one, or in two where the stream of the first one
breaks before the token has fired. -/
inductive Sent (network : Network σ) (patience : Patience σ) (resource : String) (body : Bytes)
    (s : Standing σ) : List (Attempt σ) → Outcome → Standing σ → Prop where
  | lapsed (fired : patience.hasFired s = true) :
      Sent network patience resource body s [] (.result (.error .cancelled)) s
  | unwritable (alive : patience.hasFired s = false)
      (unmade : Request.make? s.client.authority resource body = none) :
      Sent network patience resource body s [] (.result (.error .request)) s
  | once (alive : patience.hasFired s = false) {request : Request}
      (made : Request.make? s.client.authority resource body = some request) {first : Attempt σ}
      {outcome : Outcome} {after : Standing σ}
      (attempted : Attempted network patience request false s first outcome after)
      (settled : outcome = .result (.error .broken) → patience.hasFired after = true) :
      Sent network patience resource body s [first] outcome after
  | twice (alive : patience.hasFired s = false) {request : Request}
      (made : Request.make? s.client.authority resource body = some request)
      {first second : Attempt σ} {mid : Standing σ} {outcome : Outcome} {after : Standing σ}
      (attempted : Attempted network patience request false s first (.result (.error .broken)) mid)
      (still : patience.hasFired mid = false)
      (again : Attempted network patience request true mid second outcome after) :
      Sent network patience resource body s [first, second] outcome after

theorem send_of_fired (fired : patience.hasFired s = true) :
    send network patience resource body s = (.result (.error .cancelled), s) := by
  simp [send, fired]

theorem send_of_unmade (alive : patience.hasFired s = false)
    (unmade : Request.make? s.client.authority resource body = none) :
    send network patience resource body s = (.result (.error .request), s) := by
  simp [send, alive, unmade]

theorem send_of_one (alive : patience.hasFired s = false)
    (made : Request.make? s.client.authority resource body = some request)
    (first : attempt network patience request false s = (outcome, after))
    (settled : outcome = .result (.error .broken) → patience.hasFired after = true) :
    send network patience resource body s = (outcome, after) := by
  simp only [send, alive, made, first, Bool.false_eq_true, if_false]
  split
  · next broke =>
      obtain ⟨rfl, rfl⟩ := Prod.mk.inj broke
      simp [settled rfl]
  · rfl

theorem send_of_two (alive : patience.hasFired s = false)
    (made : Request.make? s.client.authority resource body = some request)
    (first : attempt network patience request false s = (.result (.error .broken), after))
    (still : patience.hasFired after = false) :
    send network patience resource body s = attempt network patience request true after := by
  simp only [send, alive, made, first, still, Bool.false_eq_true, if_false]

end Sending

/-- A request is sent in one of the ways in which it may be, and the attempts are recorded. -/
theorem send_does (network : Network σ) (patience : Patience σ) (resource : String) (body : Bytes)
    (s : Standing σ) :
    ∃ attempts outcome after, Sent network patience resource body s attempts outcome after ∧
      Does (fun network patience => send network patience resource body) network patience s
        (attempts.flatMap Attempt.deeds) outcome after := by
  cases alive : patience.hasFired s with
  | true =>
      refine ⟨[], _, s, .lapsed alive, send_of_fired alive, fun past => ?_⟩
      rw [List.flatMap_nil, List.append_nil]
      exact send_of_fired alive
  | false =>
      cases made : Request.make? s.client.authority resource body with
      | none =>
          refine ⟨[], _, s, .unwritable alive made, send_of_unmade alive made, fun past => ?_⟩
          rw [List.flatMap_nil, List.append_nil]
          exact send_of_unmade alive made
      | some request =>
          obtain ⟨first, outcome, mid, attempted, does, keeping⟩ :=
            attempt_does network patience request false s
          by_cases settled : outcome = .result (.error .broken) → patience.hasFired mid = true
          · refine ⟨[first], outcome, mid, .once alive made attempted settled,
              send_of_one alive made does settled, fun past => ?_⟩
            rw [List.flatMap_singleton]
            exact send_of_one alive made (keeping past) settled
          · obtain ⟨rfl, still⟩ := Classical.not_imp.mp settled
            rw [Bool.not_eq_true] at still
            obtain ⟨second, outcome, after, again, repeats, kept⟩ :=
              attempt_does network patience request true mid
            refine ⟨[first, second], outcome, after, .twice alive made attempted still again,
              (send_of_two alive made does still).trans repeats, fun past => ?_⟩
            have unfired : patience.recorded.hasFired (s.recorded past) = false := alive
            have unfiredStill :
              patience.recorded.hasFired (mid.recorded (past ++ first.deeds)) = false := still
            rw [List.flatMap_cons, List.flatMap_singleton, ← List.append_assoc]
            exact (send_of_two unfired made (keeping past) unfiredStill).trans
              (kept (past ++ first.deeds))

end Client

end CardGateway.Http
