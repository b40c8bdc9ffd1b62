import CardGateway.Proofs.Transcript

/-!
# How work at the card ends

A search, a poll and a piece of work under a budget can end in few ways each. `Searched`, `Polled`,
`Worked` and `Asked` list them with the run that each leaves behind.
-/

namespace CardGateway

namespace World

variable {σ : Type} {world : World σ} {now : Millis} {state : σ} {ends deadline : Option Millis}

/-- The instant at which waiting may end for a reason. -/
def wakes (world : World σ) (now : Millis) (state : σ) (ends deadline : Option Millis) :
    Wakening → Option Millis
  | .ended => ends
  | .deadline => deadline
  | .fired => (world.fires state).map (max now)

theorem race_wakes {reason : Wakening} {instant : Millis}
    (h : world.race now state ends deadline = some (reason, instant)) :
    world.wakes now state ends deadline reason = some instant := by
  obtain ⟨contender, _, same⟩ := List.mem_map.mp (winner_mem h)
  cases contender <;> cases reason <;> simp_all [wakes]

theorem race_ne_none {reason : Wakening} {instant : Millis}
    (h : world.wakes now state ends deadline reason = some instant) :
    world.race now state ends deadline ≠ none := by
  refine winner_ne_none (List.mem_map.mpr ⟨reason, ?_, ?_⟩ : (reason, some instant) ∈ _)
  · cases reason <;> simp
  · cases reason <;> simp_all [wakes]

theorem race_eq (world : World σ) (now : Millis) (state : σ) (ends deadline : Option Millis) :
    world.race now state ends deadline =
      winner ((world.precedence now state ++ [Wakening.ended, .deadline, .fired]).map
        fun reason => (reason, world.wakes now state ends deadline reason)) := by
  refine congrArg winner (List.map_congr_left fun reason _ => ?_)
  cases reason <;> rfl

theorem race_le {reason : Wakening} {instant : Millis}
    (h : world.race now state ends deadline = some (reason, instant)) {other : Wakening} {later : Millis}
    (wakes : world.wakes now state ends deadline other = some later) : instant ≤ later := by
  rw [race_eq] at h
  refine winner_le h (List.mem_map.mpr ⟨other, ?_, by rw [wakes]⟩ : (other, some later) ∈ _)
  cases other <;> simp

/-- Where only the token can end a wait and does not, it does not fire. -/
theorem fires_eq_none_of_race (h : ∀ instant, world.race now state none none ≠ some (.fired, instant)) :
    world.fires state = none := by
  cases settled : world.fires state with
  | none => rfl
  | some t =>
      have wakes : world.wakes now state none none .fired = some (max now t) := by
        simp [World.wakes, settled]
      obtain ⟨⟨reason, instant⟩, won⟩ := Option.ne_none_iff_exists'.mp (race_ne_none wakes)
      have due := race_wakes won
      cases reason with
      | ended => simp [World.wakes] at due
      | deadline => simp [World.wakes] at due
      | fired => exact absurd won (h instant)

theorem fires_of_race {instant : Millis}
    (h : world.race now state ends deadline = some (.fired, instant)) :
    ∃ t, world.fires state = some t ∧ instant = max now t := by
  have due := race_wakes h
  cases settled : world.fires state with
  | none => simp [wakes, settled] at due
  | some t => exact ⟨t, rfl, by simpa [wakes, settled] using due.symm⟩

theorem isSpent_eq_true_iff {budget : Millis} :
    world.isSpent budget now state = true ↔
      world.race now state (some now) (some (now + budget)) = some (.deadline, now + budget) := by
  unfold isSpent
  constructor
  · intro spent
    split at spent
    · rename_i instant won
      obtain rfl : now + budget = instant := Option.some.inj (race_wakes won)
      exact won
    · cases spent
  · intro won
    rw [won]

/-- Work that could begin at once is forestalled only where there is no time for it at all. -/
theorem budget_eq_zero_of_isSpent {budget : Millis}
    (spent : world.isSpent budget now state = true) : budget = 0 := by
  have begins : world.wakes now state (some now) (some (now + budget)) .ended = some now := rfl
  have late := race_le (isSpent_eq_true_iff.mp spent) begins
  simp only [Millis] at *
  omega

end World

namespace Run

variable {σ α : Type}

def called (event : Event) (call : Call σ α) (run : Run σ) : Run σ :=
  { run.noted event with world := call.begun }

def dropped (call : Call σ α) (instant : Millis) (run : Run σ) : Run σ :=
  { run with now := max run.now instant, world := call.dropped (instant - run.now) }

/-- A run that knows the slots a search has connected. -/
def holding (result : Except CardFault TokenSearch) (run : Run σ) : Run σ :=
  match result with
  | .ok found => { run with connected := SlotHandle.union run.connected found.connected }
  | .error _ => run

@[simp] theorem called_now (event : Event) (call : Call σ α) (run : Run σ) :
    (run.called event call).now = run.now := rfl

@[simp] theorem called_world (event : Event) (call : Call σ α) (run : Run σ) :
    (run.called event call).world = call.begun := rfl

@[simp] theorem events_called (event : Event) (call : Call σ α) (run : Run σ) :
    (run.called event call).events = run.events ++ [event] :=
  events_noted event run

@[simp] theorem holding_now (result : Except CardFault TokenSearch) (run : Run σ) :
    (run.holding result).now = run.now := by
  cases result <;> rfl

@[simp] theorem holding_world (result : Except CardFault TokenSearch) (run : Run σ) :
    (run.holding result).world = run.world := by
  cases result <;> rfl

@[simp] theorem holding_journal (result : Except CardFault TokenSearch) (run : Run σ) :
    (run.holding result).journal = run.journal := by
  cases result <;> rfl

@[simp] theorem events_holding (result : Except CardFault TokenSearch) (run : Run σ) :
    (run.holding result).events = run.events := by
  rw [events, holding_journal, events]

theorem Wrote.called {P : Event → Prop} {event : Event} (kind : P event) (call : Call σ α)
    (run : Run σ) : Wrote P run (run.called event call) :=
  .trans (.noted kind run) (.of_journal_eq rfl)

theorem Wrote.dropped {P : Event → Prop} {event : Event} (kind : P event) (call : Call σ α)
    (instant : Millis) (run : Run σ) : Wrote P run ((run.called event call).dropped call instant) :=
  .trans (.called kind call run) (.of_journal_eq rfl)

end Run

namespace Act

variable {σ α : Type}

inductive Searched (world : World σ) (filters : List TokenInfo) (run : Run σ) :
    Except Halt (Option (Except CardFault TokenSearch)) → Run σ → Prop where
  | fired (lapsed : world.hasFired run.now run.world = true) :
      Searched world filters run (.ok none) run
  | overtaken {call : Call σ (Except CardFault TokenSearch)}
      (alive : world.hasFired run.now run.world = false)
      (begun : call = world.findTokens run.now filters run.world) {instant : Millis}
      (first : world.race run.now call.begun (call.endsAt run.now) none = some (.fired, instant)) :
      Searched world filters run (.ok none)
        ((run.called (.findTokens filters) call).dropped call instant)
  | endless {call : Call σ (Except CardFault TokenSearch)}
      (alive : world.hasFired run.now run.world = false)
      (begun : call = world.findTokens run.now filters run.world) (never : call.ends = none)
      (settled : world.fires call.begun = none) :
      Searched world filters run (.error .endless) (run.called (.findTokens filters) call)
  | found {call : Call σ (Except CardFault TokenSearch)}
      (alive : world.hasFired run.now run.world = false)
      (begun : call = world.findTokens run.now filters run.world) {span : Millis}
      {result : Except CardFault TokenSearch} {after : σ}
      (comes : call.ends = some (span, result, after)) :
      Searched world filters run (.ok (some result))
        (((run.called (.findTokens filters) call).returned (.found result) span after).holding result)

theorem searched (world : World σ) (filters : List TokenInfo) (run : Run σ) :
    Searched world filters run (search world filters run).1 (search world filters run).2 := by
  unfold search
  cases alive : world.hasFired run.now run.world with
  | true =>
      simp only [bind_apply, hasFired, view, alive, if_true, pure_apply]
      exact .fired alive
  | false =>
      obtain ⟨call, begun⟩ : ∃ call, call = world.findTokens run.now filters run.world := ⟨_, rfl⟩
      have started : (start fun now => world.findTokens now filters) (run.noted (.findTokens filters)) =
          (.ok call, run.called (.findTokens filters) call) := by
        subst begun
        rfl
      simp only [bind_apply, hasFired, view, alive, Bool.false_eq_true, if_false, note_apply, started,
        Run.called_now, Run.called_world]
      have ending : (∀ instant, world.race run.now call.begun (call.endsAt run.now) none ≠
          some (.fired, instant)) → Searched world filters run
            ((finish call >>= fun result => gather result >>= fun _ => pure (some result))
              (run.called (.findTokens filters) call)).1
            ((finish call >>= fun result => gather result >>= fun _ => pure (some result))
              (run.called (.findTokens filters) call)).2 := by
        intro first
        rcases ends : call.ends with _ | ⟨span, result, after⟩
        · have settled : world.fires call.begun = none := by
            refine World.fires_eq_none_of_race fun instant
                (won : world.race run.now call.begun none none = _) => first instant ?_
            simpa [Call.endsAt, ends] using won
          simp only [bind_apply, finish, ends, halt]
          exact .endless alive begun ends settled
        · simp only [bind_apply, finish, ends, pass, update, pure_apply, gather, note_apply]
          have found := Searched.found alive begun ends
          cases result with
          | ok found => exact found
          | error fault => exact found
      rcases won : world.race run.now call.begun (call.endsAt run.now) none with _ | ⟨reason, instant⟩
      · exact ending (by simp [won])
      · cases reason with
        | ended => exact ending (by simp [won])
        | deadline => exact ending (by simp [won])
        | fired => exact .overtaken alive begun won

theorem searched_of_eq {world : World σ} {filters : List TokenInfo} {run after : Run σ}
    {result : Except Halt (Option (Except CardFault TokenSearch))}
    (h : search world filters run = (result, after)) : Searched world filters run result after := by
  have step := searched world filters run
  rwa [h] at step

/-- How a poll may end: with one search, or with the poll after a pause. -/
inductive Polled (world : World σ) (session : String) (filters : List TokenInfo)
    (deadline : Millis) : Run σ → Except Halt (Option ListTokensResponse) → Run σ → Prop where
  | halted {run after : Run σ} {reason : Halt}
      (step : Searched world filters run (.error reason) after) :
      Polled world session filters deadline run (.error reason) after
  | stopped {run after : Run σ} (step : Searched world filters run (.ok none) after) :
      Polled world session filters deadline run (.ok none) after
  | failed {run after : Run σ} {fault : CardFault}
      (step : Searched world filters run (.ok (some (.error fault))) after) :
      Polled world session filters deadline run
        (.ok (some ⟨session, fault.resultCode, []⟩)) after
  | matched {run after : Run σ} {found : TokenSearch}
      (step : Searched world filters run (.ok (some (.ok found))) after)
      (hit : found.matched.isEmpty = false) :
      Polled world session filters deadline run (.ok (some ⟨session, .ok, found.matched⟩)) after
  | late {run after : Run σ} {found : TokenSearch}
      (step : Searched world filters run (.ok (some (.ok found))) after)
      (miss : found.matched.isEmpty = true) (lapsed : deadline ≤ after.now) :
      Polled world session filters deadline run (.ok (some ⟨session, .timeout, []⟩)) after
  | fired {run after : Run σ} {found : TokenSearch} {instant : Millis}
      (step : Searched world filters run (.ok (some (.ok found))) after)
      (miss : found.matched.isEmpty = true) (early : after.now < deadline)
      (first : world.race after.now after.world none
        (some (min deadline (after.now + pollInterval))) = some (.fired, instant)) :
      Polled world session filters deadline run (.ok none) { after with now := instant }
  | again {run after last : Run σ} {found : TokenSearch}
      {result : Except Halt (Option ListTokensResponse)}
      (step : Searched world filters run (.ok (some (.ok found))) after)
      (miss : found.matched.isEmpty = true) (early : after.now < deadline)
      (rest : Polled world session filters deadline
        { after with now := min deadline (after.now + pollInterval) } result last) :
      Polled world session filters deadline run result last

/-- One turn of the loop, the search in it being done. -/
theorem poll_eq {world : World σ} {session : String} {filters : List TokenInfo}
    {deadline : Millis} {run after : Run σ}
    {result : Except Halt (Option (Except CardFault TokenSearch))}
    (searching : search world filters run = (result, after)) :
    poll world session filters deadline run =
      match result with
      | .error halt => (.error halt, after)
      | .ok none => (.ok none, after)
      | .ok (some (.error fault)) => (.ok (some ⟨session, fault.resultCode, []⟩), after)
      | .ok (some (.ok found)) =>
          if !found.matched.isEmpty then (.ok (some ⟨session, .ok, found.matched⟩), after)
          else if deadline ≤ after.now then (.ok (some ⟨session, .timeout, []⟩), after)
          else
            match world.race after.now after.world none
                (some (min deadline (after.now + pollInterval))) with
            | some (.fired, instant) => (.ok none, { after with now := instant })
            | _ => poll world session filters deadline
                { after with now := min deadline (after.now + pollInterval) } := by
  rw [poll.eq_1]
  split <;> rename_i same <;> cases searching.symm.trans same <;> rfl

theorem polled (world : World σ) (session : String) (filters : List TokenInfo) (deadline : Millis)
    (run : Run σ) :
    Polled world session filters deadline run (poll world session filters deadline run).1
      (poll world session filters deadline run).2 := by
  -- The induction is that of the loop itself: each case names the search it begins with.
  induction run using poll.induct world filters deadline with
  | case1 run reason after searching =>
      rw [poll_eq searching]
      exact .halted (searched_of_eq searching)
  | case2 run after searching =>
      rw [poll_eq searching]
      exact .stopped (searched_of_eq searching)
  | case3 run fault after searching =>
      rw [poll_eq searching]
      exact .failed (searched_of_eq searching)
  | case4 run found after searching hit =>
      rw [poll_eq searching]
      simp only [hit, if_true]
      exact .matched (searched_of_eq searching) (by simpa using hit)
  | case5 run found after searching miss lapsed =>
      rw [poll_eq searching]
      simp only [miss, lapsed, if_true]
      exact .late (searched_of_eq searching) (by simpa using miss) lapsed
  | case6 run found after searching miss early wake instant first =>
      rw [poll_eq searching]
      simp only [miss, early, if_false]
      rw [show world.race after.now after.world none
        (some (min deadline (after.now + pollInterval))) = _ from first]
      exact .fired (searched_of_eq searching) (by simpa using miss) (Nat.lt_of_not_le early) first
  | case7 run found after searching miss early wake first ih =>
      rw [poll_eq searching]
      simp only [miss, early, if_false]
      have rest := Polled.again (searched_of_eq searching) (by simpa using miss)
        (Nat.lt_of_not_le early) ih
      rcases won : world.race after.now after.world none
        (some (min deadline (after.now + pollInterval))) with _ | ⟨reason, instant⟩
      · exact rest
      · cases reason with
        | ended => exact rest
        | deadline => exact rest
        | fired => exact absurd won (first instant)

section Work

variable {ρ : Type}

inductive Worked (world : World σ) (budget : Millis) (begun : Event) (done : CardOutcome α → Event)
    (operation : Millis → σ → Call σ (CardOutcome α)) (run : Run σ) : Work α → Run σ → Prop where
  | done {call : Call σ (CardOutcome α)} (starts : call = operation run.now run.world)
      {instant : Millis}
      (first : world.race run.now call.begun (call.endsAt run.now) (some (run.now + budget)) =
        some (.ended, instant))
      {span : Millis} {outcome : CardOutcome α} {after : σ}
      (comes : call.ends = some (span, outcome, after)) :
      Worked world budget begun done operation run (.done outcome)
        ((run.called begun call).returned (done outcome) span after)
  | stopped {call : Call σ (CardOutcome α)} (starts : call = operation run.now run.world)
      {instant : Millis}
      (first : world.race run.now call.begun (call.endsAt run.now) (some (run.now + budget)) =
        some (.fired, instant)) :
      Worked world budget begun done operation run .stopped
        ((run.called begun call).dropped call instant)
  | timedOut {call : Call σ (CardOutcome α)} (starts : call = operation run.now run.world)
      (first : world.race run.now call.begun (call.endsAt run.now) (some (run.now + budget)) =
        some (.deadline, run.now + budget)) :
      Worked world budget begun done operation run .timedOut
        ((run.called begun call).dropped call (run.now + budget))

theorem worked (world : World σ) (budget : Millis) (begun : Event) (done : CardOutcome α → Event)
    (operation : Millis → σ → Call σ (CardOutcome α)) (run : Run σ) :
    ∃ result after, work world budget begun done operation run = (.ok result, after) ∧
      Worked world budget begun done operation run result after := by
  obtain ⟨call, starts⟩ : ∃ call, call = operation run.now run.world := ⟨_, rfl⟩
  have started : start operation (run.noted begun) = (.ok call, run.called begun call) := by
    subst starts
    rfl
  rcases won : world.race run.now call.begun (call.endsAt run.now) (some (run.now + budget)) with
    _ | ⟨reason, instant⟩
  · have due : world.wakes run.now call.begun (call.endsAt run.now) (some (run.now + budget))
        .deadline = some (run.now + budget) := rfl
    exact absurd won (World.race_ne_none due)
  · have due := World.race_wakes won
    cases reason with
    | ended =>
        obtain ⟨⟨span, outcome, after⟩, comes, _⟩ := Option.map_eq_some_iff.mp due
        refine ⟨_, _, ?_, .done starts won comes⟩
        simp only [work, bind_apply, view, note_apply, started, Run.called_now, Run.called_world, won,
          finish, comes]
        rfl
    | deadline =>
        obtain rfl : run.now + budget = instant := Option.some.inj due
        refine ⟨_, _, ?_, .timedOut starts won⟩
        simp only [work, bind_apply, view, note_apply, started, Run.called_now, Run.called_world, won]
        rfl
    | fired =>
        refine ⟨_, _, ?_, .stopped starts won⟩
        simp only [work, bind_apply, view, note_apply, started, Run.called_now, Run.called_world, won]
        rfl

/-- The card is called first, and nothing but what comes of it is written behind. -/
theorem Worked.begins {budget : Millis} {begun : Event} {done : CardOutcome α → Event}
    {operation : Millis → σ → Call σ (CardOutcome α)} {run after : Run σ} {result : Work α}
    (h : Worked world budget begun done operation run result after) :
    ∃ mid : Run σ, mid.events = run.events ++ [begun] ∧
      Run.Wrote (fun event => ∃ outcome, event = done outcome) mid after := by
  cases h with
  | @done call starts instant first span outcome after comes =>
      exact ⟨run.called begun call, Run.events_called begun call run, .returned ⟨outcome, rfl⟩ _ _ _⟩
  | @stopped call starts instant first =>
      exact ⟨run.called begun call, Run.events_called begun call run, .of_journal_eq rfl⟩
  | @timedOut call starts first =>
      exact ⟨run.called begun call, Run.events_called begun call run, .of_journal_eq rfl⟩

inductive Asked (world : World σ) (pins : PinPolicy) (encrypted : Option String) (budget : Millis)
    (refused : ResultCode → ρ) (granted : α → ρ) (begun : Option Pin → Event)
    (done : CardOutcome α → Event) (operation : Option Pin → Millis → σ → Call σ (CardOutcome α))
    (run : Run σ) : Option ρ → Run σ → Prop where
  | fired (lapsed : world.hasFired run.now run.world = true) :
      Asked world pins encrypted budget refused granted begun done operation run none run
  | spent (alive : world.hasFired run.now run.world = false)
      (spent : world.isSpent budget run.now run.world = true) :
      Asked world pins encrypted budget refused granted begun done operation run
        (some (refused .timeout)) run
  | unusable (alive : world.hasFired run.now run.world = false)
      (unspent : world.isSpent budget run.now run.world = false)
      {fault : RemotePin.Fault} (unwrapped : pins.unwrap encrypted = .error fault) :
      Asked world pins encrypted budget refused granted begun done operation run
        (some (refused .incorrectParameter)) run
  | worked (alive : world.hasFired run.now run.world = false)
      (unspent : world.isSpent budget run.now run.world = false)
      {pin : Option Pin} (unwrapped : pins.unwrap encrypted = .ok pin) {result : Work α}
      {after : Run σ} (step : Worked world budget (begun pin) done (operation pin) run result after) :
      Asked world pins encrypted budget refused granted begun done operation run
        (result.settle refused granted) after

theorem asked (world : World σ) (pins : PinPolicy) (encrypted : Option String) (budget : Millis)
    (refused : ResultCode → ρ) (granted : α → ρ) (begun : Option Pin → Event)
    (done : CardOutcome α → Event) (operation : Option Pin → Millis → σ → Call σ (CardOutcome α))
    (run : Run σ) :
    ∃ reply after, workWithPin world pins encrypted budget refused granted
        (fun pin => work world budget (begun pin) done (operation pin)) run = (.ok reply, after) ∧
      Asked world pins encrypted budget refused granted begun done operation run reply after := by
  cases alive : world.hasFired run.now run.world with
  | true =>
      refine ⟨_, _, ?_, .fired alive⟩
      simp only [workWithPin, bind_apply, hasFired, view, alive, if_true]
      rfl
  | false =>
      cases budgeted : world.isSpent budget run.now run.world with
      | true =>
          refine ⟨_, _, ?_, .spent alive budgeted⟩
          simp only [workWithPin, bind_apply, hasFired, view, alive, budgeted, Bool.false_eq_true,
            if_false, if_true]
          rfl
      | false =>
          cases unwrapped : pins.unwrap encrypted with
          | error fault =>
              refine ⟨_, _, ?_, .unusable alive budgeted unwrapped⟩
              simp only [workWithPin, bind_apply, hasFired, view, alive, budgeted, unwrapped,
                Bool.false_eq_true, if_false]
              rfl
          | ok pin =>
              obtain ⟨result, after, done, step⟩ :=
                worked world budget (begun pin) done (operation pin) run
              refine ⟨_, _, ?_, .worked alive budgeted unwrapped step⟩
              simp only [workWithPin, bind_apply, hasFired, view, alive, budgeted, unwrapped,
                Bool.false_eq_true, if_false, done]
              rfl

theorem Work.map_settle {τ : Type} (f : ρ → τ) (refused : ResultCode → ρ) (granted : α → ρ)
    (result : Work α) :
    (result.settle refused granted).map f =
      result.settle (fun code => f (refused code)) (fun value => f (granted value)) := by
  match result with
  | .done (.value _) | .done (.fault _) | .done .crash | .timedOut | .stopped => rfl

/-- Replies can be put into another type. -/
theorem Asked.map {pins : PinPolicy} {encrypted : Option String} {budget : Millis}
    {refused : ResultCode → ρ} {granted : α → ρ} {begun : Option Pin → Event}
    {done : CardOutcome α → Event} {operation : Option Pin → Millis → σ → Call σ (CardOutcome α)}
    {run after : Run σ} {reply : Option ρ} {τ : Type} (f : ρ → τ)
    (h : Asked world pins encrypted budget refused granted begun done operation run reply after) :
    Asked world pins encrypted budget (fun code => f (refused code)) (fun value => f (granted value))
      begun done operation run (reply.map f) after := by
  cases h with
  | fired lapsed => exact .fired lapsed
  | spent alive spent => exact .spent alive spent
  | unusable alive unspent unwrapped => exact .unusable alive unspent unwrapped
  | worked alive unspent unwrapped step =>
      rw [Work.map_settle]
      exact .worked alive unspent unwrapped step

end Work

end Act

end CardGateway
