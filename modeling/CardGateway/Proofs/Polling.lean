import CardGateway.Proofs.Cancellation

/-!
# Searches until one decides

A request for tokens is answered by the first search that fails, finds a token, or ends without one
behind the deadline. A search that is to be repeated is followed by a pause, which the deadline cuts
off, so that the budget bounds the number of searches.
-/

namespace CardGateway

theorem CardFault.resultCode_ne_timeout (fault : CardFault) : fault.resultCode ≠ .timeout := by
  cases fault <;> simp [resultCode]

structure Search where
  begun : Millis
  ended : Millis
  result : Except CardFault TokenSearch

namespace Search

variable {σ : Type}

/-- The card was searched, and no token matched. -/
def Misses (search : Search) : Prop := ∃ found, search.result = .ok found ∧ found.matched = []

def connected (search : Search) : List SlotHandle :=
  match search.result with
  | .ok found => found.connected
  | .error _ => []

def entries (filters : List TokenInfo) (search : Search) : List Entry :=
  [⟨search.begun, .findTokens filters⟩, ⟨search.ended, .found search.result⟩]

/-- The card answers so in one state of the world, and leaves another. -/
def Comes (world : World σ) (filters : List TokenInfo) (search : Search) (state last : σ) : Prop :=
  ∃ span, search.ended = search.begun + span ∧
    (world.findTokens search.begun filters state).ends = some (span, search.result, last)

/-- The answer to a request that is not searched for any further. -/
inductive Decides (session : String) (deadline : Millis) (search : Search) :
    ListTokensResponse → Prop where
  | failed {fault : CardFault} (fails : search.result = .error fault) :
      Decides session deadline search ⟨session, fault.resultCode, []⟩
  | matched {found : TokenSearch} (finds : search.result = .ok found) (hit : found.matched ≠ []) :
      Decides session deadline search ⟨session, .ok, found.matched⟩
  | late (misses : search.Misses) (lapsed : deadline ≤ search.ended) :
      Decides session deadline search ⟨session, .timeout, []⟩

namespace Decides

variable {session : String} {deadline : Millis} {search : Search} {response : ListTokensResponse}

/-- A search that misses decides nothing but that it is too late. -/
theorem of_misses (h : search.Decides session deadline response) (misses : search.Misses) :
    response = ⟨session, .timeout, []⟩ ∧ deadline ≤ search.ended := by
  obtain ⟨found, result, missed⟩ := misses
  cases h with
  | failed fails => cases fails.symm.trans result
  | matched finds hit =>
      obtain rfl := Except.ok.inj (finds.symm.trans result)
      exact absurd missed hit
  | late misses lapsed => exact ⟨rfl, lapsed⟩

theorem timeout_iff (h : search.Decides session deadline response) :
    response.result = .timeout ↔ search.Misses ∧ deadline ≤ search.ended := by
  constructor
  · intro timeout
    cases h with
    | failed fails => exact absurd timeout (CardFault.resultCode_ne_timeout _)
    | matched finds hit => cases timeout
    | late misses lapsed => exact ⟨misses, lapsed⟩
  · rintro ⟨misses, -⟩
    rw [(h.of_misses misses).1]

end Decides

end Search

/-- Searches from an instant on, each in the state of the world that the one before has left. All
but the last miss before the deadline, and the last one decides the answer. -/
inductive Sought {σ : Type} (world : World σ) (session : String) (filters : List TokenInfo)
    (deadline : Millis) : Millis → σ → List Search → ListTokensResponse → σ → Prop where
  | decided {search : Search} {state last : σ} {response : ListTokensResponse}
      (comes : search.Comes world filters state last)
      (decides : search.Decides session deadline response) :
      Sought world session filters deadline search.begun state [search] response last
  | again {search : Search} {searches : List Search} {state next last : σ}
      {response : ListTokensResponse} (comes : search.Comes world filters state next)
      (misses : search.Misses) (early : search.ended < deadline)
      (rest : Sought world session filters deadline
        (min deadline (search.ended + Act.pollInterval)) next searches response last) :
      Sought world session filters deadline search.begun state (search :: searches) response last

/-- What searches leave behind in a run. -/
structure Run.Records {σ : Type} (filters : List TokenInfo) (searches : List Search)
    (run after : Run σ) : Prop where
  ends : searches.getLast?.map Search.ended = some after.now
  journal : after.journal = run.journal ++ searches.flatMap (Search.entries filters)
  connected : after.connected =
    SlotHandle.union run.connected (searches.flatMap Search.connected)

theorem Wait.pollInterval_dvd_budget (wait : Option UInt64) :
    Act.pollInterval ∣ Wait.budget wait := by
  unfold Wait.budget
  split
  · split
    · exact Nat.dvd_mul_left _ _
    · exact Nat.dvd_mul_left _ _
  · exact Nat.dvd_mul_left _ _

theorem SlotHandle.union_append (slots others more : List SlotHandle) :
    union slots (others ++ more) = union (union slots others) more :=
  List.foldl_append

/-- Searches that are made behind a pause. -/
theorem Run.Records.cons {σ : Type} {filters : List TokenInfo} {search : Search}
    {searches : List Search} {instant : Millis} {run mid after : Run σ}
    (first : Records filters [search] run mid)
    (rest : Records filters searches { mid with now := instant } after) :
    Records filters (search :: searches) run after where
  ends := by
    obtain ⟨final, same, ended⟩ := Option.map_eq_some_iff.mp rest.ends
    rw [List.getLast?_cons, same, ← ended]
    rfl
  journal := by
    rw [rest.journal, List.flatMap_cons, ← List.append_assoc]
    exact congrArg (· ++ _) (first.journal.trans (by simp))
  connected := by
    rw [rest.connected, List.flatMap_cons, SlotHandle.union_append]
    exact congrArg (SlotHandle.union · _) (first.connected.trans (by simp))

namespace Sought

variable {σ : Type} {world : World σ} {session : String} {filters : List TokenInfo}
  {deadline start : Millis} {state last : σ} {searches : List Search}
  {response : ListTokensResponse}

/-- From one search to the next a second goes by, or the deadline has come. -/
theorem length_le (h : Sought world session filters deadline start state searches response last)
    (timely : start ≤ deadline) :
    searches.length ≤ (deadline - start + (Act.pollInterval - 1)) / Act.pollInterval + 1 := by
  induction h with
  | decided comes decides => exact Nat.le_add_left 1 _
  | @again search searches state next last response comes misses early rest ih =>
      obtain ⟨span, ended, -⟩ := comes
      have rest := ih (Nat.min_le_left _ _)
      simp only [List.length_cons, Act.pollInterval, Millis] at *
      omega

/-- Every search is answered by the card. -/
theorem exists_comes
    (h : Sought world session filters deadline start state searches response last) :
    ∀ search ∈ searches, ∃ before after, search.Comes world filters before after := by
  induction h with
  | decided comes decides =>
      intro search member
      obtain rfl := List.mem_singleton.mp member
      exact ⟨_, _, comes⟩
  | again comes misses early rest ih => exact List.forall_mem_cons.mpr ⟨⟨_, _, comes⟩, ih⟩

/-- The last search decides the answer. -/
theorem exists_last (h : Sought world session filters deadline start state searches response last) :
    ∃ search, searches.getLast? = some search ∧ search.Decides session deadline response := by
  induction h with
  | @decided search state last response comes decides => exact ⟨search, rfl, decides⟩
  | again comes misses early rest ih =>
      obtain ⟨final, same, decides⟩ := ih
      exact ⟨final, by rw [List.getLast?_cons, same]; rfl, decides⟩

theorem timeout_iff (h : Sought world session filters deadline start state searches response last) :
    response.result = .timeout ↔ ∃ search ∈ searches, search.Misses ∧ deadline ≤ search.ended := by
  induction h with
  | decided comes decides =>
      simp only [List.mem_singleton, exists_eq_left]
      exact decides.timeout_iff
  | again comes misses early rest ih =>
      simp only [ih, List.mem_cons, exists_eq_or_imp, Nat.not_le.mpr early, and_false, false_or]

/-- Searches that take no time and find nothing are made at every full second up to the deadline. -/
theorem of_idle (h : Sought world session filters deadline start state searches response last)
    (timely : start ≤ deadline) (whole : Act.pollInterval ∣ deadline - start)
    (idle : ∀ search ∈ searches, search.Misses ∧ search.ended = search.begun) :
    response = ⟨session, .timeout, []⟩ ∧
      searches.length = (deadline - start) / Act.pollInterval + 1 ∧
      searches.getLast?.map Search.ended = some deadline := by
  induction h with
  | @decided search state last response comes decides =>
      obtain ⟨misses, atOnce⟩ := idle search List.mem_cons_self
      obtain ⟨rfl, lapsed⟩ := decides.of_misses misses
      have due : search.begun = deadline := Nat.le_antisymm timely (atOnce ▸ lapsed)
      exact ⟨rfl, by simp [due], by simp [atOnce, due]⟩
  | @again search searches state next last response comes misses early rest ih =>
      obtain ⟨-, atOnce⟩ := idle search List.mem_cons_self
      obtain ⟨count, left⟩ := whole
      have paused : min deadline (search.ended + Act.pollInterval) =
          search.begun + Act.pollInterval := by
        simp only [Act.pollInterval, Millis] at *
        omega
      have less : deadline - (search.begun + Act.pollInterval) =
          Act.pollInterval * (count - 1) := by
        rw [Nat.mul_sub_one, ← left, Nat.sub_add_eq]
      rw [paused] at ih
      obtain ⟨told, length, final⟩ := ih (paused ▸ Nat.min_le_left _ _) ⟨_, less⟩
        fun other member => idle other (List.mem_cons_of_mem _ member)
      obtain ⟨decisive, same, -⟩ := rest.exists_last
      refine ⟨told, ?_, ?_⟩
      · rw [List.length_cons, length, less, left]
        simp only [Act.pollInterval, Millis] at *
        omega
      · rw [List.getLast?_cons, same]
        rwa [same] at final

end Sought

namespace Act

variable {σ : Type} {world : World σ} {run after : Run σ} {filters : List TokenInfo}

/-- A search with a result, as it stands in the run. -/
theorem Searched.exists_search {result : Except CardFault TokenSearch}
    (h : Searched world filters run (.ok (some result)) after) :
    ∃ search : Search, search.begun = run.now ∧ search.ended = after.now ∧
      search.result = result ∧ search.Comes world filters run.world after.world ∧
      Run.Records filters [search] run after := by
  cases h with
  | @found call alive begun span result last comes =>
      subst begun
      refine ⟨⟨run.now, run.now + span, result⟩, rfl, by simp, rfl,
        ⟨span, rfl, by simpa using comes⟩, by simp, ?_, ?_⟩
      · simp [Search.entries, Run.called, Run.returned, Run.passed, Run.noted]
      · cases result with
        | ok found =>
            simp [Search.connected, Run.holding, Run.called, Run.returned, Run.passed, Run.noted]
        | error fault => rfl

variable {session : String} {deadline : Millis} {result : Except Halt (Option ListTokensResponse)}

/-- A poll with an answer is a row of searches that decides it. -/
theorem Polled.exists_searches (h : Polled world session filters deadline run result after) :
    ∀ response, result = .ok (some response) → ∃ searches,
      Sought world session filters deadline run.now run.world searches response after.world ∧
        Run.Records filters searches run after := by
  induction h with
  | halted step => intro response same; cases same
  | stopped step => intro response same; cases same
  | fired step misses early first => intro response same; cases same
  | failed step =>
      intro response same
      cases same
      obtain ⟨search, begun, -, fails, comes, records⟩ := step.exists_search
      exact ⟨[search], begun ▸ .decided comes (.failed fails), records⟩
  | matched step hit =>
      intro response same
      cases same
      obtain ⟨search, begun, -, finds, comes, records⟩ := step.exists_search
      exact ⟨[search], begun ▸ .decided comes (.matched finds (by simpa using hit)), records⟩
  | late step miss lapsed =>
      intro response same
      cases same
      obtain ⟨search, begun, ended, finds, comes, records⟩ := step.exists_search
      exact ⟨[search], begun ▸ .decided comes
        (.late ⟨_, finds, by simpa using miss⟩ (ended ▸ lapsed)), records⟩
  | again step miss early rest ih =>
      intro response same
      obtain ⟨search, begun, ended, finds, comes, records⟩ := step.exists_search
      obtain ⟨searches, sought, later⟩ := ih response same
      have misses : search.Misses := ⟨_, finds, by simpa using miss⟩
      exact ⟨search :: searches, begun ▸ .again comes misses (ended ▸ early) (ended ▸ sought),
        records.cons later⟩

/-- A poll halts only where a search does not end. -/
theorem Polled.ne_error (h : Polled world session filters deadline run result after)
    (finite : ∀ now state, (world.findTokens now filters state).ends ≠ none) (reason : Halt) :
    result ≠ .error reason := by
  induction h with
  | halted step =>
      cases step with
      | endless alive begun never settled =>
          subst begun
          exact absurd never (finite _ _)
  | again step miss early rest ih => exact ih
  | _ => rintro ⟨⟩

end Act

namespace Setup

variable {σ : Type}

/-- Where every search ends and the token does not fire, a request for tokens is searched for at
once, and again a second behind each search that finds nothing, but not behind the deadline. The
first search that fails, finds a token or ends too late decides the answer. -/
theorem tokens_sought_until_decided (setup : Setup) {world : World σ} (keeps : world.KeepsToken)
    (request : ListTokensRequest) (run : Run σ)
    (finite : ∀ now state, (world.findTokens now request.filters state).ends ≠ none)
    (calm : ¬ (Act.listTokens world setup request run).2.Fired world) :
    ∃ response after searches,
      Act.listTokens world setup request run = (.ok (some response), after) ∧
      Sought world setup.session.id request.filters (run.now + Wait.budget request.maxWait) run.now
        run.world searches response after.world ∧
      Run.Records request.filters searches run after ∧
      searches.length ≤ Wait.budget request.maxWait / Act.pollInterval + 1 ∧
      (response.result = .timeout ↔ ∃ search ∈ searches, search.Misses ∧
        run.now + Wait.budget request.maxWait ≤ search.ended) ∧
      (response.result = .timeout → run.now + Wait.budget request.maxWait ≤ after.now) ∧
      ((∀ search ∈ searches, search.Misses ∧ search.ended = search.begun) →
        response = ⟨setup.session.id, .timeout, []⟩ ∧
          after.now = run.now + Wait.budget request.maxWait ∧
          searches.length = Wait.budget request.maxWait / Act.pollInterval + 1) := by
  rcases polling : Act.listTokens world setup request run with ⟨result, after⟩
  have polled := Act.polled world setup.session.id request.filters
    (run.now + Wait.budget request.maxWait) run
  rw [show Act.poll world setup.session.id request.filters
    (run.now + Wait.budget request.maxWait) run = _ from polling] at polled
  rw [polling] at calm
  rcases result with reason | _ | response
  · exact absurd rfl (polled.ne_error finite reason)
  · exact absurd (polled.fired_of_none keeps rfl) calm
  obtain ⟨searches, sought, records⟩ := polled.exists_searches response rfl
  have whole := Wait.pollInterval_dvd_budget request.maxWait
  have timely : run.now ≤ run.now + Wait.budget request.maxWait := Nat.le_add_right _ _
  refine ⟨response, after, searches, rfl, sought, records, ?_, sought.timeout_iff, ?_, ?_⟩
  · have bound := sought.length_le timely
    obtain ⟨count, budget⟩ := whole
    rw [Nat.add_sub_cancel_left, budget] at bound
    rw [budget]
    simp only [Act.pollInterval] at *
    omega
  · intro timeout
    obtain ⟨final, same, decides⟩ := sought.exists_last
    have ended : final.ended = after.now := by simpa [same] using records.ends
    exact ended ▸ (decides.timeout_iff.mp timeout).2
  · intro idle
    obtain ⟨told, length, final⟩ := sought.of_idle timely (by simpa using whole) idle
    rw [Nat.add_sub_cancel_left] at length
    exact ⟨told, Option.some.inj (records.ends.symm.trans final), length⟩

/-- A card without tokens is searched three times in two seconds. -/
theorem empty_card_searched_each_second :
    ∃ response after searches,
      Act.listTokens (.scripted none) plain ⟨none, [], some 2⟩ (Run.fresh []) =
        (.ok (some response), after) ∧
      Sought (.scripted none) "s" [] 2000 0 [] searches response after.world ∧
      response = ⟨"s", .timeout, []⟩ ∧ after.now = 2000 ∧ searches.length = 3 := by
  have finite (now : Millis) (state : List Bytes) :
      ((World.scripted none).findTokens now [] state).ends ≠ none := by
    rintro ⟨⟩
  have calm : ¬ (Act.listTokens (.scripted none) plain ⟨none, [], some 2⟩
      (Run.fresh [])).2.Fired (.scripted none) := by
    rintro ⟨⟩
  obtain ⟨response, after, searches, answered, sought, -, -, -, -, idle⟩ :=
    tokens_sought_until_decided plain (World.scripted_keeps none) ⟨none, [], some 2⟩ (Run.fresh [])
      finite calm
  obtain ⟨told, ended, count⟩ := idle fun search member => by
    obtain ⟨before, later, span, ended, comes⟩ := sought.exists_comes search member
    simp only [World.scripted, Call.atOnce, Option.some.injEq, Prod.mk.injEq] at comes
    obtain ⟨rfl, result, -⟩ := comes
    exact ⟨⟨_, result.symm, rfl⟩, ended⟩
  exact ⟨response, after, searches, answered, sought, told, ended, count⟩

end Setup

end CardGateway
