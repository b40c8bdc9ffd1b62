import CardGateway.Run.Journal
import CardGateway.Run.Setup

/-!
# Commands handled

A search for tokens is repeated until one matches or the budget is spent. Certificates and signatures
are worked on for as long as the budget lasts. Failures of the card become result codes; only a run
that is stopped gives no reply.
-/

namespace CardGateway

namespace Act

variable {σ α : Type}

def pollInterval : Millis := 1000

/-- Gives a call up at an instant, if it is not past. -/
def drop (call : Call σ α) (instant : Millis) : Act σ Unit :=
  update fun run => { run with
    now := max run.now instant
    world := call.dropped (instant - run.now) }

theorem forward_drop (call : Call σ α) (instant : Millis) : Forward (drop call instant) :=
  forward_update fun _ => Nat.le_max_left _ _

/-- Takes down what a search found, with the slots that it connected. -/
def gather (result : Except CardFault TokenSearch) : Act σ Unit := do
  note (.found result)
  update fun run =>
    match result with
    | .ok found => { run with connected := SlotHandle.union run.connected found.connected }
    | .error _ => run

/-- One search, none if the run is stopped before it or meanwhile. -/
def search (world : World σ) (filters : List TokenInfo) :
    Act σ (Option (Except CardFault TokenSearch)) := do
  if ← hasFired world then return none
  note (.findTokens filters)
  let call ← start fun now => world.findTokens now filters
  match ← view fun run => world.race run.now run.world (call.endsAt run.now) none with
  | some (.fired, instant) =>
      drop call instant
      return none
  | _ =>
      let result ← finish call
      gather result
      return some result

theorem forward_gather (result : Except CardFault TokenSearch) :
    Forward (gather result : Act σ Unit) :=
  forward_bind (forward_note _) fun _ => forward_update fun run => by
    split <;> exact Nat.le_refl run.now

theorem forward_search (world : World σ) (filters : List TokenInfo) :
    Forward (search world filters) := by
  refine forward_bind (forward_view _) fun fired => ?_
  split
  · exact forward_pure _
  refine forward_bind (forward_note _) fun _ => forward_bind (forward_start _) fun call =>
    forward_bind (forward_view _) fun wakening => ?_
  split
  · exact forward_bind (forward_drop _ _) fun _ => forward_pure _
  · exact forward_bind (forward_finish _) fun _ => forward_bind (forward_gather _) fun _ =>
      forward_pure _

/-- Searches until a token matches, a search fails, or one ends behind the deadline. -/
def poll (world : World σ) (session : String) (filters : List TokenInfo) (deadline : Millis)
    (run : Run σ) : Except Halt (Option ListTokensResponse) × Run σ :=
  match _searched : search world filters run with
  | (.error halt, after) => (.error halt, after)
  | (.ok none, after) => (.ok none, after)
  | (.ok (some (.error fault)), after) => (.ok (some ⟨session, fault.resultCode, []⟩), after)
  | (.ok (some (.ok found)), after) =>
      if !found.matched.isEmpty then (.ok (some ⟨session, .ok, found.matched⟩), after)
      else if _late : deadline ≤ after.now then (.ok (some ⟨session, .timeout, []⟩), after)
      else
        let wake := min deadline (after.now + pollInterval)
        match world.race after.now after.world none (some wake) with
        | some (.fired, instant) => (.ok none, { after with now := instant })
        | _ => poll world session filters deadline { after with now := wake }
termination_by deadline - run.now
decreasing_by
  have forth : run.now ≤ after.now := by
    have := forward_search world filters run
    rwa [_searched] at this
  simp only [pollInterval, Millis] at *
  omega

def listTokens (world : World σ) (setup : Setup) (request : ListTokensRequest) :
    Act σ (Option ListTokensResponse) := fun run =>
  poll world setup.session.id request.filters (run.now + Wait.budget request.maxWait) run

inductive Work (α : Type) where
  | done (outcome : CardOutcome α)
  | timedOut
  | stopped

/-- The card works until its operation ends, the budget is spent or the token fires. -/
def work (world : World σ) (budget : Millis) (begun : Event) (done : CardOutcome α → Event)
    (operation : Millis → σ → Call σ (CardOutcome α)) : Act σ (Work α) := do
  let deadline ← view fun run => run.now + budget
  note begun
  let call ← start operation
  match ← view fun run => world.race run.now run.world (call.endsAt run.now) (some deadline) with
  | some (.ended, _) =>
      let outcome ← finish call
      note (done outcome)
      return .done outcome
  | some (.fired, instant) =>
      drop call instant
      return .stopped
  | some (.deadline, _) | none =>
      drop call deadline
      return .timedOut

def Work.settle {ρ : Type} (refused : ResultCode → ρ) (granted : α → ρ) : Work α → Option ρ
  | .done (.value value) => some (granted value)
  | .done (.fault fault) => some (refused fault.resultCode)
  | .done .crash => some (refused .other)
  | .timedOut => some (refused .timeout)
  | .stopped => none

/-- Work under a budget, with the PIN of the request. The card is not asked where the end of the budget
comes before the work begins, nor with a PIN that cannot be used. -/
def workWithPin {ρ : Type} (world : World σ) (pins : PinPolicy) (encrypted : Option String)
    (budget : Millis) (refused : ResultCode → ρ) (granted : α → ρ)
    (operation : Option Pin → Act σ (Work α)) : Act σ (Option ρ) := do
  if ← hasFired world then return none
  if ← view fun run => world.isSpent budget run.now run.world then return some (refused .timeout)
  match pins.unwrap encrypted with
  | .error _ => return some (refused .incorrectParameter)
  | .ok pin => return (← operation pin).settle refused granted

def listCertificates (world : World σ) (setup : Setup) (request : ListCertificatesRequest) :
    Act σ (Option ListCertificatesResponse) :=
  let budget := Wait.budget request.maxWait
  workWithPin world setup.pins request.pin budget
    (fun code => ⟨setup.session.id, code, []⟩) (fun infos => ⟨setup.session.id, .ok, infos⟩)
    fun pin => work world budget (.listCertificates request.slot request.filters pin) .listed
      fun now => world.listCertificates now request.slot request.filters pin

def sign (world : World σ) (setup : Setup) (request : SignRequest) :
    Act σ (Option SignResponse) :=
  let budget := Wait.budget request.maxWait
  workWithPin world setup.pins request.pin budget
    (fun code => ⟨setup.session.id, code, none⟩)
    (fun signature => ⟨setup.session.id, .ok, some signature⟩)
    fun pin => work world budget (.sign request.slot request.didName pin request.message) .signed
      fun now => world.sign now request.slot request.didName pin request.message

end Act

end CardGateway
