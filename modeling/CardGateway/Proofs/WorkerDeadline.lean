import CardGateway.Proofs.PinProvenance
import CardGateway.Proofs.WorkerTasks

/-!
# Work at the card and its tasks

Work under a budget ends as its two tasks can end: what an action makes of the race between the
card, the budget and the token is what the handler can return with, at the same instant. So a
request with a usable PIN is answered for the first of the three.
-/

namespace CardGateway

open Act (Work)

theorem winner_cons_of_le {α : Type} {value : α} {t : Millis} {rest : List (α × Option Millis)}
    (first : ∀ other u, (other, some u) ∈ rest → t ≤ u) :
    winner ((value, some t) :: rest) = some (value, t) := by
  cases later : winner rest with
  | none => simp only [winner, later]
  | some found =>
      obtain ⟨other, u⟩ := found
      simp only [winner, later, first other u (winner_mem later), if_true]

namespace World

variable {σ : Type} {world : World σ} {now instant : Millis} {state : σ}
  {ends deadline : Option Millis} {reason : Wakening}

/-- A reason that comes no later than the others wins where it has precedence. -/
theorem race_of_precedence (wakes : world.wakes now state ends deadline reason = some instant)
    (first : ∀ other later, world.wakes now state ends deadline other = some later →
      instant ≤ later) :
    { world with precedence := fun _ _ => [reason] }.race now state ends deadline =
      some (reason, instant) := by
  have same (other : Wakening) :
      { world with precedence := fun _ _ => [reason] }.wakes now state ends deadline other =
        world.wakes now state ends deadline other := by
    cases other <;> rfl
  rw [race_eq]
  simp only [same, List.cons_append, List.map_cons, wakes]
  refine winner_cons_of_le fun other later member => ?_
  obtain ⟨contender, -, contends⟩ := List.mem_map.mp member
  exact first contender later (Prod.mk.inj contends).2

/-- Work that could begin at once is forestalled only where the end of a budget has precedence. -/
theorem isSpent_of_precedence (unlike : reason ≠ .deadline) (budget : Millis) :
    { world with precedence := fun _ _ => [reason] }.isSpent budget now state = false := by
  rw [Bool.eq_false_iff]
  intro spent
  let contend (other : Wakening) : Wakening × Option Millis :=
    (other, world.wakes now state (some now) (some (now + budget)) other)
  have won : winner ([contend reason, contend .ended] ++ [contend .deadline, contend .fired]) =
      some (.deadline, now + budget) := by
    have won := isSpent_eq_true_iff.mp spent
    rw [race_eq] at won
    exact won
  -- The beginning of the work is named before the end of the budget, which so comes first.
  have early : now + budget < now := by
    refine winner_lt won (?_ : (Wakening.ended, some now) ∈ _) fun instant => ?_
    · simp [contend, wakes]
    · simp [contend, unlike.symm]
  exact absurd early (Nat.not_lt.mpr (Nat.le_add_right now budget))

end World

namespace Job

variable {σ α : Type}

/-- The work of a call that begins at an instant. -/
def ofCall (world : World σ) (now budget : Millis) (call : Call σ (CardOutcome α)) : Job α where
  ends := call.ends.map fun (span, outcome, _) => (span, outcome)
  budget
  fires := (world.fires call.begun).map (· - now)

theorem wakes_ofCall (world : World σ) (now budget : Millis) (call : Call σ (CardOutcome α))
    (reason : Wakening) :
    world.wakes now call.begun (call.endsAt now) (some (now + budget)) reason =
      ((ofCall world now budget call).due reason).map (now + ·) := by
  cases reason with
  | ended =>
      simp only [World.wakes, due, ofCall, Call.endsAt, Option.map_map]
      rfl
  | deadline => rfl
  | fired =>
      simp only [World.wakes, due, ofCall, Option.map_map]
      congr 1
      funext instant
      simp only [Function.comp_apply, Millis] at *
      omega

end Job

namespace Act

variable {σ α ρ : Type} {world : World σ} {budget : Millis} {begun : Event}
  {done : CardOutcome α → Event} {operation : Millis → σ → Call σ (CardOutcome α)}
  {run after : Run σ} {result : Work α} {span : Millis}

/-- Work ends for a reason that wins the race, at its instant. -/
theorem Worked.raced (h : Worked world budget begun done operation run result after) :
    let call := operation run.now run.world
    ∃ reason span, after.now = run.now + span ∧
      world.race run.now call.begun (call.endsAt run.now) (some (run.now + budget)) =
        some (reason, run.now + span) ∧
      (Job.ofCall world run.now budget call).Gives reason result := by
  cases h with
  | @done call starts instant first span outcome last comes =>
      subst starts
      have due := World.race_wakes first
      have came : run.now + span = instant := by simpa [World.wakes, Call.endsAt, comes] using due
      subst came
      have ends : (Job.ofCall world run.now budget (operation run.now run.world)).ends =
          some (span, outcome) := by
        simp [Job.ofCall, comes]
      exact ⟨.ended, span, rfl, first, .ended ends⟩
  | @stopped call starts instant first =>
      subst starts
      obtain ⟨t, -, came⟩ := World.fires_of_race first
      have later : run.now ≤ instant := came ▸ Nat.le_max_left _ _
      have whole : run.now + (instant - run.now) = instant := Nat.add_sub_cancel' later
      exact ⟨.fired, instant - run.now, (Nat.max_eq_right later).trans whole.symm,
        by rw [whole]; exact first, .fired⟩
  | timedOut starts first =>
      subst starts
      exact ⟨.deadline, budget, Nat.max_eq_right (Nat.le_add_right _ _), first, .deadline⟩

theorem Worked.settles (h : Worked world budget begun done operation run result after) :
    ∃ span, after.now = run.now + span ∧
      (Job.ofCall world run.now budget (operation run.now run.world)).Settles span result := by
  obtain ⟨reason, span, ended, won, gives⟩ := h.raced
  refine ⟨span, ended, ?_, reason, ?_, gives⟩
  · intro other later due
    have wakes := Job.wakes_ofCall world run.now budget (operation run.now run.world) other
    rw [due] at wakes
    exact Nat.le_of_add_le_add_left (World.race_le won wakes)
  · have wakes := World.race_wakes won
    rw [Job.wakes_ofCall] at wakes
    obtain ⟨instant, due, same⟩ := Option.map_eq_some_iff.mp wakes
    rw [due, Nat.add_left_cancel same]

/-- Where a first reason has precedence, work ends for it. -/
theorem Worked.of_precedence {reason : Wakening} {given : Work α}
    (h : Worked { world with precedence := fun _ _ => [reason] } budget begun done operation run
      result after)
    (first : ∀ other later, (Job.ofCall world run.now budget (operation run.now run.world)).due other =
      some later → span ≤ later)
    (due : (Job.ofCall world run.now budget (operation run.now run.world)).due reason = some span)
    (gives : (Job.ofCall world run.now budget (operation run.now run.world)).Gives reason given) :
    result = given ∧ after.now = run.now + span := by
  obtain ⟨found, came, ended, won, gave⟩ := h.raced
  have wakes := Job.wakes_ofCall world run.now budget (operation run.now run.world)
  have wins := World.race_of_precedence ((wakes reason).trans (congrArg _ due)) (by
    intro other later woken
    obtain ⟨instant, due, same⟩ := Option.map_eq_some_iff.mp ((wakes other).symm.trans woken)
    exact same ▸ Nat.add_le_add_left (first other instant due) _)
  obtain ⟨rfl, same⟩ := Prod.mk.inj (Option.some.inj (won.symm.trans wins))
  exact ⟨gave.unique gives, ended.trans same⟩

/-- With some precedence among the reasons to stop waiting, work ends in whatever way its tasks can
return, and in no other way. -/
theorem exists_work_iff_returns :
    (∃ precedence after,
      work { world with precedence } budget begun done operation run = (.ok result, after) ∧
        after.now = run.now + span) ↔
    ∃ steps tasks,
      Tasks.Reaches (Job.ofCall world run.now budget (operation run.now run.world)) steps tasks ∧
        tasks.handler = .returned result ∧ tasks.now = span := by
  rw [Tasks.returns_iff_settles]
  constructor
  · rintro ⟨precedence, after, worked, ended⟩
    obtain ⟨other, last, again, step⟩ :=
      Act.worked { world with precedence } budget begun done operation run
    cases worked.symm.trans again
    obtain ⟨found, came, settles⟩ := step.settles
    obtain rfl : found = span := Nat.add_left_cancel (came.symm.trans ended)
    exact settles
  · intro settles
    obtain ⟨reason, due, gives⟩ := settles.cause
    obtain ⟨other, after, worked, step⟩ := Act.worked
      { world with precedence := fun _ _ => [reason] } budget begun done operation run
    obtain ⟨rfl, ended⟩ := step.of_precedence settles.first due gives
    exact ⟨_, after, worked, ended⟩

theorem Asked.of_fired {pins : PinPolicy} {encrypted : Option String} {refused : ResultCode → ρ}
    {granted : α → ρ} {begun : Option Pin → Event} {reply : Option ρ}
    {operation : Option Pin → Millis → σ → Call σ (CardOutcome α)}
    (h : Asked world pins encrypted budget refused granted begun done operation run reply after)
    (fired : world.hasFired run.now run.world = true) : reply = none ∧ after = run := by
  cases h with
  | fired => exact ⟨rfl, rfl⟩
  | spent alive | unusable alive | worked alive => cases fired.symm.trans alive

/-- A request under a usable PIN is settled as the work is that it means, also where the end of its
budget comes before the work. -/
theorem Asked.settles_work {pins : PinPolicy} {encrypted : Option String} {refused : ResultCode → ρ}
    {granted : α → ρ} {begun : Option Pin → Event} {pin : Option Pin} {reply : Option ρ}
    {operation : Option Pin → Millis → σ → Call σ (CardOutcome α)}
    (h : Asked world pins encrypted budget refused granted begun done operation run reply after)
    (alive : world.hasFired run.now run.world = false) (usable : pins.unwrap encrypted = .ok pin) :
    ∃ span result, reply = Work.settle refused granted result ∧ after.now = run.now + span ∧
      (Job.ofCall world run.now budget (operation pin run.now run.world)).Settles span result := by
  cases h with
  | fired lapsed => cases alive.symm.trans lapsed
  | spent alive spent =>
      obtain rfl := World.budget_eq_zero_of_isSpent spent
      exact ⟨0, .timedOut, rfl, rfl, fun _ _ _ => Nat.zero_le _, .deadline, rfl, .deadline⟩
  | unusable alive unspent unwrapped => cases usable.symm.trans unwrapped
  | worked alive unspent unwrapped step =>
      cases usable.symm.trans unwrapped
      obtain ⟨span, ended, settles⟩ := step.settles
      exact ⟨span, _, rfl, ended, settles⟩

/-- Where a first reason has precedence, a request under a usable PIN is settled for it. -/
theorem Asked.of_precedence {pins : PinPolicy} {encrypted : Option String} {refused : ResultCode → ρ}
    {granted : α → ρ} {begun : Option Pin → Event} {pin : Option Pin} {reply : Option ρ}
    {operation : Option Pin → Millis → σ → Call σ (CardOutcome α)} {reason : Wakening}
    (h : Asked { world with precedence := fun _ _ => [reason] } pins encrypted budget refused granted
      begun done operation run reply after)
    (alive : world.hasFired run.now run.world = false) (usable : pins.unwrap encrypted = .ok pin)
    (first : ∀ other later,
      (Job.ofCall world run.now budget (operation pin run.now run.world)).due other = some later →
        span ≤ later)
    (due : (Job.ofCall world run.now budget (operation pin run.now run.world)).due reason = some span)
    (gives : (Job.ofCall world run.now budget (operation pin run.now run.world)).Gives reason result) :
    reply = Work.settle refused granted result ∧ after.now = run.now + span := by
  cases h with
  | fired lapsed => cases alive.symm.trans lapsed
  | spent alive spent =>
      obtain rfl : reason = .deadline := by
        by_contra unlike
        cases spent.symm.trans (World.isSpent_of_precedence unlike budget)
      obtain rfl := World.budget_eq_zero_of_isSpent spent
      cases due
      cases gives
      exact ⟨rfl, rfl⟩
  | unusable alive unspent unwrapped => cases usable.symm.trans unwrapped
  | worked alive unspent unwrapped step =>
      cases usable.symm.trans unwrapped
      obtain ⟨rfl, ended⟩ := step.of_precedence first due gives
      exact ⟨rfl, ended⟩

end Act

namespace PinRequest

variable {σ : Type}

def job (world : World σ) (pin : Option Pin) (run : Run σ) (request : PinRequest) :
    Job request.Data :=
  .ofCall world run.now request.budget (request.operation world pin run.now run.world)

def reply (session : String) (request : PinRequest) : Work request.Data → Option Reply
  | .done (.value data) => some (request.grant session data)
  | .done (.fault fault) => some (request.refusal session fault.resultCode)
  | .done .crash => some (request.refusal session .other)
  | .timedOut => some (request.refusal session .timeout)
  | .stopped => none

theorem reply_eq_settle (session : String) (request : PinRequest) (result : Work request.Data) :
    request.reply session result =
      result.settle (fun code => request.refusal session code) (request.grant session) := by
  match result with
  | .done (.value _) | .done (.fault _) | .done .crash | .timedOut | .stopped => rfl

end PinRequest

namespace Act

variable {σ : Type} {world : World σ} {setup : Setup}

/-- A request that comes to a run that is stopped is given up at once. -/
theorem handle_fired (request : PinRequest) (run : Run σ)
    (fired : world.hasFired run.now run.world = true) :
    handle world setup request.command run = (.ok (.inr none), run) := by
  rcases handling : handle world setup request.command run with ⟨answer, after⟩
  obtain ⟨reply, rfl, step⟩ := (handled_of_eq handling).asked
  obtain ⟨rfl, rfl⟩ := step.of_fired fired
  rfl

/-- A request under a usable PIN is replied to at the instant that settles its work. -/
theorem exists_handle_settles (request : PinRequest) {pin : Option Pin}
    (usable : setup.pins.unwrap request.pin = .ok pin) (run : Run σ)
    (alive : world.hasFired run.now run.world = false) :
    ∃ span result after,
      handle world setup request.command run =
        (.ok (.inr (request.reply setup.session.id result)), after) ∧
      after.now = run.now + span ∧ (request.job world pin run).Settles span result := by
  rcases handling : handle world setup request.command run with ⟨answer, after⟩
  obtain ⟨reply, rfl, step⟩ := (handled_of_eq handling).asked
  obtain ⟨span, result, rfl, ended, settles⟩ := step.settles_work alive usable
  exact ⟨span, result, after, by rw [request.reply_eq_settle], ended, settles⟩

/-- With some precedence among the reasons to stop waiting, a request under a usable PIN is replied to
with whatever a first reason for its work gives. -/
theorem exists_handle_of_settles (request : PinRequest) {pin : Option Pin}
    (usable : setup.pins.unwrap request.pin = .ok pin) (run : Run σ)
    (alive : world.hasFired run.now run.world = false) {span : Millis} {result : Work request.Data}
    (settles : (request.job world pin run).Settles span result) :
    ∃ precedence after,
      handle { world with precedence } setup request.command run =
        (.ok (.inr (request.reply setup.session.id result)), after) ∧
      after.now = run.now + span := by
  obtain ⟨reason, due, gives⟩ := settles.cause
  rcases handling : handle { world with precedence := fun _ _ => [reason] } setup request.command run
    with ⟨answer, after⟩
  obtain ⟨reply, rfl, step⟩ := (handled_of_eq handling).asked
  obtain ⟨rfl, ended⟩ := step.of_precedence alive usable settles.first due gives
  exact ⟨_, after, by rw [handling, request.reply_eq_settle], ended⟩

end Act

namespace Setup

variable {σ : Type}

/-- A request under a usable PIN is answered at the instant of the first reason to stop waiting for
the card, with what that reason gives, and given up at once in a run that is stopped before. Its two
tasks can come to that, and whatever they can come to is what the request is answered with, at some
precedence among reasons of one instant. -/
theorem answered_for_first_reason (setup : Setup) (world : World σ) (request : PinRequest)
    {pin : Option Pin} (usable : setup.pins.unwrap request.pin = .ok pin) (run : Run σ) :
    (world.hasFired run.now run.world = true →
      Act.handle world setup request.command run = (.ok (.inr none), run)) ∧
    (world.hasFired run.now run.world = false → ∃ span result after,
      Act.handle world setup request.command run =
        (.ok (.inr (request.reply setup.session.id result)), after) ∧
      after.now = run.now + span ∧ (request.job world pin run).Settles span result ∧
      (∀ reason instant given, (request.job world pin run).due reason = some instant →
        (∀ other later, other ≠ reason →
          (request.job world pin run).due other = some later → instant < later) →
        (request.job world pin run).Gives reason given → span = instant ∧ result = given) ∧
      ∃ steps tasks, Tasks.Reaches (request.job world pin run) steps tasks ∧
        tasks.handler = .returned result ∧ tasks.now = span) ∧
    (world.hasFired run.now run.world = false → ∀ steps tasks result,
      Tasks.Reaches (request.job world pin run) steps tasks → tasks.handler = .returned result →
        ∃ precedence after,
          Act.handle { world with precedence } setup request.command run =
            (.ok (.inr (request.reply setup.session.id result)), after) ∧
          after.now = run.now + tasks.now) ∧
    Tasks.Orderly (request.job world pin run) := by
  refine ⟨Act.handle_fired request run, fun alive => ?_, fun alive steps tasks result reaches returned =>
    Act.exists_handle_of_settles request usable run alive (reaches.kept.settles returned),
    Tasks.orderly _⟩
  obtain ⟨span, result, after, handled, ended, settles⟩ :=
    Act.exists_handle_settles request usable run alive
  exact ⟨span, result, after, handled, ended, settles,
    fun reason instant given due sole gives => settles.eq_of_lt due sole gives,
    Tasks.exists_reaches_of_settles settles⟩

def slow : World (List Bytes) :=
  { World.scripted none with
    sign := fun _ _ _ _ _ state => ⟨state, some (5000, .value [1], state), fun _ => state⟩ }

/-- A signature that takes five seconds is given up after two. -/
theorem slow_signature_given_up :
    ∃ after, Act.handle slow plain (.sign ⟨none, ⟨[0]⟩, "", none, [], some 2⟩) (Run.fresh []) =
        (.ok (.inr (some (.sign ⟨"s", .timeout, none⟩))), after) ∧ after.now = 2000 := by
  obtain ⟨-, answered, -⟩ :=
    answered_for_first_reason plain slow (.sign ⟨none, ⟨[0]⟩, "", none, [], some 2⟩) rfl
      (Run.fresh [])
  obtain ⟨span, result, after, handled, ended, -, first, -⟩ := answered rfl
  obtain ⟨rfl, rfl⟩ := first .deadline 2000 .timedOut rfl (by
    intro other later unlike due
    cases other with
    | ended =>
        obtain rfl : 5000 = later := Option.some.inj due
        decide
    | deadline => exact absurd rfl unlike
    | fired => cases due) .deadline
  exact ⟨after, handled, ended⟩

end Setup

end CardGateway
