import CardGateway.Run.Handling

/-!
# The two tasks of a request under a budget

A worker asks the card. The handler waits for the worker, the end of the budget and the token of the
run; where it is not the worker that ends the wait, the handler stops the worker's token and waits
for the worker once more. The worker's token is stopped with that of the run, and the worker gives
up as soon as its token is stopped. What can happen at one instant happens in any order, and time
goes by where nothing can.

However the card, the budget and the token meet, the handler returns at the instant of the first of
them, with what belongs to it, and behind a worker that is over.
-/

namespace CardGateway

open Act (Work)

/-- What the tasks have no hand in. Spans count from the start of the worker. -/
structure Job (α : Type) where
  /-- When the card is done, with what comes of it, unless it never is. -/
  ends : Option (Millis × CardOutcome α)
  budget : Millis
  /-- When the token of the run fires. -/
  fires : Option Millis

namespace Job

variable {α : Type}

/-- When there is a reason to stop waiting. -/
def due (job : Job α) : Wakening → Option Millis
  | .ended => job.ends.map Prod.fst
  | .deadline => some job.budget
  | .fired => job.fires

inductive Gives (job : Job α) : Wakening → Work α → Prop where
  | ended {span : Millis} {outcome : CardOutcome α} (ends : job.ends = some (span, outcome)) :
      Gives job .ended (.done outcome)
  | deadline : Gives job .deadline .timedOut
  | fired : Gives job .fired .stopped

/-- By an instant there has been a reason for a result. -/
def Caused (job : Job α) (now : Millis) (result : Work α) : Prop :=
  ∃ reason instant, job.due reason = some instant ∧ instant ≤ now ∧ job.Gives reason result

/-- Work comes to a result after a span, for a reason that no other one comes before. -/
structure Settles (job : Job α) (span : Millis) (result : Work α) : Prop where
  first : ∀ reason instant, job.due reason = some instant → span ≤ instant
  cause : ∃ reason, job.due reason = some span ∧ job.Gives reason result

theorem Gives.unique {job : Job α} {reason : Wakening} {first second : Work α}
    (one : job.Gives reason first) (other : job.Gives reason second) : first = second := by
  cases one with
  | ended ends =>
      cases other with
      | ended again =>
          rw [ends] at again
          cases again
          rfl
  | deadline =>
      cases other
      rfl
  | fired =>
      cases other
      rfl

/-- A reason that comes before all others tells the result and the span. -/
theorem Settles.eq_of_lt {job : Job α} {span instant : Millis} {result given : Work α}
    {reason : Wakening} (h : job.Settles span result) (due : job.due reason = some instant)
    (sole : ∀ other later, other ≠ reason → job.due other = some later → instant < later)
    (gives : job.Gives reason given) : span = instant ∧ result = given := by
  obtain ⟨found, came, told⟩ := h.cause
  have same : found = reason := by
    by_cases same : found = reason
    · exact same
    · exact absurd (sole found span same came) (Nat.not_lt.mpr (h.first reason instant due))
  subst same
  rw [due] at came
  exact ⟨(Option.some.inj came).symm, told.unique gives⟩

end Job

inductive Worker (α : Type) where
  | spawned
  | asking
  /-- Over, with what came of the operation, none if the worker has given it up. -/
  | gone (outcome : Option (CardOutcome α))

inductive Handler (α : Type) where
  | waiting
  /-- Knows the result, and waits for the worker to be over. -/
  | joining (result : Work α)
  | returned (result : Work α)

/-- What a worker that is over means to a handler that waits for it. -/
def Handler.joined {α : Type} : Option (CardOutcome α) → Work α
  | some outcome => .done outcome
  | none => .stopped

/-- A worker that is over has something that came of the card by now, or a token that is stopped. -/
def Worker.Kept {α : Type} (job : Job α) (now : Millis) (stopped : Bool) : Worker α → Prop
  | .spawned | .asking => True
  | .gone (some outcome) => ∃ span, job.ends = some (span, outcome) ∧ span ≤ now
  | .gone none => stopped = true

theorem Worker.Kept.mono {α : Type} {job : Job α} {now later : Millis} {stopped more : Bool}
    {worker : Worker α} (h : worker.Kept job now stopped) (forth : now ≤ later)
    (still : stopped = true → more = true) : worker.Kept job later more := by
  match worker with
  | .spawned => trivial
  | .asking => trivial
  | .gone (some outcome) =>
      obtain ⟨span, ends, come⟩ := h
      exact ⟨span, ends, Nat.le_trans come forth⟩
  | .gone none => exact still h

structure Tasks (α : Type) where
  now : Millis
  /-- Whether the token of the run has fired. -/
  fired : Bool
  /-- Whether the handler has stopped the token of the worker. -/
  dropped : Bool
  worker : Worker α
  handler : Handler α

namespace Tasks

variable {α : Type}

def initial : Tasks α := ⟨0, false, false, .spawned, .waiting⟩

/-- The worker's token is stopped by the handler, or with the token of the run. -/
def isStopped (tasks : Tasks α) : Bool := tasks.fired || tasks.dropped

inductive Mover where
  | token
  | worker
  | handler

/-- A move, which takes no time. The worker looks at its token before it looks at the card. -/
inductive Moves (job : Job α) (tasks : Tasks α) : Mover → Tasks α → Prop where
  | fires {span : Millis} (fires : job.fires = some span) (come : span ≤ tasks.now)
      (unfired : tasks.fired = false) : Moves job tasks .token { tasks with fired := true }
  | begins (fresh : tasks.worker = .spawned) (free : tasks.isStopped = false) :
      Moves job tasks .worker { tasks with worker := .asking }
  | declines (fresh : tasks.worker = .spawned) (stopped : tasks.isStopped = true) :
      Moves job tasks .worker { tasks with worker := .gone none }
  | ends {span : Millis} {outcome : CardOutcome α} (asks : tasks.worker = .asking)
      (free : tasks.isStopped = false) (ends : job.ends = some (span, outcome))
      (come : span ≤ tasks.now) :
      Moves job tasks .worker { tasks with worker := .gone (some outcome) }
  | yields (asks : tasks.worker = .asking) (stopped : tasks.isStopped = true) :
      Moves job tasks .worker { tasks with worker := .gone none }
  | joins {outcome : Option (CardOutcome α)} (waits : tasks.handler = .waiting)
      (gone : tasks.worker = .gone outcome) :
      Moves job tasks .handler { tasks with handler := .returned (Handler.joined outcome) }
  | lapses (waits : tasks.handler = .waiting) (come : job.budget ≤ tasks.now) :
      Moves job tasks .handler { tasks with handler := .joining .timedOut, dropped := true }
  | stops (waits : tasks.handler = .waiting) (fired : tasks.fired = true) :
      Moves job tasks .handler { tasks with handler := .joining .stopped, dropped := true }
  | returns {result : Work α} {outcome : Option (CardOutcome α)}
      (joins : tasks.handler = .joining result) (gone : tasks.worker = .gone outcome) :
      Moves job tasks .handler { tasks with handler := .returned result }

/-- A move, or time that goes by for want of one while the handler has not returned. -/
inductive Step (job : Job α) (tasks : Tasks α) : Tasks α → Prop where
  | moves {mover : Mover} {next : Tasks α} (move : tasks.Moves job mover next) :
      Step job tasks next
  | waits (busy : ∀ result, tasks.handler ≠ .returned result)
      (idle : ∀ mover next, ¬ tasks.Moves job mover next) :
      Step job tasks { tasks with now := tasks.now + 1 }

inductive Reaches (job : Job α) : Nat → Tasks α → Prop where
  | start : Reaches job 0 initial
  | step {steps : Nat} {tasks next : Tasks α} (before : Reaches job steps tasks)
      (step : tasks.Step job next) : Reaches job (steps + 1) next

/-- Nothing but the token itself makes the token of the run fire. -/
theorem Moves.fired_eq {job : Job α} {tasks next : Tasks α} {mover : Mover}
    (move : tasks.Moves job mover next) (other : mover ≠ .token) : next.fired = tasks.fired := by
  cases move with
  | fires => exact absurd rfl other
  | _ => rfl

/-- What is true of the tasks at any time. -/
structure Kept (job : Job α) (tasks : Tasks α) : Prop where
  timely : ∀ reason instant, job.due reason = some instant → tasks.now ≤ instant
  fired : tasks.fired = true → ∃ span, job.fires = some span ∧ span ≤ tasks.now
  worker : tasks.worker.Kept job tasks.now tasks.isStopped
  waiting : tasks.handler = .waiting → tasks.dropped = false
  joining : ∀ result, tasks.handler = .joining result →
    tasks.dropped = true ∧ job.Caused tasks.now result
  returned : ∀ result, tasks.handler = .returned result →
    (∃ outcome, tasks.worker = .gone outcome) ∧ job.Caused tasks.now result ∧
      (tasks.isStopped = true ∨ ∃ outcome, result = .done outcome)

namespace Kept

variable {job : Job α} {tasks next : Tasks α}

theorem initial : Kept job initial where
  timely _ _ _ := Nat.zero_le _
  fired := nofun
  worker := trivial
  waiting _ := rfl
  joining := nofun
  returned := nofun

/-- A handler that has not stopped the worker's token goes by the worker only for a reason. -/
theorem caused_joined (h : tasks.Kept job) (free : tasks.dropped = false)
    {outcome : Option (CardOutcome α)} (gone : tasks.worker = .gone outcome) :
    job.Caused tasks.now (Handler.joined outcome) := by
  have worker := h.worker
  rw [gone] at worker
  cases outcome with
  | some outcome =>
      obtain ⟨span, ends, come⟩ := worker
      exact ⟨.ended, span, by simp [Job.due, ends], come, .ended ends⟩
  | none =>
      have stopped : tasks.isStopped = true := worker
      rw [isStopped, free, Bool.or_false] at stopped
      obtain ⟨span, fires, come⟩ := h.fired stopped
      exact ⟨.fired, span, fires, come, .fired⟩

/-- The worker moves on under the same tokens, and the handler has not returned. -/
theorem of_worker (h : tasks.Kept job) {worker : Worker α}
    (busy : ∀ outcome, tasks.worker ≠ .gone outcome)
    (kept : worker.Kept job tasks.now tasks.isStopped) :
    Kept job { tasks with worker } where
  timely := h.timely
  fired := h.fired
  worker := kept
  waiting := h.waiting
  joining := h.joining
  returned result returned := by
    obtain ⟨⟨outcome, gone⟩, -⟩ := h.returned result returned
    exact absurd gone (busy outcome)

/-- The handler knows a result without the worker. -/
theorem of_joining (h : tasks.Kept job) {result : Work α} (caused : job.Caused tasks.now result) :
    Kept job { tasks with handler := .joining result, dropped := true } where
  timely := h.timely
  fired := h.fired
  worker := h.worker.mono (Nat.le_refl _) fun _ => Bool.or_true _
  waiting := nofun
  joining other same := by
    cases same
    exact ⟨rfl, caused⟩
  returned := nofun

theorem of_returned (h : tasks.Kept job) {result : Work α} {outcome : Option (CardOutcome α)}
    (gone : tasks.worker = .gone outcome) (caused : job.Caused tasks.now result)
    (stopped : tasks.isStopped = true ∨ ∃ outcome, result = .done outcome) :
    Kept job { tasks with handler := .returned result } where
  timely := h.timely
  fired := h.fired
  worker := h.worker
  waiting := nofun
  joining := nofun
  returned other same := by
    cases same
    exact ⟨⟨outcome, gone⟩, caused, stopped⟩

theorem moves {mover : Mover} (h : tasks.Kept job) (move : tasks.Moves job mover next) :
    next.Kept job := by
  cases move with
  | @fires span fires come unfired =>
      refine ⟨h.timely, fun _ => ⟨span, fires, come⟩,
        h.worker.mono (Nat.le_refl _) fun _ => rfl, h.waiting, h.joining, ?_⟩
      intro result returned
      obtain ⟨gone, caused, -⟩ := h.returned result returned
      exact ⟨gone, caused, .inl rfl⟩
  | begins fresh free => exact h.of_worker (by simp [fresh]) trivial
  | declines fresh stopped => exact h.of_worker (by simp [fresh]) stopped
  | @ends span outcome asks free ends come =>
      exact h.of_worker (by simp [asks]) ⟨span, ends, come⟩
  | yields asks stopped => exact h.of_worker (by simp [asks]) stopped
  | @joins outcome waits gone =>
      refine h.of_returned gone (h.caused_joined (h.waiting waits) gone) ?_
      have worker := h.worker
      rw [gone] at worker
      cases outcome with
      | some outcome => exact .inr ⟨outcome, rfl⟩
      | none => exact .inl worker
  | lapses waits come => exact h.of_joining ⟨.deadline, job.budget, rfl, come, .deadline⟩
  | stops waits fired =>
      obtain ⟨span, fires, come⟩ := h.fired fired
      exact h.of_joining ⟨.fired, span, fires, come, .fired⟩
  | @returns result outcome joins gone =>
      obtain ⟨dropped, caused⟩ := h.joining result joins
      refine h.of_returned gone caused (.inl ?_)
      rw [isStopped, dropped, Bool.or_true]

/-- Where nothing can happen, the worker asks the card, the handler waits for the worker, and there
is no reason yet to stop. -/
theorem waits (h : tasks.Kept job) (busy : ∀ result, tasks.handler ≠ .returned result)
    (idle : ∀ mover next, ¬ tasks.Moves job mover next) :
    ∀ reason instant, job.due reason = some instant → tasks.now < instant := by
  have running : ∀ outcome, tasks.worker ≠ .gone outcome := by
    intro outcome gone
    cases handler : tasks.handler with
    | waiting => exact idle _ _ (.joins handler gone)
    | joining result => exact idle _ _ (.returns handler gone)
    | returned result => exact busy result handler
  have free : tasks.isStopped = false := by
    rw [Bool.eq_false_iff]
    intro stopped
    cases worker : tasks.worker with
    | spawned => exact idle _ _ (.declines worker stopped)
    | asking => exact idle _ _ (.yields worker stopped)
    | gone outcome => exact running outcome worker
  have asks : tasks.worker = .asking := by
    cases worker : tasks.worker with
    | spawned => exact absurd (.begins worker free) (idle _ _)
    | asking => rfl
    | gone outcome => exact absurd worker (running outcome)
  obtain ⟨unfired, undropped⟩ := Bool.or_eq_false_iff.mp free
  have waits : tasks.handler = .waiting := by
    cases handler : tasks.handler with
    | waiting => rfl
    | joining result =>
        obtain ⟨dropped, -⟩ := h.joining result handler
        cases dropped.symm.trans undropped
    | returned result => exact absurd handler (busy result)
  intro reason instant due
  refine Nat.lt_of_not_le fun come => ?_
  cases reason with
  | ended =>
      obtain ⟨⟨span, outcome⟩, ends, rfl⟩ := Option.map_eq_some_iff.mp due
      exact idle _ _ (.ends asks free ends come)
  | deadline =>
      cases due
      exact idle _ _ (.lapses waits come)
  | fired => exact idle _ _ (.fires due come unfired)

theorem step (h : tasks.Kept job) (step : tasks.Step job next) : next.Kept job := by
  cases step with
  | moves move => exact h.moves move
  | waits busy idle =>
      have later {result : Work α} (caused : job.Caused tasks.now result) :
          job.Caused (tasks.now + 1) result := by
        obtain ⟨reason, instant, due, come, gives⟩ := caused
        exact ⟨reason, instant, due, Nat.le_succ_of_le come, gives⟩
      refine ⟨h.waits busy idle, ?_, h.worker.mono (Nat.le_succ _) id, h.waiting, ?_, ?_⟩
      · intro fired
        obtain ⟨span, fires, come⟩ := h.fired fired
        exact ⟨span, fires, Nat.le_succ_of_le come⟩
      · intro result joins
        obtain ⟨dropped, caused⟩ := h.joining result joins
        exact ⟨dropped, later caused⟩
      · intro result returned
        exact absurd returned (busy result)

/-- A result with which the handler has returned is what a first reason gives. -/
theorem settles (h : tasks.Kept job) {result : Work α}
    (returned : tasks.handler = .returned result) : job.Settles tasks.now result := by
  obtain ⟨-, ⟨reason, instant, due, come, gives⟩, -⟩ := h.returned result returned
  have same : instant = tasks.now := Nat.le_antisymm come (h.timely reason instant due)
  subst same
  exact ⟨h.timely, reason, due, gives⟩

end Kept

theorem Reaches.kept {job : Job α} {steps : Nat} {tasks : Tasks α}
    (h : Reaches job steps tasks) : tasks.Kept job := by
  induction h with
  | start => exact .initial
  | step before step ih => exact ih.step step

section Progress

/-- How many steps are left at most. -/
def rank (job : Job α) (tasks : Tasks α) : Nat :=
  (job.budget - tasks.now) + (if tasks.fired then 0 else 1) +
    (match tasks.worker with | .spawned => 2 | .asking => 1 | .gone _ => 0) +
    (match tasks.handler with | .waiting => 2 | .joining _ => 1 | .returned _ => 0)

theorem Moves.rank_lt {job : Job α} {tasks next : Tasks α} {mover : Mover}
    (move : tasks.Moves job mover next) : next.rank job < tasks.rank job := by
  cases move with
  | fires fires come unfired => simp [rank, unfired]
  | begins fresh free => simp [rank, fresh]
  | declines fresh stopped => simp [rank, fresh]
  | ends asks free ends come => simp [rank, asks]
  | yields asks stopped => simp [rank, asks]
  | joins waits gone => simp [rank, waits]
  | lapses waits come => simp [rank, waits]
  | stops waits fired => simp [rank, waits]
  | returns joins gone => simp [rank, joins]

theorem Kept.rank_lt {job : Job α} {tasks next : Tasks α} (h : tasks.Kept job)
    (step : tasks.Step job next) : next.rank job < tasks.rank job := by
  cases step with
  | moves move => exact move.rank_lt
  | waits busy idle =>
      have early : tasks.now < job.budget := h.waits busy idle .deadline job.budget rfl
      simp only [rank, Millis] at *
      omega

theorem Reaches.steps_le {job : Job α} {steps : Nat} {tasks : Tasks α}
    (h : Reaches job steps tasks) : steps ≤ job.budget + 5 := by
  have spent : steps + tasks.rank job ≤ job.budget + 5 := by
    induction h with
    | start => simp [rank, initial]
    | step before step ih =>
        have less := before.kept.rank_lt step
        omega
  omega

theorem exists_returned_of_halt {job : Job α} {tasks : Tasks α}
    (halt : ∀ next, ¬ tasks.Step job next) : ∃ result, tasks.handler = .returned result := by
  have returned : ¬ ∀ result, tasks.handler ≠ .returned result := fun busy =>
    halt _ (.waits busy fun mover next move => halt next (.moves move))
  exact Classical.not_forall_not.mp returned

end Progress

section Schedules

variable {job : Job α} {span : Millis} {result : Work α}

/-- The worker asks the card and the handler waits, with all tokens alive. -/
def underway (now : Millis) : Tasks α := ⟨now, false, false, .asking, .waiting⟩

theorem idle_underway {now : Millis}
    (early : ∀ reason instant, job.due reason = some instant → now < instant) (mover : Mover)
    (next : Tasks α) : ¬ (underway now).Moves job mover next := by
  intro move
  cases move with
  | @fires span fires come unfired => exact Nat.not_lt.mpr come (early .fired span fires)
  | begins fresh free => cases fresh
  | declines fresh stopped => cases fresh
  | @ends span outcome asks free ends come =>
      exact Nat.not_lt.mpr come (early .ended span (by simp [Job.due, ends]))
  | yields asks stopped => cases stopped
  | joins waits gone => cases gone
  | lapses waits come => exact Nat.not_lt.mpr come (early .deadline job.budget rfl)
  | stops waits fired => cases fired
  | returns joins gone => cases joins

theorem reaches_underway (first : ∀ reason instant, job.due reason = some instant → span ≤ instant)
    {now : Millis} (within : now ≤ span) : ∃ steps, Reaches job steps (underway now) := by
  induction now with
  | zero => exact ⟨_, .step .start (.moves (.begins rfl rfl))⟩
  | succ now ih =>
      obtain ⟨steps, before⟩ := ih (Nat.le_of_succ_le within)
      refine ⟨_, .step before (.waits nofun (idle_underway ?_))⟩
      intro reason instant due
      exact Nat.lt_of_lt_of_le within (first reason instant due)

/-- The tasks can return with whatever a first reason gives. -/
theorem exists_reaches_of_settles (h : job.Settles span result) :
    ∃ steps tasks, Reaches job steps tasks ∧ tasks.handler = .returned result ∧
      tasks.now = span := by
  obtain ⟨steps, waiting⟩ := reaches_underway h.first (Nat.le_refl span)
  obtain ⟨reason, due, gives⟩ := h.cause
  cases gives with
  | @ended instant outcome ends =>
      have come : instant = span := by simpa [Job.due, ends] using due
      have gone := Reaches.step waiting (.moves (.ends rfl rfl ends (Nat.le_of_eq come)))
      exact ⟨_, _, .step gone (.moves (.joins rfl rfl)), rfl, rfl⟩
  | deadline =>
      have come : job.budget = span := Option.some.inj due
      have lapsed := Reaches.step waiting (.moves (.lapses rfl (Nat.le_of_eq come)))
      have yielded := Reaches.step lapsed (.moves (.yields rfl rfl))
      exact ⟨_, _, .step yielded (.moves (.returns rfl rfl)), rfl, rfl⟩
  | fired =>
      have fired := Reaches.step waiting (.moves (.fires due (Nat.le_refl _) rfl))
      have stopped := Reaches.step fired (.moves (.stops rfl rfl))
      have yielded := Reaches.step stopped (.moves (.yields rfl rfl))
      exact ⟨_, _, .step yielded (.moves (.returns rfl rfl)), rfl, rfl⟩

/-- The results with which the handler can return, and the instants at which it does. -/
theorem returns_iff_settles :
    (∃ steps tasks, Reaches job steps tasks ∧ tasks.handler = .returned result ∧
      tasks.now = span) ↔ job.Settles span result := by
  constructor
  · rintro ⟨steps, tasks, reaches, returned, rfl⟩
    exact reaches.kept.settles returned
  · exact exists_reaches_of_settles

end Schedules

/-- What holds of the tasks of a job in whatever order they move. -/
structure Orderly (job : Job α) : Prop where
  /-- They come to a halt soon, also where the card is never done. -/
  bounded : ∀ steps tasks, Reaches job steps tasks → steps ≤ job.budget + 5
  returns : ∀ steps tasks, Reaches job steps tasks → (∀ next, ¬ tasks.Step job next) →
    ∃ result, tasks.handler = .returned result
  settles : ∀ steps tasks result, Reaches job steps tasks → tasks.handler = .returned result →
    job.Settles tasks.now result
  /-- The worker does not outlive the handler. -/
  gone : ∀ steps tasks result, Reaches job steps tasks → tasks.handler = .returned result →
    ∃ outcome, tasks.worker = .gone outcome
  stopped : ∀ steps tasks result, Reaches job steps tasks → tasks.handler = .returned result →
    (∀ outcome, result ≠ .done outcome) → tasks.isStopped = true
  /-- The token of the run fires of its own accord. -/
  fires : ∀ steps tasks, Reaches job steps tasks → tasks.fired = true →
    ∃ instant, job.fires = some instant ∧ instant ≤ tasks.now
  spares : ∀ (tasks next : Tasks α) mover, tasks.Moves job mover next → mover ≠ .token →
    next.fired = tasks.fired

theorem orderly (job : Job α) : Orderly job where
  bounded _ _ reaches := reaches.steps_le
  returns _ _ _ halt := exists_returned_of_halt halt
  settles _ _ _ reaches returned := reaches.kept.settles returned
  gone _ _ result reaches returned := (reaches.kept.returned result returned).1
  stopped _ _ result reaches returned other := by
    obtain ⟨-, -, stopped | ⟨outcome, same⟩⟩ := reaches.kept.returned result returned
    · exact stopped
    · exact absurd same (other outcome)
  fires _ _ reaches fired := reaches.kept.fired fired
  spares _ _ _ move other := move.fired_eq other

end Tasks

end CardGateway
