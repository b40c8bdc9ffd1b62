import CardGateway.Proofs.Conversation

/-!
# The cancellation token

A token that has fired has fired for good, whatever is called meanwhile, and a message that the token
stops is not answered behind its firing. In such a world a conversation behind whose end the token has
fired was stopped.
-/

namespace CardGateway

open CardGateway.Json

/-- How the firing of a token may be settled anew from an instant on: one that is settled is not put
off, and none comes about in the past. -/
structure Follows (now : Millis) (before after : Option Millis) : Prop where
  stays : ∀ t, before = some t → ∃ t', after = some t' ∧ t' ≤ t
  comes : ∀ t, after = some t → before = some t ∨ now ≤ t

namespace Follows

variable {now later : Millis} {first mid last : Option Millis}

theorem refl (now : Millis) (firing : Option Millis) : Follows now firing firing where
  stays t settled := ⟨t, settled, Nat.le_refl t⟩
  comes _ settled := .inl settled

theorem trans (forth : now ≤ later) (h : Follows now first mid) (rest : Follows later mid last) :
    Follows now first last where
  stays := by
    intro t settled
    obtain ⟨t', between, sooner⟩ := h.stays t settled
    obtain ⟨t'', final, soonest⟩ := rest.stays t' between
    exact ⟨t'', final, Nat.le_trans soonest sooner⟩
  comes := by
    intro t settled
    rcases rest.comes t settled with between | late
    · exact h.comes t between
    · exact .inr (Nat.le_trans forth late)

end Follows

/-- A call that neither puts the firing of the token off nor moves it into the past. -/
structure Call.Keeps {σ α : Type} (call : Call σ α) (fires : σ → Option Millis) (now : Millis)
    (state : σ) : Prop where
  begins : Follows now (fires state) (fires call.begun)
  ends : ∀ span value after, call.ends = some (span, value, after) →
    Follows now (fires call.begun) (fires after)
  drops : ∀ span, Follows now (fires call.begun) (fires (call.dropped span))

/-- Whatever is called, the token fires once and for good. -/
structure World.KeepsToken {σ : Type} (world : World σ) : Prop where
  send : ∀ now guarded resource body state,
    (world.send now guarded resource body state).Keeps world.fires now state
  findTokens : ∀ now filters state,
    (world.findTokens now filters state).Keeps world.fires now state
  listCertificates : ∀ now slot filters pin state,
    (world.listCertificates now slot filters pin state).Keeps world.fires now state
  sign : ∀ now slot didName pin message state,
    (world.sign now slot didName pin message state).Keeps world.fires now state

/-- The transport answers a message that the token stops with cancellation once the token has fired. -/
structure World.HeedsToken {σ : Type} (world : World σ) : Prop where
  cancels : ∀ now resource body state span answer after,
    (world.send now true resource body state).ends = some (span, answer, after) →
      world.hasFired (now + span) after = true → answer = .error .cancelled
  wakes : ∀ now resource body state, (world.send now true resource body state).ends = none →
    world.fires (world.send now true resource body state).begun = none

namespace World

variable {σ : Type} {world : World σ} {now : Millis} {state : σ}

theorem hasFired_iff : world.hasFired now state = true ↔ ∃ t, world.fires state = some t ∧ t ≤ now := by
  unfold hasFired
  cases world.fires state with
  | none => simp
  | some t => simp

theorem hasFired_eq_false_of_none (h : world.fires state = none) :
    world.hasFired now state = false := by
  unfold hasFired
  rw [h]

end World

/-- A later run, to which the token has been kept. -/
structure Run.Tracks {σ : Type} (world : World σ) (run after : Run σ) : Prop where
  forth : run.now ≤ after.now
  follows : Follows run.now (world.fires run.world) (world.fires after.world)

namespace Run

variable {σ α : Type} {world : World σ} {run mid after : Run σ}

def Fired (world : World σ) (run : Run σ) : Prop := world.hasFired run.now run.world = true

namespace Tracks

theorem of_eq (now : after.now = run.now) (state : after.world = run.world) :
    Tracks world run after where
  forth := Nat.le_of_eq now.symm
  follows := by
    rw [state]
    exact .refl _ _

theorem refl (run : Run σ) : Tracks world run run := of_eq rfl rfl

theorem trans (h : Tracks world run mid) (rest : Tracks world mid after) : Tracks world run after where
  forth := Nat.le_trans h.forth rest.forth
  follows := h.follows.trans h.forth rest.follows

theorem fired (h : Tracks world run after) (lapsed : run.Fired world) : after.Fired world := by
  obtain ⟨t, settled, past⟩ := World.hasFired_iff.mp lapsed
  obtain ⟨t', later, sooner⟩ := h.follows.stays t settled
  exact World.hasFired_iff.mpr ⟨t', later, Nat.le_trans sooner (Nat.le_trans past h.forth)⟩

/-- Where the token had not fired yet, its firing is not past. -/
theorem le_of_fires (h : Tracks world run after) (alive : world.hasFired run.now run.world = false)
    {t : Millis} (settled : world.fires after.world = some t) : run.now ≤ t := by
  rcases h.follows.comes t settled with before | late
  · rcases Nat.le_total run.now t with le | past
    · exact le
    · have lapsed := World.hasFired_iff.mpr ⟨t, before, past⟩
      rw [alive] at lapsed
      cases lapsed
  · exact late

section Calls

variable {call : Call σ α} {event : Event}

theorem called (keeps : call.Keeps world.fires run.now run.world) (event : Event) :
    Tracks world run (run.called event call) :=
  ⟨Nat.le_refl _, keeps.begins⟩

theorem returned (keeps : call.Keeps world.fires run.now run.world) {span : Millis} {value : α}
    {last : σ} (ends : call.ends = some (span, value, last)) (event answer : Event) :
    Tracks world run ((run.called event call).returned answer span last) :=
  ⟨Nat.le_add_right _ _, keeps.begins.trans (Nat.le_refl _) (keeps.ends span value last ends)⟩

theorem dropped (keeps : call.Keeps world.fires run.now run.world) (event : Event)
    (instant : Millis) : Tracks world run ((run.called event call).dropped call instant) :=
  ⟨Nat.le_max_left _ _, keeps.begins.trans (Nat.le_refl _) (keeps.drops _)⟩

/-- A call that is given up because the token fires is given up when it has fired. -/
theorem fired_of_overtaken (keeps : call.Keeps world.fires run.now run.world)
    {ends deadline : Option Millis} {instant : Millis}
    (first : world.race run.now call.begun ends deadline = some (.fired, instant)) :
    ((run.called event call).dropped call instant).Fired world := by
  obtain ⟨t, settled, rfl⟩ := World.fires_of_race first
  obtain ⟨t', later, sooner⟩ := (keeps.drops (max run.now t - run.now)).stays t settled
  refine World.hasFired_iff.mpr ⟨t', later, Nat.le_trans sooner ?_⟩
  exact Nat.le_trans (Nat.le_max_right run.now t) (Nat.le_max_right run.now _)

end Calls

end Tracks

end Run

namespace Act

variable {σ α : Type} {world : World σ} {setup : Setup} {run after : Run σ}

theorem Searched.tracks (keeps : world.KeepsToken) {filters : List TokenInfo}
    {result : Except Halt (Option (Except CardFault TokenSearch))}
    (h : Searched world filters run result after) : Run.Tracks world run after := by
  have kept := keeps.findTokens run.now filters run.world
  cases h with
  | fired lapsed => exact .refl run
  | overtaken alive begun first =>
      subst begun
      exact .dropped kept _ _
  | endless alive begun never settled =>
      subst begun
      exact .called kept _
  | found alive begun comes =>
      subst begun
      exact .trans (.returned kept comes _ _)
        (.of_eq (Run.holding_now _ _) (Run.holding_world _ _))

theorem Searched.fired_of_none (keeps : world.KeepsToken) {filters : List TokenInfo}
    (h : Searched world filters run (.ok none) after) : after.Fired world := by
  cases h with
  | fired lapsed => exact lapsed
  | overtaken alive begun first =>
      subst begun
      exact Run.Tracks.fired_of_overtaken (keeps.findTokens _ _ _) first

theorem Searched.alive_of_error {filters : List TokenInfo} {reason : Halt}
    (h : Searched world filters run (.error reason) after) :
    world.hasFired after.now after.world = false := by
  cases h with
  | endless alive begun never settled => exact World.hasFired_eq_false_of_none settled

section Polling

variable {session : String} {filters : List TokenInfo} {deadline : Millis}
  {result : Except Halt (Option ListTokensResponse)}

theorem Polled.tracks (keeps : world.KeepsToken)
    (h : Polled world session filters deadline run result after) : Run.Tracks world run after := by
  induction h with
  | halted step => exact step.tracks keeps
  | stopped step => exact step.tracks keeps
  | failed step => exact step.tracks keeps
  | matched step hit => exact step.tracks keeps
  | late step miss lapsed => exact step.tracks keeps
  | fired step miss early first =>
      rename_i run mid found instant
      obtain ⟨t, _, rfl⟩ := World.fires_of_race first
      exact (step.tracks keeps).trans ⟨Nat.le_max_left mid.now t, .refl _ _⟩
  | again step miss early rest ih =>
      rename_i run mid last found result
      have forth : mid.now ≤ min deadline (mid.now + pollInterval) :=
        Nat.le_min.mpr ⟨Nat.le_of_lt early, Nat.le_add_right _ _⟩
      have paused : Run.Tracks world mid
          { mid with now := min deadline (mid.now + pollInterval) } := ⟨forth, .refl _ _⟩
      exact (step.tracks keeps).trans (paused.trans ih)

theorem Polled.fired_of_none (keeps : world.KeepsToken)
    (h : Polled world session filters deadline run result after) (silent : result = .ok none) :
    after.Fired world := by
  induction h with
  | halted step => cases silent
  | stopped step => exact step.fired_of_none keeps
  | failed step => cases silent
  | matched step hit => cases silent
  | late step miss lapsed => cases silent
  | fired step miss early first =>
      rename_i run mid found instant
      obtain ⟨t, settled, rfl⟩ := World.fires_of_race first
      exact World.hasFired_iff.mpr ⟨t, settled, Nat.le_max_right mid.now t⟩
  | again step miss early rest ih => exact ih silent

theorem Polled.alive_of_error {reason : Halt}
    (h : Polled world session filters deadline run result after) (halted : result = .error reason) :
    world.hasFired after.now after.world = false := by
  induction h with
  | halted step => exact step.alive_of_error
  | stopped step => cases halted
  | failed step => cases halted
  | matched step hit => cases halted
  | late step miss lapsed => cases halted
  | fired step miss early first => cases halted
  | again step miss early rest ih => exact ih halted

end Polling

section Working

variable {ρ : Type} {budget : Millis} {done : CardOutcome α → Event}

theorem Worked.tracks {begun : Event} {operation : Millis → σ → Call σ (CardOutcome α)}
    {result : Work α} (keeps : (operation run.now run.world).Keeps world.fires run.now run.world)
    (h : Worked world budget begun done operation run result after) : Run.Tracks world run after := by
  cases h with
  | done starts first comes =>
      subst starts
      exact .returned keeps comes _ _
  | stopped starts first =>
      subst starts
      exact .dropped keeps _ _
  | timedOut starts first =>
      subst starts
      exact .dropped keeps _ _

theorem Worked.fired_of_stopped {begun : Event} {operation : Millis → σ → Call σ (CardOutcome α)}
    (keeps : (operation run.now run.world).Keeps world.fires run.now run.world)
    (h : Worked world budget begun done operation run .stopped after) : after.Fired world := by
  cases h with
  | stopped starts first =>
      subst starts
      exact Run.Tracks.fired_of_overtaken keeps first

variable {pins : PinPolicy} {encrypted : Option String} {refused : ResultCode → ρ}
  {granted : α → ρ} {begun : Option Pin → Event}
  {operation : Option Pin → Millis → σ → Call σ (CardOutcome α)} {reply : Option ρ}

theorem Asked.tracks
    (keeps : ∀ pin, (operation pin run.now run.world).Keeps world.fires run.now run.world)
    (h : Asked world pins encrypted budget refused granted begun done operation run reply after) :
    Run.Tracks world run after := by
  cases h with
  | fired lapsed => exact .refl run
  | spent alive spent => exact .refl run
  | unusable alive unspent unwrapped => exact .refl run
  | worked alive unspent unwrapped step => exact step.tracks (keeps _)

theorem Asked.fired_of_none
    (keeps : ∀ pin, (operation pin run.now run.world).Keeps world.fires run.now run.world)
    (h : Asked world pins encrypted budget refused granted begun done operation run reply after)
    (silent : reply = none) : after.Fired world := by
  cases h with
  | fired lapsed => exact lapsed
  | spent alive spent => cases silent
  | unusable alive unspent unwrapped => cases silent
  | worked alive unspent unwrapped step =>
      rename_i pin result
      cases result with
      | done outcome => cases outcome <;> cases silent
      | timedOut => cases silent
      | stopped => exact step.fired_of_stopped (keeps pin)

end Working

section Handling

variable {command : Command} {result : Except Halt (Terminate ⊕ Option Reply)}

theorem Handled.tracks (keeps : world.KeepsToken)
    (h : Handled world setup run command result after) : Run.Tracks world run after := by
  cases h with
  | terminate message => exact .refl run
  | endless step => exact step.tracks keeps
  | listTokens step => exact step.tracks keeps
  | listCertificates step => exact step.tracks fun pin => keeps.listCertificates _ _ _ pin _
  | sign step => exact step.tracks fun pin => keeps.sign _ _ _ pin _ _

theorem Handled.fired_of_none (keeps : world.KeepsToken)
    (h : Handled world setup run command (.ok (.inr none)) after) : after.Fired world := by
  generalize told : Except.ok (Sum.inr none) = result at h
  cases h with
  | terminate message => cases told
  | endless step => cases told
  | listTokens step =>
      exact step.fired_of_none keeps
        (congrArg _ (Option.map_eq_none_iff.mp (Sum.inr.inj (Except.ok.inj told)).symm))
  | listCertificates step =>
      exact step.fired_of_none (fun pin => keeps.listCertificates _ _ _ pin _)
        (Option.map_eq_none_iff.mp (Sum.inr.inj (Except.ok.inj told)).symm)
  | sign step =>
      exact step.fired_of_none (fun pin => keeps.sign _ _ _ pin _ _)
        (Option.map_eq_none_iff.mp (Sum.inr.inj (Except.ok.inj told)).symm)

theorem Handled.alive_of_error {reason : Halt}
    (h : Handled world setup run command (.error reason) after) :
    world.hasFired after.now after.world = false := by
  cases h with
  | endless step => exact step.alive_of_error rfl

end Handling

theorem Notified.tracks (keeps : world.KeepsToken) {resource : String} {body : Bytes}
    (h : Notified world resource body run after) : Run.Tracks world run after := by
  have kept := keeps.send run.now false resource body run.world
  cases h with
  | answered comes timely => exact .returned kept comes _ _
  | unanswered =>
      exact ⟨Nat.le_add_right _ _, kept.begins.trans (Nat.le_refl _) (kept.drops _)⟩

theorem stopped_tracks (keeps : world.KeepsToken) (setup : Setup) (run : Run σ) :
    Run.Tracks world run (run.stopped world setup.session) := by
  obtain ⟨after, notified, same⟩ := run.exists_notified world setup
  rw [same]
  exact (notified.tracks keeps).trans (.of_eq rfl rfl)

section Exchanging

variable [Url.HostMapping] {endpoint : Endpoint} {body : Bytes} {codec : Codec α}
  {result : Except Halt α}

/-- An exchange that is not cancelled ends before the token has fired. -/
theorem Exchanged.alive (heeds : world.HeedsToken)
    (h : Exchanged world setup.session endpoint body codec run result after)
    (loud : result ≠ .error (.failed .cancelled)) :
    world.hasFired after.now after.world = false := by
  cases h with
  | fired lapsed => exact absurd rfl loud
  | endless alive never => exact World.hasFired_eq_false_of_none (heeds.wakes _ _ _ _ never)
  | answered alive comes meant =>
      refine Bool.eq_false_iff.mpr ?_
      intro lapsed
      cases heeds.cancels _ _ _ _ _ _ _ comes lapsed
  | undecodable alive comes meant =>
      refine Bool.eq_false_iff.mpr ?_
      intro lapsed
      cases heeds.cancels _ _ _ _ _ _ _ comes lapsed
  | refused alive comes audible =>
      refine Bool.eq_false_iff.mpr ?_
      intro lapsed
      cases heeds.cancels _ _ _ _ _ _ _ comes lapsed
      exact audible rfl
  | cancelled alive comes => exact absurd rfl loud

end Exchanging

section Serving

variable [Url.HostMapping] {command first last : Command} {reply : Reply} {replies : List Reply}
  {mid arrival : Run σ}

theorem Turn.alive (heeds : world.HeedsToken)
    (h : Turn world setup command run reply last after) :
    world.hasFired after.now after.world = false := by
  cases h with
  | intro produced answer =>
      refine (exchanged_of_eq answer).alive heeds ?_
      intro quiet
      cases quiet

theorem Turns.alive (heeds : world.HeedsToken)
    (turns : Turns world setup first run replies last arrival)
    (begins : world.hasFired run.now run.world = false) :
    world.hasFired arrival.now arrival.world = false := by
  cases turns with
  | nil => exact begins
  | snoc turns turn => exact turn.alive heeds

/-- A command that is the last one ends the run before the token has fired, unless as cancelled. -/
theorem Ends.alive (heeds : world.HeedsToken) {result : Except Halt Terminate}
    (h : Ends world setup command run result after) (loud : result ≠ .error (.failed .cancelled)) :
    world.hasFired after.now after.world = false := by
  cases h with
  | fired lapsed => exact absurd rfl loud
  | terminated alive asked => exact alive
  | endless alive handling => exact (handled_of_eq handling).alive_of_error
  | stopped alive handling => exact absurd rfl loud
  | broken produced answer =>
      refine (exchanged_of_eq answer).alive heeds ?_
      intro quiet
      exact loud (congrArg _ (Except.error.inj quiet))

end Serving

end Act

end CardGateway
