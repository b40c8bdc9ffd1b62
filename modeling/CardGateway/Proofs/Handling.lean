import CardGateway.Proofs.CardWork

/-!
# How commands are handled

Handling a command calls the card only as the command asks, posts nothing, and ends with a reply of
the command's kind, with none if the run is stopped, or never.
-/

namespace CardGateway

namespace Reply

def session : Reply → String
  | .listTokens response => response.session
  | .listCertificates response => response.session
  | .sign response => response.session

inductive Answers : Reply → Command → Prop where
  | listTokens (response : ListTokensResponse) (request : ListTokensRequest) :
      Answers (.listTokens response) (.listTokens request)
  | listCertificates (response : ListCertificatesResponse) (request : ListCertificatesRequest) :
      Answers (.listCertificates response) (.listCertificates request)
  | sign (response : SignResponse) (request : SignRequest) :
      Answers (.sign response) (.sign request)

end Reply

/-- What happens while a command is handled: calls of the card with what the request holds, with the
PIN that the policy makes of the one in it, and what comes of them. -/
inductive Handles (setup : Setup) : Command → Event → Prop where
  | findTokens (request : ListTokensRequest) :
      Handles setup (.listTokens request) (.findTokens request.filters)
  | found (request : ListTokensRequest) (result : Except CardFault TokenSearch) :
      Handles setup (.listTokens request) (.found result)
  | listCertificates (request : ListCertificatesRequest) {pin : Option Pin}
      (unwrapped : setup.pins.unwrap request.pin = .ok pin) :
      Handles setup (.listCertificates request)
        (.listCertificates request.slot request.filters pin)
  | listed (request : ListCertificatesRequest) (outcome : CardOutcome (List CertificateInfo)) :
      Handles setup (.listCertificates request) (.listed outcome)
  | sign (request : SignRequest) {pin : Option Pin}
      (unwrapped : setup.pins.unwrap request.pin = .ok pin) :
      Handles setup (.sign request) (.sign request.slot request.didName pin request.message)
  | signed (request : SignRequest) (outcome : CardOutcome Bytes) :
      Handles setup (.sign request) (.signed outcome)

namespace Handles

variable {setup : Setup} {command : Command} {event : Event}

theorem posted?_eq_none (h : Handles setup command event) : event.posted? = none := by
  cases h <;> rfl

theorem isDispatch_eq_false (h : Handles setup command event) : event.isDispatch = false := by
  cases h <;> rfl

end Handles

namespace Act

variable {σ α : Type}

section Writing

variable {world : World σ} {P : Event → Prop} {run after : Run σ}

theorem Searched.wrote {filters : List TokenInfo}
    {result : Except Halt (Option (Except CardFault TokenSearch))}
    (h : Searched world filters run result after) (call : P (.findTokens filters))
    (found : ∀ result, P (.found result)) : Run.Wrote P run after := by
  cases h with
  | fired lapsed => exact .refl run
  | overtaken alive begun first => exact .dropped call _ _ run
  | endless alive begun never settled => exact .called call _ run
  | found alive begun comes =>
      exact .trans (.called call _ run) (.trans (.returned (found _) _ _ _)
        (.of_journal_eq (Run.holding_journal _ _)))

theorem Polled.wrote {session : String} {filters : List TokenInfo} {deadline : Millis}
    {result : Except Halt (Option ListTokensResponse)}
    (h : Polled world session filters deadline run result after) (call : P (.findTokens filters))
    (found : ∀ result, P (.found result)) : Run.Wrote P run after := by
  induction h with
  | halted step => exact step.wrote call found
  | stopped step => exact step.wrote call found
  | failed step => exact step.wrote call found
  | matched step hit => exact step.wrote call found
  | late step miss lapsed => exact step.wrote call found
  | fired step miss early first => exact .trans (step.wrote call found) (.of_journal_eq rfl)
  | again step miss early rest ih =>
      exact .trans (.trans (step.wrote call found) (.of_journal_eq rfl)) ih

theorem Worked.wrote {budget : Millis} {begun : Event} {done : CardOutcome α → Event}
    {operation : Millis → σ → Call σ (CardOutcome α)} {result : Work α}
    (h : Worked world budget begun done operation run result after) (call : P begun)
    (ended : ∀ outcome, P (done outcome)) : Run.Wrote P run after := by
  cases h with
  | done starts first comes =>
      exact .trans (.called call _ run) (.returned (ended _) _ _ _)
  | stopped starts first => exact .dropped call _ _ run
  | timedOut starts first => exact .dropped call _ _ run

theorem Asked.wrote {ρ : Type} {pins : PinPolicy} {encrypted : Option String} {budget : Millis}
    {refused : ResultCode → ρ} {granted : α → ρ} {begun : Option Pin → Event}
    {done : CardOutcome α → Event} {operation : Option Pin → Millis → σ → Call σ (CardOutcome α)}
    {reply : Option ρ}
    (h : Asked world pins encrypted budget refused granted begun done operation run reply after)
    (call : ∀ pin, pins.unwrap encrypted = .ok pin → P (begun pin))
    (ended : ∀ outcome, P (done outcome)) : Run.Wrote P run after := by
  cases h with
  | fired lapsed => exact .refl run
  | spent alive spent => exact .refl run
  | unusable alive unspent unwrapped => exact .refl run
  | worked alive unspent unwrapped step => exact step.wrote (call _ unwrapped) ended

end Writing

/-- A reply to a request under a PIN is either of the two that the request provides for. -/
theorem Asked.replies {ρ : Type} {world : World σ} {run after : Run σ} {pins : PinPolicy}
    {encrypted : Option String} {budget : Millis} {refused : ResultCode → ρ} {granted : α → ρ}
    {begun : Option Pin → Event} {done : CardOutcome α → Event}
    {operation : Option Pin → Millis → σ → Call σ (CardOutcome α)} {reply : ρ}
    (h : Asked world pins encrypted budget refused granted begun done operation run (some reply) after) :
    (∃ code, reply = refused code) ∨ ∃ value, reply = granted value := by
  generalize settled : some reply = replied at h
  cases h with
  | fired lapsed => cases settled
  | spent alive spent => exact .inl ⟨_, Option.some.inj settled⟩
  | unusable alive unspent unwrapped => exact .inl ⟨_, Option.some.inj settled⟩
  | worked alive unspent unwrapped step =>
      rename_i result
      cases result with
      | done outcome =>
          cases outcome with
          | value value => exact .inr ⟨value, Option.some.inj settled⟩
          | fault fault => exact .inl ⟨_, Option.some.inj settled⟩
          | crash => exact .inl ⟨_, Option.some.inj settled⟩
      | timedOut => exact .inl ⟨_, Option.some.inj settled⟩
      | stopped => cases settled

theorem Polled.replies {world : World σ} {run after : Run σ} {session : String}
    {filters : List TokenInfo} {deadline : Millis} {result : Except Halt (Option ListTokensResponse)}
    (h : Polled world session filters deadline run result after) :
    ∀ response, result = .ok (some response) → response.session = session := by
  induction h with
  | halted step => intro response same; cases same
  | stopped step => intro response same; cases same
  | failed step => intro response same; cases same; rfl
  | matched step hit => intro response same; cases same; rfl
  | late step miss lapsed => intro response same; cases same; rfl
  | fired step miss early first => intro response same; cases same
  | again step miss early rest ih => exact ih

theorem Polled.endless {world : World σ} {run after : Run σ} {session : String}
    {filters : List TokenInfo} {deadline : Millis} {result : Except Halt (Option ListTokensResponse)}
    (h : Polled world session filters deadline run result after) :
    ∀ reason, result = .error reason → reason = .endless := by
  induction h with
  | halted step => intro reason same; cases same; cases step; rfl
  | stopped step => intro reason same; cases same
  | failed step => intro reason same; cases same
  | matched step hit => intro reason same; cases same
  | late step miss lapsed => intro reason same; cases same
  | fired step miss early first => intro reason same; cases same
  | again step miss early rest ih => exact ih

inductive Handled (world : World σ) (setup : Setup) (run : Run σ) :
    Command → Except Halt (Terminate ⊕ Option Reply) → Run σ → Prop where
  | terminate (message : Terminate) :
      Handled world setup run (.terminate message) (.ok (.inl message)) run
  | endless {request : ListTokensRequest} {after : Run σ}
      (step : Polled world setup.session.id request.filters
        (run.now + Wait.budget request.maxWait) run (.error .endless) after) :
      Handled world setup run (.listTokens request) (.error .endless) after
  | listTokens {request : ListTokensRequest} {reply : Option ListTokensResponse} {after : Run σ}
      (step : Polled world setup.session.id request.filters
        (run.now + Wait.budget request.maxWait) run (.ok reply) after) :
      Handled world setup run (.listTokens request) (.ok (.inr (reply.map .listTokens))) after
  | listCertificates {request : ListCertificatesRequest} {reply : Option ListCertificatesResponse}
      {after : Run σ}
      (step : Asked world setup.pins request.pin (Wait.budget request.maxWait)
        (fun code => ⟨setup.session.id, code, []⟩) (fun infos => ⟨setup.session.id, .ok, infos⟩)
        (fun pin => .listCertificates request.slot request.filters pin) .listed
        (fun pin now => world.listCertificates now request.slot request.filters pin) run reply after) :
      Handled world setup run (.listCertificates request)
        (.ok (.inr (reply.map .listCertificates))) after
  | sign {request : SignRequest} {reply : Option SignResponse} {after : Run σ}
      (step : Asked world setup.pins request.pin (Wait.budget request.maxWait)
        (fun code => ⟨setup.session.id, code, none⟩)
        (fun signature => ⟨setup.session.id, .ok, some signature⟩)
        (fun pin => .sign request.slot request.didName pin request.message) .signed
        (fun pin now => world.sign now request.slot request.didName pin request.message)
        run reply after) :
      Handled world setup run (.sign request) (.ok (.inr (reply.map .sign))) after

theorem handled (world : World σ) (setup : Setup) (command : Command) (run : Run σ) :
    Handled world setup run command (handle world setup command run).1
      (handle world setup command run).2 := by
  cases command with
  | terminate message => exact .terminate message
  | listTokens request =>
      have step := polled world setup.session.id request.filters
        (run.now + Wait.budget request.maxWait) run
      simp only [handle, bind_apply, listTokens]
      generalize poll world setup.session.id request.filters
        (run.now + Wait.budget request.maxWait) run = polled at step ⊢
      obtain ⟨reason | reply, after⟩ := polled
      · obtain rfl := step.endless reason rfl
        exact .endless step
      · exact .listTokens step
  | listCertificates request =>
      obtain ⟨reply, after, done, step⟩ := asked world setup.pins request.pin
        (Wait.budget request.maxWait) (fun code => ⟨setup.session.id, code, []⟩)
        (fun infos => (⟨setup.session.id, .ok, infos⟩ : ListCertificatesResponse))
        (fun pin => .listCertificates request.slot request.filters pin) .listed
        (fun pin now => world.listCertificates now request.slot request.filters pin) run
      simp only [handle, bind_apply, listCertificates, done]
      exact .listCertificates step
  | sign request =>
      obtain ⟨reply, after, done, step⟩ := asked world setup.pins request.pin
        (Wait.budget request.maxWait) (fun code => ⟨setup.session.id, code, none⟩)
        (fun signature => (⟨setup.session.id, .ok, some signature⟩ : SignResponse))
        (fun pin => .sign request.slot request.didName pin request.message) .signed
        (fun pin now => world.sign now request.slot request.didName pin request.message) run
      simp only [handle, bind_apply, sign, done]
      exact .sign step

theorem handled_of_eq {world : World σ} {setup : Setup} {command : Command} {run after : Run σ}
    {result : Except Halt (Terminate ⊕ Option Reply)}
    (h : handle world setup command run = (result, after)) :
    Handled world setup run command result after := by
  have step := handled world setup command run
  rwa [h] at step

namespace Handled

variable {world : World σ} {setup : Setup} {command : Command} {run after : Run σ}
  {result : Except Halt (Terminate ⊕ Option Reply)}

theorem wrote (h : Handled world setup run command result after) :
    Run.Wrote (Handles setup command) run after := by
  cases h with
  | terminate message => exact .refl run
  | endless step => exact step.wrote (.findTokens _) (.found _)
  | listTokens step => exact step.wrote (.findTokens _) (.found _)
  | listCertificates step =>
      exact step.wrote (fun _ unwrapped => .listCertificates _ unwrapped) (.listed _)
  | sign step => exact step.wrote (fun _ unwrapped => .sign _ unwrapped) (.signed _)

theorem sent_eq (h : Handled world setup run command result after) :
    sent after.events = sent run.events :=
  h.wrote.sent_eq fun _ => Handles.posted?_eq_none

theorem dispatches_eq (h : Handled world setup run command result after) :
    dispatches after.events = dispatches run.events :=
  h.wrote.dispatches_eq fun _ => Handles.isDispatch_eq_false

theorem answers {reply : Reply} (h : Handled world setup run command (.ok (.inr (some reply))) after) :
    reply.Answers command ∧ reply.session = setup.session.id := by
  generalize told : Except.ok (Sum.inr (some reply)) = result at h
  cases h with
  | terminate message => cases told
  | endless step => cases told
  | listTokens step =>
      obtain ⟨response, rfl, rfl⟩ := Option.map_eq_some_iff.mp (Sum.inr.inj (Except.ok.inj told)).symm
      exact ⟨.listTokens _ _, step.replies response rfl⟩
  | listCertificates step =>
      obtain ⟨response, rfl, rfl⟩ := Option.map_eq_some_iff.mp (Sum.inr.inj (Except.ok.inj told)).symm
      refine ⟨.listCertificates _ _, ?_⟩
      rcases step.replies with ⟨code, rfl⟩ | ⟨value, rfl⟩ <;> rfl
  | sign step =>
      obtain ⟨response, rfl, rfl⟩ := Option.map_eq_some_iff.mp (Sum.inr.inj (Except.ok.inj told)).symm
      refine ⟨.sign _ _, ?_⟩
      rcases step.replies with ⟨code, rfl⟩ | ⟨value, rfl⟩ <;> rfl

theorem eq_endless {reason : Halt} (h : Handled world setup run command (.error reason) after) :
    reason = .endless := by
  cases h with
  | endless step => rfl

theorem eq_terminate {message : Terminate}
    (h : Handled world setup run command (.ok (.inl message)) after) :
    command = .terminate message ∧ after = run := by
  cases h with
  | terminate message => exact ⟨rfl, rfl⟩

end Handled

end Act

end CardGateway
