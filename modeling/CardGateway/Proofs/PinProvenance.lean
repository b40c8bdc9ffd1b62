import CardGateway.Proofs.HelloGate
import CardGateway.Proofs.Past
import CardGateway.Proofs.RemotePin

/-!
# PINs on their way to the card

The card is asked for certificates and signatures only right behind the request for them, and under the
PIN that the request is granted. A request whose PIN is unusable is refused without the card, in words
that do not tell why: what comes of it is the same whichever of its PINs the server tried.
-/

namespace CardGateway

open CardGateway.Text

/-- A request that may come with a PIN. -/
inductive PinRequest where
  | listCertificates (request : ListCertificatesRequest)
  | sign (request : SignRequest)

namespace PinRequest

def command : PinRequest → Command
  | .listCertificates request => .listCertificates request
  | .sign request => .sign request

def pin : PinRequest → Option String
  | .listCertificates request => request.pin
  | .sign request => request.pin

def budget : PinRequest → Millis
  | .listCertificates request => Wait.budget request.maxWait
  | .sign request => Wait.budget request.maxWait

def call (pin : Option Pin) : PinRequest → Event
  | .listCertificates request => .listCertificates request.slot request.filters pin
  | .sign request => .sign request.slot request.didName pin request.message

def Data : PinRequest → Type
  | .listCertificates _ => List CertificateInfo
  | .sign _ => Bytes

def operation {σ : Type} (world : World σ) (pin : Option Pin) :
    (request : PinRequest) → Millis → σ → Call σ (CardOutcome request.Data)
  | .listCertificates request => fun now =>
      world.listCertificates now request.slot request.filters pin
  | .sign request => fun now => world.sign now request.slot request.didName pin request.message

def outcome : (request : PinRequest) → CardOutcome request.Data → Event
  | .listCertificates _ => .listed
  | .sign _ => .signed

/-- The reply with what the card gave. -/
def grant (session : String) : (request : PinRequest) → request.Data → Reply
  | .listCertificates _, infos => .listCertificates ⟨session, .ok, infos⟩
  | .sign _, signature => .sign ⟨session, .ok, some signature⟩

/-- The reply with a code and nothing else. -/
def refusal (session : String) (code : ResultCode) : PinRequest → Reply
  | .listCertificates _ => .listCertificates ⟨session, code, []⟩
  | .sign _ => .sign ⟨session, code, none⟩

def withPin (encrypted : Option String) : PinRequest → PinRequest
  | .listCertificates request => .listCertificates { request with pin := encrypted }
  | .sign request => .sign { request with pin := encrypted }

@[simp] theorem pin_withPin (encrypted : Option String) (request : PinRequest) :
    (request.withPin encrypted).pin = encrypted := by
  cases request <;> rfl

@[simp] theorem budget_withPin (encrypted : Option String) (request : PinRequest) :
    (request.withPin encrypted).budget = request.budget := by
  cases request <;> rfl

@[simp] theorem refusal_withPin (encrypted : Option String) (session : String) (code : ResultCode)
    (request : PinRequest) :
    (request.withPin encrypted).refusal session code = request.refusal session code := by
  cases request <;> rfl

end PinRequest

def Event.isPinned : Event → Bool
  | .listCertificates _ _ _ | .sign _ _ _ _ => true
  | _ => false

theorem Event.isPinned_eq_false {event : Event} (h : event.isCardCall = false) :
    event.isPinned = false := by
  cases event with
  | listCertificates slot filters pin => cases h
  | sign slot didName pin message => cases h
  | _ => rfl

theorem PinRequest.isPinned_outcome (request : PinRequest) (outcome : CardOutcome request.Data) :
    (request.outcome outcome).isPinned = false := by
  cases request <;> rfl

namespace Act

variable {σ α : Type} {world : World σ} {setup : Setup}

section Asking

variable {ρ : Type} {pins : PinPolicy} {encrypted : Option String} {budget : Millis}
  {refused : ResultCode → ρ} {granted : α → ρ} {begun : Option Pin → Event}
  {done : CardOutcome α → Event} {operation : Option Pin → Millis → σ → Call σ (CardOutcome α)}
  {run after : Run σ} {reply : Option ρ}

/-- Work under an unusable PIN is not begun. -/
theorem Asked.of_unusable
    (h : Asked world pins encrypted budget refused granted begun done operation run reply after)
    {fault : RemotePin.Fault} (failed : pins.unwrap encrypted = .error fault) :
    after = run ∧ reply = if world.hasFired run.now run.world then none
      else some (refused
        (if world.isSpent budget run.now run.world then .timeout else .incorrectParameter)) := by
  cases h with
  | fired lapsed => simp [lapsed]
  | spent alive spent => simp [alive, spent]
  | unusable alive unspent unwrapped => simp [alive, unspent]
  | worked alive unspent unwrapped step =>
      rw [failed] at unwrapped
      cases unwrapped

/-- Work under a PIN asks the card first, with the PIN that is granted, or does not ask it at all. -/
theorem Asked.begins
    (h : Asked world pins encrypted budget refused granted begun done operation run reply after) :
    after = run ∨ ∃ pin mid, world.hasFired run.now run.world = false ∧
      world.isSpent budget run.now run.world = false ∧ pins.Grants encrypted pin ∧
      Run.events mid = run.events ++ [begun pin] ∧
        Run.Wrote (fun event => ∃ outcome, event = done outcome) mid after := by
  cases h with
  | fired lapsed => exact .inl rfl
  | spent alive spent => exact .inl rfl
  | unusable alive unspent unwrapped => exact .inl rfl
  | worked alive unspent unwrapped step =>
      obtain ⟨mid, events, wrote⟩ := step.begins
      exact .inr ⟨_, mid, alive, unspent, .of_unwrap unwrapped, events, wrote⟩

end Asking

/-- A request that may come with a PIN is handled as work under that PIN, whatever its kind. -/
theorem Handled.asked {request : PinRequest} {run after : Run σ}
    {result : Except Halt (Terminate ⊕ Option Reply)}
    (h : Handled world setup run request.command result after) :
    ∃ reply, result = .ok (.inr reply) ∧
      Asked world setup.pins request.pin request.budget
        (fun code => request.refusal setup.session.id code) (request.grant setup.session.id)
        (fun pin => request.call pin) request.outcome
        (fun pin => request.operation world pin) run reply after := by
  cases request with
  | listCertificates request =>
      cases h with
      | listCertificates step => exact ⟨_, rfl, step.map Reply.listCertificates⟩
  | sign request =>
      cases h with
      | sign step => exact ⟨_, rfl, step.map Reply.sign⟩

/-- A request whose PIN is unusable leaves the run as it is, and the reply to it depends on nothing
but the request's kind and budget, and on the run. -/
theorem handle_unusable {request : PinRequest} {text : String} (sent : request.pin = some text)
    (unusable : setup.pins.Unusable text) (run : Run σ) :
    handle world setup request.command run =
      (.ok (.inr (if world.hasFired run.now run.world then none
        else some (request.refusal setup.session.id
          (if world.isSpent request.budget run.now run.world then .timeout
            else .incorrectParameter)))), run) := by
  obtain ⟨fault, failed⟩ := PinPolicy.unwrap_eq_error_iff.mpr unusable
  rw [← sent] at failed
  rcases handling : handle world setup request.command run with ⟨result, after⟩
  obtain ⟨reply, rfl, step⟩ := (handled_of_eq handling).asked
  obtain ⟨rfl, rfl⟩ := step.of_unusable failed
  rfl

theorem serve_congr [Url.HostMapping] {command other : Command}
    (same : ∀ run, handle world setup command run = handle world setup other run) (bound : Nat)
    (run : Run σ) : serve world setup bound command run = serve world setup bound other run := by
  cases bound with
  | zero => rfl
  | succ bound =>
      have handling : handle world setup command = handle world setup other := funext same
      simp only [serve, handling]

/-- Such a request is handled without the card, or the card is asked first, and nothing else of it. -/
theorem Handled.begins_pinned (request : PinRequest) {run after : Run σ}
    {result : Except Halt (Terminate ⊕ Option Reply)}
    (h : Handled world setup run request.command result after) :
    Run.Wrote (fun event => event.isPinned = false) run after ∨
      ∃ pin mid, world.hasFired run.now run.world = false ∧
        world.isSpent request.budget run.now run.world = false ∧
        setup.pins.Grants request.pin pin ∧ Run.events mid = run.events ++ [request.call pin] ∧
          Run.Wrote (fun event => event.isPinned = false) mid after := by
  obtain ⟨reply, -, step⟩ := h.asked
  rcases step.begins with rfl | ⟨pin, mid, alive, unspent, granted, events, wrote⟩
  · exact .inl (.refl _)
  · refine .inr ⟨pin, mid, alive, unspent, granted, events, wrote.mono ?_⟩
    rintro _ ⟨outcome, rfl⟩
    exact request.isPinned_outcome outcome

/-- A command is handled without a request to the card that may need a PIN, or such a request is the
first thing that happens. -/
theorem Handled.begins {command : Command} {run after : Run σ}
    {result : Except Halt (Terminate ⊕ Option Reply)}
    (h : Handled world setup run command result after) :
    Run.Wrote (fun event => event.isPinned = false) run after ∨
      ∃ request pin mid, command = PinRequest.command request ∧
        world.hasFired run.now run.world = false ∧
        world.isSpent request.budget run.now run.world = false ∧
        setup.pins.Grants request.pin pin ∧ Run.events mid = run.events ++ [request.call pin] ∧
          Run.Wrote (fun event => event.isPinned = false) mid after := by
  cases command with
  | terminate message =>
      cases h with
      | terminate => exact .inl (.refl run)
  | listTokens request =>
      cases h with
      | endless step | listTokens step => exact .inl (step.wrote rfl fun _ => rfl)
  | listCertificates request =>
      refine (begins_pinned (.listCertificates request) h).imp_right ?_
      exact fun ⟨pin, mid, begun⟩ => ⟨_, pin, mid, rfl, begun⟩
  | sign request =>
      refine (begins_pinned (.sign request) h).imp_right ?_
      exact fun ⟨pin, mid, begun⟩ => ⟨_, pin, mid, rfl, begun⟩

end Act

namespace Setup

section Accounting

variable [Url.HostMapping] {σ : Type} {setup : Setup} {world : World σ} {state : σ}

/-- What the card is asked right behind the request for it, under the PIN that the request is
granted. -/
inductive Calls (setup : Setup) (world : World σ) (state : σ) : List Event → Event → Prop where
  | intro {count : Nat} {request : PinRequest} {arrival : Run σ} {pin : Option Pin}
      (takesUp : setup.TakesUp world state count request.command arrival)
      (alive : world.hasFired arrival.now arrival.world = false)
      (unspent : world.isSpent request.budget arrival.now arrival.world = false)
      (granted : setup.pins.Grants request.pin pin) :
      Calls setup world state (arrival.entered .dispatching).events (request.call pin)

/-- Whatever the card is asked that may need a PIN, is asked so. -/
def Accounts (setup : Setup) (world : World σ) (state : σ) (events : List Event) : Prop :=
  ∀ before event after, events = before ++ event :: after → event.isPinned = true →
    setup.Calls world state before event

theorem Accounts.wrote {run after : Run σ} (h : setup.Accounts world state run.events)
    (wrote : Run.Wrote (fun event => event.isPinned = false) run after) :
    setup.Accounts world state after.events := by
  intro before event rest split pinned
  obtain ⟨written, events, kind⟩ := wrote.events
  rw [events] at split
  rcases split_append split with ⟨others, inside⟩ | ⟨more, _, within⟩
  · exact h before event others inside pinned
  · have harmless := kind event (by rw [within]; simp)
    rw [harmless] at pinned
    cases pinned

theorem Accounts.asked {run mid : Run σ} {event : Event}
    (h : setup.Accounts world state run.events) (called : setup.Calls world state run.events event)
    (events : mid.events = run.events ++ [event]) : setup.Accounts world state mid.events := by
  intro before other rest split pinned
  rw [events] at split
  rcases split_append split with ⟨others, inside⟩ | ⟨more, rfl, last⟩
  · exact h before other others inside pinned
  · cases more with
    | nil =>
        obtain rfl : event = other := (List.cons.inj last).1
        rwa [List.append_nil]
    | cons first others => simp at last

theorem accounts_preserved : setup.Preserves world state fun run =>
    setup.Accounts world state run.events where
  fresh := by
    intro before event after split pinned
    simp at split
  entered phase h := h.wrote (.entered _ rfl)
  informed notices h := h
  stopped h := h.wrote (Run.stopped_wrote (P := fun event => event.isPinned = false) rfl
    (fun _ => rfl) (fun _ => rfl) _)
  exchanged _ h exchange := h.wrote (exchange.wrote.mono fun _ kind =>
    Event.isPinned_eq_false kind.isCardCall_eq_false)
  handled takesUp h handling := by
    rcases (Act.handled_of_eq handling).begins with
      wrote | ⟨request, pin, mid, rfl, alive, unspent, granted, events, wrote⟩
    · exact h.wrote wrote
    · exact (h.asked (.intro takesUp alive unspent granted) events).wrote wrote

theorem accounts_run (setup : Setup) (world : World σ) (bound : Nat) (state : σ) :
    setup.Accounts world state (setup.run world bound state).2.events := by
  obtain ⟨result, mid, _, conversed, _, cleaning⟩ := exists_conversed setup world bound state
  exact (accounts_preserved.conversed conversed).wrote (cleaning.mono fun _ kind =>
    Event.isPinned_eq_false kind.isCardCall_eq_false)

end Accounting

/-- A request is answered without the card: with a code that tells only whether the end of its budget
came before it, or not at all if the run is stopped. -/
def Refuses {σ : Type} (setup : Setup) (world : World σ) (request : PinRequest) : Prop :=
  ∀ run : Run σ, Act.handle world setup request.command run =
    (.ok (.inr (if world.hasFired run.now run.world then none
      else some (request.refusal setup.session.id
        (if world.isSpent request.budget run.now run.world then .timeout
          else .incorrectParameter)))), run)

/-- Behind either command a run goes on alike, whatever was written before. -/
def TreatsAlike [Url.HostMapping] {σ : Type} (setup : Setup) (world : World σ)
    (command other : Command) : Prop :=
  ∀ bound (run : Run σ) past others, ∃ result, ∃ after : Run σ,
    Act.serve world setup bound command (run.behind past) = (result, after.behind past) ∧
      Act.serve world setup bound other (run.behind others) = (result, after.behind others)

def listing : Bytes :=
  Utf8.encode "\x7b\"ListCertificatesRequest\":\x7b\"SlotHandle\":\"00\"\x7d\x7d"

/-- A plain session in which PINs may be sent, but without a key for them. -/
def keyless : Setup := { plain with config := { plain.config with remotePinAllowed := true } }

/-- The key for PINs is the one that the session's token carries. The card is asked for certificates and
signatures only as a request asks that was just taken up, and under the PIN that is granted to that
request. A request with an unusable PIN is refused without the card, as an incorrect one unless it
comes without any time, and what makes its PIN unusable changes nothing about the run. -/
theorem card_called_only_with_granted_pin [Url.HostMapping] {σ : Type} (setup : Setup)
    (world : World σ) :
    (∀ token, Session.ofToken token = .ok setup.session → ∀ key,
      setup.session.pinKey = some key ↔ token.Carries key) ∧
    (∀ bound state, setup.Accounts world state (setup.run world bound state).2.events) ∧
    (∀ (request : PinRequest) text, request.pin = some text → setup.pins.Unusable text →
      setup.Refuses world request) ∧
    (∀ (request : PinRequest) now state, world.isSpent request.budget now state = true →
      request.budget = 0) ∧
    ∀ (request : PinRequest) first second, setup.pins.Unusable first →
      setup.pins.Unusable second → setup.TreatsAlike world (request.withPin (some first)).command
        (request.withPin (some second)).command := by
  refine ⟨?_, ?_, ?_, ?_, ?_⟩
  · intro token made key
    exact Session.pinKey_of_ofToken made key
  · intro bound state
    exact accounts_run setup world bound state
  · intro request text sent unusable run
    exact Act.handle_unusable sent unusable run
  · intro request now state spent
    exact World.budget_eq_zero_of_isSpent spent
  · intro request first second unusable other bound run past others
    have same (run : Run σ) :
        Act.handle world setup (request.withPin (some first)).command run =
          Act.handle world setup (request.withPin (some second)).command run := by
      rw [Act.handle_unusable (PinRequest.pin_withPin _ _) unusable,
        Act.handle_unusable (PinRequest.pin_withPin _ _) other]
      simp only [PinRequest.refusal_withPin, PinRequest.budget_withPin]
    refine ⟨_, _, Act.heedless_serve world setup bound _ past run, ?_⟩
    rw [Act.heedless_serve world setup bound _ others run, Act.serve_congr same]

/-- Certificates are listed as a request without a PIN asks, and a PIN that no key opens is refused. -/
theorem certificates_listed_and_pin_refused :
    (∃ before event, event.isPinned = true ∧
      keyless.Calls (.scripted none) [World.accepting, listing] before event) ∧
    keyless.Refuses (.scripted none) (.sign ⟨none, ⟨[0]⟩, "", some "x", [], none⟩) := by
  obtain ⟨_, accounted, refused, _⟩ := card_called_only_with_granted_pin keyless (.scripted none)
  constructor
  · have asked : (keyless.run (.scripted none) 1 [World.accepting, listing]).2.events.any
        Event.isPinned = true := by
      decide +kernel
    obtain ⟨event, member, pinned⟩ := List.any_eq_true.mp asked
    obtain ⟨before, after, split⟩ := List.append_of_mem member
    exact ⟨before, event, pinned, accounted 1 _ before event after split pinned⟩
  · exact refused _ "x" rfl ⟨rfl, fun _ _ held => nomatch held⟩

end Setup

end CardGateway
