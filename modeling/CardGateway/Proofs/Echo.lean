import CardGateway.Proofs.Cleanup
import CardGateway.Proofs.Coupling
import CardGateway.Proofs.Dialogue

/-!
# Echoed data

The server echoes the challenge of the run in its answer to the hello, and names the session in that
answer and in its commands. Nothing of that steers a run: with other echoes it posts the same, asks the
same of the card and ends alike.
-/

namespace CardGateway

open CardGateway.Json

def HelloResponse.unechoed (response : HelloResponse) : HelloResponse :=
  { response with session := none, challenge := none }

/-- What a hello's answer echoes has no part in the judgement of it. -/
theorem Setup.judge_unechoed [Url.HostMapping] (setup : Setup) (response : HelloResponse) :
    setup.judge response.unechoed = setup.judge response := by
  have code : response.unechoed.result = response.result := rfl
  have authenticated : setup.authenticate response.unechoed = setup.authenticate response := by
    unfold authenticate
    rfl
  have offered : offered? response.unechoed = offered? response := rfl
  have weighed : setup.weighUpdate response.unechoed = setup.weighUpdate response := by
    rw [weighUpdate, weighUpdate, offered, code]
  rw [judge, judge, code, authenticated, weighed]

def Event.isAnswer : Event → Bool
  | .answer _ => true
  | _ => false

/-- What a run does, and when, without the answers of the server. -/
def unanswered (journal : List Entry) : List Entry :=
  journal.filter fun entry => !entry.event.isAnswer

theorem unanswered_append (journal other : List Entry) :
    unanswered (journal ++ other) = unanswered journal ++ unanswered other :=
  List.filter_append journal other

namespace Alike

variable {ε α β γ : Type}

/-- Results that are the same under a function are alike. -/
theorem of_map_eq {f : α → β} {result other : Except ε α} (same : result.map f = other.map f) :
    Alike (fun value twin => f value = f twin) result other := by
  cases result with
  | ok value =>
      cases other with
      | ok twin => exact .ok (Except.ok.inj same)
      | error reason => cases same
  | error reason =>
      cases other with
      | ok twin => cases same
      | error again =>
          obtain rfl := Except.error.inj same
          exact .error reason

end Alike

namespace Setup

variable {setup : Setup}

/-- Answers to a message for a resource that are read alike but for what the server echoes: in the answer
to the hello that is the challenge and the session, in a command it is the session. -/
def Echoes (setup : Setup) (resource : String) (answer other : Bytes) : Prop :=
  if resource = setup.session.resource .hello then
    (HelloResponse.codec.decode answer).map HelloResponse.unechoed =
      (HelloResponse.codec.decode other).map HelloResponse.unechoed
  else (Command.codec.decode answer).map Command.unnamed =
    (Command.codec.decode other).map Command.unnamed

theorem echoes_hello {answer other : Bytes} :
    setup.Echoes (setup.session.resource .hello) answer other ↔
      (HelloResponse.codec.decode answer).map HelloResponse.unechoed =
        (HelloResponse.codec.decode other).map HelloResponse.unechoed := by
  rw [Echoes, if_pos rfl]

theorem echoes_of_ne {resource : String} {answer other : Bytes}
    (apart : resource ≠ setup.session.resource .hello) :
    setup.Echoes resource answer other ↔ (Command.codec.decode answer).map Command.unnamed =
      (Command.codec.decode other).map Command.unnamed := by
  rw [Echoes, if_neg apart]

/-- Runs with answers that differ in nothing but echoes. All else that is written is the same in both. -/
def echoing {σ τ : Type} (setup : Setup) (belong : σ → τ → Prop) : Coupling σ τ where
  states := belong
  journals journal other := unanswered journal = unanswered other
  answers := setup.Echoes
  commands command other := command.unnamed = other.unnamed
  noted entry same := by rw [unanswered_append, unanswered_append, same]
  answered time same alike := by
    rw [unanswered_append, unanswered_append, same]
    rfl
  unnamed := id

theorem echoing_reads [Url.HostMapping] {σ τ : Type} (belong : σ → τ → Prop) :
    (setup.echoing belong).Reads setup where
  hello {answer twin} echoes := by
    refine (Alike.of_map_eq (echoes_hello.mp echoes)).mono ?_
    intro response other unechoed
    rw [← setup.judge_unechoed, unechoed, setup.judge_unechoed]
  command {endpoint answer twin} later echoes := by
    have apart : setup.session.resource endpoint ≠ setup.session.resource .hello :=
      fun same => later (setup.session.resource_injective same)
    exact .of_map_eq ((echoes_of_ne apart).mp echoes)

/-- Worlds with the same card, the same cancellation and the same transport, in which the server's
answers differ in nothing but echoes. -/
structure DiffersInEchoes {σ τ : Type} (setup : Setup) (belong : σ → τ → Prop) (world : World σ)
    (other : World τ) : Prop where
  talks : (setup.echoing belong).Talks world other
  cleans : (setup.echoing belong).Cleans world other

/-- The last answer that has come is the command to end the session. -/
def Dismissed (events : List Event) (message : Terminate) : Prop :=
  ∃ before answer after, events = before ++ .answer (.ok answer) :: after ∧
    (∀ event ∈ after, event.isTraffic = false) ∧
      Command.codec.decode answer = .ok (.terminate message)

/-- The message to which a run comes is the server's own. -/
theorem dismissed_of_finished [Url.HostMapping] {σ : Type} {world : World σ} {bound : Nat}
    {state : σ} {message : Terminate}
    (finished : (setup.run world bound state).1 = .finished (.ok message)) :
    Dismissed (setup.run world bound state).2.events message := by
  rcases conversing : Act.converse world setup bound (Run.fresh state) with ⟨result, mid⟩
  obtain ⟨ending, -⟩ := run_of_converse conversing
  obtain ⟨rfl, -⟩ := Ending.of_eq_finished (ending.symm.trans finished)
  obtain ⟨arrival, concludes⟩ := concludes_of_converse conversing
  obtain ⟨rest, events, quiet⟩ := concludes.events_eq
  obtain ⟨count, early, takesUp, alive⟩ := concludes
  obtain ⟨answer, last, meant⟩ := takesUp.2
  obtain ⟨before, arrived⟩ := List.getLast?_eq_some_iff.mp last
  refine ⟨before, answer, rest, ?_, quiet, meant⟩
  rw [events, arrived, List.append_assoc]
  rfl

/-- What the server echoes does not steer a run: with other echoes the same messages are posted, the card
is asked the same and answers the same, the same phases are entered and the user is told the same, all
at the same times. The runs end alike, and where they end with messages, each has its server's own. -/
theorem echoes_do_not_steer [Url.HostMapping] (setup : Setup) {σ τ : Type} {belong : σ → τ → Prop}
    {world : World σ} {other : World τ} (differ : setup.DiffersInEchoes belong world other)
    (state : σ) (twin : τ) (begins : belong state twin) (bound : Nat) :
    unanswered (setup.run world bound state).2.journal =
      unanswered (setup.run other bound twin).2.journal ∧
    Ending.Alike (fun message again => message.result = again.result)
      (setup.run world bound state).1 (setup.run other bound twin).1 ∧
    (∀ message, (setup.run world bound state).1 = .finished (.ok message) →
      Dismissed (setup.run world bound state).2.events message) ∧
    ∀ message, (setup.run other bound twin).1 = .finished (.ok message) →
      Dismissed (setup.run other bound twin).2.events message := by
  obtain ⟨alike, coupled⟩ :=
    Coupling.run_alike differ.talks differ.cleans (echoing_reads belong) rfl begins bound
  refine ⟨coupled.journal, alike.mono ?_, fun _ => dismissed_of_finished,
    fun _ => dismissed_of_finished⟩
  intro message again same
  obtain ⟨-, result⟩ := Terminate.mk.inj (Command.terminate.inj same)
  exact result

/-- A world in which a hello is answered at once, and all else with a command. -/
def answering (setup : Setup) (greeting command : Bytes) : World Unit :=
  { fires := fun _ => none
    send := fun _ _ resource _ _ => .atOnce ()
      (.ok (if resource = setup.session.resource .hello then greeting else command))
    close := fun _ _ => .atOnce () true
    findTokens := fun _ _ _ => .atOnce () (.ok ⟨[], []⟩)
    listCertificates := fun _ _ _ _ _ => .atOnce () (.value [])
    sign := fun _ _ _ _ _ _ => .atOnce () (.value [])
    clearPins := fun _ _ => ()
    disconnect := fun _ _ _ => ()
    present := fun _ _ _ => ()
    precedence := fun _ _ => [] }

/-- Answers that echo a session and a challenge, and the end of the session with its name. -/
def echoingAnswers : Bytes × Bytes :=
  (Text.Utf8.encode
      "\x7b\"SessionIdentifier\":\"other\",\"Result\":\"OK\",\"Challenge\":\"AAAA\"\x7d",
    Text.Utf8.encode "\x7b\"Terminate\":\x7b\"SessionIdentifier\":\"x\",\"Result\":\"OK\"\x7d\x7d")

def plainAnswers : Bytes × Bytes :=
  (World.accepting, Text.Utf8.encode "\x7b\"Terminate\":\x7b\"Result\":\"OK\"\x7d\x7d")

theorem answering_differs {greeting command greeting' command' : Bytes}
    (greetings : setup.Echoes (setup.session.resource .hello) greeting greeting')
    (commands : ∀ resource, resource ≠ setup.session.resource .hello →
      setup.Echoes resource command command') :
    setup.DiffersInEchoes (fun _ _ => True) (setup.answering greeting command)
      (setup.answering greeting' command') := by
  have atOnce {α β : Type} {P : α → β → Prop} {value : α} {twin : β} (same : P value twin) :
      Call.Alike (fun _ _ => True) P (.atOnce () value) (.atOnce () twin) :=
    ⟨trivial, .some ⟨rfl, same, trivial⟩, fun _ => trivial⟩
  constructor
  · constructor
    case fires => exact fun _ => rfl
    case precedence => exact fun _ _ _ _ => rfl
    case send =>
      intro now guarded resource body state twin belong
      refine atOnce (.ok ?_)
      by_cases hailed : resource = setup.session.resource .hello
      · rw [if_pos hailed, if_pos hailed, hailed]
        exact greetings
      · rw [if_neg hailed, if_neg hailed]
        exact commands resource hailed
    all_goals
      intros
      exact atOnce rfl
  · constructor
    case close => exact fun _ _ _ _ => atOnce rfl
    all_goals
      intros
      trivial

/-- A run that hears echoes and one that hears none come to different messages in the same way. -/
theorem echoes_heard_and_ignored :
    ∃ message other, message ≠ other ∧
      (plain.run (plain.answering echoingAnswers.1 echoingAnswers.2) 1 ()).1 =
        .finished (.ok message) ∧
      (plain.run (plain.answering plainAnswers.1 plainAnswers.2) 1 ()).1 = .finished (.ok other) ∧
      unanswered (plain.run (plain.answering echoingAnswers.1 echoingAnswers.2) 1 ()).2.journal =
        unanswered (plain.run (plain.answering plainAnswers.1 plainAnswers.2) 1 ()).2.journal := by
  have greetings : plain.Echoes (plain.session.resource .hello) echoingAnswers.1 plainAnswers.1 :=
    echoes_hello.mpr (by decide +kernel)
  have commands (resource : String) (apart : resource ≠ plain.session.resource .hello) :
      plain.Echoes resource echoingAnswers.2 plainAnswers.2 :=
    (echoes_of_ne apart).mpr (by decide +kernel)
  obtain ⟨same, -⟩ :=
    echoes_do_not_steer plain (answering_differs greetings commands) () () trivial 1
  have first : (plain.run (plain.answering echoingAnswers.1 echoingAnswers.2) 1 ()).1 =
      .finished (.ok ⟨some "x", .ok⟩) :=
    Ending.message?_eq_some_iff.mp (by decide +kernel)
  have second : (plain.run (plain.answering plainAnswers.1 plainAnswers.2) 1 ()).1 =
      .finished (.ok ⟨none, .ok⟩) :=
    Ending.message?_eq_some_iff.mp (by decide +kernel)
  exact ⟨_, _, by decide, first, second, same⟩

end Setup

end CardGateway
