import CardGateway.Proofs.Coupling

/-!
# Runs with another past

Nothing that a run does depends on what is written already: with other entries in front of its journal
it goes on in the same way. Neither does a conversation know how closing and releasing will fare.
-/

namespace CardGateway

def Run.behind {σ : Type} (past : List Entry) (run : Run σ) : Run σ :=
  { run with journal := past ++ run.journal }

namespace Coupling

variable {σ α : Type}

/-- A run, and the same run with more entries in front of its journal. -/
def behind (past : List Entry) : Coupling σ σ where
  states := Eq
  journals journal other := other = past ++ journal
  answers _ := Eq
  commands := Eq
  noted entry same := by rw [same, List.append_assoc]
  answered time same alike := by rw [same, alike.eq, List.append_assoc]
  unnamed same := by rw [same]

variable {past : List Entry}

theorem couples_behind (run : Run σ) : (behind past).Couples run (run.behind past) :=
  ⟨rfl, rfl, rfl, rfl, rfl, rfl⟩

theorem Couples.eq_behind {run other : Run σ} (h : (behind past).Couples run other) :
    other = run.behind past := by
  obtain ⟨now, world, phase, connected, notices, journal⟩ := run
  obtain ⟨now', world', phase', connected', notices', journal'⟩ := other
  obtain ⟨rfl, rfl, rfl, rfl, rfl, rfl⟩ := h
  rfl

theorem Ties.eq_behind {P : α → α → Prop} {act other : Act σ α} (h : (behind past).Ties P act other)
    (same : ∀ value twin, P value twin → value = twin) (run : Run σ) :
    other (run.behind past) = ((act run).1, (act run).2.behind past) := by
  obtain ⟨alike, coupled⟩ := h run (run.behind past) (couples_behind run)
  exact Prod.ext (alike.mono same).eq.symm coupled.eq_behind

theorem messages_behind {message other : Terminate}
    (h : (behind past : Coupling σ σ).Messages message other) : message = other :=
  Command.terminate.inj h

theorem behind_reads [Url.HostMapping] {setup : Setup} :
    (behind past : Coupling σ σ).Reads setup where
  hello same := by
    rw [same]
    refine .refl ?_ _
    exact fun _ => rfl
  command _ same := by
    rw [same]
    refine .refl ?_ _
    exact fun _ => rfl

/-- What is said and done in a conversation does not depend on how its connection will be closed, and
its slots released. -/
theorem behind_talks (world : World σ) (close : Millis → σ → Call σ Bool)
    (disconnect : Millis → SlotHandle → σ → σ) :
    (behind past).Talks world { world with close, disconnect } := by
  have alike {α : Type} {P : α → α → Prop} (values : ∀ value, P value value) {call other : Call σ α}
      (same : call = other) : Call.Alike Eq P call other := by
    rw [same]
    exact .refl (fun _ => rfl) values other
  constructor
  case fires => exact fun same => congrArg world.fires same
  case precedence => exact fun now _ _ same => congrArg (world.precedence now) same
  case send =>
    intro now guarded resource body state twin same
    exact alike (Alike.refl fun _ => rfl) (congrArg (world.send now guarded resource body) same)
  case findTokens =>
    intro now filters state twin same
    exact alike (fun _ => rfl) (congrArg (world.findTokens now filters) same)
  case listCertificates =>
    intro now slot filters pin state twin same
    exact alike (fun _ => rfl) (congrArg (world.listCertificates now slot filters pin) same)
  case sign =>
    intro now slot didName pin message state twin same
    exact alike (fun _ => rfl) (congrArg (world.sign now slot didName pin message) same)

end Coupling

namespace Act

variable {σ α : Type}

/-- An action that comes to the same whatever is written in front. -/
def Heedless (act : Act σ α) : Prop :=
  ∀ past run, act (run.behind past) = ((act run).1, (act run).2.behind past)

theorem heedless_serve [Url.HostMapping] (world : World σ) (setup : Setup) (bound : Nat)
    (command : Command) :
    Heedless (serve world setup bound command) := by
  intro past run
  have talks : (Coupling.behind past).Talks world world :=
    Coupling.behind_talks world world.close world.disconnect
  exact (Coupling.ties_serve talks Coupling.behind_reads bound rfl).eq_behind
    (fun _ _ => Coupling.messages_behind) run

end Act

end CardGateway
