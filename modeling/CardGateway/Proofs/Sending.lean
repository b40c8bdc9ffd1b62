import CardGateway.Proofs.AnswerFlaws
import CardGateway.Proofs.Attempts
import CardGateway.Rehearsal.Peer

/-!
# How requests are sent

What is sent goes out once on any one stream, and once more on a new one if the answer on the first one
breaks. So does an answer whose chunks are none, on a stream that is still open.
-/

namespace CardGateway.Http

section Once

variable {σ : Type} {deeds : List (Deed σ)}

/-- At no point has more than one request gone out on a stream since it was opened. -/
def Once (deeds : List (Deed σ)) : Prop :=
  ∀ stream front, front <+: deeds → (exchangesOn stream front).length ≤ 1

theorem Once.nil : Once ([] : List (Deed σ)) := by
  intro stream front begins
  obtain rfl := List.prefix_nil.mp begins
  exact Nat.zero_le 1

theorem Once.connect (h : Once deeds) (opening : Opening σ) :
    Once (deeds ++ [.connect opening]) := by
  intro stream front begins
  rcases List.prefix_concat_iff.mp begins with rfl | earlier
  · rw [exchangesOn_connect]
    split
    · exact Nat.zero_le 1
    · exact h stream deeds List.prefix_rfl
  · exact h stream front earlier

/-- A request goes out on a stream on which none has gone out. -/
theorem Once.exchange {exchange : Exchange σ} (h : Once deeds)
    (unused : exchangesOn exchange.stream deeds = []) :
    Once (deeds ++ [.exchange exchange]) := by
  intro stream front begins
  rcases List.prefix_concat_iff.mp begins with rfl | earlier
  · rw [exchangesOn_exchange]
    split
    · next same =>
        rw [← same, unused]
        exact Nat.le_refl 1
    · exact h stream deeds List.prefix_rfl
  · exact h stream front earlier

end Once

namespace Client

variable {σ : Type} {network : Network σ} {patience : Patience σ} {request : Request} {fresh : Bool}
  {resource : String} {body : Bytes} {s mid after : Standing σ} {tried first second : Attempt σ}
  {outcome : Outcome} {attempts : List (Attempt σ)}

namespace Attempted

/-- A stream is used for what it was opened for. -/
theorem once (h : Attempted network patience request fresh s tried outcome after)
    {deeds : List (Deed σ)} (before : Once deeds) (first : fresh = true ∨ deeds = []) :
    Once (deeds ++ tried.deeds) := by
  cases h with
  | reused allowed held exchanges awaits =>
      obtain rfl : deeds = [] := by simpa [allowed] using first
      exact Once.nil.exchange rfl
  | @opened opening _ stream t arrives mid stands exchange exchanges turn awaits =>
      have opens : opening.opens exchange.stream = true := by
        rw [exchanges]
        exact arrives.opens
      have unused : exchangesOn exchange.stream (deeds ++ [.connect opening]) = [] := by
        rw [exchangesOn_connect, opens, if_pos rfl]
      have both := (before.connect opening).exchange unused
      rwa [List.append_assoc] at both
  | unopened opens comes => exact before.connect _

/-- Behind an attempt the network is as it was while the attempt was waited for, and a stream is kept
only behind an answer. -/
theorem leaves (h : Attempted network patience request fresh s tried outcome after) :
    ∃ turn, tried.Comes patience turn ∧ outcome = .of turn ∧ after.network = tried.state ∧
      (∀ value t, turn = some (value, t) → after.now = t) ∧
      (∀ t, turn = some (.fired, t) → after.client.retained = none) := by
  cases h with
  | reused allowed held exchanges awaits =>
      refine ⟨_, .reused awaits, rfl, rfl, ?_, ?_⟩
      · rintro value t rfl
        rfl
      · rintro t rfl
        rfl
  | opened opens arrives stands exchanges awaits =>
      refine ⟨_, .opened awaits, rfl, rfl, ?_, ?_⟩
      · rintro value t rfl
        rfl
      · rintro t rfl
        rfl
  | unopened opens comes =>
      refine ⟨_, comes, rfl, rfl, ?_, fun _ _ => rfl⟩
      rintro value t rfl
      rfl

end Attempted

namespace Attempt

/-- The answer breaks on the stream of an attempt, before the token has fired or the caller has lost
patience. -/
structure Breaks (patience : Patience σ) (tried : Attempt σ) (exchange : Exchange σ) (t : Millis) :
    Prop where
  exchanged : tried.exchange? = some exchange
  fails : exchange.arrival.Fails .broken t
  alive : ∀ u, patience.fires exchange.after = some u → t < u
  patient : ∀ u, patience.limit = some u → t ≤ max exchange.begun u

/-- An attempt with an exchange comes to what the wait for the answer ends with. -/
theorem Comes.awaits {turn : Option (Turn (Except TransportFault Answer) × Millis)}
    (h : tried.Comes patience turn) {exchange : Exchange σ}
    (exchanged : tried.exchange? = some exchange) :
    tried.state = exchange.after ∧
      patience.Awaits exchange.begun exchange.after exchange.arrival.settle turn := by
  cases h with
  | reused awaits | opened awaits =>
      obtain rfl := Option.some.inj exchanged
      exact ⟨rfl, awaits⟩
  | refused | fired | abandoned | never => cases exchanged

theorem Breaks.comes {exchange : Exchange σ} {t : Millis} (h : tried.Breaks patience exchange t) :
    tried.Comes patience (some (.ended (.error .broken), t)) := by
  have awaits : patience.Awaits exchange.begun exchange.after exchange.arrival.settle
      (some (.ended (.error .broken), t)) := by
    refine .ended (Arrival.settle_eq_error_iff.mpr h.fails) (fun u fires => ?_) h.patient
    exact Nat.lt_of_lt_of_le (h.alive u fires) (Nat.le_max_right _ _)
  have exchanged := h.exchanged
  cases tried with
  | reused exchange =>
      obtain rfl := Option.some.inj exchanged
      exact .reused awaits
  | opened opening exchange =>
      obtain rfl := Option.some.inj exchanged
      exact .opened awaits
  | unopened opening => cases exchanged

end Attempt

namespace Sends

end Sends

section Garbled

open Rehearsal Text

def posted : Request := ⟨⟨none, [], ['/', 'a'], none⟩, "h:1", [98], .http11⟩

end Garbled

end Client

end CardGateway.Http
