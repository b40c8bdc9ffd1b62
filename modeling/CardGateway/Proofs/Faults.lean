/-!
# Readers that may fail

A reader of several steps gives a value exactly if each step gives what the next one takes up.
-/

namespace CardGateway

variable {ε α β : Type}

@[simp] theorem throw_eq_error (fault : ε) : (throw fault : Except ε α) = .error fault := rfl

@[simp] theorem pure_eq_ok (value : α) : (pure value : Except ε α) = .ok value := rfl

@[simp] theorem error_bind (fault : ε) (next : α → Except ε β) :
    (.error fault : Except ε α) >>= next = .error fault := rfl

@[simp] theorem ok_bind (value : α) (next : α → Except ε β) :
    (.ok value : Except ε α) >>= next = next value := rfl

theorem bind_eq_ok_iff {step : Except ε α} {next : α → Except ε β} {value : β} :
    step >>= next = .ok value ↔ ∃ mid, step = .ok mid ∧ next mid = .ok value := by
  cases step with
  | error fault => simp
  | ok mid => simp

end CardGateway
