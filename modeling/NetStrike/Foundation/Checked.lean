/-!
# Checks that may fail

A check in a chain of fallible steps is `require p e`. What a successful chain went through is read
off step by step with `bind_eq_ok` and `require_eq_ok`.
-/

set_option autoImplicit false

namespace NetStrike.Foundation.Checked

variable {ε α β : Type}

/-- Stop with an error unless a condition holds. -/
def require (p : Prop) [Decidable p] (e : ε) : Except ε Unit := if p then .ok () else .error e

theorem require_eq_ok {p : Prop} [Decidable p] {e : ε} {u : Unit} (h : require p e = .ok u) : p := by
  unfold require at h
  split at h
  · assumption
  · cases h

theorem require_of {p : Prop} [Decidable p] {e : ε} (h : p) : require p e = .ok () := if_pos h

/-- The value of a first computation that went well. -/
theorem bind_eq_ok {x : Except ε α} {f : α → Except ε β} {b : β} (h : x >>= f = .ok b) :
    ∃ a, x = .ok a ∧ f a = .ok b := by
  cases x with
  | error e => cases h
  | ok a => exact ⟨a, rfl, h⟩

theorem bind_of_eq_ok {x : Except ε α} {f : α → Except ε β} {a : α} (h : x = .ok a) :
    (x >>= f) = f a := by
  rw [h]
  rfl

end NetStrike.Foundation.Checked
