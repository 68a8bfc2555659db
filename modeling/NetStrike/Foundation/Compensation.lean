import NetStrike.Foundation.Raising

/-!
# Compensation

`rescue` runs a computation and, where it raises, a second one on the state reached so far: a
`try` whose handler puts things right before it raises again. `AllOrNothing view m` says that `m`
leaves what `view` shows as it was wherever it raises; `Triple.rescue` is the rule that proves it of
a rescued computation.
-/

set_option autoImplicit false

namespace NetStrike.Foundation

universe u v w

namespace Raising

variable {ε : Type u} {σ : Type v} {α β : Type u} {ν : Type w}

/-- Run `m`; where it raises, run `undo` on the state reached. -/
def rescue (m : Raising ε σ α) (undo : ε → Raising ε σ α) : Raising ε σ α := fun s =>
  match m s with
  | (.ok a, s') => (.ok a, s')
  | (.error e, s') => undo e s'

theorem rescue_of_ok {m : Raising ε σ α} {undo : ε → Raising ε σ α} {s s' : σ} {a : α}
    (h : m s = (.ok a, s')) : rescue m undo s = (.ok a, s') := by
  rw [rescue, h]

theorem rescue_of_error {m : Raising ε σ α} {undo : ε → Raising ε σ α} {s s' : σ} {e : ε}
    (h : m s = (.error e, s')) : rescue m undo s = undo e s' := by
  rw [rescue, h]

/-- What holds where `m` raises is what the handler starts from. -/
theorem Triple.rescue {P : σ → Prop} {m : Raising ε σ α} {undo : ε → Raising ε σ α}
    {Q : α → σ → Prop} {E E' : ε → σ → Prop} (hm : Triple P m Q E)
    (hundo : ∀ e, Triple (E e) (undo e) Q E') : Triple P (m.rescue undo) Q E' := by
  intro s hs
  cases hr : m s with
  | mk r s' =>
      cases r with
      | ok a =>
          rw [rescue_of_ok hr]
          exact hm.of_ok hs hr
      | error e =>
          rw [rescue_of_error hr]
          exact hundo e s' (hm.of_error hs hr)

/-- Run `m` on the state; where it raises, go back to the state before. -/
def transaction (m : Raising ε σ α) : Raising ε σ α := fun s =>
  m.rescue (fun e _ => (.error e, s)) s

theorem transaction_of_ok {m : Raising ε σ α} {s s' : σ} {a : α} (h : m s = (.ok a, s')) :
    m.transaction s = (.ok a, s') := rescue_of_ok h

theorem transaction_of_error {m : Raising ε σ α} {s s' : σ} {e : ε} (h : m s = (.error e, s')) :
    m.transaction s = (.error e, s) := rescue_of_error h

theorem transaction_eq_ok {m : Raising ε σ α} {s s' : σ} {a : α}
    (h : m.transaction s = (.ok a, s')) : m s = (.ok a, s') := by
  cases hr : m s with
  | mk r t =>
      cases r with
      | ok b => exact (transaction_of_ok hr).symm.trans h
      | error e =>
          rw [transaction_of_error hr] at h
          cases h

/-- A returning computation whose first part is a finished result. -/
theorem ofExcept_bind_eq_ok {r : Except ε α} {f : α → Raising ε σ β} {s s' : σ} {b : β}
    (h : ((ofExcept r : Raising ε σ α) >>= f) s = (.ok b, s')) :
    ∃ a, r = .ok a ∧ f a s = (.ok b, s') := by
  cases r with
  | ok a => exact ⟨a, rfl, h⟩
  | error e => cases h

/-- Where `m` raises, what `view` shows is as before. -/
def AllOrNothing (view : σ → ν) (m : Raising ε σ α) : Prop :=
  ∀ s e s', m s = (.error e, s') → view s' = view s

namespace AllOrNothing

variable {view : σ → ν} {m : Raising ε σ α}

/-- What never touches the view. -/
theorem of_keeps (h : m.Keeps (Same view)) : AllOrNothing view m := by
  intro s e s' hm
  have hs := h s
  rwa [hm] at hs

theorem of_triple (h : ∀ s₀, Triple (fun s => s = s₀) m (fun _ _ => True)
    fun _ s => view s = view s₀) : AllOrNothing view m :=
  fun s _ _ hm => (h s).of_error rfl hm

/-- A transaction that raises has done nothing. -/
theorem transaction (view : σ → ν) (m : Raising ε σ α) : AllOrNothing view m.transaction := by
  intro s e s' h
  cases hr : m s with
  | mk r t =>
      cases r with
      | ok a =>
          rw [transaction_of_ok hr] at h
          cases h
      | error e' =>
          rw [transaction_of_error hr] at h
          injection h with _ hstate
          rw [hstate]

/-- To return a value at the end changes nothing. -/
theorem bind_pure (h : AllOrNothing view m) (f : α → β) :
    AllOrNothing view (m >>= fun a => (pure (f a) : Raising ε σ β)) := by
  intro s e s' hm
  rcases bind_eq_error hm with hm | ⟨a, t, -, hm⟩
  · exact h s e s' hm
  · cases hm

/-- A first part that does not touch the view. -/
protected theorem bind {f : α → Raising ε σ β} (hm : m.Keeps (Same view))
    (hf : ∀ a, AllOrNothing view (f a)) : AllOrNothing view (m >>= f) := by
  intro s e t h
  have hs := hm s
  rcases bind_eq_error h with h | ⟨a, s', hok, h⟩
  · rwa [h] at hs
  · rw [hok] at hs
    exact (hf a s' e t h).trans hs

end AllOrNothing

end Raising

end NetStrike.Foundation
