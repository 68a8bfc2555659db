import NetStrike.Foundation.Raising

/-!
# Simulations of computations that may raise

`Simulates f m' m` says that `m'` on the states `τ` and `m` on the states `σ` have the same outcome
and that the map `f : τ → σ` takes the end state of `m'` to that of `m`. It is used for ghost state:
`τ` carries more than `σ` and `f` forgets it. There is one rule for each combinator.
-/

set_option autoImplicit false

namespace NetStrike.Foundation.Raising

universe u v w

variable {ε : Type u} {σ : Type v} {τ : Type w} {α β : Type u}

/-- Started in `t`, `m'` does what `m` does in `f t`. -/
def Simulates (f : τ → σ) (m' : Raising ε τ α) (m : Raising ε σ α) : Prop :=
  ∀ t, m (f t) = ((m' t).1, f (m' t).2)

namespace Simulates

variable {f : τ → σ}

theorem state {m' : Raising ε τ α} {m : Raising ε σ α} (h : Simulates f m' m) (t : τ) :
    (m (f t)).2 = f (m' t).2 := by
  rw [h t]

theorem value {m' : Raising ε τ α} {m : Raising ε σ α} (h : Simulates f m' m) (t : τ) :
    (m (f t)).1 = (m' t).1 := by
  rw [h t]

protected theorem pure (a : α) : Simulates f (pure a : Raising ε τ α) (pure a) := fun _ => rfl

protected theorem raise (e : ε) : Simulates f (raise e : Raising ε τ α) (raise e) := fun _ => rfl

protected theorem ofExcept (r : Except ε α) :
    Simulates f (ofExcept r : Raising ε τ α) (ofExcept r) := fun _ => rfl

protected theorem gets {g' : τ → α} {g : σ → α} (h : ∀ t, g (f t) = g' t) :
    Simulates f (gets g' : Raising ε τ α) (gets g) := by
  intro t
  rw [gets_apply, gets_apply, h t]

protected theorem modify {g' : τ → τ} {g : σ → σ} (h : ∀ t, g (f t) = f (g' t)) :
    Simulates f (modify g' : Raising ε τ PUnit) (modify g) := by
  intro t
  rw [modify_apply, modify_apply, h t]

protected theorem step {g' : τ → α × τ} {g : σ → α × σ} (h : ∀ t, g (f t) = ((g' t).1, f (g' t).2)) :
    Simulates f (step g' : Raising ε τ α) (step g) := by
  intro t
  rw [step_apply, step_apply, h t]

protected theorem attempt {m' : Raising ε τ α} {m : Raising ε σ α} (h : Simulates f m' m) :
    Simulates f m'.attempt m.attempt := by
  intro t
  rw [attempt_apply, attempt_apply, h t]

protected theorem require {p' : τ → Prop} {p : σ → Prop} [DecidablePred p'] [DecidablePred p]
    {e' : τ → ε} {e : σ → ε} (hp : ∀ t, p (f t) ↔ p' t) (he : ∀ t, e (f t) = e' t) :
    Simulates f (require p' e' : Raising ε τ PUnit) (require p e) := by
  intro t
  by_cases h : p' t
  · rw [require_of_pos h, require_of_pos ((hp t).mpr h)]
  · rw [require_of_neg h, require_of_neg fun h' => h ((hp t).mp h'), he t]

protected theorem bind {m' : Raising ε τ α} {m : Raising ε σ α} {g' : α → Raising ε τ β}
    {g : α → Raising ε σ β} (hm : Simulates f m' m) (hg : ∀ a, Simulates f (g' a) (g a)) :
    Simulates f (m' >>= g') (m >>= g) := by
  intro t
  have h := hm t
  cases hr : m' t with
  | mk r t' =>
      rw [hr] at h
      cases r with
      | ok a =>
          rw [bind_of_ok hr, bind_of_ok h]
          exact hg a t'
      | error e => rw [bind_of_error hr, bind_of_error h]

protected theorem forEach {b' : β → Raising ε τ PUnit} {b : β → Raising ε σ PUnit}
    (h : ∀ x, Simulates f (b' x) (b x)) : ∀ xs : List β, Simulates f (forEach b' xs) (forEach b xs)
  | [] => Simulates.pure _
  | x :: xs => Simulates.bind (h x) fun _ => Simulates.forEach h xs

/-- A simulation of a part is one of the whole when `f` acts on the parts as `g` does. -/
protected theorem focus {σ' : Type v} {τ' : Type w} {g : τ' → σ'} {m' : Raising ε τ' α}
    {m : Raising ε σ' α} {view' : τ → τ'} {put' : τ' → τ → τ} {view : σ → σ'} {put : σ' → σ → σ}
    (h : Simulates g m' m) (hview : ∀ t, view (f t) = g (view' t))
    (hput : ∀ s t, put (g s) (f t) = f (put' s t)) :
    Simulates f (focus view' put' m') (focus view put m) := by
  intro t
  rw [focus_apply, focus_apply, hview t, h (view' t), hput]

end Simulates

end NetStrike.Foundation.Raising
