import Mathlib.Logic.Relation
import Mathlib.Tactic.SplitIfs

/-!
# Computations that may raise

`Raising ε σ α` is a state transformer whose result is a value or an exception. The state reached
so far survives a raise, so an assignment made before an exception stays made. `attempt` is a
`try` that catches every exception, `ensure` is a `finally` block, `forEach` is a loop over a list
that a raise cuts short, and `attemptAll` one that goes on. `focus` runs a computation on one
component of a larger state.

Two program logics are given. `Keeps R m` says that the start and the end of `m` are related by
`R`, whatever the outcome; for a reflexive transitive `R` it is closed under every combinator.
`Triple P m Q E` has one postcondition for the normal return and one for the raise.
-/

set_option autoImplicit false

namespace NetStrike.Foundation

universe u v w

/-- A computation on the state `σ` that returns an `α` or raises an `ε`. -/
def Raising (ε : Type u) (σ : Type v) (α : Type u) : Type (max u v) :=
  σ → Except ε α × σ

namespace Raising

variable {ε : Type u} {σ : Type v} {τ : Type w} {α β : Type u}

/-- Return a value. -/
protected def pure (a : α) : Raising ε σ α := fun s => (.ok a, s)

/-- Sequencing; a raise skips the continuation and keeps the state. -/
protected def bind (m : Raising ε σ α) (f : α → Raising ε σ β) : Raising ε σ β := fun s =>
  match m s with
  | (.ok a, s') => f a s'
  | (.error e, s') => (.error e, s')

instance : Monad (Raising ε σ) where
  pure := Raising.pure
  bind := Raising.bind

/-- Raise an exception. -/
def raise (e : ε) : Raising ε σ α := fun s => (.error e, s)

/-- Read the state through `f`. -/
def gets (f : σ → α) : Raising ε σ α := fun s => (.ok (f s), s)

/-- Update the state. -/
def modify (f : σ → σ) : Raising ε σ PUnit.{u + 1} := fun s => (.ok ⟨⟩, f s)

/-- Run a step that always returns. -/
def step (f : σ → α × σ) : Raising ε σ α := fun s => (.ok (f s).1, (f s).2)

/-- Return the value of a finished result, or raise its exception. -/
def ofExcept (r : Except ε α) : Raising ε σ α := fun s => (r, s)

/-- Run `m` and return its outcome; nothing is raised. -/
def attempt (m : Raising ε σ α) : Raising ε σ (Except ε α) := fun s => (.ok (m s).1, (m s).2)

/-- Run `m`, then the cleanup `f` on the state, whether or not `m` raised. -/
def ensure (m : Raising ε σ α) (f : σ → σ) : Raising ε σ α := fun s => ((m s).1, f (m s).2)

/-- Raise `e` unless the state satisfies `p`. -/
def require (p : σ → Prop) [DecidablePred p] (e : σ → ε) : Raising ε σ PUnit.{u + 1} := fun s =>
  if p s then (.ok ⟨⟩, s) else (.error (e s), s)

/-- Run `f` on each element in order; a raise ends the loop. -/
def forEach (f : β → Raising ε σ PUnit.{u + 1}) : List β → Raising ε σ PUnit.{u + 1}
  | [] => Raising.pure ⟨⟩
  | b :: bs => Raising.bind (f b) fun _ => forEach f bs

/-- Attempt each computation in order, and return the exceptions. -/
def attemptAll : List (Raising ε σ PUnit.{u + 1}) → Raising ε σ (List ε)
  | [] => Raising.pure []
  | m :: ms => Raising.bind (attempt m) fun outcome => Raising.bind (attemptAll ms) fun errors =>
      Raising.pure (match outcome with
        | .ok _ => errors
        | .error e => e :: errors)

/-- Raise `f e` where `m` raises `e`. -/
def mapError {ε' : Type u} (f : ε → ε') (m : Raising ε σ α) : Raising ε' σ α := fun s =>
  ((m s).1.mapError f, (m s).2)

/-- Run `m` on the component that `view` reads and `put` writes. -/
def focus (view : τ → σ) (put : σ → τ → τ) (m : Raising ε σ α) : Raising ε τ α := fun t =>
  ((m (view t)).1, put (m (view t)).2 t)

/-! ## Evaluation -/

@[simp] theorem pure_apply (a : α) (s : σ) : (pure a : Raising ε σ α) s = (.ok a, s) := rfl

@[simp] theorem raise_apply (e : ε) (s : σ) : (raise e : Raising ε σ α) s = (.error e, s) := rfl

@[simp] theorem gets_apply (f : σ → α) (s : σ) : (gets f : Raising ε σ α) s = (.ok (f s), s) := rfl

@[simp] theorem modify_apply (f : σ → σ) (s : σ) :
    (modify f : Raising ε σ PUnit) s = (.ok ⟨⟩, f s) := rfl

@[simp] theorem step_apply (f : σ → α × σ) (s : σ) :
    (step f : Raising ε σ α) s = (.ok (f s).1, (f s).2) := rfl

@[simp] theorem ofExcept_apply (r : Except ε α) (s : σ) :
    (ofExcept r : Raising ε σ α) s = (r, s) := rfl

@[simp] theorem attempt_apply (m : Raising ε σ α) (s : σ) :
    attempt m s = (.ok (m s).1, (m s).2) := rfl

@[simp] theorem ensure_apply (m : Raising ε σ α) (f : σ → σ) (s : σ) :
    ensure m f s = ((m s).1, f (m s).2) := rfl

@[simp] theorem mapError_apply {ε' : Type u} (f : ε → ε') (m : Raising ε σ α) (s : σ) :
    mapError f m s = ((m s).1.mapError f, (m s).2) := rfl

@[simp] theorem focus_apply (view : τ → σ) (put : σ → τ → τ) (m : Raising ε σ α) (t : τ) :
    focus view put m t = ((m (view t)).1, put (m (view t)).2 t) := rfl

theorem bind_apply (m : Raising ε σ α) (f : α → Raising ε σ β) (s : σ) :
    (m >>= f) s =
      match m s with
      | (.ok a, s') => f a s'
      | (.error e, s') => (.error e, s') := rfl

theorem bind_of_ok {m : Raising ε σ α} {f : α → Raising ε σ β} {s s' : σ} {a : α}
    (h : m s = (.ok a, s')) : (m >>= f) s = f a s' := by
  rw [bind_apply, h]

theorem bind_of_error {m : Raising ε σ α} {f : α → Raising ε σ β} {s s' : σ} {e : ε}
    (h : m s = (.error e, s')) : (m >>= f) s = (.error e, s') := by
  rw [bind_apply, h]

@[simp] theorem pure_bind_apply (a : α) (f : α → Raising ε σ β) (s : σ) :
    ((pure a : Raising ε σ α) >>= f) s = f a s := rfl

@[simp] theorem raise_bind_apply (e : ε) (f : α → Raising ε σ β) (s : σ) :
    ((raise e : Raising ε σ α) >>= f) s = (.error e, s) := rfl

@[simp] theorem gets_bind_apply (g : σ → α) (f : α → Raising ε σ β) (s : σ) :
    ((gets g : Raising ε σ α) >>= f) s = f (g s) s := rfl

@[simp] theorem modify_bind_apply (g : σ → σ) (f : PUnit → Raising ε σ β) (s : σ) :
    ((modify g : Raising ε σ PUnit) >>= f) s = f ⟨⟩ (g s) := rfl

@[simp] theorem step_bind_apply (g : σ → α × σ) (f : α → Raising ε σ β) (s : σ) :
    ((step g : Raising ε σ α) >>= f) s = f (g s).1 (g s).2 := rfl

@[simp] theorem attempt_bind_apply (m : Raising ε σ α) (f : Except ε α → Raising ε σ β) (s : σ) :
    (attempt m >>= f) s = f (m s).1 (m s).2 := rfl

theorem require_of_pos {p : σ → Prop} [DecidablePred p] {e : σ → ε} {s : σ} (h : p s) :
    (require p e : Raising ε σ PUnit) s = (.ok ⟨⟩, s) := if_pos h

theorem require_of_neg {p : σ → Prop} [DecidablePred p] {e : σ → ε} {s : σ} (h : ¬ p s) :
    (require p e : Raising ε σ PUnit) s = (.error (e s), s) := if_neg h

theorem require_apply (p : σ → Prop) [DecidablePred p] (e : σ → ε) (s : σ) :
    (require p e : Raising ε σ PUnit) s = if p s then (.ok ⟨⟩, s) else (.error (e s), s) := rfl

/-- A guard in front of a computation. -/
theorem require_bind_apply (p : σ → Prop) [DecidablePred p] (e : σ → ε)
    (f : PUnit → Raising ε σ β) (s : σ) :
    ((require p e : Raising ε σ PUnit) >>= f) s =
      if p s then f ⟨⟩ s else (.error (e s), s) := by
  rw [bind_apply, require_apply]
  split_ifs <;> rfl

theorem ofExcept_bind_apply (r : Except ε α) (f : α → Raising ε σ β) (s : σ) :
    ((ofExcept r : Raising ε σ α) >>= f) s =
      match r with
      | .ok a => f a s
      | .error e => (.error e, s) := by
  cases r <;> rfl

@[simp] theorem require_state (p : σ → Prop) [DecidablePred p] (e : σ → ε) (s : σ) :
    ((require p e : Raising ε σ PUnit) s).2 = s := by
  unfold require
  split <;> rfl

theorem require_bind_of_pos {p : σ → Prop} [DecidablePred p] {e : σ → ε}
    {f : PUnit → Raising ε σ β} {s : σ} (h : p s) :
    ((require p e : Raising ε σ PUnit) >>= f) s = f ⟨⟩ s :=
  bind_of_ok (require_of_pos h)

theorem require_bind_of_neg {p : σ → Prop} [DecidablePred p] {e : σ → ε}
    {f : PUnit → Raising ε σ β} {s : σ} (h : ¬ p s) :
    ((require p e : Raising ε σ PUnit) >>= f) s = (.error (e s), s) :=
  bind_of_error (require_of_neg h)

@[simp] theorem forEach_nil (f : β → Raising ε σ PUnit) : forEach f [] = pure ⟨⟩ := rfl

@[simp] theorem forEach_cons (f : β → Raising ε σ PUnit) (b : β) (bs : List β) :
    forEach f (b :: bs) = (f b >>= fun _ => forEach f bs) := rfl

/-- A loop over a concatenation is two loops. -/
theorem forEach_append (f : β → Raising ε σ PUnit) (as bs : List β) :
    forEach f (as ++ bs) = (forEach f as >>= fun _ => forEach f bs) := by
  induction as with
  | nil => rfl
  | cons a as ih =>
      funext s
      simp only [List.cons_append, forEach_cons, ih]
      cases h : f a s with
      | mk r s' =>
          cases r with
          | ok _ => rw [bind_of_ok h, bind_apply, bind_apply, bind_of_ok h]
          | error e => rw [bind_of_error h, bind_apply, bind_of_error h]

theorem attemptAll_cons (m : Raising ε σ PUnit) (ms : List (Raising ε σ PUnit)) :
    attemptAll (m :: ms) = (attempt m >>= fun outcome => attemptAll ms >>= fun errors =>
      pure (match outcome with
        | .ok _ => errors
        | .error e => e :: errors)) := rfl

/-- To attempt is not to raise. -/
theorem attemptAll_returns (ms : List (Raising ε σ PUnit)) :
    ∀ s, ∃ es, attemptAll ms s = (.ok es, (attemptAll ms s).2) := by
  induction ms with
  | nil => exact fun s => ⟨[], rfl⟩
  | cons m ms ih =>
      intro s
      obtain ⟨es, hes⟩ := ih (m s).2
      rw [attemptAll_cons, attempt_bind_apply, bind_of_ok hes]
      exact ⟨_, rfl⟩

theorem attemptAll_cons_state (m : Raising ε σ PUnit) (ms : List (Raising ε σ PUnit)) (s : σ) :
    (attemptAll (m :: ms) s).2 = (attemptAll ms (m s).2).2 := by
  obtain ⟨es, hes⟩ := attemptAll_returns ms (m s).2
  rw [attemptAll_cons, attempt_bind_apply, bind_of_ok hes]
  rfl

/-- To return a fixed value at the end changes no state. -/
theorem bind_pure_state (m : Raising ε σ α) (b : β) (s : σ) :
    ((m >>= fun _ => (pure b : Raising ε σ β)) s).2 = (m s).2 := by
  cases hm : m s with
  | mk r s' =>
      cases r with
      | ok a => rw [bind_of_ok hm, pure_apply]
      | error e => rw [bind_of_error hm]

/-- What is returned is the fixed value. -/
theorem bind_pure_value {m : Raising ε σ α} {b b' : β} {s : σ}
    (h : ((m >>= fun _ => (pure b : Raising ε σ β)) s).1 = .ok b') : b' = b := by
  cases hm : m s with
  | mk r s' =>
      cases r with
      | ok a =>
          rw [bind_of_ok hm, pure_apply] at h
          injection h with h
          exact h.symm
      | error e =>
          rw [bind_of_error hm] at h
          cases h

/-- A returning `bind` splits into two returning computations. -/
theorem bind_eq_ok {m : Raising ε σ α} {f : α → Raising ε σ β} {s t : σ} {b : β}
    (h : (m >>= f) s = (.ok b, t)) : ∃ a s', m s = (.ok a, s') ∧ f a s' = (.ok b, t) := by
  cases hm : m s with
  | mk r s' =>
      cases r with
      | ok a => exact ⟨a, s', rfl, by rwa [bind_of_ok hm] at h⟩
      | error e =>
          rw [bind_of_error hm] at h
          simp at h

/-- A raising `bind` raised in its first or in its second part. -/
theorem bind_eq_error {m : Raising ε σ α} {f : α → Raising ε σ β} {s t : σ} {e : ε}
    (h : (m >>= f) s = (.error e, t)) :
    m s = (.error e, t) ∨ ∃ a s', m s = (.ok a, s') ∧ f a s' = (.error e, t) := by
  cases hm : m s with
  | mk r s' =>
      cases r with
      | ok a => exact Or.inr ⟨a, s', rfl, by rwa [bind_of_ok hm] at h⟩
      | error e' =>
          rw [bind_of_error hm] at h
          obtain ⟨h1, rfl⟩ := Prod.mk.injEq .. ▸ h
          cases h1
          exact Or.inl rfl

/-! ## What a computation keeps -/

/-- The state at the end of `m` is related by `R` to the state at its start, for either outcome. -/
def Keeps (R : σ → σ → Prop) (m : Raising ε σ α) : Prop := ∀ s, R s (m s).2

namespace Keeps

variable {R S : σ → σ → Prop} {m : Raising ε σ α}

/-- A weaker relation is kept too. -/
theorem mono (h : m.Keeps R) (hRS : ∀ s t, R s t → S s t) : m.Keeps S :=
  fun s => hRS _ _ (h s)

theorem of_eq [Std.Refl R] (h : ∀ s, (m s).2 = s) : m.Keeps R := by
  intro s
  rw [h s]
  exact Std.Refl.refl s

protected theorem pure [Std.Refl R] (a : α) : (pure a : Raising ε σ α).Keeps R :=
  of_eq fun _ => rfl

protected theorem raise [Std.Refl R] (e : ε) : (raise e : Raising ε σ α).Keeps R :=
  of_eq fun _ => rfl

protected theorem gets [Std.Refl R] (f : σ → α) : (gets f : Raising ε σ α).Keeps R :=
  of_eq fun _ => rfl

protected theorem ofExcept [Std.Refl R] (r : Except ε α) : (ofExcept r : Raising ε σ α).Keeps R :=
  of_eq fun _ => rfl

protected theorem require [Std.Refl R] (p : σ → Prop) [DecidablePred p] (e : σ → ε) :
    (require p e : Raising ε σ PUnit.{u + 1}).Keeps R :=
  of_eq fun s => require_state p e s

protected theorem modify {f : σ → σ} (h : ∀ s, R s (f s)) :
    (modify f : Raising ε σ PUnit.{u + 1}).Keeps R := h

protected theorem step {f : σ → α × σ} (h : ∀ s, R s (f s).2) :
    (step f : Raising ε σ α).Keeps R := h

protected theorem attempt (h : m.Keeps R) : m.attempt.Keeps R := h

protected theorem ensure [IsTrans σ R] {f : σ → σ} (h : m.Keeps R) (hf : ∀ s, R s (f s)) :
    (m.ensure f).Keeps R :=
  fun s => Trans.trans (h s) (hf (m s).2)

protected theorem bind [IsTrans σ R] {f : α → Raising ε σ β} (hm : m.Keeps R)
    (hf : ∀ a, (f a).Keeps R) : (m >>= f).Keeps R := by
  intro s
  have h1 := hm s
  cases hr : m s with
  | mk r s' =>
      rw [hr] at h1
      cases r with
      | ok a =>
          rw [bind_of_ok hr]
          exact Trans.trans h1 (hf a s')
      | error e =>
          rw [bind_of_error hr]
          exact h1

/-- A loop keeps what its body keeps. -/
protected theorem forEach [Std.Refl R] [IsTrans σ R] {f : β → Raising ε σ PUnit.{u + 1}} :
    ∀ {bs : List β}, (∀ b ∈ bs, (f b).Keeps R) → (forEach f bs).Keeps R
  | [], _ => Keeps.pure _
  | b :: _, h =>
      Keeps.bind (h b List.mem_cons_self) fun _ =>
        Keeps.forEach fun c hc => h c (List.mem_cons_of_mem b hc)

/-- Attempts keep what each of the computations keeps. -/
protected theorem attemptAll [Std.Refl R] [IsTrans σ R] :
    ∀ {ms : List (Raising ε σ PUnit.{u + 1})}, (∀ m ∈ ms, m.Keeps R) →
      (Raising.attemptAll ms).Keeps R
  | [], _ => Keeps.pure []
  | m :: ms, h => by
      intro s
      rw [attemptAll_cons_state]
      exact Trans.trans (h m List.mem_cons_self s)
        (Keeps.attemptAll (fun m' hm' => h m' (List.mem_cons_of_mem m hm')) (m s).2)

protected theorem focus {T : τ → τ → Prop} {view : τ → σ} {put : σ → τ → τ} (h : m.Keeps R)
    (hT : ∀ t s', R (view t) s' → T t (put s' t)) : (focus view put m).Keeps T :=
  fun t => hT t _ (h (view t))

end Keeps

protected theorem Keeps.mapError {ε' : Type u} {R : σ → σ → Prop} {m : Raising ε σ α}
    (h : m.Keeps R) (f : ε → ε') : (mapError f m).Keeps R := h

/-- What `P` says of the start holds at the end. -/
def Onward (P : σ → Prop) (s t : σ) : Prop := P s → P t

instance (P : σ → Prop) : Std.Refl (Onward P) := ⟨fun _ h => h⟩

instance (P : σ → Prop) : IsTrans σ (Onward P) := ⟨fun _ _ _ h h' hs => h' (h hs)⟩

/-- The part of the state that `f` shows stays. -/
def Same {τ : Type*} (f : σ → τ) (s t : σ) : Prop := f t = f s

instance {τ : Type*} (f : σ → τ) : Std.Refl (Same f) := ⟨fun _ => rfl⟩

instance {τ : Type*} (f : σ → τ) : IsTrans σ (Same f) := ⟨fun _ _ _ h h' => Eq.trans h' h⟩

/-! ## Triples with two postconditions -/

/-- From a state satisfying `P`, a return satisfies `Q` and a raise satisfies `E`. -/
def Triple (P : σ → Prop) (m : Raising ε σ α) (Q : α → σ → Prop) (E : ε → σ → Prop) : Prop :=
  ∀ s, P s →
    match m s with
    | (.ok a, s') => Q a s'
    | (.error e, s') => E e s'

namespace Triple

variable {P P' : σ → Prop} {Q Q' : α → σ → Prop} {E E' : ε → σ → Prop} {m : Raising ε σ α}

theorem of_ok (h : Triple P m Q E) {s s' : σ} {a : α} (hs : P s) (hm : m s = (.ok a, s')) :
    Q a s' := by
  have := h s hs
  rwa [hm] at this

theorem of_error (h : Triple P m Q E) {s s' : σ} {e : ε} (hs : P s)
    (hm : m s = (.error e, s')) : E e s' := by
  have := h s hs
  rwa [hm] at this

/-- A triple whose two postconditions agree on the state describes the end state. -/
theorem end_state {I : σ → Prop} (h : Triple P m (fun _ => I) (fun _ => I)) {s : σ} (hs : P s) :
    I (m s).2 := by
  cases hm : m s with
  | mk r s' =>
      cases r with
      | ok a => exact of_ok h hs hm
      | error e => exact of_error h hs hm

theorem intro (hok : ∀ s a s', P s → m s = (.ok a, s') → Q a s')
    (herr : ∀ s e s', P s → m s = (.error e, s') → E e s') : Triple P m Q E := by
  intro s hs
  split
  · exact hok _ _ _ hs ‹_›
  · exact herr _ _ _ hs ‹_›

theorem conseq (h : Triple P m Q E) (hP : ∀ s, P' s → P s) (hQ : ∀ a s, Q a s → Q' a s)
    (hE : ∀ e s, E e s → E' e s) : Triple P' m Q' E' :=
  intro (fun _ _ _ hs hm => hQ _ _ (h.of_ok (hP _ hs) hm))
    (fun _ _ _ hs hm => hE _ _ (h.of_error (hP _ hs) hm))

/-- Nothing is required and nothing is promised. -/
protected theorem trivial : Triple (fun _ => True) m (fun _ _ => True) (fun _ _ => True) :=
  intro (fun _ _ _ _ _ => True.intro) fun _ _ _ _ _ => True.intro

protected theorem pure {a : α} (h : ∀ s, P s → Q a s) :
    Triple P (pure a : Raising ε σ α) Q E := h

protected theorem raise {e : ε} (h : ∀ s, P s → E e s) :
    Triple P (raise e : Raising ε σ α) Q E := h

protected theorem gets {f : σ → α} (h : ∀ s, P s → Q (f s) s) :
    Triple P (gets f : Raising ε σ α) Q E := h

protected theorem modify {f : σ → σ} {Q : PUnit.{u + 1} → σ → Prop} (h : ∀ s, P s → Q ⟨⟩ (f s)) :
    Triple P (modify f : Raising ε σ PUnit) Q E := h

protected theorem step {f : σ → α × σ} (h : ∀ s, P s → Q (f s).1 (f s).2) :
    Triple P (step f : Raising ε σ α) Q E := h

protected theorem require {p : σ → Prop} [DecidablePred p] {e : σ → ε}
    {Q : PUnit.{u + 1} → σ → Prop} (hpos : ∀ s, P s → p s → Q ⟨⟩ s)
    (hneg : ∀ s, P s → ¬ p s → E (e s) s) : Triple P (require p e : Raising ε σ PUnit) Q E := by
  intro s hs
  by_cases hp : p s
  · rw [require_of_pos hp]
    exact hpos s hs hp
  · rw [require_of_neg hp]
    exact hneg s hs hp

protected theorem bind {f : α → Raising ε σ β} {U : β → σ → Prop} (hm : Triple P m Q E)
    (hf : ∀ a, Triple (Q a) (f a) U E) : Triple P (m >>= f) U E := by
  intro s hs
  cases hr : m s with
  | mk r s' =>
      cases r with
      | ok a =>
          rw [bind_of_ok hr]
          exact hf a s' (hm.of_ok hs hr)
      | error e =>
          rw [bind_of_error hr]
          exact hm.of_error hs hr

/-- A loop keeps its invariant when every iteration keeps it. -/
protected theorem forEach {I : σ → Prop} {f : β → Raising ε σ PUnit.{u + 1}} :
    ∀ {bs : List β}, (∀ b ∈ bs, Triple I (f b) (fun _ => I) E) →
      Triple I (forEach f bs) (fun _ => I) E
  | [], _ => fun _ hs => hs
  | b :: _, h =>
      Triple.bind (h b List.mem_cons_self) fun _ =>
        Triple.forEach fun c hc => h c (List.mem_cons_of_mem b hc)

/-- A kept relation is a triple about its start state. -/
theorem of_keeps {R : σ → σ → Prop} (h : m.Keeps R) (s₀ : σ) :
    Triple (fun s => s = s₀) m (fun _ => R s₀) (fun _ => R s₀) := by
  refine intro ?_ ?_
  · rintro s a s' rfl hm
    have := h s
    rwa [hm] at this
  · rintro s e s' rfl hm
    have := h s
    rwa [hm] at this

end Triple

/-! ## Conditions on the turns of a loop -/

/-- Every turn the loop takes meets `C`, which sees the element, the elements left and the state
in which the turn starts. -/
def LoopMeets (body : β → Raising ε σ PUnit.{u + 1}) (C : β → List β → σ → Prop) :
    List β → σ → Prop
  | [], _ => True
  | b :: bs, s =>
      C b bs s ∧
        match body b s with
        | (.ok _, s') => LoopMeets body C bs s'
        | (.error _, _) => True

/-- A condition that every element meets in every state is met by every loop over the elements. -/
theorem LoopMeets.of_forall {body : β → Raising ε σ PUnit.{u + 1}}
    {C : β → List β → σ → Prop} :
    ∀ {bs : List β}, (∀ b ∈ bs, ∀ rest s, C b rest s) → ∀ s, LoopMeets body C bs s
  | [], _, _ => trivial
  | b :: bs, h, s => by
      refine ⟨h b List.mem_cons_self bs s, ?_⟩
      split
      · exact LoopMeets.of_forall (fun c hc => h c (List.mem_cons_of_mem b hc)) _
      · trivial

/-- A condition that every element meets in every state of an invariant is met by the loop. -/
theorem LoopMeets.of_invariant {body : β → Raising ε σ PUnit.{u + 1}} {C : β → List β → σ → Prop}
    {I : σ → Prop} :
    ∀ {bs : List β}, (∀ b ∈ bs, ∀ rest s, I s → C b rest s ∧ I (body b s).2) →
      ∀ s, I s → LoopMeets body C bs s
  | [], _, _, _ => trivial
  | b :: bs, h, s, hI => by
      obtain ⟨hC, hnext⟩ := h b List.mem_cons_self bs s hI
      refine ⟨hC, ?_⟩
      split
      next s' heq =>
        rw [heq] at hnext
        exact LoopMeets.of_invariant (fun c hc => h c (List.mem_cons_of_mem b hc)) s' hnext
      · trivial

/-- The loop rule for conditioned turns: `I` holds before each turn of the elements left, `J` after
a raise. -/
theorem forEach_of_loopMeets {body : β → Raising ε σ PUnit.{u + 1}} {C : β → List β → σ → Prop}
    {I : List β → σ → Prop} {J : σ → Prop}
    (hturn : ∀ b bs s, I (b :: bs) s → C b bs s →
      match body b s with
      | (.ok _, s') => I bs s'
      | (.error _, s') => J s') :
    ∀ {bs : List β} {s : σ}, I bs s → LoopMeets body C bs s →
      match forEach body bs s with
      | (.ok _, s') => I [] s'
      | (.error _, s') => J s' := by
  intro bs
  induction bs with
  | nil => exact fun hI _ => hI
  | cons b bs ih =>
      intro s hI hC
      have hb := hturn b bs s hI hC.1
      have hrest := hC.2
      rw [forEach_cons]
      cases hr : body b s with
      | mk r s' =>
          rw [hr] at hb hrest
          cases r with
          | ok a =>
              rw [bind_of_ok hr]
              exact ih hb hrest
          | error e =>
              rw [bind_of_error hr]
              exact hb

end Raising

end NetStrike.Foundation
