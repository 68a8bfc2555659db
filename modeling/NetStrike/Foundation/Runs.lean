import Mathlib.Data.List.Infix
import Mathlib.Data.List.Induction

/-!
# Runs of a deterministic system

A system is a step function `step : ι → σ → σ` on operations `ι` and states `σ`; an operation that
is refused leaves the state as it is. `runAll` performs a list of operations. `EachMeets` says
that every operation of a run meets a condition in the state it is performed in, and
`Passes` that a state occurs between the operations of a run.

`invariant_of_eachMeets` is the induction on runs: an invariant that every conditioned step keeps
holds in every state the run passes.
-/

set_option autoImplicit false

namespace NetStrike.Foundation

universe u v

variable {ι : Type u} {σ : Type v} (step : ι → σ → σ)

/-- The state after performing the operations in order. -/
def runAll (ops : List ι) (s : σ) : σ := ops.foldl (fun t op => step op t) s

@[simp] theorem runAll_nil (s : σ) : runAll step [] s = s := rfl

@[simp] theorem runAll_cons (op : ι) (ops : List ι) (s : σ) :
    runAll step (op :: ops) s = runAll step ops (step op s) := rfl

theorem runAll_append (pre post : List ι) (s : σ) :
    runAll step (pre ++ post) s = runAll step post (runAll step pre s) :=
  List.foldl_append

/-- Every operation of the run meets `C` in the state it is performed in. -/
def EachMeets (C : ι → σ → Prop) : List ι → σ → Prop
  | [], _ => True
  | op :: ops, s => C op s ∧ EachMeets C ops (step op s)

theorem EachMeets.append_left {C : ι → σ → Prop} :
    ∀ {pre post : List ι} {s : σ}, EachMeets step C (pre ++ post) s → EachMeets step C pre s
  | [], _, _, _ => trivial
  | _ :: _, _, _, h => ⟨h.1, append_left h.2⟩

/-- A condition that every operation meets in every state is met by every run. -/
theorem EachMeets.of_forall {C : ι → σ → Prop} (h : ∀ op s, C op s) :
    ∀ (ops : List ι) (s : σ), EachMeets step C ops s
  | [], _ => trivial
  | op :: ops, s => ⟨h op s, of_forall h ops (step op s)⟩

/-- A condition that the given operations meet in every state of an invariant which they keep is met
by the run. -/
theorem EachMeets.of_invariant {step : ι → σ → σ} {C : ι → σ → Prop} {I : σ → Prop} :
    ∀ {ops : List ι} {s : σ}, (∀ op ∈ ops, ∀ s, I s → C op s ∧ I (step op s)) → I s →
      EachMeets step C ops s
  | [], _, _, _ => trivial
  | op :: _, s, h, hI =>
      ⟨(h op List.mem_cons_self s hI).1,
        of_invariant (fun op' hop' => h op' (List.mem_cons_of_mem op hop'))
          (h op List.mem_cons_self s hI).2⟩

/-- The run passes the state `t`: it is the state after some prefix of the operations. -/
def Passes (ops : List ι) (s t : σ) : Prop := ∃ pre, pre <+: ops ∧ runAll step pre s = t

theorem Passes.last (ops : List ι) (s : σ) : Passes step ops s (runAll step ops s) :=
  ⟨ops, List.prefix_refl ops, rfl⟩

/-- The run rule: an invariant kept by every step that meets `C` holds at the end of a run whose
steps all meet `C`. -/
theorem invariant_runAll {step : ι → σ → σ} {I : σ → Prop} {C : ι → σ → Prop}
    (hstep : ∀ op s, I s → C op s → I (step op s)) :
    ∀ {ops : List ι} {s : σ}, I s → EachMeets step C ops s → I (runAll step ops s) := by
  intro ops
  induction ops with
  | nil => exact fun hI _ => hI
  | cons op ops ih => exact fun hI hC => ih (hstep op _ hI hC.1) hC.2

/-- The run rule for every state the run passes. -/
theorem invariant_of_eachMeets {step : ι → σ → σ} {I : σ → Prop} {C : ι → σ → Prop}
    (hstep : ∀ op s, I s → C op s → I (step op s)) {ops : List ι} {s t : σ} (hI : I s)
    (hC : EachMeets step C ops s) (ht : Passes step ops s t) : I t := by
  obtain ⟨pre, ⟨post, rfl⟩, rfl⟩ := ht
  exact invariant_runAll hstep hI (EachMeets.append_left step hC)

theorem Passes.start (ops : List ι) (s : σ) : Passes step ops s s :=
  ⟨[], List.nil_prefix, rfl⟩

theorem Passes.cons {op : ι} {ops : List ι} {s t : σ} (h : Passes step ops (step op s) t) :
    Passes step (op :: ops) s t := by
  obtain ⟨pre, hpre, rfl⟩ := h
  exact ⟨op :: pre, List.cons_prefix_cons.mpr ⟨rfl, hpre⟩, rfl⟩

/-- The exact run rule: where a step keeps `I` exactly when it meets `C`, a run keeps `I` in every
state it passes exactly when all its steps meet `C`. `K` needs no condition as long as `I` holds,
and `A` restricts the operations of the run. -/
theorem passes_iff_eachMeets_of {step : ι → σ → σ} {I K : σ → Prop} {C : ι → σ → Prop}
    {A : ι → Prop} (hK : ∀ op s, A op → K s → I s → K (step op s))
    (hstep : ∀ op s, A op → K s → I s → (I (step op s) ↔ C op s)) :
    ∀ {ops : List ι} {s : σ}, (∀ op ∈ ops, A op) → K s → I s →
      ((∀ t, Passes step ops s t → I t) ↔ EachMeets step C ops s) := by
  intro ops
  induction ops with
  | nil =>
      intro s _ _ hI
      refine ⟨fun _ => trivial, ?_⟩
      rintro - t ⟨pre, hpre, rfl⟩
      rw [List.prefix_nil.mp hpre]
      exact hI
  | cons op ops ih =>
      intro s hA hs hI
      have hop := hA op List.mem_cons_self
      have hops : ∀ op ∈ ops, A op := fun op' hop' => hA op' (List.mem_cons_of_mem op hop')
      constructor
      · intro h
        have hnext : I (step op s) := h _ (Passes.cons step (Passes.start step ops (step op s)))
        exact ⟨(hstep op s hop hs hI).mp hnext,
          (ih hops (hK op s hop hs hI) hnext).mp fun t ht => h t (Passes.cons step ht)⟩
      · rintro ⟨hC, hrest⟩ t ⟨pre, hpre, rfl⟩
        have hnext : I (step op s) := (hstep op s hop hs hI).mpr hC
        cases pre with
        | nil => exact hI
        | cons op' pre =>
            obtain ⟨hop', hrestpre⟩ := List.cons_prefix_cons.mp hpre
            subst hop'
            exact (ih hops (hK op' s hop hs hI) hnext).mpr hrest _ ⟨pre, hrestpre, rfl⟩

/-- The exact run rule for all operations. -/
theorem passes_iff_eachMeets {step : ι → σ → σ} {I K : σ → Prop} {C : ι → σ → Prop}
    (hK : ∀ op s, K s → I s → K (step op s))
    (hstep : ∀ op s, K s → I s → (I (step op s) ↔ C op s)) {ops : List ι} {s : σ} (hs : K s)
    (hI : I s) : (∀ t, Passes step ops s t → I t) ↔ EachMeets step C ops s :=
  passes_iff_eachMeets_of (A := fun _ => True) (fun op t _ => hK op t) (fun op t _ => hstep op t)
    (fun _ _ => trivial) hs hI

/-! ## Folds that may fail -/

/-- The rule of a fold that an error cuts short: `I` relates the elements read so far to the
accumulator. -/
theorem foldlM_invariant {ε : Type v} {f : σ → ι → Except ε σ} {I : List ι → σ → Prop} {start : σ}
    (hstart : I [] start)
    (hturn : ∀ done x s s', I done s → f s x = .ok s' → I (done ++ [x]) s') :
    ∀ {xs : List ι} {s : σ}, xs.foldlM f start = .ok s → I xs s := by
  intro xs
  induction xs using List.reverseRecOn with
  | nil =>
      intro s h
      injection h with h
      exact h ▸ hstart
  | append_singleton xs x ih =>
      intro s h
      rw [List.foldlM_append] at h
      cases hxs : xs.foldlM f start with
      | error e =>
          rw [hxs] at h
          cases h
      | ok s' =>
          rw [hxs] at h
          simp only [List.foldlM_cons, List.foldlM_nil, bind, Except.bind] at h
          cases hx : f s' x with
          | error e =>
              rw [hx] at h
              cases h
          | ok s'' =>
              rw [hx] at h
              injection h with h
              exact h ▸ hturn xs x s' s'' (ih hxs) hx

end NetStrike.Foundation
