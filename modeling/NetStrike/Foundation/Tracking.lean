import NetStrike.Foundation.Raising
import NetStrike.Foundation.Runs

/-!
# Exact invariants of computations that may raise

`TracksAt K I m s C` describes one execution of `m` from the state `s`: the unconditional invariant
`K` survives it, `I` survives it exactly when the condition `C` is met, and `m` returns only when
`C` is met. The last part makes the notion closed under sequencing: a computation whose first half
broke `I` has raised, so its second half does not run. Each combinator has one rule.
-/

set_option autoImplicit false

namespace NetStrike.Foundation.Raising

universe u v

variable {ε : Type u} {σ : Type v} {α β : Type u} {K I : σ → Prop}

/-- `m` started in `s` keeps `K`, keeps `I` exactly when `C` holds, and returns only then. -/
structure TracksAt (K I : σ → Prop) (m : Raising ε σ α) (s : σ) (C : Prop) : Prop where
  kept : K (m s).2
  exact : I (m s).2 ↔ C
  met : ∀ a s', m s = (.ok a, s') → C

namespace TracksAt

variable {m : Raising ε σ α} {s : σ} {C C' : Prop}

theorem congr (h : TracksAt K I m s C) (hC : C ↔ C') : TracksAt K I m s C' :=
  ⟨h.kept, h.exact.trans hC, fun a s' hm => hC.mp (h.met a s' hm)⟩

/-- A computation that keeps both invariants asks for nothing. -/
theorem silent (hK : K (m s).2) (hI : I (m s).2) : TracksAt K I m s True :=
  ⟨hK, ⟨fun _ => trivial, fun _ => hI⟩, fun _ _ _ => trivial⟩

/-- A computation that leaves the state as it is asks for nothing. -/
theorem unchanged (hK : K s) (hI : I s) (h : (m s).2 = s) : TracksAt K I m s True :=
  silent (h.symm ▸ hK) (h.symm ▸ hI)

/-- The same execution of another computation. -/
theorem of_eq {m' : Raising ε σ α} {s' : σ} (h : TracksAt K I m' s' C) (heq : m s = m' s') :
    TracksAt K I m s C := by
  obtain ⟨hkept, hexact, hmet⟩ := h
  rw [← heq] at hkept hexact
  exact ⟨hkept, hexact, fun a t hm => hmet a t (heq ▸ hm)⟩

/-- A return leaves the invariant true. -/
theorem of_ok (h : TracksAt K I m s C) {a : α} {s' : σ} (hm : m s = (.ok a, s')) :
    K s' ∧ I s' := by
  have hK := h.kept
  have hI := h.exact.mpr (h.met a s' hm)
  rw [hm] at hK hI
  exact ⟨hK, hI⟩

/-- Sequencing: the second condition matters only after a return of the first computation. -/
protected theorem bind {f : α → Raising ε σ β} {D : α → σ → Prop} (hm : TracksAt K I m s C)
    (hf : ∀ a s', m s = (.ok a, s') → K s' → I s' → TracksAt K I (f a) s' (D a s')) :
    TracksAt K I (m >>= f) s (C ∧ ∀ a s', m s = (.ok a, s') → D a s') := by
  cases hr : m s with
  | mk r s' =>
      cases r with
      | ok a =>
          obtain ⟨hK, hI⟩ := hm.of_ok hr
          have hrest := hf a s' hr hK hI
          have hD : D a s' ↔ (C ∧ ∀ a' t, (Except.ok a, s') = ((.ok a', t) : Except ε α × σ) →
              D a' t) := by
            constructor
            · intro hd
              refine ⟨hm.met a s' hr, ?_⟩
              rintro a' t ⟨⟩
              exact hd
            · exact fun h => h.2 a s' rfl
          exact (hrest.congr hD).of_eq (bind_of_ok hr)
      | error e =>
          have hkept := hm.kept
          have hexact := hm.exact
          rw [hr] at hkept hexact
          refine ⟨?_, ?_, ?_⟩
          · rw [bind_of_error hr]
            exact hkept
          · rw [bind_of_error hr, hexact]
            constructor
            · intro hC
              refine ⟨hC, ?_⟩
              rintro a' t ⟨⟩
            · exact fun h => h.1
          · intro b t hb
            rw [bind_of_error hr] at hb
            cases hb

/-- A guard in front of a computation asks for the condition only where it lets through. -/
protected theorem require_bind {p : σ → Prop} [DecidablePred p] {e : σ → ε}
    {f : PUnit.{u + 1} → Raising ε σ β} (hK : K s) (hI : I s)
    (hf : p s → TracksAt K I (f ⟨⟩) s C) :
    TracksAt K I (require p e >>= f) s (p s → C) := by
  by_cases hp : p s
  · have hC : C ↔ (p s → C) := ⟨fun hc _ => hc, fun h => h hp⟩
    exact ((hf hp).congr hC).of_eq (require_bind_of_pos hp)
  · have hC : True ↔ (p s → C) := ⟨fun _ h => absurd h hp, fun _ => trivial⟩
    refine (unchanged hK hI ?_).congr hC
    rw [require_bind_of_neg hp]

/-- A loop asks for the conditions of the turns it takes. -/
protected theorem forEach {body : β → Raising ε σ PUnit.{u + 1}} {D : β → σ → Prop} :
    ∀ {bs : List β} {s : σ}, K s → I s →
      (∀ b ∈ bs, ∀ t, K t → I t → TracksAt K I (body b) t (D b t)) →
      TracksAt K I (forEach body bs) s (LoopMeets body (fun b _ => D b) bs s) := by
  intro bs
  induction bs with
  | nil => exact fun hK hI _ => unchanged hK hI rfl
  | cons b bs ih =>
      intro s hK hI hbody
      have hfirst := hbody b List.mem_cons_self s hK hI
      have hseq := hfirst.bind (f := fun _ => forEach body bs) (D := fun _ => LoopMeets body
        (fun b _ => D b) bs) fun _ s' _ hK' hI' =>
          ih hK' hI' fun c hc => hbody c (List.mem_cons_of_mem b hc)
      rw [forEach_cons]
      refine hseq.congr ?_
      refine and_congr_right fun _ => ?_
      cases body b s with
      | mk r s' =>
          cases r with
          | ok a =>
              constructor
              · exact fun h => h a s' rfl
              · rintro h a' t ⟨⟩
                exact h
          | error e =>
              constructor
              · exact fun _ => trivial
              · rintro _ a' t ⟨⟩

end TracksAt

end NetStrike.Foundation.Raising
