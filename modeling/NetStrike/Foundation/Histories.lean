import Mathlib.Data.List.Basic
import Mathlib.Order.Defs.Unbundled

/-!
# Histories

A history is a list of changes, each with the state before and the state after it. `Chained` says
that the changes follow each other without a gap from one state to another. What every change keeps,
the whole history keeps (`Chained.related`).
-/

set_option autoImplicit false

namespace NetStrike.Foundation

universe u v

variable {ε : Type u} {σ : Type v} (before after : ε → σ)

/-- The changes lead from one state to the other. -/
def Chained : σ → List ε → σ → Prop
  | s, [], t => s = t
  | s, e :: es, t => before e = s ∧ Chained (after e) es t

variable {before after}

theorem chained_append {es fs : List ε} {s u : σ} :
    Chained before after s (es ++ fs) u ↔
      ∃ t, Chained before after s es t ∧ Chained before after t fs u := by
  induction es generalizing s with
  | nil => exact ⟨fun h => ⟨s, rfl, h⟩, fun ⟨_, hst, h⟩ => hst ▸ h⟩
  | cons e es ih =>
      rw [List.cons_append]
      constructor
      · rintro ⟨he, hes⟩
        obtain ⟨t, ht, hu⟩ := ih.mp hes
        exact ⟨t, ⟨he, ht⟩, hu⟩
      · rintro ⟨t, ⟨he, ht⟩, hu⟩
        exact ⟨he, ih.mpr ⟨t, ht, hu⟩⟩

/-- A history is extended by a change of its last state. -/
theorem Chained.snoc {es : List ε} {s : σ} {e : ε} (h : Chained before after s es (before e)) :
    Chained before after s (es ++ [e]) (after e) :=
  chained_append.mpr ⟨before e, h, rfl, rfl⟩

/-- The changes determine where they lead. -/
theorem Chained.unique {es : List ε} {s t u : σ} (h : Chained before after s es t)
    (h' : Chained before after s es u) : t = u := by
  induction es generalizing s with
  | nil => exact h.symm.trans h'
  | cons e es ih => exact ih h.2 h'.2

/-- A relation in which every change stands holds between the ends of a history. -/
theorem Chained.related {R : σ → σ → Prop} [Std.Refl R] [IsTrans σ R] {es : List ε} {s t : σ}
    (h : Chained before after s es t) (hR : ∀ e ∈ es, R (before e) (after e)) : R s t := by
  induction es generalizing s with
  | nil =>
      rw [show s = t from h]
      exact Std.Refl.refl t
  | cons e es ih =>
      obtain ⟨rfl, hes⟩ := h
      have hrest : R (after e) t := ih hes fun e' he' => hR e' (List.mem_cons_of_mem e he')
      exact IsTrans.trans _ _ _ (hR e List.mem_cons_self) hrest

end NetStrike.Foundation
