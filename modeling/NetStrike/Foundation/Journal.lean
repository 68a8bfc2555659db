import Mathlib.Data.List.Basic

/-!
# Journals

A journal is a list of observations in the order in which they were made. `Preceded P j` says that
each entry of `j` stands in the relation `P` to the entries before it. It is how a safety property
of a trace is stated here: an entry of some kind only after certain others. A journal only grows, so
the property splits over appended entries.
-/

set_option autoImplicit false

namespace NetStrike.Foundation

universe u

variable {ε : Type u} {P : List ε → ε → Prop}

/-- Each entry is related by `P` to the entries before it. -/
def Preceded (P : List ε → ε → Prop) (j : List ε) : Prop :=
  ∀ before e after, j = before ++ e :: after → P before e

theorem Preceded.nil : Preceded P [] := by
  intro before e after h
  cases before <;> cases h

/-- The first entry follows nothing, every other one follows it. -/
theorem preceded_cons {e : ε} {j : List ε} :
    Preceded P (e :: j) ↔ P [] e ∧ Preceded (fun before e' => P (e :: before) e') j := by
  constructor
  · intro h
    refine ⟨h [] e j rfl, fun before e' after hj => ?_⟩
    exact h (e :: before) e' after (by rw [hj, List.cons_append])
  · rintro ⟨hfirst, hrest⟩ before e' after hj
    cases before with
    | nil =>
        injection hj with he _
        rw [← he]
        exact hfirst
    | cons b before =>
        rw [List.cons_append] at hj
        injection hj with hb hj
        subst hb
        exact hrest before e' after hj

/-- The property of a journal that has grown. -/
theorem preceded_append {j es : List ε} :
    Preceded P (j ++ es) ↔ Preceded P j ∧ Preceded (fun before e => P (j ++ before) e) es := by
  induction j generalizing P with
  | nil =>
      constructor
      · exact fun h => ⟨Preceded.nil, h⟩
      · exact fun h => h.2
  | cons e j ih =>
      rw [List.cons_append, preceded_cons, preceded_cons, ih, and_assoc]
      rfl

/-- Entries that are related to every journal. -/
theorem Preceded.of_forall {j : List ε} (h : ∀ e ∈ j, ∀ before, P before e) : Preceded P j := by
  intro before e after hj
  refine h e ?_ before
  rw [hj]
  exact List.mem_append_right before List.mem_cons_self

/-- Among entries that are related to every journal, one entry decides. -/
theorem preceded_around {j es fs : List ε} {e : ε} (hes : ∀ x ∈ es, ∀ before, P before x)
    (hfs : ∀ x ∈ fs, ∀ before, P before x) :
    Preceded P (j ++ (es ++ e :: fs)) ↔ Preceded P j ∧ P (j ++ es) e := by
  rw [preceded_append, preceded_append, preceded_cons, List.append_nil]
  constructor
  · rintro ⟨hj, -, he, -⟩
    exact ⟨hj, he⟩
  · rintro ⟨hj, he⟩
    exact ⟨hj, Preceded.of_forall fun x hx before => hes x hx _, he,
      Preceded.of_forall fun x hx before => hfs x hx _⟩

end NetStrike.Foundation
