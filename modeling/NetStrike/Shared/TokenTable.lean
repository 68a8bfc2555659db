import Mathlib
import NetStrike.Shared.Rollback

/-!
# Saved values under numbered tokens

The simulated systems save what a change overwrites in `_rollbacks`, under a token that is made of a
counter. `TokenTable` is this pattern: a change that saves under the next token, or one that changes
nothing, keeps the tokens of later numbers unused, and so its system is `Undoable`.
-/

set_option autoImplicit false

namespace NetStrike.Shared

open NetStrike.Foundation

/-! ## Entries -/

section Entries

variable {α : Type}

theorem lookup_setEntry_of_ne {q k : String} (h : q ≠ k) (v : α) (entries : List (String × α)) :
    (setEntry k v entries).lookup q = entries.lookup q := by
  induction entries with
  | nil => simp [setEntry, List.lookup_cons, beq_eq_false_iff_ne.mpr h]
  | cons entry entries ih =>
      obtain ⟨k', w⟩ := entry
      unfold setEntry
      split_ifs with hk
      · subst hk
        simp [List.lookup_cons, beq_eq_false_iff_ne.mpr h]
      · simp only [List.lookup_cons, ih]

theorem lookup_popEntry (q k : String) (entries : List (String × α)) :
    (popEntry k entries).lookup q = if q = k then none else entries.lookup q := by
  induction entries with
  | nil => simp [popEntry]
  | cons entry entries ih =>
      obtain ⟨k', v⟩ := entry
      unfold popEntry at ih ⊢
      by_cases hk : k' = k
      · subst hk
        rw [List.filter_cons_of_neg (by simp), ih]
        split_ifs with hq
        · rfl
        · rw [List.lookup_cons, beq_eq_false_iff_ne.mpr hq]
      · rw [List.filter_cons_of_pos (by simpa using hk), List.lookup_cons, List.lookup_cons, ih]
        by_cases hq : q = k'
        · subst hq
          simp [hk]
        · rw [beq_eq_false_iff_ne.mpr hq]

/-- To set an entry back to what it was undoes the setting of it. -/
theorem setEntry_setEntry {k : String} {v : α} {entries : List (String × α)}
    (h : entries.lookup k = some v) (w : α) : setEntry k v (setEntry k w entries) = entries := by
  induction entries with
  | nil => cases h
  | cons entry entries ih =>
      obtain ⟨k', u⟩ := entry
      by_cases hk : k' = k
      · subst hk
        rw [List.lookup_cons, beq_self_eq_true] at h
        cases h
        simp [setEntry]
      · rw [List.lookup_cons, beq_eq_false_iff_ne.mpr fun h => hk h.symm] at h
        simp only [setEntry, if_neg hk, ih h]

end Entries

/-! ## Token tables -/

/-- What a system shows and saves under the tokens that `stem` and its counter make. -/
structure TokenTable (S ν α : Type) where
  view : S → ν
  entries : S → List (String × α)
  sequence : S → Nat
  stem : String
  restore : α → ν → ν
  stem_given : stem ≠ ""

namespace TokenTable

variable {S ν α : Type} (T : TokenTable S ν α)

/-- The token of a number. -/
def token (n : Nat) : String := T.stem ++ toString n

/-- Tokens of later numbers are not in use. -/
def undoable : Undoable S ν where
  view := T.view
  saved := fun s token => ((T.entries s).lookup token).map T.restore
  valid := fun s => ∀ n, T.sequence s < n → (T.entries s).lookup (T.token n) = none

theorem token_injective : Function.Injective T.token := by
  intro m n h
  exact Nat.repr_injective ((String.append_right_inj T.stem).mp h)

theorem truthy_token (n : Nat) : truthy (some (T.token n)) = some (T.token n) := by
  refine truthy_eq_some.mpr ⟨rfl, fun h => T.stem_given ?_⟩
  exact (String.append_eq_empty_iff.mp h).1

/-- Nothing is saved. -/
structure Leaves (s s' : S) : Prop where
  entries : T.entries s' = T.entries s
  sequence : T.sequence s' = T.sequence s

/-- `value` is saved under the next token. -/
structure Captures (value : α) (s s' : S) : Prop where
  entries : T.entries s' = setEntry (T.token (T.sequence s + 1)) value (T.entries s)
  sequence : T.sequence s' = T.sequence s + 1

theorem Leaves.onward {T : TokenTable S ν α} {s s' : S} (h : T.Leaves s s') :
    Raising.Onward T.undoable.valid s s' := by
  intro hvalid n hn
  rw [h.entries]
  exact hvalid n (h.sequence ▸ hn)

theorem Captures.onward {T : TokenTable S ν α} {value : α} {s s' : S}
    (h : T.Captures value s s') : Raising.Onward T.undoable.valid s s' := by
  intro hvalid n hn
  rw [h.sequence] at hn
  have hne : T.token n ≠ T.token (T.sequence s + 1) :=
    fun heq => hn.ne' (T.token_injective heq)
  rw [h.entries, lookup_setEntry_of_ne hne]
  exact hvalid n (by omega)

/-- How a body ends: it has saved nothing and shows the same, or it has saved what puts back what was
shown; a body that raises may have saved anything. -/
inductive Ends (s : S) : Except Exn ActionEffect × S → Prop where
  | raised (e : Exn) {s' : S} (h : T.Leaves s s') : Ends s (.error e, s')
  | captured (e : Exn) {s' : S} (value : α) (h : T.Captures value s s') : Ends s (.error e, s')
  | unsaved (effects : List String) {s' : S} (h : T.Leaves s s') (hview : T.view s' = T.view s) :
      Ends s (.ok ⟨effects, none, []⟩, s')
  | saved (effects : List String) {s' : S} (value : α) (h : T.Captures value s s')
      (hview : T.restore value (T.view s') = T.view s) :
      Ends s (.ok ⟨effects, some (T.token (T.sequence s + 1)), []⟩, s')

/-- A body that ends so saves what it overwrites. -/
theorem saves_of_ends {body : Py S ActionEffect} (h : ∀ s, T.Ends s (body s)) :
    T.undoable.Saves body where
  keeps := by
    intro s
    cases hbody : body s with
    | mk r s' =>
        have hend := h s
        rw [hbody] at hend
        cases hend with
        | raised e hleaves => exact hleaves.onward
        | captured e value hcaptures => exact hcaptures.onward
        | unsaved effects hleaves hview => exact hleaves.onward
        | saved effects value hcaptures hview => exact hcaptures.onward
  unsaved := by
    intro s effect s' hbody htoken
    have hend := h s
    rw [hbody] at hend
    cases hend with
    | unsaved effects hleaves hview =>
        refine ⟨hview, ?_⟩
        change (fun token => ((T.entries s').lookup token).map T.restore) = _
        rw [hleaves.entries]
        rfl
    | saved effects value hcaptures hview =>
        rw [T.truthy_token] at htoken
        cases htoken
  saves := by
    intro s effect s' token hvalid hbody htoken
    have hend := h s
    rw [hbody] at hend
    cases hend with
    | unsaved effects hleaves hview => cases htoken
    | saved effects value hcaptures hview =>
        rw [T.truthy_token] at htoken
        cases htoken
        refine ⟨?_, T.restore value, hview, funext fun q => ?_⟩
        · change ((T.entries s).lookup _).map T.restore = none
          rw [hvalid _ (Nat.lt_succ_self _), Option.map_none]
        · change ((T.entries s').lookup q).map T.restore = _
          rw [hcaptures.entries]
          by_cases hq : q = T.token (T.sequence s + 1)
          · rw [hq, lookup_setEntry, Function.update_self, Option.map_some]
          · rw [lookup_setEntry_of_ne hq, Function.update_of_ne hq]
            rfl

/-- A rollback that takes the saved value of its token and puts it back. -/
theorem restores_of_pops {body : String → Py S (List String)}
    (hunknown : ∀ token s, (T.entries s).lookup token = none → ∃ e, body token s = (.error e, s))
    (hknown : ∀ token s value, (T.entries s).lookup token = some value →
      ∃ changes s', body token s = (.ok changes, s') ∧
        T.view s' = T.restore value (T.view s) ∧
        T.entries s' = popEntry token (T.entries s) ∧ T.sequence s' = T.sequence s) :
    T.undoable.Restores body where
  keeps := by
    intro token s hvalid
    cases hsaved : (T.entries s).lookup token with
    | none =>
        obtain ⟨e, hbody⟩ := hunknown token s hsaved
        rw [hbody]
        exact hvalid
    | some value =>
        obtain ⟨changes, s', hbody, -, hentries, hsequence⟩ := hknown token s value hsaved
        rw [hbody]
        intro n hn
        rw [hentries, lookup_popEntry, hvalid n (hsequence ▸ hn), ite_self]
  unknown := by
    intro token s hsaved
    exact hunknown token s (Option.map_eq_none_iff.mp hsaved)
  known := by
    intro token s restore hsaved
    obtain ⟨value, hvalue, rfl⟩ := Option.map_eq_some_iff.mp hsaved
    obtain ⟨changes, s', hbody, hview, hentries, -⟩ := hknown token s value hvalue
    refine ⟨changes, s', hbody, hview, funext fun q => ?_⟩
    change ((T.entries s').lookup q).map T.restore = _
    rw [hentries, lookup_popEntry]
    by_cases hq : q = token
    · rw [if_pos hq, hq, Function.update_self, Option.map_none]
    · rw [if_neg hq, Function.update_of_ne hq]
      rfl

end TokenTable

end NetStrike.Shared
