import Mathlib.Logic.Function.Basic

/-!
# Undoing recorded changes in reverse order

An `UndoLedger` shows a value `view`. Under tokens it has saved how to put back what changes have
overwritten, and it knows the token of the last change that each client made. A change that is
recorded saves under a new token, or changes nothing and saves nothing. `undo` puts back what the
token of a client saved, and spends the token.

A client that makes a second change gives up the token of its first. `Revocable` excludes this for
changes that changed something; then undoing in reverse order puts back everything
(`undoAll_of_recorded`).
-/

set_option autoImplicit false

namespace NetStrike.Foundation

universe u v w

variable {ι : Type u} {τ : Type v} {ν : Type w}

/-- A shown value with what is saved under tokens, and the token of each client. -/
@[ext] structure UndoLedger (ι : Type u) (τ : Type v) (ν : Type w) where
  view : ν
  saved : τ → Option (ν → ν)
  owned : ι → Option (Option τ)

/-- A recorded change: its client, and the value before and after it. -/
structure RecordedChange (ι : Type u) (ν : Type w) where
  client : ι
  before : ν
  after : ν

namespace UndoLedger

section

variable [DecidableEq ι] [DecidableEq τ]

/-- The change of a client from `s` to `t` is recorded. -/
def Records (client : ι) (s t : UndoLedger ι τ ν) : Prop :=
  (t.view = s.view ∧ t.saved = s.saved ∧ t.owned = Function.update s.owned client (some none)) ∨
    ∃ token restore, s.saved token = none ∧ restore t.view = s.view ∧
      t.saved = Function.update s.saved token (some restore) ∧
      t.owned = Function.update s.owned client (some (some token))

/-- Changes recorded one after the other. -/
inductive Recorded : UndoLedger ι τ ν → List (RecordedChange ι ν) → UndoLedger ι τ ν → Prop where
  | nil (s : UndoLedger ι τ ν) : Recorded s [] s
  | cons {s s' t : UndoLedger ι τ ν} {client : ι} {log : List (RecordedChange ι ν)}
      (hfirst : Records client s s') (hrest : Recorded s' log t) :
      Recorded s (⟨client, s.view, s'.view⟩ :: log) t

end

section

variable [DecidableEq τ]

/-- Put back what the token of the client saved, and spend the token. -/
def undo (client : ι) (s : UndoLedger ι τ ν) : UndoLedger ι τ ν :=
  match s.owned client with
  | some (some token) =>
      match s.saved token with
      | some restore =>
          { s with view := restore s.view, saved := Function.update s.saved token none }
      | none => s
  | _ => s

/-- Undo the changes in reverse order. -/
def undoAll (log : List (RecordedChange ι ν)) (s : UndoLedger ι τ ν) : UndoLedger ι τ ν :=
  log.foldr (fun change t => t.undo change.client) s

/-- The client has nothing left to undo. -/
def Spent (client : ι) (s : UndoLedger ι τ ν) : Prop :=
  ∀ token, s.owned client = some (some token) → s.saved token = none

/-- No change that changed something is followed by one of the same client. -/
def Revocable : List (RecordedChange ι ν) → Prop
  | [] => True
  | change :: log =>
      (change.after = change.before ∨ ∀ later ∈ log, later.client ≠ change.client) ∧ Revocable log

/-! ## One step -/

@[simp] theorem undo_owned (client : ι) (s : UndoLedger ι τ ν) :
    (s.undo client).owned = s.owned := by
  unfold undo
  split
  · split <;> rfl
  · rfl

theorem undo_of_spent {client : ι} {s : UndoLedger ι τ ν} (h : s.Spent client) :
    s.undo client = s := by
  unfold undo
  split
  next token howned =>
    rw [h token howned]
  · rfl

theorem undo_of_saved {client : ι} {token : τ} {restore : ν → ν} {s : UndoLedger ι τ ν}
    (howned : s.owned client = some (some token)) (hsaved : s.saved token = some restore) :
    s.undo client =
      { s with view := restore s.view, saved := Function.update s.saved token none } := by
  unfold undo
  rw [howned]
  dsimp only
  rw [hsaved]

/-- To undo spends, and keeps spent what is. -/
theorem spent_undo (client other : ι) (s : UndoLedger ι τ ν) :
    (s.undo client).Spent client ∧ (s.Spent other → (s.undo client).Spent other) := by
  by_cases hspent : s.Spent client
  · rw [undo_of_spent hspent]
    exact ⟨hspent, id⟩
  · simp only [Spent, not_forall] at hspent
    obtain ⟨token, howned, hsaved⟩ := hspent
    obtain ⟨restore, hrestore⟩ := Option.ne_none_iff_exists'.mp hsaved
    rw [undo_of_saved howned hrestore]
    constructor
    · intro token' howned'
      rw [howned] at howned'
      cases howned'
      exact Function.update_self _ _ _
    · intro hother token' howned'
      by_cases htoken : token' = token
      · rw [htoken]
        exact Function.update_self _ _ _
      · exact (Function.update_of_ne htoken _ _).trans (hother token' howned')

theorem undoAll_owned (log : List (RecordedChange ι ν)) (s : UndoLedger ι τ ν) :
    (s.undoAll log).owned = s.owned := by
  induction log with
  | nil => rfl
  | cons change log ih => exact (undo_owned _ _).trans ih

/-- Everything that was undone is spent. -/
theorem spent_undoAll (log : List (RecordedChange ι ν)) (s : UndoLedger ι τ ν) :
    ∀ change ∈ log, (s.undoAll log).Spent change.client := by
  induction log with
  | nil => exact fun change h => nomatch h
  | cons change log ih =>
      intro other hother
      rcases List.mem_cons.mp hother with rfl | hother
      · exact (spent_undo other.client other.client _).1
      · exact (spent_undo change.client other.client _).2 (ih other hother)

end

section

variable [DecidableEq ι] [DecidableEq τ]

/-- A client that records nothing keeps its token. -/
theorem Recorded.owned {s t : UndoLedger ι τ ν} {log : List (RecordedChange ι ν)}
    (h : Recorded s log t) {client : ι} (hclient : ∀ change ∈ log, change.client ≠ client) :
    t.owned client = s.owned client := by
  induction h with
  | nil s => rfl
  | cons hfirst hrest ih =>
      rename_i client' _
      have hne : client ≠ client' := fun h => hclient _ List.mem_cons_self h.symm
      rw [ih fun change hchange => hclient change (List.mem_cons_of_mem _ hchange)]
      rcases hfirst with ⟨-, -, howned⟩ | ⟨_, _, -, -, -, howned⟩
      · rw [howned, Function.update_of_ne hne]
      · rw [howned, Function.update_of_ne hne]

/-! ## All steps -/

/-- Undoing the recorded changes in reverse order puts back the value before them, and what was saved
before them is still saved. -/
theorem undoAll_of_recorded {s t : UndoLedger ι τ ν} {log : List (RecordedChange ι ν)}
    (h : Recorded s log t) (hrevocable : Revocable log) :
    (t.undoAll log).view = s.view ∧
      ∀ token, s.saved token ≠ none → (t.undoAll log).saved token = s.saved token := by
  induction h with
  | nil s => exact ⟨rfl, fun _ _ => rfl⟩
  | cons hfirst hrest ih =>
      rename_i s s' t client log
      obtain ⟨hview, hsaved⟩ := ih hrevocable.2
      change ((t.undoAll log).undo client).view = s.view ∧
        ∀ token, s.saved token ≠ none → ((t.undoAll log).undo client).saved token = s.saved token
      -- What was saved before the first change is still there once the later ones are undone.
      have hkept : ∀ token, s.saved token ≠ none →
          (t.undoAll log).saved token = s.saved token := by
        intro token htoken
        rcases hfirst with ⟨-, hsaved', -⟩ | ⟨token', restore, hfresh, -, hsaved', -⟩
        · rw [hsaved token (by rwa [hsaved']), hsaved']
        · have hne : token ≠ token' := fun h => htoken (h ▸ hfresh)
          have hsame : s'.saved token = s.saved token := by
            rw [hsaved', Function.update_of_ne hne]
          rw [hsaved token (by rwa [hsame]), hsame]
      by_cases hlater : ∀ later ∈ log, later.client ≠ client
      · have howned : (t.undoAll log).owned client = s'.owned client := by
          rw [undoAll_owned, hrest.owned hlater]
        rcases hfirst with ⟨hsame, -, howned'⟩ |
          ⟨token, restore, hfresh, hrestore, hsaved', howned'⟩
        · have hspent : (t.undoAll log).Spent client := by
            intro token htoken
            rw [howned, howned', Function.update_self] at htoken
            cases htoken
          rw [undo_of_spent hspent]
          exact ⟨hview.trans hsame, hkept⟩
        · have hstill : (t.undoAll log).saved token = some restore := by
            have hnew : s'.saved token = some restore := by
              rw [hsaved', Function.update_self]
            rw [hsaved token (by rw [hnew]; exact Option.some_ne_none _), hnew]
          rw [undo_of_saved (by rw [howned, howned', Function.update_self]) hstill]
          refine ⟨by rw [hview, hrestore], fun other hother => ?_⟩
          have hne : other ≠ token := fun h => hother (h ▸ hfresh)
          exact (Function.update_of_ne hne _ _).trans (hkept other hother)
      · obtain ⟨later, hmem, hclient⟩ : ∃ later ∈ log, later.client = client := by
          simpa using hlater
        rw [undo_of_spent (hclient ▸ spent_undoAll log t later hmem)]
        rcases hrevocable.1 with hsame | hnever
        · exact ⟨hview.trans hsame, hkept⟩
        · exact absurd hclient (hnever later hmem)

/-- Changes recorded in two stretches. -/
theorem Recorded.split {s t : UndoLedger ι τ ν} {first second : List (RecordedChange ι ν)}
    (h : Recorded s (first ++ second) t) : ∃ m, Recorded s first m ∧ Recorded m second t := by
  induction first generalizing s with
  | nil => exact ⟨s, .nil s, h⟩
  | cons change first ih =>
      cases h with
      | cons hfirst hrest =>
          obtain ⟨m, hm, hsecond⟩ := ih hrest
          exact ⟨m, .cons hfirst hm, hsecond⟩

/-- A change recorded after others. -/
theorem Recorded.snoc {s t u : UndoLedger ι τ ν} {log : List (RecordedChange ι ν)} {client : ι}
    (h : Recorded s log t) (hlast : Records client t u) :
    Recorded s (log ++ [⟨client, t.view, u.view⟩]) u := by
  induction h with
  | nil s => exact .cons hlast (.nil u)
  | cons hfirst _ ih => exact .cons hfirst (ih hlast)

end

theorem Revocable.right {first second : List (RecordedChange ι ν)}
    (h : Revocable (first ++ second)) : Revocable second := by
  induction first with
  | nil => exact h
  | cons change first ih => exact ih h.2

end UndoLedger

end NetStrike.Foundation
