import Mathlib.Data.List.Sort
import Mathlib.Order.Basic
import NetStrike.Foundation.Runs

/-!
# Paging through a growing log

A log is a list of items in ascending order of their keys. A page holds the first items above a
cursor, and the cursor moves to the key of its last item. `Caught` says that the pages read so far
hold exactly the items up to the cursor.

A page keeps a reader caught up (`Caught.page`), growth of the log does so exactly when nothing is
inserted at or below the cursor: an item inserted there is `Missed` from then on.
-/

set_option autoImplicit false

namespace NetStrike.Foundation

universe u v

variable {α : Type u} {κ : Type v} [LinearOrder κ] (key : α → κ)

/-- Strictly ascending keys. -/
def Ascending (xs : List α) : Prop := xs.Pairwise fun a b => key a < key b

/-- The items above the cursor. -/
def itemsAbove (cursor : κ) (xs : List α) : List α := xs.filter fun x => cursor < key x

/-- The items up to the cursor. -/
def itemsUpTo (cursor : κ) (xs : List α) : List α := xs.filter fun x => key x ≤ cursor

/-- The page of at most `limit` items after the cursor. -/
def pageAfter (cursor : κ) (limit : Nat) (xs : List α) : List α :=
  (itemsAbove key cursor xs).take limit

/-- The cursor after a page; an empty page leaves it where it is. -/
def cursorAfter (cursor : κ) (items : List α) : κ :=
  match items.getLast? with
  | some item => key item
  | none => cursor

/-- The pages read so far hold the items up to the cursor, in their order. -/
def Caught (xs : List α) (cursor : κ) (got : List α) : Prop := got = itemsUpTo key cursor xs

/-- Some item up to the cursor is on none of the pages read so far. -/
def Missed (xs : List α) (cursor : κ) (got : List α) : Prop :=
  ∃ x ∈ xs, key x ≤ cursor ∧ x ∉ got

variable {key}

@[simp] theorem mem_itemsAbove {cursor : κ} {xs : List α} {x : α} :
    x ∈ itemsAbove key cursor xs ↔ x ∈ xs ∧ cursor < key x := by simp [itemsAbove]

@[simp] theorem mem_itemsUpTo {cursor : κ} {xs : List α} {x : α} :
    x ∈ itemsUpTo key cursor xs ↔ x ∈ xs ∧ key x ≤ cursor := by simp [itemsUpTo]

theorem Missed.not_caught {xs got : List α} {cursor : κ} (h : Missed key xs cursor got) :
    ¬ Caught key xs cursor got := by
  intro hcaught
  obtain ⟨x, hx, hle, hnot⟩ := h
  rw [hcaught] at hnot
  exact hnot (mem_itemsUpTo.mpr ⟨hx, hle⟩)

theorem Ascending.filter {xs : List α} (h : Ascending key xs) (p : α → Bool) :
    Ascending key (xs.filter p) := List.Pairwise.filter p h

/-- Two ascending lists of the same items are the same list. -/
theorem Ascending.eq_of_perm {xs ys : List α} (hx : Ascending key xs) (hy : Ascending key ys)
    (h : xs.Perm ys) : xs = ys :=
  h.eq_of_pairwise (fun _ _ _ _ hab hba => absurd hab (not_lt_of_gt hba)) hx hy

/-- In an ascending log the items up to the cursor come first. -/
theorem Ascending.upTo_append_above {xs : List α} (h : Ascending key xs) (cursor : κ) :
    itemsUpTo key cursor xs ++ itemsAbove key cursor xs = xs := by
  induction xs with
  | nil => rfl
  | cons x xs ih =>
      obtain ⟨hfirst, hrest⟩ := List.pairwise_cons.mp h
      by_cases hx : key x ≤ cursor
      · have hnot : ¬ cursor < key x := not_lt_of_ge hx
        simp only [itemsUpTo, itemsAbove, List.filter_cons, hx, hnot, decide_true, decide_false,
          if_true, Bool.false_eq_true, if_false, List.cons_append, List.cons.injEq, true_and]
        exact ih hrest
      · have hlt : cursor < key x := lt_of_not_ge hx
        -- Everything after an item above the cursor is above it as well.
        have hnone : itemsUpTo key cursor (x :: xs) = [] := by
          refine List.filter_eq_nil_iff.mpr fun y hy => ?_
          rw [decide_eq_true_eq]
          rcases List.mem_cons.mp hy with rfl | hmem
          · exact hx
          · exact not_le_of_gt (hlt.trans (hfirst y hmem))
        have hall : itemsAbove key cursor (x :: xs) = x :: xs := by
          refine List.filter_eq_self.mpr fun y hy => ?_
          rw [decide_eq_true_eq]
          rcases List.mem_cons.mp hy with rfl | hmem
          · exact hlt
          · exact hlt.trans (hfirst y hmem)
        rw [hnone, hall, List.nil_append]

/-- In a list `front ++ back` whose cut lies at the cursor, the items up to it are the front. -/
theorem itemsUpTo_append {front back : List α} {cursor : κ} (hfront : ∀ x ∈ front, key x ≤ cursor)
    (hback : ∀ x ∈ back, cursor < key x) : itemsUpTo key cursor (front ++ back) = front := by
  have hkeep : front.filter (fun x => key x ≤ cursor) = front :=
    List.filter_eq_self.mpr fun x hx => decide_eq_true (hfront x hx)
  have hdrop : back.filter (fun x => key x ≤ cursor) = [] :=
    List.filter_eq_nil_iff.mpr fun x hx => by simpa using hback x hx
  rw [itemsUpTo, List.filter_append, hkeep, hdrop, List.append_nil]

/-- What a page and its cursor do to an ascending log: the page extends the items up to the cursor,
and what is left lies above the new cursor. -/
theorem Ascending.pageAfter_cut {xs : List α} (h : Ascending key xs) (cursor : κ) (limit : Nat) :
    itemsUpTo key (cursorAfter key cursor (pageAfter key cursor limit xs)) xs =
        itemsUpTo key cursor xs ++ pageAfter key cursor limit xs ∧
      itemsAbove key (cursorAfter key cursor (pageAfter key cursor limit xs)) xs =
        (itemsAbove key cursor xs).drop limit := by
  have hsplit : itemsUpTo key cursor xs ++ pageAfter key cursor limit xs ++
      (itemsAbove key cursor xs).drop limit = xs := by
    rw [List.append_assoc, pageAfter, List.take_append_drop]
    exact h.upTo_append_above cursor
  have hupper := h.upTo_append_above
    (cursorAfter key cursor (pageAfter key cursor limit xs))
  suffices hcut : itemsUpTo key (cursorAfter key cursor (pageAfter key cursor limit xs)) xs =
      itemsUpTo key cursor xs ++ pageAfter key cursor limit xs by
    refine ⟨hcut, ?_⟩
    rw [hcut] at hupper
    exact List.append_cancel_left (hupper.trans hsplit.symm)
  have hrest : ∀ x ∈ (itemsAbove key cursor xs).drop limit, cursor < key x := fun x hx =>
    (mem_itemsAbove.mp (List.mem_of_mem_drop hx)).2
  rcases List.eq_nil_or_concat (pageAfter key cursor limit xs) with hpage | ⟨init, last, hpage⟩
  · rw [hpage, List.append_nil]
    rfl
  · rw [List.concat_eq_append] at hpage
    have hcursor : cursorAfter key cursor (pageAfter key cursor limit xs) = key last := by
      rw [hpage, cursorAfter, List.getLast?_concat]
    have hlast : cursor < key last :=
      (mem_itemsAbove.mp (List.mem_of_mem_take
        (show last ∈ pageAfter key cursor limit xs by rw [hpage]; simp))).2
    have hasc : Ascending key ((itemsUpTo key cursor xs ++ init) ++ ([last] ++
        (itemsAbove key cursor xs).drop limit)) := by
      rw [← List.append_assoc, List.append_assoc _ init [last], ← hpage, hsplit]
      exact h
    obtain ⟨-, hback, hcross⟩ := List.pairwise_append.mp hasc
    rw [hcursor]
    conv_lhs => rw [← hsplit]
    refine itemsUpTo_append (fun x hx => ?_) fun x hx => ?_
    · rw [hpage, ← List.append_assoc] at hx
      rcases List.mem_append.mp hx with hinit | hlast'
      · exact (hcross x hinit last (by simp)).le
      · rw [List.mem_singleton.mp hlast']
    · exact (List.pairwise_cons.mp hback).1 x hx

/-- There is more after a page exactly when some item lies above its cursor. -/
theorem Ascending.more_iff {xs : List α} (h : Ascending key xs) (cursor : κ) (limit : Nat) :
    limit < (itemsAbove key cursor xs).length ↔
      ∃ x ∈ xs, cursorAfter key cursor (pageAfter key cursor limit xs) < key x := by
  have hcut := (h.pageAfter_cut cursor limit).2
  have hlength := congrArg List.length hcut
  rw [List.length_drop] at hlength
  have hmore : limit < (itemsAbove key cursor xs).length ↔
      0 < (itemsAbove key (cursorAfter key cursor (pageAfter key cursor limit xs)) xs).length := by
    omega
  rw [hmore, List.length_pos_iff_exists_mem]
  simp only [mem_itemsAbove]

/-- A page keeps the reader caught up. -/
theorem Caught.page {xs got : List α} {cursor : κ} (hcaught : Caught key xs cursor got)
    (h : Ascending key xs) (limit : Nat) :
    Caught key xs (cursorAfter key cursor (pageAfter key cursor limit xs))
      (got ++ pageAfter key cursor limit xs) := by
  rw [Caught, (h.pageAfter_cut cursor limit).1, hcaught]

/-- The cursor never goes back. -/
theorem le_cursorAfter (cursor : κ) (limit : Nat) (xs : List α) :
    cursor ≤ cursorAfter key cursor (pageAfter key cursor limit xs) := by
  unfold cursorAfter
  cases hlast : (pageAfter key cursor limit xs).getLast? with
  | none => exact le_refl cursor
  | some x =>
      have hmem := List.mem_of_getLast? hlast
      exact (mem_itemsAbove.mp (List.mem_of_mem_take hmem)).2.le

/-- A page leaves a missed item missed. -/
theorem Missed.page {xs got : List α} {cursor : κ} (h : Missed key xs cursor got) (limit : Nat) :
    Missed key xs (cursorAfter key cursor (pageAfter key cursor limit xs))
      (got ++ pageAfter key cursor limit xs) := by
  obtain ⟨x, hx, hle, hnot⟩ := h
  refine ⟨x, hx, hle.trans (le_cursorAfter cursor limit xs), fun hgot => ?_⟩
  rcases List.mem_append.mp hgot with hold | hpage
  · exact hnot hold
  · have habove := (mem_itemsAbove.mp (List.mem_of_mem_take hpage)).2
    exact absurd hle (not_le_of_gt habove)

/-- Growth leaves a missed item missed. -/
theorem Missed.grow {xs ys got : List α} {cursor : κ} (h : Missed key xs cursor got)
    (hgrow : xs ⊆ ys) : Missed key ys cursor got := by
  obtain ⟨x, hx, hle, hnot⟩ := h
  exact ⟨x, hgrow hx, hle, hnot⟩

/-- An item that comes in at or below the cursor is missed. -/
theorem Caught.missed {xs ys got : List α} {cursor : κ} (h : Caught key xs cursor got) {x : α}
    (hnew : x ∉ xs) (hx : x ∈ ys) (hle : key x ≤ cursor) : Missed key ys cursor got := by
  refine ⟨x, hx, hle, fun hgot => ?_⟩
  rw [h] at hgot
  exact hnew (mem_itemsUpTo.mp hgot).1

/-- Items that come in above the cursor keep the reader caught up. -/
theorem Caught.grow {xs ys new got : List α} {cursor : κ} (h : Caught key xs cursor got)
    (hx : Ascending key xs) (hy : Ascending key ys) (hperm : ys.Perm (new ++ xs))
    (habove : ∀ x ∈ new, cursor < key x) : Caught key ys cursor got := by
  have hnone : new.filter (fun x => key x ≤ cursor) = [] :=
    List.filter_eq_nil_iff.mpr fun x hmem => by simpa using habove x hmem
  have hsame := hperm.filter fun x => key x ≤ cursor
  rw [List.filter_append, hnone, List.nil_append] at hsame
  rw [Caught, h]
  exact ((hy.filter _).eq_of_perm (hx.filter _) hsame).symm

end NetStrike.Foundation
