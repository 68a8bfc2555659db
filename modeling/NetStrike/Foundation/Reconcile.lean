import Mathlib.Data.List.Induction
import Mathlib.Data.List.Nodup
import Mathlib.Data.List.Perm.Subperm

/-!
# Comparing keyed sequences

A baseline of entries with distinct keys is compared with an observed sequence in any order and with
any repetitions. Four tallies describe the difference: the keys that are missing, the entries under
unexpected keys, the repeated entries, and the keys with a changed value. All four are empty when the
observed sequence is a permutation of the baseline, and only then (`perm_iff`).

`scan` computes the tallies in one pass with two sets and three counters (`scan_tallies`).
-/

set_option autoImplicit false

namespace NetStrike.Foundation

namespace Reconcile

variable {κ α : Type} [DecidableEq κ] [DecidableEq α]

/-! ## Tallies -/

section Tallies

variable (baseline observed : List (κ × α))

/-- The keys of the baseline that were never observed. -/
def missing : List κ := (baseline.map Prod.fst).filter fun k => k ∉ observed.map Prod.fst

/-- The observed entries under keys outside the baseline. -/
def unexpected : List (κ × α) := observed.filter fun o => o.1 ∉ baseline.map Prod.fst

/-- The keys of the baseline that were observed with another value at least once. -/
def changed : List κ :=
  (baseline.filter fun b => observed.any fun o => o.1 = b.1 ∧ o.2 ≠ b.2).map Prod.fst

/-- The positions of a sequence whose key occurs at an earlier position. -/
def repeats (keys : List κ) : List Nat :=
  (List.range keys.length).filter fun i => ∃ j < i, keys[j]? = keys[i]?

end Tallies

theorem repeats_append_singleton (keys : List κ) (k : κ) :
    repeats (keys ++ [k]) = repeats keys ++ if k ∈ keys then [keys.length] else [] := by
  have hbefore : ∀ i < keys.length, (∃ j < i, (keys ++ [k])[j]? = (keys ++ [k])[i]?) ↔
      ∃ j < i, keys[j]? = keys[i]? := by
    intro i hi
    refine exists_congr fun j => and_congr_right fun hj => ?_
    rw [List.getElem?_append_left hi, List.getElem?_append_left (Nat.lt_trans hj hi)]
  have hlast : (∃ j < keys.length, (keys ++ [k])[j]? = (keys ++ [k])[keys.length]?) ↔ k ∈ keys := by
    rw [List.getElem?_append_right (Nat.le_refl _), Nat.sub_self, List.mem_iff_getElem?]
    constructor
    · rintro ⟨j, hj, heq⟩
      rw [List.getElem?_append_left hj] at heq
      exact ⟨j, heq⟩
    · rintro ⟨j, heq⟩
      have hj : j < keys.length := (List.getElem?_eq_some_iff.mp heq).1
      refine ⟨j, hj, ?_⟩
      rw [List.getElem?_append_left hj]
      exact heq
  unfold repeats
  rw [List.length_append, List.length_singleton, List.range_succ, List.filter_append]
  congr 1
  · refine List.filter_congr fun i hi => ?_
    exact decide_eq_decide.mpr (hbefore i (List.mem_range.mp hi))
  · have hdecide : decide (∃ j < keys.length, (keys ++ [k])[j]? = (keys ++ [k])[keys.length]?) =
        decide (k ∈ keys) := decide_eq_decide.mpr hlast
    rw [List.filter_singleton, hdecide]
    by_cases hk : k ∈ keys <;> simp [hk]

/-- Nothing is repeated in a sequence of distinct keys, and only there. -/
theorem repeats_eq_nil_iff (keys : List κ) : repeats keys = [] ↔ keys.Nodup := by
  induction keys using List.reverseRecOn with
  | nil => simp [repeats]
  | append_singleton keys k ih =>
      rw [repeats_append_singleton, List.append_eq_nil_iff, ih, List.nodup_append_comm,
        List.singleton_append, List.nodup_cons, and_comm]
      by_cases hk : k ∈ keys <;> simp [hk]

theorem missing_eq_nil_iff (baseline observed : List (κ × α)) :
    missing baseline observed = [] ↔
      ∀ k ∈ baseline.map Prod.fst, k ∈ observed.map Prod.fst := by
  simp [missing, List.filter_eq_nil_iff]

theorem unexpected_eq_nil_iff (baseline observed : List (κ × α)) :
    unexpected baseline observed = [] ↔ ∀ o ∈ observed, o.1 ∈ baseline.map Prod.fst := by
  simp [unexpected, List.filter_eq_nil_iff]

theorem changed_eq_nil_iff (baseline observed : List (κ × α)) :
    changed baseline observed = [] ↔
      ∀ b ∈ baseline, ∀ o ∈ observed, o.1 = b.1 → o.2 = b.2 := by
  simp only [changed, List.map_eq_nil_iff, List.filter_eq_nil_iff, List.any_eq_true,
    decide_eq_true_eq, not_exists, not_and, not_not]

theorem mem_changed {baseline observed : List (κ × α)} {k : κ} :
    k ∈ changed baseline observed ↔
      ∃ b ∈ baseline, b.1 = k ∧ ∃ o ∈ observed, o.1 = k ∧ o.2 ≠ b.2 := by
  simp only [changed, List.mem_map, List.mem_filter, List.any_eq_true, decide_eq_true_eq]
  constructor
  · rintro ⟨b, ⟨hb, o, ho, hkey, hvalue⟩, rfl⟩
    exact ⟨b, hb, rfl, o, ho, hkey, hvalue⟩
  · rintro ⟨b, hb, rfl, o, ho, hkey, hvalue⟩
    exact ⟨b, ⟨hb, o, ho, hkey, hvalue⟩, rfl⟩

omit [DecidableEq κ] [DecidableEq α] in
/-- Entries with distinct keys are determined by their keys. -/
theorem eq_of_key {entries : List (κ × α)} (hnodup : (entries.map Prod.fst).Nodup) {a b : κ × α}
    (ha : a ∈ entries) (hb : b ∈ entries) (hkey : a.1 = b.1) : a = b :=
  List.inj_on_of_nodup_map hnodup ha hb hkey

/-- **The tallies decide equality as multisets.** -/
theorem perm_iff {baseline observed : List (κ × α)} (hnodup : (baseline.map Prod.fst).Nodup) :
    observed.Perm baseline ↔
      missing baseline observed = [] ∧ changed baseline observed = [] ∧
        repeats (observed.map Prod.fst) = [] ∧ unexpected baseline observed = [] := by
  rw [missing_eq_nil_iff, changed_eq_nil_iff, repeats_eq_nil_iff, unexpected_eq_nil_iff]
  constructor
  · intro hperm
    have hkeys := hperm.map Prod.fst
    refine ⟨fun k hk => hkeys.mem_iff.mpr hk, fun b hb o ho hkey => ?_,
      hkeys.nodup_iff.mpr hnodup, fun o ho => hkeys.mem_iff.mp (List.mem_map_of_mem ho)⟩
    exact congrArg Prod.snd (eq_of_key hnodup (hperm.mem_iff.mp ho) hb hkey)
  · rintro ⟨hmissing, hchanged, hdistinct, hunexpected⟩
    refine (List.perm_ext_iff_of_nodup (List.Nodup.of_map _ hdistinct)
      (List.Nodup.of_map _ hnodup)).mpr fun e => ?_
    constructor
    · intro he
      obtain ⟨b, hb, hkey⟩ := List.mem_map.mp (hunexpected e he)
      have heq : e = b := Prod.ext hkey.symm (hchanged b hb e he hkey.symm)
      exact heq ▸ hb
    · intro he
      obtain ⟨o, ho, hkey⟩ := List.mem_map.mp (hmissing e.1 (List.mem_map_of_mem he))
      have heq : o = e := Prod.ext hkey (hchanged e he o ho hkey)
      exact heq ▸ ho

/-! ## One pass -/

/-- What a pass over the observed sequence remembers. -/
structure Scan (κ : Type) where
  seen : List κ
  changed : List κ
  count : Nat
  duplicates : Nat
  unexpected : Nat

/-- Nothing seen yet. -/
def Scan.start : Scan κ := ⟨[], [], 0, 0, 0⟩

/-- One entry of the observed sequence. -/
def Scan.step (baseline : List (κ × α)) (s : Scan κ) (o : κ × α) : Scan κ where
  seen := s.seen.insert o.1
  changed :=
    match baseline.lookup o.1 with
    | none => s.changed
    | some value => if value = o.2 then s.changed else s.changed.insert o.1
  count := s.count + 1
  duplicates := s.duplicates + if o.1 ∈ s.seen then 1 else 0
  unexpected := s.unexpected + if (baseline.lookup o.1).isNone then 1 else 0

/-- The whole pass. -/
def scan (baseline observed : List (κ × α)) : Scan κ := observed.foldl (Scan.step baseline) .start

/-- The pass has counted the entries so far. -/
structure Scan.Tallies (baseline observed : List (κ × α)) (s : Scan κ) : Prop where
  seen_nodup : s.seen.Nodup
  mem_seen : ∀ k, k ∈ s.seen ↔ k ∈ observed.map Prod.fst
  changed_nodup : s.changed.Nodup
  mem_changed : ∀ k, k ∈ s.changed ↔ k ∈ Reconcile.changed baseline observed
  count : s.count = observed.length
  duplicates : s.duplicates = (repeats (observed.map Prod.fst)).length
  unexpected : s.unexpected = (Reconcile.unexpected baseline observed).length

omit [DecidableEq α] in
theorem lookup_eq_some_iff {entries : List (κ × α)} (hnodup : (entries.map Prod.fst).Nodup)
    {k : κ} {a : α} : entries.lookup k = some a ↔ (k, a) ∈ entries := by
  induction entries with
  | nil => simp
  | cons e es ih =>
      obtain ⟨l, b⟩ := e
      rw [List.map_cons, List.nodup_cons] at hnodup
      rw [List.lookup_cons, List.mem_cons, Prod.mk.injEq]
      cases hk : k == l with
      | true =>
          obtain rfl := eq_of_beq hk
          have hout : (k, a) ∉ es := fun hmem => hnodup.1 (List.mem_map.mpr ⟨(k, a), hmem, rfl⟩)
          simp [hout, eq_comm]
      | false =>
          have hne : k ≠ l := ne_of_beq_false hk
          simp [hne, ih hnodup.2]

omit [DecidableEq α] in
theorem lookup_isNone_iff {entries : List (κ × α)} {k : κ} :
    (entries.lookup k).isNone = true ↔ k ∉ entries.map Prod.fst := by
  rw [Option.isNone_iff_eq_none, List.lookup_eq_none_iff, List.mem_map, not_exists]
  refine forall_congr' fun e => ?_
  rw [not_and, bne_iff_ne]
  exact imp_congr_right fun _ => ne_comm

/-- An entry more changes the changed keys by at most its own. -/
theorem mem_changed_append {baseline observed : List (κ × α)} {o : κ × α} {k : κ} :
    k ∈ changed baseline (observed ++ [o]) ↔
      k ∈ changed baseline observed ∨ k = o.1 ∧ ∃ b ∈ baseline, b.1 = o.1 ∧ o.2 ≠ b.2 := by
  simp only [mem_changed, List.mem_append, List.mem_singleton]
  constructor
  · rintro ⟨b, hb, rfl, o', ho' | rfl, hkey, hvalue⟩
    · exact Or.inl ⟨b, hb, rfl, o', ho', hkey, hvalue⟩
    · exact Or.inr ⟨hkey.symm, b, hb, hkey.symm, hvalue⟩
  · rintro (⟨b, hb, rfl, o', ho', hkey, hvalue⟩ | ⟨rfl, b, hb, hkey, hvalue⟩)
    · exact ⟨b, hb, rfl, o', Or.inl ho', hkey, hvalue⟩
    · exact ⟨b, hb, hkey, o, Or.inr rfl, rfl, hvalue⟩

/-- One entry more. -/
theorem Scan.Tallies.step {baseline observed : List (κ × α)} {s : Scan κ}
    (hnodup : (baseline.map Prod.fst).Nodup) (h : s.Tallies baseline observed) (o : κ × α) :
    (s.step baseline o).Tallies baseline (observed ++ [o]) where
  seen_nodup := h.seen_nodup.insert
  mem_seen k := by
    rw [Scan.step, List.mem_insert_iff, h.mem_seen, List.map_append, List.mem_append, or_comm]
    simp
  changed_nodup := by
    unfold Scan.step
    dsimp only
    split
    · exact h.changed_nodup
    · split
      · exact h.changed_nodup
      · exact h.changed_nodup.insert
  mem_changed k := by
    rw [mem_changed_append, ← h.mem_changed k]
    unfold Scan.step
    dsimp only
    split
    · next hnone =>
        have hout : o.1 ∉ baseline.map Prod.fst := lookup_isNone_iff.mp (by rw [hnone]; rfl)
        constructor
        · exact Or.inl
        · rintro (hk | ⟨-, b, hb, hkey, -⟩)
          · exact hk
          · exact absurd (hkey ▸ List.mem_map_of_mem hb) hout
    · next value hsome =>
        have hmem := (lookup_eq_some_iff hnodup).mp hsome
        have honly : ∀ b ∈ baseline, b.1 = o.1 → b.2 = value := fun b hb hkey =>
          congrArg Prod.snd (eq_of_key hnodup hb hmem hkey)
        split
        · next heq =>
            constructor
            · exact Or.inl
            · rintro (hk | ⟨-, b, hb, hkey, hvalue⟩)
              · exact hk
              · exact absurd (heq ▸ (honly b hb hkey).symm) hvalue
        · next hne =>
            rw [List.mem_insert_iff, or_comm]
            refine or_congr_right ⟨fun hk => ⟨hk, (o.1, value), hmem, rfl, Ne.symm hne⟩, And.left⟩
  count := by rw [Scan.step, h.count, List.length_append, List.length_singleton]
  duplicates := by
    rw [Scan.step, h.duplicates, List.map_append, List.map_singleton, repeats_append_singleton,
      List.length_append]
    by_cases hk : o.1 ∈ observed.map Prod.fst
    · rw [if_pos ((h.mem_seen o.1).mpr hk), if_pos hk, List.length_singleton]
    · rw [if_neg fun hs => hk ((h.mem_seen o.1).mp hs), if_neg hk, List.length_nil]
  unexpected := by
    rw [Scan.step, h.unexpected, Reconcile.unexpected, Reconcile.unexpected, List.filter_append,
      List.length_append]
    by_cases hk : o.1 ∈ baseline.map Prod.fst
    · rw [if_neg fun hs => lookup_isNone_iff.mp hs hk,
        List.filter_cons_of_neg (by simpa using hk), List.filter_nil, List.length_nil]
    · rw [if_pos (lookup_isNone_iff.mpr hk), List.filter_cons_of_pos (by simpa using hk),
        List.filter_nil, List.length_singleton]

/-- A pass from any point. -/
theorem Scan.Tallies.foldl {baseline : List (κ × α)} (hnodup : (baseline.map Prod.fst).Nodup)
    (after : List (κ × α)) {observed : List (κ × α)} {s : Scan κ}
    (h : s.Tallies baseline observed) :
    (after.foldl (Scan.step baseline) s).Tallies baseline (observed ++ after) := by
  induction after generalizing observed s with
  | nil => simpa using h
  | cons o after ih =>
      have hstep := ih (h.step hnodup o)
      rwa [List.append_assoc, List.singleton_append] at hstep

/-- **The pass computes the tallies.** -/
theorem scan_tallies {baseline : List (κ × α)} (hnodup : (baseline.map Prod.fst).Nodup)
    (observed : List (κ × α)) : (scan baseline observed).Tallies baseline observed := by
  have hempty : Scan.Tallies baseline [] Scan.start := by
    refine ⟨?_, ?_, ?_, ?_, rfl, rfl, rfl⟩
    · exact List.nodup_nil
    · intro k
      simp [Scan.start]
    · exact List.nodup_nil
    · intro k
      simp [Scan.start, changed]
  exact hempty.foldl hnodup observed

/-- The changed keys are as many as the pass says. -/
theorem length_scan_changed {baseline : List (κ × α)} (hnodup : (baseline.map Prod.fst).Nodup)
    (observed : List (κ × α)) :
    (scan baseline observed).changed.length = (changed baseline observed).length := by
  have h := scan_tallies hnodup observed
  have hsublist : (changed baseline observed).Sublist (baseline.map Prod.fst) :=
    List.filter_sublist.map Prod.fst
  exact ((List.perm_ext_iff_of_nodup h.changed_nodup (hsublist.nodup hnodup)).mpr
    h.mem_changed).length_eq

end Reconcile

end NetStrike.Foundation
