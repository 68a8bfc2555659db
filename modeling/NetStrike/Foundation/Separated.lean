import Mathlib.Data.List.Nodup

/-!
# Separated texts

`split` cuts a text at every separator and `join` puts one between two parts; `split_join` takes a
joined text apart again. `frame` writes a record of a name, a separator and a field of fixed width;
a sequence of such records can be read back in one way only (`flatMap_frame_inj`).

`zero_notMem_utf8` keeps the zero byte free as a separator of UTF-8 texts.
-/

set_option autoImplicit false

namespace NetStrike.Foundation

universe u

variable {α : Type u}

/-! ## Split and join -/

/-- The parts between the separators; there is always at least one. -/
def split [DecidableEq α] (sep : α) : List α → List (List α)
  | [] => [[]]
  | a :: as =>
      if a = sep then [] :: split sep as
      else
        match split sep as with
        | [] => [[a]]
        | part :: parts => (a :: part) :: parts

/-- The parts with a separator between each two. -/
def join (sep : α) : List (List α) → List α
  | [] => []
  | [part] => part
  | part :: next :: parts => part ++ sep :: join sep (next :: parts)

-- Both are rewritten with case by case from here on.
attribute [local simp] split join

section Split

variable [DecidableEq α] {sep : α}

theorem split_ne_nil (text : List α) : split sep text ≠ [] := by
  cases text with
  | nil => exact List.cons_ne_nil _ _
  | cons a as =>
      rw [split]
      split_ifs
      · exact List.cons_ne_nil _ _
      · split <;> exact List.cons_ne_nil _ _

/-- A text without separators is one part. -/
theorem split_of_notMem {part : List α} (h : sep ∉ part) : split sep part = [part] := by
  induction part with
  | nil => rfl
  | cons a as ih =>
      rw [List.mem_cons, not_or] at h
      rw [split, if_neg (Ne.symm h.1), ih h.2]

/-- The first part ends at the first separator. -/
theorem split_append {part : List α} (h : sep ∉ part) (rest : List α) :
    split sep (part ++ sep :: rest) = part :: split sep rest := by
  induction part with
  | nil => rw [List.nil_append, split, if_pos rfl]
  | cons a as ih =>
      rw [List.mem_cons, not_or] at h
      rw [List.cons_append, split, if_neg (Ne.symm h.1), ih h.2]

/-- A text is split on both sides of a separator. -/
theorem split_append_sep (text rest : List α) :
    split sep (text ++ sep :: rest) = split sep text ++ split sep rest := by
  induction text with
  | nil => exact split_append List.not_mem_nil rest
  | cons a as ih =>
      rw [List.cons_append, split, split, ih]
      by_cases ha : a = sep
      · rw [if_pos ha, if_pos ha]
        rfl
      · rw [if_neg ha, if_neg ha]
        cases hsplit : split sep as with
        | nil => exact absurd hsplit (split_ne_nil as)
        | cons part parts => rfl

/-- **Joined parts are read back.** -/
theorem split_join {parts : List (List α)} (hne : parts ≠ []) (h : ∀ part ∈ parts, sep ∉ part) :
    split sep (join sep parts) = parts := by
  induction parts with
  | nil => exact absurd rfl hne
  | cons part parts ih =>
      rw [List.forall_mem_cons] at h
      cases parts with
      | nil => exact split_of_notMem h.1
      | cons next parts =>
          rw [join, split_append h.1, ih (List.cons_ne_nil _ _) h.2]

/-- Different lists of parts have different texts. -/
theorem join_inj {xs ys : List (List α)} (hxs : xs ≠ []) (hys : ys ≠ [])
    (hx : ∀ part ∈ xs, sep ∉ part) (hy : ∀ part ∈ ys, sep ∉ part)
    (h : join sep xs = join sep ys) : xs = ys := by
  rw [← split_join hxs hx, h, split_join hys hy]

/-- A text has one part more than separators. -/
theorem length_split (text : List α) : (split sep text).length = text.count sep + 1 := by
  induction text with
  | nil => rfl
  | cons a as ih =>
      rw [split]
      by_cases ha : a = sep
      · rw [if_pos ha, ha, List.count_cons_self, List.length_cons, ih]
      · rw [if_neg ha, List.count_cons_of_ne ha, ← ih]
        cases hsplit : split sep as with
        | nil => exact absurd hsplit (split_ne_nil as)
        | cons part parts => rfl

/-- A joined text has a separator between each two parts. -/
theorem length_le_count_join (sep : α) (parts : List (List α)) :
    parts.length ≤ (join sep parts).count sep + 1 := by
  induction parts with
  | nil => exact Nat.zero_le _
  | cons part parts ih =>
      cases parts with
      | nil => exact Nat.le_add_left _ _
      | cons next parts =>
          rw [join, List.count_append, List.count_cons_self, List.length_cons]
          omega

/-- No part of a split text holds the separator. -/
theorem notMem_of_mem_split {text part : List α} (h : part ∈ split sep text) : sep ∉ part := by
  induction text generalizing part with
  | nil =>
      rw [split, List.mem_singleton] at h
      rw [h]
      exact List.not_mem_nil
  | cons a as ih =>
      rw [split] at h
      by_cases ha : a = sep
      · rw [if_pos ha] at h
        rcases List.mem_cons.mp h with rfl | h
        · exact List.not_mem_nil
        · exact ih h
      · rw [if_neg ha] at h
        split at h
        · rw [List.mem_singleton.mp h, List.mem_singleton]
          exact Ne.symm ha
        · next first rest heq =>
            rw [heq] at ih
            rcases List.mem_cons.mp h with rfl | h
            · rw [List.mem_cons, not_or]
              exact ⟨Ne.symm ha, ih List.mem_cons_self⟩
            · exact ih (List.mem_cons_of_mem _ h)

end Split

/-- A character of a joined text is the separator or stands in a part. -/
theorem mem_join {sep a : α} {parts : List (List α)} (h : a ∈ join sep parts) :
    a = sep ∨ ∃ part ∈ parts, a ∈ part := by
  induction parts with
  | nil => exact nomatch h
  | cons part parts ih =>
      cases parts with
      | nil => exact Or.inr ⟨part, List.mem_cons_self, h⟩
      | cons next parts =>
          rcases List.mem_append.mp h with h | h
          · exact Or.inr ⟨part, List.mem_cons_self, h⟩
          · rcases List.mem_cons.mp h with rfl | h
            · exact Or.inl rfl
            · rcases ih h with heq | ⟨found, hfound, hmem⟩
              · exact Or.inl heq
              · exact Or.inr ⟨found, List.mem_cons_of_mem _ hfound, hmem⟩

/-- A part stands in the joined text. -/
theorem exists_join_eq (sep : α) {parts : List (List α)} {part : List α} (hpart : part ∈ parts) :
    ∃ before after, join sep parts = before ++ part ++ after := by
  induction parts with
  | nil => exact absurd hpart List.not_mem_nil
  | cons first parts ih =>
      cases parts with
      | nil =>
          rw [List.mem_singleton.mp hpart]
          exact ⟨[], [], by rw [join, List.nil_append, List.append_nil]⟩
      | cons next parts =>
          rcases List.mem_cons.mp hpart with rfl | hpart
          · exact ⟨[], sep :: join sep (next :: parts), rfl⟩
          · obtain ⟨before, after, heq⟩ := ih hpart
            refine ⟨first ++ sep :: before, after, ?_⟩
            rw [join, heq]
            simp

/-! ## Records -/

/-- A name, a separator and a field. -/
def frame (sep : α) (record : List α × List α) : List α := record.1 ++ sep :: record.2

/-- Two texts that start with names without separators, each followed by one. -/
theorem append_sep_inj {sep : α} {a b s t : List α} (ha : sep ∉ a) (hb : sep ∉ b)
    (h : a ++ sep :: s = b ++ sep :: t) : a = b ∧ s = t := by
  induction a generalizing b with
  | nil =>
      cases b with
      | nil => exact ⟨rfl, (List.cons.inj h).2⟩
      | cons y ys => exact absurd ((List.cons.inj h).1 ▸ List.mem_cons_self) hb
  | cons x xs ih =>
      rw [List.mem_cons, not_or] at ha
      cases b with
      | nil => exact absurd (List.cons.inj h).1.symm ha.1
      | cons y ys =>
          rw [List.mem_cons, not_or] at hb
          obtain ⟨rfl, hrest⟩ := List.cons.inj h
          obtain ⟨rfl, hst⟩ := ih ha.2 hb.2 hrest
          exact ⟨rfl, hst⟩

/-- **A sequence of records can be read in one way only**, when no name holds the separator and the
fields have one width. -/
theorem flatMap_frame_inj {sep : α} {width : Nat} {xs ys : List (List α × List α)}
    (hxs : ∀ record ∈ xs, sep ∉ record.1 ∧ record.2.length = width)
    (hys : ∀ record ∈ ys, sep ∉ record.1 ∧ record.2.length = width)
    (h : xs.flatMap (frame sep) = ys.flatMap (frame sep)) : xs = ys := by
  induction xs generalizing ys with
  | nil =>
      cases ys with
      | nil => rfl
      | cons y ys => simp [frame] at h
  | cons x xs ih =>
      cases ys with
      | nil => simp [frame] at h
      | cons y ys =>
          rw [List.forall_mem_cons] at hxs hys
          rw [List.flatMap_cons, List.flatMap_cons, frame, frame, List.append_assoc,
            List.append_assoc, List.cons_append, List.cons_append] at h
          obtain ⟨hname, hrest⟩ := append_sep_inj hxs.1.1 hys.1.1 h
          obtain ⟨hfield, hrest⟩ := List.append_inj hrest (hxs.1.2.trans hys.1.2.symm)
          rw [Prod.ext hname hfield, ih hxs.2 hys.2 hrest]

/-! ## UTF-8 -/

/-- The UTF-8 bytes of a text. -/
def utf8 (s : String) : List UInt8 := s.toByteArray.data.toList

theorem utf8_inj {s t : String} (h : utf8 s = utf8 t) : s = t :=
  String.toByteArray_inj.mp (ByteArray.ext (Array.toList_inj.mp h))

/-- A byte with a bit set by force is not zero. -/
theorem zero_ne_or (b : UInt8) {mask : UInt8} (h : mask ≠ 0) : 0 ≠ b ||| mask :=
  fun heq => h (UInt8.or_eq_zero_iff.mp heq.symm).2

/-- The zero byte encodes the zero character only. -/
theorem zero_notMem_utf8EncodeChar {c : Char} (h : c ≠ '\x00') :
    0 ∉ String.utf8EncodeChar c := by
  rw [String.utf8EncodeChar_eq_utf8EncodeCharFast]
  unfold String.utf8EncodeCharFast
  dsimp only
  split_ifs with hone htwo hthree
  · intro hmem
    have hzero := congrArg UInt8.toNat (List.mem_singleton.mp hmem)
    have hsmall : c.val.toNat ≤ 127 := hone
    rw [UInt32.toNat_toUInt8, Nat.mod_eq_of_lt (by omega)] at hzero
    exact h (Char.ext (UInt32.toNat_inj.mp hzero.symm))
  -- every byte of a longer sequence has its marker bits set
  all_goals
    simp only [List.mem_cons, List.not_mem_nil, or_false, not_or]
  · exact ⟨zero_ne_or _ (by decide), zero_ne_or _ (by decide)⟩
  · exact ⟨zero_ne_or _ (by decide), zero_ne_or _ (by decide), zero_ne_or _ (by decide)⟩
  · exact ⟨zero_ne_or _ (by decide), zero_ne_or _ (by decide), zero_ne_or _ (by decide),
      zero_ne_or _ (by decide)⟩

/-- A text without the zero character has no zero byte. -/
theorem zero_notMem_utf8 {s : String} (h : '\x00' ∉ s.toList) : 0 ∉ utf8 s := by
  intro hmem
  rw [utf8, ← String.utf8Encode_toList, List.utf8Encode, List.data_toByteArray] at hmem
  obtain ⟨c, hc, hbyte⟩ := List.mem_flatMap.mp hmem
  exact zero_notMem_utf8EncodeChar (fun heq => h (heq ▸ hc)) hbyte

end NetStrike.Foundation
