import NetStrike.Foundation.Separated

/-!
# Escaping and unescaping

`replaceAll` makes replacements of single characters one after another, so that a later one also
works on what an earlier one wrote; `replaceAll_eq_flatMap` says that the text of each character can
nevertheless be looked at alone. `decode` reads references back in one pass from the left.

`Composed` texts are made of plain characters and of the given tokens, and `breakLines` splits a text
at every line break: LF, CR and CRLF.
-/

set_option autoImplicit false

namespace NetStrike.Foundation

universe u

variable {α : Type u}

/-! ## Replacement -/

section Replace

variable [DecidableEq α]

/-- Replace every occurrence of a character. -/
def replace (old : α) (new : List α) (text : List α) : List α :=
  text.flatMap fun a => if a = old then new else [a]

/-- Make the replacements of a table, the first one first. -/
def replaceAll (table : List (α × List α)) (text : List α) : List α :=
  table.foldl (fun t m => replace m.1 m.2 t) text

theorem replaceAll_append (table table' : List (α × List α)) (text : List α) :
    replaceAll (table ++ table') text = replaceAll table' (replaceAll table text) :=
  List.foldl_append

/-- **Each character is replaced by itself alone.** -/
theorem replaceAll_eq_flatMap (table : List (α × List α)) (text : List α) :
    replaceAll table text = text.flatMap fun a => replaceAll table [a] := by
  induction table generalizing text with
  | nil => exact (List.flatMap_singleton' text).symm
  | cons m table ih =>
      calc replaceAll (m :: table) text
          = replaceAll table (replace m.1 m.2 text) := rfl
        _ = (replace m.1 m.2 text).flatMap fun a => replaceAll table [a] := ih _
        _ = text.flatMap fun a =>
              (if a = m.1 then m.2 else [a]).flatMap fun b => replaceAll table [b] :=
            List.flatMap_assoc
        _ = text.flatMap fun a => replaceAll (m :: table) [a] := by
            congr 1
            funext a
            rw [← ih]
            simp only [replaceAll, replace, List.foldl_cons, List.flatMap_cons, List.flatMap_nil,
              List.append_nil]

/-- A character that the table does not name stays. -/
theorem replaceAll_of_notMem {table : List (α × List α)} {a : α} (h : a ∉ table.map Prod.fst) :
    replaceAll table [a] = [a] := by
  induction table with
  | nil => rfl
  | cons m table ih =>
      rw [List.map_cons, List.mem_cons, not_or] at h
      have hfirst : replace m.1 m.2 [a] = [a] := by
        rw [replace, List.flatMap_singleton, if_neg h.1]
      calc replaceAll (m :: table) [a]
          = replaceAll table (replace m.1 m.2 [a]) := rfl
        _ = replaceAll table [a] := by rw [hfirst]
        _ = [a] := ih h.2

end Replace

/-! ## Reading back -/

section Decode

variable [BEq α]

/-- Read a text from the left after `skip` characters; where a word of the table begins, its meaning
is read in its place. -/
def decodeFrom (table : List (List α × List α)) : Nat → List α → List α
  | _, [] => []
  | skip + 1, _ :: as => decodeFrom table skip as
  | 0, a :: as =>
      match table.find? fun m => m.1.isPrefixOf (a :: as) with
      | some m => m.2 ++ decodeFrom table (m.1.length - 1) as
      | none => a :: decodeFrom table 0 as

/-- Read the words of a table back. -/
def decode (table : List (List α × List α)) (text : List α) : List α := decodeFrom table 0 text

theorem decodeFrom_append (table : List (List α × List α)) (before after : List α) :
    decodeFrom table before.length (before ++ after) = decode table after := by
  induction before with
  | nil => rfl
  | cons a before ih => exact ih

/-- A word is read as its meaning. -/
theorem decode_word {table : List (List α × List α)} {a : α} {word meaning : List α}
    {rest : List α}
    (h : (table.find? fun m => m.1.isPrefixOf (a :: (word ++ rest))) = some (a :: word, meaning)) :
    decode table (a :: word ++ rest) = meaning ++ decode table rest := by
  rw [decode, List.cons_append, decodeFrom, h]
  exact congrArg (meaning ++ ·) (decodeFrom_append table word rest)

/-- A character with which no word begins is read as itself. -/
theorem decode_cons {table : List (List α × List α)} {a : α}
    (h : ∀ m ∈ table, ∀ rest, m.1.isPrefixOf (a :: rest) = false) (rest : List α) :
    decode table (a :: rest) = a :: decode table rest := by
  have hnone : (table.find? fun m => m.1.isPrefixOf (a :: rest)) = none := by
    rw [List.find?_eq_none]
    intro m hm
    rw [h m hm rest]
    exact Bool.false_ne_true
  rw [decode, decodeFrom, hnone]
  rfl

/-- **A text is read back** when the text of every character is. -/
theorem decode_flatMap {table : List (List α × List α)} {token : α → List α}
    (h : ∀ a rest, decode table (token a ++ rest) = a :: decode table rest) (text : List α) :
    decode table (text.flatMap token) = text := by
  induction text with
  | nil => rfl
  | cons a text ih => rw [List.flatMap_cons, h, ih]

end Decode

/-! ## Composed texts -/

/-- A text of plain characters and tokens. -/
inductive Composed (plain : α → Prop) (tokens : List (List α)) : List α → Prop where
  | nil : Composed plain tokens []
  | plain {a : α} {text : List α} : plain a → Composed plain tokens text →
      Composed plain tokens (a :: text)
  | token {word text : List α} : word ∈ tokens → Composed plain tokens text →
      Composed plain tokens (word ++ text)

namespace Composed

variable {plain : α → Prop} {tokens : List (List α)}

theorem append {text text' : List α} (h : Composed plain tokens text)
    (h' : Composed plain tokens text') : Composed plain tokens (text ++ text') := by
  induction h with
  | nil => exact h'
  | plain ha _ ih => exact .plain ha ih
  | token hword _ ih =>
      rw [List.append_assoc]
      exact .token hword ih

theorem flatMap {token : α → List α} (h : ∀ a, Composed plain tokens (token a)) (text : List α) :
    Composed plain tokens (text.flatMap token) := by
  induction text with
  | nil => exact .nil
  | cons a text ih => exact (h a).append ih

theorem of_forall {text : List α} (h : ∀ a ∈ text, plain a) : Composed plain tokens text := by
  induction text with
  | nil => exact .nil
  | cons a text ih =>
      rw [List.forall_mem_cons] at h
      exact .plain h.1 (ih h.2)

/-- A reading that shortens every token keeps the length of a plain text only. -/
theorem forall_of_length {read : List α → List α} {text : List α} (h : Composed plain tokens text)
    (hplain : ∀ a rest, plain a → read (a :: rest) = a :: read rest)
    (htoken : ∀ word ∈ tokens, ∀ rest,
      (read (word ++ rest)).length < word.length + (read rest).length) :
    (read text).length ≤ text.length + (read []).length ∧
      ((read text).length = text.length + (read []).length → ∀ a ∈ text, plain a) := by
  induction h with
  | nil => exact ⟨by simp, fun _ a ha => nomatch ha⟩
  | @plain a text ha _ ih =>
      rw [hplain a text ha, List.length_cons, List.length_cons]
      refine ⟨by omega, fun heq => ?_⟩
      rw [List.forall_mem_cons]
      exact ⟨ha, ih.2 (by omega)⟩
  | @token word text hword _ ih =>
      have hshort := htoken word hword text
      rw [List.length_append]
      exact ⟨by omega, fun heq => absurd heq (by omega)⟩

end Composed

/-! ## Line breaks -/

/-- CRLF and CR read as LF. -/
def lineBreaks : List (List Char × List Char) := [(['\r', '\n'], ['\n']), (['\r'], ['\n'])]

/-- The lines of a text, split at LF, CR and CRLF. -/
def breakLines (text : List Char) : List (List Char) := split '\n' (decode lineBreaks text)

theorem decode_lineBreaks_cons {c : Char} (h : c ≠ '\r') (text : List Char) :
    decode lineBreaks (c :: text) = c :: decode lineBreaks text := by
  apply decode_cons
  intro m hm rest
  have hne : ('\r' == c) = false := beq_false_of_ne (Ne.symm h)
  rcases List.mem_cons.mp hm with rfl | hm
  · simp [List.isPrefixOf, hne]
  · rw [List.mem_singleton.mp hm]
    simp [List.isPrefixOf, hne]

theorem decode_lineBreaks_crlf (text : List Char) :
    decode lineBreaks ('\r' :: '\n' :: text) = '\n' :: decode lineBreaks text := rfl

theorem decode_lineBreaks_cr {c : Char} (h : c ≠ '\n') (text : List Char) :
    decode lineBreaks ('\r' :: c :: text) = '\n' :: decode lineBreaks (c :: text) := by
  have hne : ('\n' == c) = false := beq_false_of_ne (Ne.symm h)
  have hfind : (lineBreaks.find? fun m => m.1.isPrefixOf ('\r' :: ([] ++ c :: text))) =
      some (['\r'], ['\n']) := by
    simp [lineBreaks, List.isPrefixOf, hne]
  exact decode_word hfind

theorem decode_lineBreaks {text : List Char} (h : '\r' ∉ text) : decode lineBreaks text = text := by
  induction text with
  | nil => rfl
  | cons c text ih =>
      rw [List.mem_cons, not_or] at h
      rw [decode_lineBreaks_cons (Ne.symm h.1), ih h.2]

/-- Lines without line breaks, each closed by LF, are read back. -/
theorem breakLines_join {lines : List (List Char)} (hne : lines ≠ [])
    (h : ∀ line ∈ lines, '\n' ∉ line ∧ '\r' ∉ line) :
    breakLines (join '\n' lines ++ ['\n']) = lines ++ [[]] := by
  have hreturn : '\r' ∉ join '\n' lines ++ ['\n'] := by
    rw [List.mem_append, not_or]
    refine ⟨fun hmem => ?_, by decide⟩
    rcases mem_join hmem with heq | ⟨line, hline, hc⟩
    · exact absurd heq (by decide)
    · exact (h line hline).2 hc
  rw [breakLines, decode_lineBreaks hreturn, split_append_sep,
    split_join hne fun line hline => (h line hline).1]
  rfl

theorem count_feed_cons (c : Char) (text : List Char) :
    (c :: text).count '\n' = text.count '\n' + if (c == '\n') = true then 1 else 0 :=
  List.count_cons

/-- Every line feed ends a line. -/
theorem count_feed_le : ∀ text : List Char, text.count '\n' ≤ (decode lineBreaks text).count '\n'
  | [] => Nat.le_refl _
  | [c] => by
      by_cases hc : c = '\r'
      · rw [hc]
        decide
      · rw [decode_lineBreaks_cons hc]
        exact Nat.le_refl _
  | c :: d :: text => by
      by_cases hc : c = '\r'
      · subst hc
        by_cases hd : d = '\n'
        · subst hd
          have ih := count_feed_le text
          rw [decode_lineBreaks_crlf]
          simp only [List.count_cons]
          simp
          omega
        · have ih := count_feed_le (d :: text)
          rw [decode_lineBreaks_cr hd, List.count_cons_of_ne (by decide), List.count_cons_self]
          omega
      · have ih := count_feed_le (d :: text)
        rw [decode_lineBreaks_cons hc, count_feed_cons c, count_feed_cons c]
        omega

/-- A carriage return inside a text ends one more line. -/
theorem count_feed_lt {c : Char} (hc : c ≠ '\n') (after : List Char) : ∀ before : List Char,
    (before ++ '\r' :: c :: after).count '\n' <
      (decode lineBreaks (before ++ '\r' :: c :: after)).count '\n'
  | [] => by
      have hle := count_feed_le (c :: after)
      rw [List.nil_append, decode_lineBreaks_cr hc, List.count_cons_of_ne (by decide),
        List.count_cons_self]
      omega
  | [x] => by
      have ih := count_feed_lt hc after []
      rw [List.nil_append] at ih
      by_cases hx : x = '\r'
      · subst hx
        rw [List.singleton_append, decode_lineBreaks_cr (by decide),
          List.count_cons_of_ne (by decide), List.count_cons_self]
        omega
      · rw [List.singleton_append, decode_lineBreaks_cons hx, count_feed_cons x, count_feed_cons x]
        omega
  | x :: y :: before => by
      by_cases hx : x = '\r'
      · subst hx
        by_cases hy : y = '\n'
        · subst hy
          have ih := count_feed_lt hc after before
          rw [List.cons_append, List.cons_append, decode_lineBreaks_crlf,
            List.count_cons_of_ne (by decide), List.count_cons_self, List.count_cons_self]
          omega
        · have ih := count_feed_lt hc after (y :: before)
          rw [List.cons_append] at ih
          rw [List.cons_append, List.cons_append, decode_lineBreaks_cr hy,
            List.count_cons_of_ne (by decide), List.count_cons_self]
          omega
      · have ih := count_feed_lt hc after (y :: before)
        rw [List.cons_append, decode_lineBreaks_cons hx, count_feed_cons x, count_feed_cons x]
        omega

/-- **A carriage return inside a line makes more lines.** -/
theorem length_lt_breakLines {lines : List (List Char)} {line before after : List Char} {c : Char}
    (hline : line ∈ lines) (hc : c ≠ '\n') (h : line = before ++ '\r' :: c :: after) :
    lines.length + 1 < (breakLines (join '\n' lines ++ ['\n'])).length := by
  obtain ⟨left, right, heq⟩ := exists_join_eq '\n' hline
  have hmore := count_feed_lt hc (after ++ right ++ ['\n']) (left ++ before)
  have hcount := length_le_count_join '\n' lines
  have htext : left ++ before ++ '\r' :: c :: (after ++ right ++ ['\n']) =
      join '\n' lines ++ ['\n'] := by
    rw [heq, h]
    simp
  rw [htext, List.count_append] at hmore
  rw [breakLines, length_split]
  have hone : ['\n'].count '\n' = 1 := rfl
  omega

end NetStrike.Foundation
