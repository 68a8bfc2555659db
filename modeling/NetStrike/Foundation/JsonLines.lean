import NetStrike.Foundation.JsonText

/-!
# JSON texts one to a line

The text of a value holds printable ASCII characters only (`printable_dumpChars`), so it stays on its
line: a file of texts, each followed by a line feed, is split into the lines that were written
(`lines_flatMap`), and its UTF-8 bytes are its characters (`utf8Decode?_ascii`).
-/

set_option autoImplicit false

namespace NetStrike.Foundation

/-- A printable ASCII character. -/
def Printable (c : Char) : Prop := 32 ≤ c.toNat ∧ c.toNat < 127

instance (c : Char) : Decidable (Printable c) := inferInstanceAs (Decidable (_ ∧ _))

/-! ## Lines -/

/-- Universal newlines: a carriage return ends a line too. -/
def universal : List Char → List Char
  | '\r' :: '\n' :: cs => '\n' :: universal cs
  | '\r' :: cs => '\n' :: universal cs
  | c :: cs => c :: universal cs
  | [] => []

/-- The lines of a text, each with its line feed. -/
def lines : List Char → List (List Char)
  | [] => []
  | c :: cs =>
      if c = '\n' then ['\n'] :: lines cs
      else
        match lines cs with
        | [] => [[c]]
        | l :: ls => (c :: l) :: ls

/-- A text without carriage returns is read as it is. -/
theorem universal_eq_self {cs : List Char} (h : '\r' ∉ cs) : universal cs = cs := by
  induction cs with
  | nil => rfl
  | cons c cs ih =>
      rw [List.mem_cons, not_or] at h
      unfold universal
      split
      · next heq => exact absurd (List.cons.inj heq).1.symm h.1
      · next heq => exact absurd (List.cons.inj heq).1.symm h.1
      · next heq =>
          obtain ⟨rfl, rfl⟩ := List.cons.inj heq
          rw [ih h.2]
      · next heq => cases heq

/-- The first line ends at the first line feed. -/
theorem lines_append {line : List Char} (h : '\n' ∉ line) (rest : List Char) :
    lines (line ++ '\n' :: rest) = (line ++ ['\n']) :: lines rest := by
  induction line with
  | nil => rw [List.nil_append, lines, if_pos rfl, List.nil_append]
  | cons c line ih =>
      rw [List.mem_cons, not_or] at h
      rw [List.cons_append, lines, if_neg (Ne.symm h.1), ih h.2]
      rfl

/-- A file of lines is split into the lines. -/
theorem lines_flatMap {texts : List (List Char)} (h : ∀ text ∈ texts, '\n' ∉ text) :
    lines (texts.flatMap fun text => text ++ ['\n']) = texts.map fun text => text ++ ['\n'] := by
  induction texts with
  | nil => rfl
  | cons text texts ih =>
      rw [List.forall_mem_cons] at h
      rw [List.flatMap_cons, List.map_cons, List.append_assoc, List.singleton_append,
        lines_append h.1, ih h.2]

/-! ## Bytes -/

/-- The UTF-8 bytes of an ASCII text are its characters. -/
theorem utf8Encode_ascii {cs : List Char} (h : ∀ c ∈ cs, c.toNat < 128) :
    cs.utf8Encode = ⟨(cs.map fun c => c.toNat.toUInt8).toArray⟩ := by
  have hchar : ∀ c ∈ cs, String.utf8EncodeChar c = [c.toNat.toUInt8] := fun c hc =>
    String.utf8EncodeChar_eq_singleton (if_pos (Nat.le_of_lt_succ (h c hc)))
  rw [List.utf8Encode, List.flatMap_congr hchar, ← List.map_eq_flatMap]
  exact ByteArray.ext List.data_toByteArray

/-- An ASCII text is decoded from the bytes of its characters. -/
theorem utf8Decode?_ascii {cs : List Char} (h : ∀ c ∈ cs, c.toNat < 128) :
    ByteArray.utf8Decode? ⟨(cs.map fun c => c.toNat.toUInt8).toArray⟩ = some cs.toArray := by
  rw [← utf8Encode_ascii h, List.utf8Decode?_utf8Encode]

/-! ## Texts of values -/

namespace Json

variable {ft : FloatText}

theorem printable_digit {c : Char} (h : c.isDigit = true) : Printable c := by
  simp only [Char.isDigit, Bool.and_eq_true, decide_eq_true_eq] at h
  have hlow : 48 ≤ c.val.toNat := h.1
  have hhigh : c.val.toNat ≤ 57 := h.2
  exact ⟨Nat.le_trans (by decide) hlow, Nat.lt_of_le_of_lt hhigh (by decide)⟩

theorem printable_append {xs ys : List Char} (hx : ∀ c ∈ xs, Printable c)
    (hy : ∀ c ∈ ys, Printable c) : ∀ c ∈ xs ++ ys, Printable c := by
  intro c hc
  rcases List.mem_append.mp hc with hc | hc
  · exact hx c hc
  · exact hy c hc

theorem printable_hexDigit : ∀ n < 16, Printable (hexDigit n) := by decide

theorem printable_escapeUnit (n : Nat) : ∀ c ∈ escapeUnit n, Printable c := by
  have hdigit : ∀ m, Printable (hexDigit (m % 16)) :=
    fun m => printable_hexDigit _ (Nat.mod_lt m (by decide))
  intro c hc
  simp only [escapeUnit, List.mem_cons, List.not_mem_nil, or_false] at hc
  rcases hc with rfl | rfl | rfl | rfl | rfl | rfl
  · decide
  · decide
  · exact hdigit _
  · exact hdigit _
  · exact hdigit _
  · exact hdigit _

theorem printable_escapeChar (c : Char) : ∀ d ∈ escapeChar c, Printable d := by
  unfold escapeChar
  dsimp only
  split_ifs with hquote hslash hline hreturn htab hback hfeed hprint hunit
  · decide
  · decide
  · decide
  · decide
  · decide
  · decide
  · decide
  · intro d hd
    rw [List.mem_singleton.mp hd]
    exact ⟨hprint.1, Nat.lt_succ_of_le hprint.2⟩
  · exact printable_escapeUnit _
  · exact printable_append (printable_escapeUnit _) (printable_escapeUnit _)

theorem printable_quote (s : String) : ∀ c ∈ quote s, Printable c := by
  refine printable_append (printable_append (by decide) fun c hc => ?_) (by decide)
  obtain ⟨d, -, hd⟩ := List.mem_flatMap.mp hc
  exact printable_escapeChar d c hd

theorem printable_number (t : NumberText) : ∀ c ∈ t.chars, Printable c := by
  have hdigits : ∀ digits : List Char, (∀ c ∈ digits, c.isDigit = true) →
      ∀ c ∈ digits, Printable c := fun digits h c hc => printable_digit (h c hc)
  refine printable_append ?_ (printable_append ?_ (printable_append ?_ ?_))
  · cases t.minus <;> decide
  · exact hdigits _ (isDigit_of_isWhole t.whole_given).2
  · rcases t.fraction_given with heq | ⟨digits, heq, -, h⟩
    · rw [heq]
      decide
    · rw [heq]
      exact List.forall_mem_cons.mpr ⟨by decide, hdigits _ h⟩
  · rcases t.exponent_given with heq | ⟨sign, digits, heq, hsign, -, h⟩
    · rw [heq]
      decide
    · rw [heq]
      refine List.forall_mem_cons.mpr ⟨by decide, printable_append ?_ (hdigits _ h)⟩
      rcases hsign with rfl | rfl | rfl <;> decide

theorem printable_commaJoin {texts : List (List Char)}
    (h : ∀ text ∈ texts, ∀ c ∈ text, Printable c) : ∀ c ∈ commaJoin texts, Printable c := by
  induction texts with
  | nil => exact fun c hc => nomatch hc
  | cons text texts ih =>
      rw [List.forall_mem_cons] at h
      cases texts with
      | nil => exact h.1
      | cons t ts =>
          rw [commaJoin_cons]
          exact printable_append h.1 (List.forall_mem_cons.mpr ⟨by decide, ih h.2⟩)

mutual

theorem printable_textOf : ∀ {j : Json}, j.Proper ft.isFloat →
    ∀ c ∈ textOf ft.repr j, Printable c
  | .null, _ => (by decide : ∀ c ∈ "null".toList, Printable c)
  | .bool true, _ => (by decide : ∀ c ∈ "true".toList, Printable c)
  | .bool false, _ => (by decide : ∀ c ∈ "false".toList, Printable c)
  | .int n, _ => by
      rw [textOf, toString_int]
      exact printable_number _
  | .float q, h => by
      obtain ⟨t, ht, -⟩ := ft.shape q h
      rw [textOf, ht]
      exact printable_number t
  | .str s, _ => printable_quote s
  | .arr items, h =>
      List.forall_mem_cons.mpr ⟨by decide,
        printable_append (printable_commaJoin (printable_itemTexts h)) (by decide)⟩
  | .obj members, h =>
      List.forall_mem_cons.mpr ⟨by decide,
        printable_append (printable_commaJoin (printable_memberTexts h.2)) (by decide)⟩

theorem printable_itemTexts : ∀ {items : List Json}, ProperItems ft.isFloat items →
    ∀ text ∈ itemTexts ft.repr items, ∀ c ∈ text, Printable c
  | [], _ => fun _ h => nomatch h
  | _ :: _, h => List.forall_mem_cons.mpr ⟨printable_textOf h.1, printable_itemTexts h.2⟩

theorem printable_memberTexts : ∀ {members : List (String × Json)},
    ProperMembers ft.isFloat members →
    ∀ text ∈ memberTexts ft.repr members, ∀ c ∈ text, Printable c
  | [], _ => fun _ h => nomatch h
  | (k, _) :: _, h =>
      List.forall_mem_cons.mpr
        ⟨printable_append (printable_quote k)
            (List.forall_mem_cons.mpr ⟨by decide, printable_textOf h.1⟩),
          printable_memberTexts h.2⟩

end

/-- **The text of a value is printable ASCII.** -/
theorem printable_dumpChars {j : Json} (h : j.Proper ft.isFloat) :
    ∀ c ∈ dumpChars ft.repr j, Printable c := by
  rw [dumpChars_eq]
  exact printable_textOf h.sortKeys

/-- The text of a value is not empty. -/
theorem dumpChars_ne_nil {j : Json} (h : j.Proper ft.isFloat) : dumpChars ft.repr j ≠ [] := by
  obtain ⟨c, rest, heq, -⟩ := begins_textOf h.sortKeys
  rw [dumpChars_eq, heq]
  exact List.cons_ne_nil c rest

/-- The text of a value stays on its line. -/
theorem line_dumpChars {j : Json} (h : j.Proper ft.isFloat) :
    '\n' ∉ dumpChars ft.repr j ∧ '\r' ∉ dumpChars ft.repr j := by
  have hprintable := printable_dumpChars h
  exact ⟨fun hc => absurd (hprintable _ hc) (by decide),
    fun hc => absurd (hprintable _ hc) (by decide)⟩

end Json

end NetStrike.Foundation
