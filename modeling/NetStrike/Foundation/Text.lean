import Mathlib.Computability.Language
import Mathlib.Data.List.DropRight

/-!
# Text: blanks and regular patterns

`strip` removes blanks at both ends of a string, as Python's `str.strip` does.

`Pattern` is the fragment of regular expressions that identifier, version and name formats use:
character classes, sequences, alternatives and repetition. `accepts` decides full matches by
derivatives and `lang` is the denoted language; `accepts_iff` connects them. `search` is the meaning
of a pattern anchored with `^` and `$`: the final `$` also matches before one trailing line feed.
-/

set_option autoImplicit false

namespace NetStrike.Foundation

/-- A property of the characters of a text is decided on the text, not on all characters. -/
instance (priority := 1100) decidableForallMemChar (p : Char → Prop) [DecidablePred p]
    (text : List Char) : Decidable (∀ c ∈ text, p c) := List.decidableBAll p text

/-! ## Blanks -/

/-- The characters that Python's `str.isspace` accepts. -/
def isSpace (c : Char) : Bool :=
  let n := c.toNat
  (9 ≤ n && n ≤ 13) || (28 ≤ n && n ≤ 32) || n == 0x85 || n == 0xA0 || n == 0x1680 ||
    (0x2000 ≤ n && n ≤ 0x200A) || n == 0x2028 || n == 0x2029 || n == 0x202F || n == 0x205F ||
    n == 0x3000

/-- Drop the blanks at both ends. -/
def strip (s : String) : String :=
  String.ofList ((s.toList.dropWhile isSpace).reverse.dropWhile isSpace).reverse

/-- A string of blanks only, the empty string included. -/
def Blank (s : String) : Prop := strip s = ""

instance (s : String) : Decidable (Blank s) := inferInstanceAs (Decidable (strip s = ""))

theorem length_strip_le (s : String) : (strip s).length ≤ s.length := by
  have h1 := (s.toList.dropWhile_sublist isSpace).length_le
  have h2 := ((s.toList.dropWhile isSpace).reverse.dropWhile_sublist isSpace).length_le
  rw [List.length_reverse] at h2
  simp only [strip, String.length_ofList, List.length_reverse]
  rw [← String.length_toList]
  exact h2.trans h1

/-- The characters that `strip` keeps are a stretch of the string. -/
theorem strip_within (s : String) : (strip s).toList <:+: s.toList := by
  have h1 : (s.toList.dropWhile isSpace).rdropWhile isSpace <+: s.toList.dropWhile isSpace :=
    List.rdropWhile_prefix _ _
  rw [strip, String.toList_ofList]
  exact h1.isInfix.trans (List.dropWhile_suffix isSpace).isInfix

/-- There are no blanks left to strip. -/
theorem strip_strip (s : String) : strip (strip s) = strip s := by
  have hleft : ((s.toList.dropWhile isSpace).rdropWhile isSpace).dropWhile isSpace =
      (s.toList.dropWhile isSpace).rdropWhile isSpace := by
    rw [List.dropWhile_eq_self_iff]
    intro hpos
    have hleading : (s.toList.dropWhile isSpace).rdropWhile isSpace <+: s.toList.dropWhile isSpace :=
      List.rdropWhile_prefix _ _
    rw [hleading.getElem]
    exact List.dropWhile_get_zero_not isSpace s.toList (hpos.trans_le hleading.length_le)
  have hright : ((s.toList.dropWhile isSpace).rdropWhile isSpace).rdropWhile isSpace =
      (s.toList.dropWhile isSpace).rdropWhile isSpace := List.rdropWhile_idempotent _ _
  have heq : ∀ t : String, strip t = String.ofList ((t.toList.dropWhile isSpace).rdropWhile isSpace) :=
    fun _ => rfl
  rw [heq (strip s), heq s, String.toList_ofList, hleft, hright]

/-! ## Patterns -/

/-- A regular pattern over characters. -/
inductive Pattern where
  | none
  | empty
  | cls (p : Char → Bool)
  | seq (a b : Pattern)
  | alt (a b : Pattern)
  | star (a : Pattern)

namespace Pattern

/-- One literal character. -/
def char (c : Char) : Pattern := cls (· == c)

/-- A literal string. -/
def lit (s : String) : Pattern := s.toList.foldr (fun c r => seq (char c) r) empty

/-- One or more repetitions. -/
def plus (a : Pattern) : Pattern := seq a (star a)

/-- At most one occurrence. -/
def opt (a : Pattern) : Pattern := alt empty a

/-- Exactly `n` repetitions. -/
def times (a : Pattern) : Nat → Pattern
  | 0 => empty
  | n + 1 => seq a (times a n)

/-- At most `n` repetitions. -/
def upTo (a : Pattern) : Nat → Pattern
  | 0 => empty
  | n + 1 => opt (seq a (upTo a n))

/-- The pattern accepts the empty string. -/
def nullable : Pattern → Bool
  | none => false
  | empty => true
  | cls _ => false
  | seq a b => nullable a && nullable b
  | alt a b => nullable a || nullable b
  | star _ => true

/-- What remains to be matched after the character `c`. -/
def deriv (c : Char) : Pattern → Pattern
  | none => none
  | empty => none
  | cls p => if p c then empty else none
  | seq a b => if nullable a then alt (seq (deriv c a) b) (deriv c b) else seq (deriv c a) b
  | alt a b => alt (deriv c a) (deriv c b)
  | star a => seq (deriv c a) (star a)

/-- Full match of a character list. -/
def acceptsList : Pattern → List Char → Bool
  | r, [] => nullable r
  | r, c :: cs => acceptsList (deriv c r) cs

/-- Full match of a string (Python's `fullmatch`). -/
def accepts (r : Pattern) (s : String) : Bool := acceptsList r s.toList

/-- The match of `^r$`: a full match, possibly followed by one line feed. -/
def search (r : Pattern) (s : String) : Bool :=
  accepts r s || acceptsList (seq r (char '\n')) s.toList

/-- A full match is a match of the anchored pattern. -/
theorem search_of_accepts {r : Pattern} {s : String} (h : accepts r s = true) :
    search r s = true := by
  rw [search, h, Bool.true_or]

/-- The denoted language. -/
def lang : Pattern → Language Char
  | none => 0
  | empty => 1
  | cls p => {w | ∃ c, p c = true ∧ w = [c]}
  | seq a b => lang a * lang b
  | alt a b => lang a + lang b
  | star a => KStar.kstar (lang a)

-- The equations of the pattern functions, for the lemmas that relate them.
attribute [local simp] nullable deriv acceptsList lang upTo times

theorem nullable_iff (r : Pattern) : nullable r = true ↔ [] ∈ lang r := by
  induction r with
  | none => simp [Language.notMem_zero]
  | empty => simp [Language.mem_one]
  | cls p => exact ⟨fun h => Bool.noConfusion h, fun ⟨c, _, h⟩ => List.noConfusion rfl (heq_of_eq h)⟩
  | seq a b iha ihb => simp [iha, ihb, Language.mem_mul]
  | alt a b iha ihb => simp [iha, ihb, Language.mem_add]
  | star a => simp [Language.nil_mem_kstar]

/-- A word of a product that starts with `c` takes `c` from one of the two factors. -/
theorem cons_mem_mul {L M : Language Char} {c : Char} {w : List Char} :
    c :: w ∈ L * M ↔
      (∃ u v, c :: u ∈ L ∧ v ∈ M ∧ u ++ v = w) ∨ ([] ∈ L ∧ c :: w ∈ M) := by
  rw [Language.mem_mul]
  constructor
  · rintro ⟨u, hu, v, hv, huv⟩
    cases u with
    | nil =>
        rw [List.nil_append] at huv
        exact Or.inr ⟨hu, huv ▸ hv⟩
    | cons d u =>
        rw [List.cons_append, List.cons.injEq] at huv
        obtain ⟨rfl, rfl⟩ := huv
        exact Or.inl ⟨u, v, hu, hv, rfl⟩
  · rintro (⟨u, v, hu, hv, rfl⟩ | ⟨hn, hw⟩)
    · exact ⟨c :: u, hu, v, hv, rfl⟩
    · exact ⟨[], hn, c :: w, hw, rfl⟩

/-- A word of a repetition that starts with `c` takes `c` from its first factor. -/
theorem cons_mem_kstar {L : Language Char} {c : Char} {w : List Char} :
    c :: w ∈ KStar.kstar L ↔ ∃ u v, c :: u ∈ L ∧ v ∈ KStar.kstar L ∧ u ++ v = w := by
  constructor
  · intro h
    obtain ⟨S, hS, hne⟩ := Language.mem_kstar_iff_exists_nonempty.1 h
    cases S with
    | nil => simp at hS
    | cons x S =>
        obtain ⟨hx, hxne⟩ := hne x List.mem_cons_self
        cases x with
        | nil => exact absurd rfl hxne
        | cons d u =>
            rw [List.flatten_cons, List.cons_append, List.cons.injEq] at hS
            obtain ⟨rfl, rfl⟩ := hS
            refine ⟨u, S.flatten, hx, ?_, rfl⟩
            exact Language.join_mem_kstar fun y hy => (hne y (List.mem_cons_of_mem _ hy)).1
  · rintro ⟨u, v, hu, hv, rfl⟩
    have hmul : (c :: u) ++ v ∈ L * KStar.kstar L := Language.append_mem_mul hu hv
    exact mul_kstar_le_kstar (a := L) hmul

theorem deriv_iff (c : Char) (r : Pattern) (w : List Char) :
    w ∈ lang (deriv c r) ↔ c :: w ∈ lang r := by
  induction r generalizing w with
  | none => simp [Language.notMem_zero]
  | empty => simp [Language.notMem_zero, Language.mem_one]
  | cls p =>
      by_cases hp : p c = true
      · rw [deriv, if_pos hp]
        constructor
        · intro hw
          rw [lang, Language.mem_one] at hw
          exact ⟨c, hp, by rw [hw]⟩
        · rintro ⟨d, _, hd⟩
          rw [lang, Language.mem_one]
          exact (List.cons.inj hd).2
      · rw [deriv, if_neg hp]
        constructor
        · intro hw
          exact absurd hw (Language.notMem_zero w)
        · rintro ⟨d, hd, he⟩
          exact absurd ((List.cons.inj he).1 ▸ hd) hp
  | seq a b iha ihb =>
      have hleft : w ∈ lang (seq (deriv c a) b) ↔
          ∃ u v, c :: u ∈ lang a ∧ v ∈ lang b ∧ u ++ v = w := by
        rw [lang, Language.mem_mul]
        constructor
        · rintro ⟨u, hu, v, hv, huv⟩
          exact ⟨u, v, (iha u).1 hu, hv, huv⟩
        · rintro ⟨u, v, hu, hv, huv⟩
          exact ⟨u, (iha u).2 hu, v, hv, huv⟩
      rw [lang, cons_mem_mul, ← nullable_iff, deriv]
      by_cases hn : nullable a = true
      · rw [if_pos hn, lang, Language.mem_add, hleft, ihb]
        simp [hn]
      · rw [if_neg hn, hleft]
        simp [hn]
  | alt a b iha ihb => simp only [deriv, lang, Language.mem_add, iha, ihb]
  | star a iha =>
      rw [deriv, lang, lang, cons_mem_kstar, Language.mem_mul]
      constructor
      · rintro ⟨u, hu, v, hv, huv⟩
        exact ⟨u, v, (iha u).1 hu, hv, huv⟩
      · rintro ⟨u, v, hu, hv, huv⟩
        exact ⟨u, (iha u).2 hu, v, hv, huv⟩

/-- The derivative matcher decides the denoted language. -/
theorem acceptsList_iff (r : Pattern) (w : List Char) : acceptsList r w = true ↔ w ∈ lang r := by
  induction w generalizing r with
  | nil => exact nullable_iff r
  | cons c w ih => rw [acceptsList, ih, deriv_iff]

theorem accepts_iff (r : Pattern) (s : String) : accepts r s = true ↔ s.toList ∈ lang r :=
  acceptsList_iff r s.toList

/-- A repetition of a class accepts exactly the words of that class. -/
theorem mem_lang_star_cls (p : Char → Bool) (w : List Char) :
    w ∈ lang (star (cls p)) ↔ ∀ c ∈ w, p c = true := by
  induction w with
  | nil => exact iff_of_true (Language.nil_mem_kstar _) (fun c hc => absurd hc List.not_mem_nil)
  | cons c w ih =>
      rw [lang, cons_mem_kstar]
      constructor
      · rintro ⟨u, v, ⟨d, hd, hu⟩, hv, huv⟩
        obtain ⟨rfl, rfl⟩ := List.cons.inj hu
        rw [List.nil_append] at huv
        subst huv
        intro e he
        rcases List.mem_cons.1 he with rfl | he
        · exact hd
        · exact ih.1 hv e he
      · intro h
        refine ⟨[], w, ⟨c, h c List.mem_cons_self, rfl⟩, ?_, rfl⟩
        exact ih.2 fun d hd => h d (List.mem_cons_of_mem c hd)

/-- At most `n` characters of a class: the words of that class of length at most `n`. -/
theorem mem_lang_upTo_cls (p : Char → Bool) (n : Nat) (w : List Char) :
    w ∈ lang (upTo (cls p) n) ↔ w.length ≤ n ∧ ∀ c ∈ w, p c = true := by
  induction n generalizing w with
  | zero =>
      rw [upTo, lang, Language.mem_one]
      constructor
      · rintro rfl
        simp
      · rintro ⟨h, _⟩
        exact List.length_eq_zero_iff.1 (Nat.le_zero.1 h)
  | succ n ih =>
      rw [upTo, opt, lang, Language.mem_add, lang, lang, Language.mem_one]
      cases w with
      | nil => simp
      | cons c w =>
          rw [cons_mem_mul]
          constructor
          · rintro (h | ⟨u, v, ⟨d, hd, hu⟩, hv, huv⟩ | ⟨⟨d, _, hd⟩, _⟩)
            · simp at h
            · obtain ⟨rfl, rfl⟩ := List.cons.inj hu
              rw [List.nil_append] at huv
              subst huv
              obtain ⟨hlen, hall⟩ := (ih v).1 hv
              refine ⟨Nat.succ_le_succ hlen, ?_⟩
              intro e he
              rcases List.mem_cons.1 he with rfl | he
              · exact hd
              · exact hall e he
            · simp at hd
          · rintro ⟨hlen, hall⟩
            refine Or.inr (Or.inl ⟨[], w, ⟨c, hall c List.mem_cons_self, rfl⟩, ?_, rfl⟩)
            exact (ih w).2 ⟨Nat.le_of_succ_le_succ hlen,
              fun d hd => hall d (List.mem_cons_of_mem c hd)⟩

/-- One character of a class, then a word of `r`. -/
theorem mem_lang_cls_seq (p : Char → Bool) (r : Pattern) (w : List Char) :
    w ∈ lang (seq (cls p) r) ↔ ∃ c v, w = c :: v ∧ p c = true ∧ v ∈ lang r := by
  rw [lang, Language.mem_mul]
  constructor
  · rintro ⟨u, ⟨c, hc, rfl⟩, v, hv, rfl⟩
    exact ⟨c, v, rfl, hc, hv⟩
  · rintro ⟨c, v, rfl, hc, hv⟩
    exact ⟨[c], ⟨c, hc, rfl⟩, v, hv, rfl⟩

/-- A literal denotes itself. -/
theorem mem_lang_lit (s : String) (w : List Char) : w ∈ lang (lit s) ↔ w = s.toList := by
  unfold lit
  induction s.toList generalizing w with
  | nil => exact Language.mem_one w
  | cons c cs ih =>
      rw [List.foldr_cons, char, mem_lang_cls_seq]
      constructor
      · rintro ⟨d, v, rfl, hd, hv⟩
        rw [(ih v).mp hv, eq_of_beq hd]
      · rintro rfl
        exact ⟨c, cs, rfl, beq_self_eq_true c, (ih cs).mpr rfl⟩

/-- A literal, then a word of `r`. -/
theorem mem_lang_lit_seq (s : String) (r : Pattern) (w : List Char) :
    w ∈ lang (seq (lit s) r) ↔ ∃ v ∈ lang r, w = s.toList ++ v := by
  rw [lang, Language.mem_mul]
  constructor
  · rintro ⟨u, hu, v, hv, rfl⟩
    exact ⟨v, hv, by rw [(mem_lang_lit s u).mp hu]⟩
  · rintro ⟨v, hv, rfl⟩
    exact ⟨s.toList, (mem_lang_lit s _).mpr rfl, v, hv, rfl⟩

/-- `n` characters of a class. -/
theorem mem_lang_times_cls (p : Char → Bool) (n : Nat) (w : List Char) :
    w ∈ lang (times (cls p) n) ↔ w.length = n ∧ ∀ c ∈ w, p c = true := by
  induction n generalizing w with
  | zero =>
      rw [times, lang, Language.mem_one, List.length_eq_zero_iff]
      constructor
      · rintro rfl
        exact ⟨rfl, fun c hc => absurd hc List.not_mem_nil⟩
      · exact fun h => h.1
  | succ n ih =>
      rw [times, mem_lang_cls_seq]
      constructor
      · rintro ⟨c, v, rfl, hc, hv⟩
        obtain ⟨hlength, hall⟩ := (ih v).mp hv
        refine ⟨by rw [List.length_cons, hlength], fun d hd => ?_⟩
        rcases List.mem_cons.mp hd with rfl | hd
        · exact hc
        · exact hall d hd
      · rintro ⟨hlength, hall⟩
        cases w with
        | nil => cases hlength
        | cons c v =>
            refine ⟨c, v, rfl, hall c List.mem_cons_self, (ih v).mpr ⟨?_, ?_⟩⟩
            · exact Nat.succ.inj hlength
            · exact fun d hd => hall d (List.mem_cons_of_mem c hd)

end Pattern

end NetStrike.Foundation
