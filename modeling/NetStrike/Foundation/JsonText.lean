import Mathlib.Data.List.Nodup
import NetStrike.Foundation.Json

/-!
# Reading JSON text

`loads` reads a JSON text as Python's decoder does: `scanString`, `scanNumber` and `scanValue` read a
prefix and return what follows. What becomes of the pairs of an object is a parameter (`Hook`), and
so are the texts of floats (`FloatText`). Two things are left out: a lone surrogate, which no
`String` holds, and the names of the non-finite numbers.

`loads_dumps` is the round trip: the text of a value is read as the value with its keys sorted.
Hence equal texts are texts of equal values (`sortKeys_of_dumpChars`).
-/

set_option autoImplicit false

namespace NetStrike.Foundation

namespace Json

/-! ## Values with sorted keys -/

/-- Insert a member into a member list sorted by key. -/
def insertKey {α : Type} (m : String × α) : List (String × α) → List (String × α)
  | [] => [m]
  | n :: ns => if m.1 < n.1 then m :: n :: ns else n :: insertKey m ns

mutual

/-- The value with the members of its objects sorted by key. -/
def sortKeys : Json → Json
  | arr items => arr (sortItems items)
  | obj members => obj (sortMembers members)
  | j => j

/-- The items of an array, each with sorted keys. -/
def sortItems : List Json → List Json
  | [] => []
  | a :: as => sortKeys a :: sortItems as

/-- The members of an object sorted by key, each with sorted keys. -/
def sortMembers : List (String × Json) → List (String × Json)
  | [] => []
  | (k, a) :: as => insertKey (k, sortKeys a) (sortMembers as)

end

/-- The integer has a text: Python writes and reads at most 4300 digits. -/
def Short (n : Int) : Prop := (Nat.toDigits 10 n.natAbs).length ≤ 4300

instance (n : Int) : Decidable (Short n) := inferInstanceAs (Decidable (_ ≤ _))

mutual

/-- The keys of every object are distinct, every integer has a text, and every float is one. -/
def Proper (isFloat : Rat → Prop) : Json → Prop
  | int n => Short n
  | float q => isFloat q
  | arr items => ProperItems isFloat items
  | obj members => (members.map Prod.fst).Nodup ∧ ProperMembers isFloat members
  | _ => True

/-- `Proper` of every item. -/
def ProperItems (isFloat : Rat → Prop) : List Json → Prop
  | [] => True
  | a :: as => Proper isFloat a ∧ ProperItems isFloat as

/-- `Proper` of every member. -/
def ProperMembers (isFloat : Rat → Prop) : List (String × Json) → Prop
  | [] => True
  | (_, a) :: as => Proper isFloat a ∧ ProperMembers isFloat as

end

section Insert

variable {α β : Type}

theorem insertKey_map (f : α → β) (m : String × α) (ms : List (String × α)) :
    (insertKey m ms).map (fun n => (n.1, f n.2)) =
      insertKey (m.1, f m.2) (ms.map fun n => (n.1, f n.2)) := by
  induction ms with
  | nil => rfl
  | cons n ns ih =>
      simp only [insertKey, List.map_cons]
      split
      · rfl
      · rw [List.map_cons, ih]

theorem insertKey_perm (m : String × α) (ms : List (String × α)) :
    (insertKey m ms).Perm (m :: ms) := by
  induction ms with
  | nil => rfl
  | cons n ns ih =>
      unfold insertKey
      split
      · rfl
      · exact (ih.cons n).trans (List.Perm.swap m n ns)

/-- Under distinct keys the order of the members does not matter. -/
theorem lookup_perm {ms ns : List (String × α)} (h : ms.Perm ns)
    (hnodup : (ms.map Prod.fst).Nodup) (key : String) : ms.lookup key = ns.lookup key := by
  induction h with
  | nil => rfl
  | cons m h ih =>
      rw [List.map_cons, List.nodup_cons] at hnodup
      rw [List.lookup_cons, List.lookup_cons, ih hnodup.2]
  | swap m n ns =>
      simp only [List.map_cons, List.nodup_cons, List.mem_cons, not_or] at hnodup
      obtain ⟨k, a⟩ := m
      obtain ⟨l, b⟩ := n
      have hne : k ≠ l := fun heq => hnodup.1.1 heq.symm
      simp only [List.lookup_cons]
      cases hm : key == k with
      | false => rfl
      | true =>
          cases hn : key == l with
          | false => rfl
          | true => exact absurd ((eq_of_beq hm).symm.trans (eq_of_beq hn)) hne
  | trans h₁ h₂ ih₁ ih₂ => exact (ih₁ hnodup).trans (ih₂ ((h₁.map Prod.fst).nodup_iff.mp hnodup))

end Insert

theorem sortItems_eq_map (items : List Json) : sortItems items = items.map sortKeys := by
  induction items with
  | nil => rfl
  | cons a as ih => rw [sortItems, List.map_cons, ih]

theorem sortMembers_perm (ms : List (String × Json)) :
    (sortMembers ms).Perm (ms.map fun m => (m.1, sortKeys m.2)) := by
  induction ms with
  | nil => rfl
  | cons m ms ih =>
      obtain ⟨k, a⟩ := m
      exact (insertKey_perm _ _).trans (ih.cons _)

theorem sortMembers_keys_perm (ms : List (String × Json)) :
    ((sortMembers ms).map Prod.fst).Perm (ms.map Prod.fst) := by
  have h := (sortMembers_perm ms).map Prod.fst
  rwa [List.map_map] at h

theorem properItems_iff {isFloat : Rat → Prop} {items : List Json} :
    ProperItems isFloat items ↔ ∀ a ∈ items, Proper isFloat a := by
  induction items with
  | nil => simp [ProperItems]
  | cons a as ih => simp [ProperItems, ih]

theorem properMembers_iff {isFloat : Rat → Prop} {ms : List (String × Json)} :
    ProperMembers isFloat ms ↔ ∀ m ∈ ms, Proper isFloat m.2 := by
  induction ms with
  | nil => simp [ProperMembers]
  | cons m ms ih =>
      obtain ⟨k, a⟩ := m
      simp [ProperMembers, ih]

mutual

theorem Proper.sortKeys {isFloat : Rat → Prop} : ∀ {j : Json}, Proper isFloat j →
    Proper isFloat j.sortKeys
  | null, h | bool _, h | int _, h | float _, h | str _, h => h
  | arr items, h => Proper.sortItems (show ProperItems isFloat items from h)
  | obj ms, h =>
      ⟨(sortMembers_keys_perm ms).nodup_iff.mpr h.1, Proper.sortMembers (show ProperMembers isFloat ms from h.2)⟩

theorem Proper.sortItems {isFloat : Rat → Prop} : ∀ {items : List Json},
    ProperItems isFloat items → ProperItems isFloat (Json.sortItems items)
  | [], h => h
  | _ :: _, h => ⟨Proper.sortKeys h.1, Proper.sortItems h.2⟩

theorem Proper.sortMembers {isFloat : Rat → Prop} : ∀ {ms : List (String × Json)},
    ProperMembers isFloat ms → ProperMembers isFloat (Json.sortMembers ms)
  | [], h => h
  | (k, a) :: ms, h => by
      have hrest := properMembers_iff.mp (Proper.sortMembers (show ProperMembers isFloat ms from h.2))
      refine properMembers_iff.mpr fun m hm => ?_
      rcases List.mem_cons.mp ((insertKey_perm _ _).mem_iff.mp hm) with rfl | hm
      · exact Proper.sortKeys h.1
      · exact hrest m hm

end

theorem lookup_map (f : Json → Json) (key : String) (ms : List (String × Json)) :
    (ms.map fun m => (m.1, f m.2)).lookup key = (ms.lookup key).map f := by
  induction ms with
  | nil => rfl
  | cons m ms ih =>
      rw [List.map_cons, List.lookup_cons, List.lookup_cons, ih]
      cases key == m.1 <;> rfl

/-- Sorting keeps the member under a key. -/
theorem get?_sortKeys {isFloat : Rat → Prop} {j : Json} (h : j.Proper isFloat) (key : String) :
    j.sortKeys.get? key = (j.get? key).map Json.sortKeys := by
  cases j with
  | obj ms =>
      have hnodup : ((sortMembers ms).map Prod.fst).Nodup :=
        (sortMembers_keys_perm ms).nodup_iff.mpr h.1
      rw [Json.sortKeys, get?, get?, lookup_perm (sortMembers_perm ms) hnodup, lookup_map]
  | arr | null | bool | int | float | str => rfl

theorem str?_sortKeys {isFloat : Rat → Prop} {j : Json} (h : j.Proper isFloat) (key : String) :
    j.sortKeys.str? key = j.str? key := by
  unfold str?
  rw [get?_sortKeys h]
  cases j.get? key with
  | none => rfl
  | some child => cases child <;> rfl

/-! ## Text in the given order -/

section Text

variable (repr : Rat → String)

mutual

/-- The compact text of a value, members in their order. -/
def textOf : Json → List Char
  | null => "null".toList
  | bool true => "true".toList
  | bool false => "false".toList
  | int n => (toString n).toList
  | float q => (repr q).toList
  | str s => quote s
  | arr items => '[' :: commaJoin (itemTexts items) ++ [']']
  | obj members => '{' :: commaJoin (memberTexts members) ++ ['}']

/-- The texts of the items of an array. -/
def itemTexts : List Json → List (List Char)
  | [] => []
  | a :: as => textOf a :: itemTexts as

/-- The texts of the members of an object. -/
def memberTexts : List (String × Json) → List (List Char)
  | [] => []
  | (k, a) :: as => (quote k ++ ':' :: textOf a) :: memberTexts as

end

theorem memberTexts_eq_map (ms : List (String × Json)) :
    memberTexts repr ms = ms.map fun m => quote m.1 ++ ':' :: textOf repr m.2 := by
  induction ms with
  | nil => rfl
  | cons m ms ih =>
      obtain ⟨k, a⟩ := m
      rw [memberTexts, List.map_cons, ih]

theorem insertMember_eq (m : String × List Char) (ms : List (String × List Char)) :
    insertMember m ms = insertKey m ms := by
  induction ms with
  | nil => rfl
  | cons n ns ih => simp only [insertMember, insertKey, ih]

mutual

/-- The text with sorted keys is the text of the value with sorted keys. -/
theorem dumpChars_eq : ∀ j : Json, dumpChars repr j = textOf repr j.sortKeys
  | null | bool true | bool false | int _ | float _ | str _ => by
      simp only [dumpChars, sortKeys, textOf]
  | arr items => by
      rw [dumpChars, sortKeys, textOf, dumpItems_eq items]
  | obj ms => by
      rw [dumpChars, sortKeys, textOf, dumpMembers_eq ms, memberTexts_eq_map, List.map_map]
      rfl

theorem dumpItems_eq : ∀ items : List Json,
    dumpItems repr items = itemTexts repr (sortItems items)
  | [] => rfl
  | a :: as => by rw [dumpItems, sortItems, itemTexts, dumpChars_eq a, dumpItems_eq as]

theorem dumpMembers_eq : ∀ ms : List (String × Json),
    dumpMembers repr ms = (sortMembers ms).map fun m => (m.1, textOf repr m.2)
  | [] => rfl
  | (k, a) :: ms => by
      rw [dumpMembers, sortMembers, insertMember_eq, dumpMembers_eq ms, dumpChars_eq a,
        insertKey_map]

end

end Text

end Json

/-! ## Numbers -/

/-- The digits before the point. -/
def IsWhole (cs : List Char) : Prop :=
  cs = ['0'] ∨ cs ≠ [] ∧ (∀ c ∈ cs, c.isDigit = true) ∧ cs.head? ≠ some '0'

/-- Nothing, or a point and digits. -/
def IsFraction (cs : List Char) : Prop :=
  cs = [] ∨ ∃ digits, cs = '.' :: digits ∧ digits ≠ [] ∧ ∀ c ∈ digits, c.isDigit = true

/-- Nothing, or the sign `e` and an integer. -/
def IsExponent (cs : List Char) : Prop :=
  cs = [] ∨ ∃ sign digits, cs = 'e' :: (sign ++ digits) ∧ (sign = [] ∨ sign = ['+'] ∨ sign = ['-']) ∧
    digits ≠ [] ∧ ∀ c ∈ digits, c.isDigit = true

/-- The parts of a number. -/
structure NumberText where
  minus : Bool
  whole : List Char
  fraction : List Char
  exponent : List Char
  whole_given : IsWhole whole
  fraction_given : IsFraction fraction
  exponent_given : IsExponent exponent

/-- The sign of a number. -/
def signChars (minus : Bool) : List Char := if minus then ['-'] else []

/-- The characters of a number. -/
def NumberText.chars (t : NumberText) : List Char :=
  signChars t.minus ++ (t.whole ++ (t.fraction ++ t.exponent))

/-- The texts of floats: `float.__repr__` and `float`. The text of a float is a number with a fraction
or an exponent, and is read as that float. A text outside the range of finite floats is read as
nothing. -/
structure FloatText where
  isFloat : Rat → Prop
  repr : Rat → String
  parse : List Char → Option Rat
  parse_repr : ∀ q, isFloat q → parse (repr q).toList = some q
  parse_isFloat : ∀ cs q, parse cs = some q → isFloat q
  shape : ∀ q, isFloat q → ∃ t : NumberText, (repr q).toList = t.chars ∧
    ¬ (t.fraction = [] ∧ t.exponent = [])

/-- Floats of one value. -/
def FloatText.half : FloatText where
  isFloat q := q = 1 / 2
  repr _ := "0.5"
  parse cs := if cs = "0.5".toList then some (1 / 2) else none
  parse_repr q h := by rw [if_pos rfl, h]
  parse_isFloat cs q h := by
    split at h
    · exact (Option.some.inj h).symm
    · cases h
  shape q _ := ⟨⟨false, ['0'], ['.', '5'], [], Or.inl rfl,
    Or.inr ⟨['5'], rfl, List.cons_ne_nil _ _, by decide⟩, Or.inl rfl⟩, rfl, by decide⟩

namespace Json

/-- The whole part of a number. -/
def scanWhole : List Char → Option (List Char × List Char)
  | '0' :: cs => some (['0'], cs)
  | cs =>
      if cs.takeWhile Char.isDigit = [] then none
      else some (cs.takeWhile Char.isDigit, cs.dropWhile Char.isDigit)

/-- The fraction of a number, if there is one. -/
def scanFraction : List Char → List Char × List Char
  | '.' :: cs =>
      if cs.takeWhile Char.isDigit = [] then ([], '.' :: cs)
      else ('.' :: cs.takeWhile Char.isDigit, cs.dropWhile Char.isDigit)
  | cs => ([], cs)

/-- The sign of an exponent. -/
def scanSign : List Char → List Char × List Char
  | '+' :: cs => (['+'], cs)
  | '-' :: cs => (['-'], cs)
  | cs => ([], cs)

/-- The exponent of a number, if there is one. -/
def scanExponent : List Char → List Char × List Char
  | [] => ([], [])
  | c :: cs =>
      if (c = 'e' ∨ c = 'E') ∧ (scanSign cs).2.takeWhile Char.isDigit ≠ [] then
        (c :: ((scanSign cs).1 ++ (scanSign cs).2.takeWhile Char.isDigit),
          (scanSign cs).2.dropWhile Char.isDigit)
      else ([], c :: cs)

/-- The integer of a sign and digits. -/
def intOf (minus : Bool) (digits : List Char) : Int :=
  if minus then -(Nat.ofDigitChars 10 digits 0 : Int) else Nat.ofDigitChars 10 digits 0

/-- The minus of a number. -/
def scanMinus : List Char → Bool × List Char
  | '-' :: cs => (true, cs)
  | cs => (false, cs)

/-- `match_number`. -/
def scanNumber (parse : List Char → Option Rat) (cs : List Char) : Option (Json × List Char) :=
  match scanWhole (scanMinus cs).2 with
  | none => none
  | some (whole, rest) =>
      let (fraction, rest) := scanFraction rest
      let (exponent, rest) := scanExponent rest
      if fraction = [] ∧ exponent = [] then
        if Short (intOf (scanMinus cs).1 whole) then
          some (.int (intOf (scanMinus cs).1 whole), rest)
        else none
      else (parse (signChars (scanMinus cs).1 ++ (whole ++ (fraction ++ exponent)))).map
        fun q => (.float q, rest)

/-- A number ends here. -/
def Stops (rest : List Char) : Prop :=
  ∀ c ∈ rest.head?, c.isDigit = false ∧ c ≠ '.' ∧ c ≠ 'e' ∧ c ≠ 'E'

theorem takeWhile_digits {digits rest : List Char} (h : ∀ c ∈ digits, c.isDigit = true)
    (hrest : ∀ c ∈ rest.head?, c.isDigit = false) :
    (digits ++ rest).takeWhile Char.isDigit = digits ∧
      (digits ++ rest).dropWhile Char.isDigit = rest := by
  induction digits with
  | nil =>
      cases rest with
      | nil => exact ⟨rfl, rfl⟩
      | cons c rest =>
          have hc : c.isDigit = false := hrest c rfl
          simp [hc]
  | cons d digits ih =>
      obtain ⟨htake, hdrop⟩ := ih fun c hc => h c (List.mem_cons_of_mem d hc)
      have hd : d.isDigit = true := h d List.mem_cons_self
      simp [hd, htake, hdrop]

theorem scanWhole_append {whole rest : List Char} (h : IsWhole whole)
    (hrest : ∀ c ∈ rest.head?, c.isDigit = false) :
    scanWhole (whole ++ rest) = some (whole, rest) := by
  rcases h with rfl | ⟨hne, hdigits, hhead⟩
  · rfl
  · obtain ⟨htake, hdrop⟩ := takeWhile_digits hdigits hrest
    cases whole with
    | nil => exact absurd rfl hne
    | cons d whole =>
        have hd : d ≠ '0' := fun h => hhead (by rw [h]; rfl)
        rw [List.cons_append] at htake hdrop ⊢
        unfold scanWhole
        split
        · next cs heq =>
            injection heq with h _
            exact absurd h hd
        · rw [htake, hdrop, if_neg (List.cons_ne_nil d whole)]

theorem scanFraction_append {fraction rest : List Char} (h : IsFraction fraction)
    (hdigit : ∀ c ∈ rest.head?, c.isDigit = false) (hpoint : rest.head? ≠ some '.') :
    scanFraction (fraction ++ rest) = (fraction, rest) := by
  rcases h with rfl | ⟨digits, rfl, hne, hdigits⟩
  · rw [List.nil_append]
    unfold scanFraction
    split
    · exact absurd rfl hpoint
    · rfl
  · obtain ⟨htake, hdrop⟩ := takeWhile_digits hdigits hdigit
    rw [List.cons_append, scanFraction, htake, hdrop, if_neg hne]

theorem scanSign_append {sign digits : List Char}
    (h : sign = [] ∨ sign = ['+'] ∨ sign = ['-']) (hne : digits ≠ [])
    (hdigits : ∀ c ∈ digits, c.isDigit = true) (rest : List Char) :
    scanSign (sign ++ (digits ++ rest)) = (sign, digits ++ rest) := by
  rcases h with rfl | rfl | rfl
  · cases digits with
    | nil => exact absurd rfl hne
    | cons d digits =>
        have hd := hdigits d List.mem_cons_self
        rw [List.nil_append, List.cons_append]
        unfold scanSign
        split
        · next heq =>
            injection heq with h _
            rw [h] at hd
            exact absurd hd (by decide)
        · next heq =>
            injection heq with h _
            rw [h] at hd
            exact absurd hd (by decide)
        · rfl
  · rfl
  · rfl

theorem scanExponent_append {exponent rest : List Char} (h : IsExponent exponent)
    (hrest : Stops rest) : scanExponent (exponent ++ rest) = (exponent, rest) := by
  rcases h with rfl | ⟨sign, digits, rfl, hsign, hne, hdigits⟩
  · cases rest with
    | nil => rfl
    | cons c rest =>
        obtain ⟨-, -, he, hE⟩ := hrest c rfl
        rw [List.nil_append, scanExponent, if_neg]
        rintro ⟨rfl | rfl, -⟩
        · exact he rfl
        · exact hE rfl
  · obtain ⟨htake, hdrop⟩ := takeWhile_digits hdigits fun c hc => (hrest c hc).1
    rw [List.cons_append, List.append_assoc, scanExponent,
      scanSign_append hsign hne hdigits rest]
    dsimp only
    rw [htake, hdrop, if_pos ⟨Or.inl rfl, hne⟩]

theorem isDigit_of_isWhole {whole : List Char} (h : IsWhole whole) :
    whole ≠ [] ∧ ∀ c ∈ whole, c.isDigit = true := by
  rcases h with rfl | ⟨hne, hdigits, -⟩
  · exact ⟨List.cons_ne_nil _ _, by simp⟩
  · exact ⟨hne, hdigits⟩

theorem scanMinus_append {whole : List Char} (h : IsWhole whole) (minus : Bool)
    (rest : List Char) : scanMinus (signChars minus ++ (whole ++ rest)) = (minus, whole ++ rest) := by
  cases minus with
  | true => rfl
  | false =>
      obtain ⟨hne, hdigits⟩ := isDigit_of_isWhole h
      cases whole with
      | nil => exact absurd rfl hne
      | cons d whole =>
          have hd := hdigits d List.mem_cons_self
          change scanMinus (d :: (whole ++ rest)) = (false, d :: (whole ++ rest))
          unfold scanMinus
          split
          · next heq =>
              injection heq with h _
              rw [h] at hd
              exact absurd hd (by decide)
          · rfl

/-- What follows the whole part is no digit, what follows the fraction is no point either. -/
theorem head_of_parts {fraction exponent rest : List Char} (hfraction : IsFraction fraction)
    (hexponent : IsExponent exponent) (hrest : Stops rest) :
    (∀ c ∈ (exponent ++ rest).head?, c.isDigit = false) ∧
      (exponent ++ rest).head? ≠ some '.' ∧
      ∀ c ∈ (fraction ++ (exponent ++ rest)).head?, c.isDigit = false := by
  have hafter : (∀ c ∈ (exponent ++ rest).head?, c.isDigit = false) ∧
      (exponent ++ rest).head? ≠ some '.' := by
    rcases hexponent with rfl | ⟨sign, digits, rfl, -, -, -⟩
    · exact ⟨fun c hc => (hrest c hc).1, fun h => (hrest '.' h).2.1 rfl⟩
    · constructor
      · intro c hc
        injection hc with hc
        rw [← hc]
        rfl
      · intro h
        injection h with h
        exact absurd h (by decide)
  refine ⟨hafter.1, hafter.2, ?_⟩
  rcases hfraction with rfl | ⟨digits, rfl, -, -⟩
  · exact hafter.1
  · intro c hc
    injection hc with hc
    rw [← hc]
    rfl

/-- A number is read whole. -/
theorem scanNumber_append (parse : List Char → Option Rat) (t : NumberText) {rest : List Char}
    (hrest : Stops rest) :
    scanNumber parse (t.chars ++ rest) =
      if t.fraction = [] ∧ t.exponent = [] then
        if Short (intOf t.minus t.whole) then some (.int (intOf t.minus t.whole), rest) else none
      else (parse t.chars).map fun q => (.float q, rest) := by
  obtain ⟨hexponent, hpoint, hfraction⟩ :=
    head_of_parts t.fraction_given t.exponent_given hrest
  have hchars : t.chars ++ rest =
      signChars t.minus ++ (t.whole ++ (t.fraction ++ (t.exponent ++ rest))) := by
    simp only [NumberText.chars, List.append_assoc]
  unfold scanNumber
  rw [hchars, scanMinus_append t.whole_given]
  dsimp only
  rw [scanWhole_append t.whole_given hfraction]
  dsimp only
  rw [scanFraction_append t.fraction_given hexponent hpoint]
  dsimp only
  rw [scanExponent_append t.exponent_given hrest]
  rfl

/-- The digits of a natural number are a whole part. -/
theorem isWhole_toDigits (n : Nat) : IsWhole (Nat.toDigits 10 n) := by
  by_cases hn : n = 0
  · subst hn
    exact Or.inl (Nat.toDigits_zero 10)
  · refine Or.inr ⟨Nat.toDigits_ne_nil, fun c hc =>
      Nat.isDigit_of_mem_toDigits (by decide) (by decide) hc, ?_⟩
    induction n using Nat.strongRecOn with
    | _ n ih =>
        by_cases hlt : n < 10
        · rw [Nat.toDigits_of_lt_base hlt]
          intro h
          injection h with h
          exact hn (Nat.digitChar_eq_zero.mp h)
        · rw [Nat.toDigits_of_base_le (by decide) (by omega)]
          have hdiv : n / 10 ≠ 0 := by omega
          have hhead := ih (n / 10) (by omega) hdiv
          rw [List.head?_append_of_ne_nil _ Nat.toDigits_ne_nil]
          exact hhead

/-- The parts of an integer. -/
def intText (n : Int) : NumberText where
  minus := decide (n < 0)
  whole := Nat.toDigits 10 n.natAbs
  fraction := []
  exponent := []
  whole_given := isWhole_toDigits n.natAbs
  fraction_given := Or.inl rfl
  exponent_given := Or.inl rfl

theorem toString_int (n : Int) : (toString n).toList = (intText n).chars := by
  cases n with
  | ofNat n => 
      change (Nat.repr n).toList = _
      simp [intText, NumberText.chars, signChars, Nat.toList_repr]
  | negSucc n =>
      change ("-" ++ Nat.repr (n + 1)).toList = _
      simp [intText, NumberText.chars, signChars, Nat.toList_repr, Int.negSucc_lt_zero]

theorem intOf_intText (n : Int) : intOf (intText n).minus (intText n).whole = n := by
  unfold intOf intText
  dsimp only
  rw [Nat.ofDigitChars_ten_toDigits]
  by_cases hn : n < 0
  · simp only [hn, decide_true, if_true]
    omega
  · simp only [hn, decide_false, Bool.false_eq_true, if_false]
    omega

/-! ## Strings -/

/-- The value of a hexadecimal digit. -/
def hexValue (c : Char) : Option Nat :=
  if 48 ≤ c.toNat ∧ c.toNat ≤ 57 then some (c.toNat - 48)
  else if 97 ≤ c.toNat ∧ c.toNat ≤ 102 then some (c.toNat - 87)
  else if 65 ≤ c.toNat ∧ c.toNat ≤ 70 then some (c.toNat - 55)
  else none

/-- The four digits of a code unit. -/
def scanUnit : List Char → Option (Nat × List Char)
  | a :: b :: c :: d :: cs => do
      let a ← hexValue a
      let b ← hexValue b
      let c ← hexValue c
      let d ← hexValue d
      return (4096 * a + 256 * b + 16 * c + d, cs)
  | _ => none

/-- The second code unit of a surrogate pair. -/
def scanLow (high : Nat) : List Char → Option (Char × List Char)
  | '\\' :: 'u' :: cs => do
      let (low, cs) ← scanUnit cs
      if 56320 ≤ low ∧ low ≤ 57343 then
        return (Char.ofNat (65536 + 1024 * (high - 55296) + (low - 56320)), cs)
      else none
  | _ => none

/-- What follows the backslash of an escape. -/
def scanEscape : List Char → Option (Char × List Char)
  | '"' :: cs => some ('"', cs)
  | '\\' :: cs => some ('\\', cs)
  | '/' :: cs => some ('/', cs)
  | 'b' :: cs => some (Char.ofNat 8, cs)
  | 'f' :: cs => some (Char.ofNat 12, cs)
  | 'n' :: cs => some ('\n', cs)
  | 'r' :: cs => some ('\r', cs)
  | 't' :: cs => some ('\t', cs)
  | 'u' :: cs => do
      let (unit, cs) ← scanUnit cs
      if 55296 ≤ unit ∧ unit ≤ 56319 then scanLow unit cs
      else if 56320 ≤ unit ∧ unit ≤ 57343 then none
      else return (Char.ofNat unit, cs)
  | _ => none

/-- The characters of a string up to its closing quotation mark. -/
def scanChars : Nat → List Char → Option (List Char × List Char)
  | 0, _ => none
  | _ + 1, '"' :: cs => some ([], cs)
  | n + 1, '\\' :: cs => do
      let (c, cs) ← scanEscape cs
      let (s, cs) ← scanChars n cs
      return (c :: s, cs)
  | n + 1, c :: cs =>
      if c.toNat < 32 then none
      else do
        let (s, cs) ← scanChars n cs
        return (c :: s, cs)
  | _ + 1, [] => none

/-- `scanstring`: a string without its opening quotation mark. -/
def scanString (cs : List Char) : Option (String × List Char) := do
  let (s, cs) ← scanChars (cs.length + 1) cs
  return (String.ofList s, cs)

theorem hexValue_hexDigit : ∀ n < 16, hexValue (hexDigit n) = some n := by decide

theorem scanUnit_append (n : Nat) (hn : n < 65536) (rest : List Char) :
    scanUnit (hexDigit (n / 4096 % 16) :: hexDigit (n / 256 % 16) :: hexDigit (n / 16 % 16) ::
      hexDigit (n % 16) :: rest) = some (n, rest) := by
  have hdigit : ∀ m, hexValue (hexDigit (m % 16)) = some (m % 16) :=
    fun m => hexValue_hexDigit _ (Nat.mod_lt m (by decide))
  have hvalue : 4096 * (n / 4096 % 16) + 256 * (n / 256 % 16) + 16 * (n / 16 % 16) + n % 16 = n := by
    omega
  simp [scanUnit, hdigit, hvalue]

/-- The range of characters. -/
theorem toNat_range (c : Char) :
    c.toNat < 55296 ∨ 57343 < c.toNat ∧ c.toNat < 1114112 := c.valid

theorem eq_of_toNat {c : Char} {n : Nat} (h : c.toNat = n) : c = Char.ofNat n := by
  rw [← h, Char.ofNat_toNat]

/-- An escape is read as its character. -/
theorem scanChars_escape {c : Char} {cs rest : List Char} (h : scanEscape cs = some (c, rest))
    (n : Nat) :
    scanChars (n + 1) ('\\' :: cs) = (scanChars n rest).map fun p => (c :: p.1, p.2) := by
  rw [scanChars, h, Option.bind_eq_bind, Option.bind_some]
  dsimp only
  cases scanChars n rest <;> rfl

/-- A code unit that is no surrogate is read as its character. -/
theorem scanEscape_unit {n : Nat} (hn : n < 65536) (hlow : n < 55296 ∨ 57343 < n)
    (rest : List Char) :
    scanEscape ((escapeUnit n).tail ++ rest) = some (Char.ofNat n, rest) := by
  have hunit := scanUnit_append n hn rest
  change (scanUnit (hexDigit (n / 4096 % 16) :: hexDigit (n / 256 % 16) ::
    hexDigit (n / 16 % 16) :: hexDigit (n % 16) :: rest) >>= _) = _
  rw [hunit, Option.bind_eq_bind, Option.bind_some]
  dsimp only
  rw [if_neg (by omega), if_neg (by omega)]
  rfl

/-- A surrogate pair is read as its character. -/
theorem scanEscape_pair {n : Nat} (hn : 65536 ≤ n) (hlimit : n < 1114112) (rest : List Char) :
    scanEscape ((escapeUnit (55296 + (n - 65536) / 1024)).tail ++
      (escapeUnit (56320 + (n - 65536) % 1024) ++ rest)) = some (Char.ofNat n, rest) := by
  have hlow := scanUnit_append (56320 + (n - 65536) % 1024) (by omega) rest
  simp only [escapeUnit, List.tail_cons, List.cons_append, List.nil_append]
  rw [scanEscape, scanUnit_append _ (by omega), Option.bind_eq_bind, Option.bind_some]
  dsimp only
  rw [if_pos (by omega), scanLow, hlow, Option.bind_eq_bind, Option.bind_some]
  dsimp only
  rw [if_pos (by omega)]
  have hvalue : 65536 + 1024 * (55296 + (n - 65536) / 1024 - 55296) +
      (56320 + (n - 65536) % 1024 - 56320) = n := by
    omega
  rw [hvalue]
  rfl

/-- A printable character that needs no escape is read as it is. -/
theorem scanChars_plain {c : Char} (hquote : c.toNat ≠ 34) (hslash : c.toNat ≠ 92)
    (hprint : 32 ≤ c.toNat) (n : Nat) (rest : List Char) :
    scanChars (n + 1) (c :: rest) = (scanChars n rest).map fun p => (c :: p.1, p.2) := by
  have hplain : ¬ c.toNat < 32 := by omega
  rw [scanChars, if_neg hplain]
  · cases scanChars n rest <;> rfl
  · exact fun h => hquote (congrArg Char.toNat h)
  · exact fun h => hslash (congrArg Char.toNat h)

/-- An escaped character is read back. -/
theorem scanChars_escapeChar (n : Nat) (c : Char) (rest : List Char) :
    scanChars (n + 1) (escapeChar c ++ rest) =
      (scanChars n rest).map fun p => (c :: p.1, p.2) := by
  have hrange := toNat_range c
  have hself : Char.ofNat c.toNat = c := Char.ofNat_toNat c
  unfold escapeChar
  dsimp only
  split_ifs with hquote hslash hline hreturn htab hback hfeed hprint hunit
  · exact scanChars_escape (by rw [eq_of_toNat hquote]; rfl) n
  · exact scanChars_escape (by rw [eq_of_toNat hslash]; rfl) n
  · exact scanChars_escape (by rw [eq_of_toNat hline]; rfl) n
  · exact scanChars_escape (by rw [eq_of_toNat hreturn]; rfl) n
  · exact scanChars_escape (by rw [eq_of_toNat htab]; rfl) n
  · exact scanChars_escape (by rw [eq_of_toNat hback]; rfl) n
  · exact scanChars_escape (by rw [eq_of_toNat hfeed]; rfl) n
  · exact scanChars_plain hquote hslash hprint.1 n rest
  · have hread := scanEscape_unit hunit (by omega) rest
    rw [hself] at hread
    exact scanChars_escape hread n
  · have hread := scanEscape_pair (n := c.toNat) (by omega) (by omega) rest
    rw [hself] at hread
    rw [List.append_assoc]
    exact scanChars_escape hread n

theorem scanChars_append (s rest : List Char) : ∀ n, s.length < n →
    scanChars n (s.flatMap escapeChar ++ '"' :: rest) = some (s, rest) := by
  induction s with
  | nil =>
      intro n hn
      cases n with
      | zero => omega
      | succ n => rfl
  | cons c s ih =>
      intro n hn
      cases n with
      | zero => omega
      | succ n =>
          rw [List.flatMap_cons, List.append_assoc, scanChars_escapeChar,
            ih n (Nat.lt_of_succ_lt_succ hn)]
          rfl

theorem length_escapeChar_pos (c : Char) : 0 < (escapeChar c).length := by
  unfold escapeChar escapeUnit
  dsimp only
  split_ifs <;> simp

theorem length_le_flatMap_escapeChar (s : List Char) :
    s.length ≤ (s.flatMap escapeChar).length := by
  induction s with
  | nil => exact Nat.le_refl 0
  | cons c s ih =>
      rw [List.flatMap_cons, List.length_append, List.length_cons]
      have hc := length_escapeChar_pos c
      omega

/-- A string literal is read back. -/
theorem scanString_append (s : String) (rest : List Char) :
    scanString (s.toList.flatMap escapeChar ++ '"' :: rest) = some (s, rest) := by
  unfold scanString
  have hlength := length_le_flatMap_escapeChar s.toList
  rw [scanChars_append s.toList rest _ (by rw [List.length_append]; omega)]
  simp

/-! ## Values -/

/-- Skip blanks. -/
def skip (cs : List Char) : List Char :=
  cs.dropWhile fun c => c == ' ' || c == '\t' || c == '\n' || c == '\r'

/-- What is made of the pairs of an object: `object_pairs_hook`. -/
abbrev Hook := List (String × Json) → Option (List (String × Json))

/-- Set a member of a dictionary. -/
def setMember {α : Type} (m : String × α) : List (String × α) → List (String × α)
  | [] => [m]
  | n :: ns => if n.1 = m.1 then m :: ns else n :: setMember m ns

/-- `dict`: a repeated key keeps its place and takes the later value. -/
def dict : Hook := fun pairs => some (pairs.foldl (fun members m => setMember m members) [])

section Read

variable (ft : FloatText) (hook : Hook)

mutual

/-- `scan_once`. -/
def scanValue : Nat → List Char → Option (Json × List Char)
  | 0, _ => none
  | n + 1, cs =>
      match cs with
      | '"' :: cs => (scanString cs).map fun p => (.str p.1, p.2)
      | '[' :: cs =>
          match skip cs with
          | ']' :: cs => some (.arr [], cs)
          | cs => (scanItems n cs).map fun p => (.arr p.1, p.2)
      | '{' :: cs =>
          match skip cs with
          | '}' :: cs => (hook []).map fun members => (.obj members, cs)
          | cs => do
              let (pairs, cs) ← scanPairs n cs
              let members ← hook pairs
              return (.obj members, cs)
      | 'n' :: 'u' :: 'l' :: 'l' :: cs => some (.null, cs)
      | 't' :: 'r' :: 'u' :: 'e' :: cs => some (.bool true, cs)
      | 'f' :: 'a' :: 'l' :: 's' :: 'e' :: cs => some (.bool false, cs)
      | cs => scanNumber ft.parse cs

/-- The items of an array up to its closing bracket. -/
def scanItems : Nat → List Char → Option (List Json × List Char)
  | 0, _ => none
  | n + 1, cs => do
      let (item, cs) ← scanValue n cs
      match skip cs with
      | ',' :: cs => do
          let (items, cs) ← scanItems n (skip cs)
          return (item :: items, cs)
      | ']' :: cs => return ([item], cs)
      | _ => none

/-- The pairs of an object up to its closing brace. -/
def scanPairs : Nat → List Char → Option (List (String × Json) × List Char)
  | 0, _ => none
  | n + 1, cs =>
      match cs with
      | '"' :: cs => do
          let (key, cs) ← scanString cs
          match skip cs with
          | ':' :: cs => do
              let (value, cs) ← scanValue n (skip cs)
              match skip cs with
              | ',' :: cs => do
                  let (pairs, cs) ← scanPairs n (skip cs)
                  return ((key, value) :: pairs, cs)
              | '}' :: cs => return ([(key, value)], cs)
              | _ => none
          | _ => none
      | _ => none

end

/-- `json.loads`: one value between blanks. -/
def loads (cs : List Char) : Option Json := do
  let (j, rest) ← scanValue ft hook (cs.length + 1) (skip cs)
  if skip rest = [] then return j else none

end Read

/-! ## The round trip -/

/-- The hook keeps pairs with distinct keys. -/
def Hook.Faithful (hook : Hook) : Prop :=
  ∀ pairs : List (String × Json), (pairs.map Prod.fst).Nodup → hook pairs = some pairs

/-- The hook keeps the pairs of `dict` too. -/
theorem setMember_append {α : Type} {m : String × α} {ms : List (String × α)}
    (h : m.1 ∉ ms.map Prod.fst) : setMember m ms = ms ++ [m] := by
  induction ms with
  | nil => rfl
  | cons n ns ih =>
      rw [List.map_cons, List.mem_cons, not_or] at h
      rw [setMember, if_neg fun heq => h.1 heq.symm, ih h.2, List.cons_append]

theorem foldl_setMember {α : Type} {pairs members : List (String × α)}
    (h : ((members ++ pairs).map Prod.fst).Nodup) :
    pairs.foldl (fun members m => setMember m members) members = members ++ pairs := by
  induction pairs generalizing members with
  | nil => rw [List.foldl_nil, List.append_nil]
  | cons m pairs ih =>
      have hm : m.1 ∉ members.map Prod.fst := by
        intro hmem
        rw [List.map_append, List.nodup_append] at h
        exact h.2.2 _ hmem _ (List.mem_map_of_mem List.mem_cons_self) rfl
      rw [List.foldl_cons, setMember_append hm, ih (by simpa using h), List.append_assoc,
        List.singleton_append]

theorem dict_faithful : Hook.Faithful dict := by
  intro pairs h
  unfold dict
  rw [foldl_setMember (by simpa using h), List.nil_append]

/-- What follows a value: nothing, a comma, a closing bracket or the end of the line. -/
def Delimited (rest : List Char) : Prop :=
  ∀ c ∈ rest.head?, c = ',' ∨ c = ']' ∨ c = '}' ∨ c = '\n'

theorem Delimited.stops {rest : List Char} (h : Delimited rest) : Stops rest := by
  intro c hc
  rcases h c hc with rfl | rfl | rfl | rfl <;> decide

theorem delimited_cons {c : Char} (h : c = ',' ∨ c = ']' ∨ c = '}' ∨ c = '\n') (rest : List Char) :
    Delimited (c :: rest) := by
  intro d hd
  injection hd with hd
  exact hd ▸ h

/-- A text that begins with neither a blank nor a closing bracket. -/
def Begins (cs : List Char) : Prop :=
  ∃ c rest, cs = c :: rest ∧ c ∉ [' ', '\t', '\n', '\r', ']', '}']

theorem Begins.append {cs : List Char} (h : Begins cs) (rest : List Char) : Begins (cs ++ rest) := by
  obtain ⟨c, cs, rfl, hc⟩ := h
  exact ⟨c, cs ++ rest, rfl, hc⟩

theorem Begins.skip {cs : List Char} (h : Begins cs) : Json.skip cs = cs := by
  obtain ⟨c, cs, rfl, hc⟩ := h
  simp only [List.mem_cons, not_or] at hc
  unfold Json.skip
  rw [List.dropWhile_cons_of_neg]
  simp [hc.1, hc.2.1, hc.2.2.1, hc.2.2.2.1]

theorem skip_punctuation {c : Char} (h : c = ',' ∨ c = ']' ∨ c = '}' ∨ c = ':')
    (rest : List Char) : skip (c :: rest) = c :: rest := by
  rcases h with rfl | rfl | rfl | rfl <;> rfl

theorem begins_digit {c : Char} (h : c.isDigit = true) (rest : List Char) : Begins (c :: rest) := by
  refine ⟨c, rest, rfl, fun hmem => ?_⟩
  simp only [List.mem_cons, List.not_mem_nil, or_false] at hmem
  rcases hmem with rfl | rfl | rfl | rfl | rfl | rfl <;> exact absurd h (by decide)

/-- A number begins with a minus or a digit. -/
theorem numberText_head (t : NumberText) :
    ∃ c rest, t.chars = c :: rest ∧ (c = '-' ∨ c.isDigit = true) := by
  obtain ⟨hne, hdigits⟩ := isDigit_of_isWhole t.whole_given
  unfold NumberText.chars
  cases t.minus with
  | true => exact ⟨'-', _, rfl, Or.inl rfl⟩
  | false =>
      cases hwhole : t.whole with
      | nil => exact absurd hwhole hne
      | cons d whole =>
          exact ⟨d, _, rfl, Or.inr (hdigits d (by rw [hwhole]; exact List.mem_cons_self))⟩

theorem begins_number (t : NumberText) : Begins t.chars := by
  obtain ⟨c, rest, heq, rfl | hc⟩ := numberText_head t
  · exact ⟨'-', rest, heq, by decide⟩
  · rw [heq]
    exact begins_digit hc rest

section RoundTrip

variable {ft : FloatText} {hook : Hook}

theorem begins_textOf {j : Json} (h : j.Proper ft.isFloat) : Begins (textOf ft.repr j) := by
  cases j with
  | null => exact ⟨'n', _, rfl, by decide⟩
  | bool b => cases b <;> exact ⟨_, _, rfl, by decide⟩
  | int n =>
      rw [textOf, toString_int]
      exact begins_number _
  | float q =>
      obtain ⟨t, hrepr, -⟩ := ft.shape q h
      rw [textOf, hrepr]
      exact begins_number _
  | str s => exact ⟨'"', _, rfl, by decide⟩
  | arr items => exact ⟨'[', _, rfl, by decide⟩
  | obj ms => exact ⟨'{', _, rfl, by decide⟩

/-- What begins with a minus or a digit is read as a number. -/
theorem scanValue_number {c : Char} (hc : c = '-' ∨ c.isDigit = true) (n : Nat)
    (cs : List Char) :
    scanValue ft hook (n + 1) (c :: cs) = scanNumber ft.parse (c :: cs) := by
  have hne : ∀ d : Char, d ≠ '-' → d.isDigit = false → c ≠ d := by
    rintro d hminus hdigit rfl
    rcases hc with hc | hc
    · exact hminus hc
    · rw [hdigit] at hc
      cases hc
  have hmiss : ∀ d rest, d ≠ '-' → d.isDigit = false → c :: cs ≠ d :: rest := by
    intro d rest hminus hdigit heq
    injection heq with h _
    exact hne d hminus hdigit h
  unfold scanValue
  split
  · next heq => exact absurd heq (hmiss _ _ (by decide) (by decide))
  · next heq => exact absurd heq (hmiss _ _ (by decide) (by decide))
  · next heq => exact absurd heq (hmiss _ _ (by decide) (by decide))
  · next heq => exact absurd heq (hmiss _ _ (by decide) (by decide))
  · next heq => exact absurd heq (hmiss _ _ (by decide) (by decide))
  · next heq => exact absurd heq (hmiss _ _ (by decide) (by decide))
  · rfl

theorem scanValue_numberText (t : NumberText) (n : Nat) {rest : List Char}
    (hrest : Delimited rest) :
    scanValue ft hook (n + 1) (t.chars ++ rest) =
      if t.fraction = [] ∧ t.exponent = [] then
        if Short (intOf t.minus t.whole) then some (.int (intOf t.minus t.whole), rest) else none
      else (ft.parse t.chars).map fun q => (.float q, rest) := by
  obtain ⟨c, cs, heq, hc⟩ := numberText_head t
  rw [← scanNumber_append ft.parse t hrest.stops, heq, List.cons_append, scanValue_number hc]

theorem commaJoin_cons (t u : List Char) (ts : List (List Char)) :
    commaJoin (t :: u :: ts) = t ++ ',' :: commaJoin (u :: ts) := rfl

theorem begins_commaJoin {t : List Char} (h : Begins t) (ts : List (List Char)) :
    Begins (commaJoin (t :: ts)) := by
  cases ts with
  | nil => exact h
  | cons u ts => exact h.append _

/-- An opening bracket with items behind it. -/
theorem scanValue_items {cs : List Char} (h : Begins cs) (n : Nat) :
    scanValue ft hook (n + 1) ('[' :: cs) =
      (scanItems ft hook n cs).map fun p => (.arr p.1, p.2) := by
  rw [scanValue]
  simp only [h.skip]
  obtain ⟨c, cs, rfl, hc⟩ := h
  split
  · next heq =>
      injection heq with h _
      exact absurd (h ▸ hc) (by decide)
  · rfl

/-- An opening brace with pairs behind it. -/
theorem scanValue_pairs {cs : List Char} (h : Begins cs) (n : Nat) :
    scanValue ft hook (n + 1) ('{' :: cs) =
      (scanPairs ft hook n cs).bind fun p => (hook p.1).map fun members => (.obj members, p.2) := by
  rw [scanValue]
  simp only [h.skip]
  obtain ⟨c, cs, rfl, hc⟩ := h
  split
  · next heq =>
      injection heq with h _
      exact absurd (h ▸ hc) (by decide)
  · cases scanPairs ft hook n (c :: cs) with
    | none => rfl
    | some p =>
        change (hook p.1 >>= _) = (hook p.1).map _
        cases hook p.1 <;> rfl

mutual

/-- A text is read as its value. -/
theorem scanValue_textOf (hhook : hook.Faithful) : ∀ (j : Json), j.Proper ft.isFloat →
    ∀ n rest, (textOf ft.repr j).length ≤ n → Delimited rest →
      scanValue ft hook n (textOf ft.repr j ++ rest) = some (j, rest)
  | j, hj, 0, rest, hn, _ => by
      obtain ⟨c, cs, heq, -⟩ := begins_textOf hj
      rw [heq] at hn
      cases hn
  | .null, _, n + 1, rest, _, _ => rfl
  | .bool true, _, n + 1, rest, _, _ => rfl
  | .bool false, _, n + 1, rest, _, _ => rfl
  | .int i, hi, n + 1, rest, _, hrest => by
      have hshort : Short i := hi
      rw [textOf, toString_int, scanValue_numberText _ n hrest, if_pos ⟨rfl, rfl⟩, intOf_intText,
        if_pos hshort]
  | .float q, hq, n + 1, rest, _, hrest => by
      obtain ⟨t, hrepr, hfloat⟩ := ft.shape q hq
      have hparse := ft.parse_repr q hq
      rw [textOf, hrepr, scanValue_numberText t n hrest, if_neg hfloat, ← hrepr, hparse,
        Option.map_some]
  | .str s, _, n + 1, rest, _, _ => by
      have hread := scanString_append s rest
      have htext : textOf ft.repr (.str s) ++ rest =
          '"' :: (s.toList.flatMap escapeChar ++ '"' :: rest) := by
        simp [textOf, quote]
      rw [htext, scanValue, hread]
      rfl
  | .arr [], _, n + 1, rest, _, _ => rfl
  | .arr (a :: as), hj, n + 1, rest, hn, _ => by
      have hbegins : Begins (commaJoin (itemTexts ft.repr (a :: as))) :=
        begins_commaJoin (begins_textOf hj.1) (itemTexts ft.repr as)
      have htext : textOf ft.repr (.arr (a :: as)) ++ rest =
          '[' :: (commaJoin (itemTexts ft.repr (a :: as)) ++ ']' :: rest) := by
        simp [textOf]
      rw [htext, scanValue_items (hbegins.append _)]
      rw [textOf] at hn
      simp only [List.length_cons, List.length_append, List.length_nil] at hn
      rw [scanItems_itemTexts hhook a as hj n rest (by omega)]
      rfl
  | .obj [], hj, n + 1, rest, _, _ => by
      have hempty : hook [] = some [] := hhook [] hj.1
      have htext : textOf ft.repr (.obj []) ++ rest = '{' :: '}' :: rest := rfl
      rw [htext, scanValue, skip_punctuation (by decide), hempty]
      rfl
  | .obj ((k, a) :: ms), hj, n + 1, rest, hn, _ => by
      have hbegins : Begins (commaJoin (memberTexts ft.repr ((k, a) :: ms))) :=
        begins_commaJoin ⟨'"', _, rfl, by decide⟩ _
      have htext : textOf ft.repr (.obj ((k, a) :: ms)) ++ rest =
          '{' :: (commaJoin (memberTexts ft.repr ((k, a) :: ms)) ++ '}' :: rest) := by
        simp [textOf]
      rw [htext, scanValue_pairs (hbegins.append _)]
      rw [textOf] at hn
      simp only [List.length_cons, List.length_append, List.length_nil] at hn
      rw [scanPairs_memberTexts hhook k a ms hj.2 n rest (by omega), Option.bind_some,
        hhook _ hj.1]
      rfl

theorem scanItems_itemTexts (hhook : hook.Faithful) : ∀ (a : Json) (as : List Json),
    ProperItems ft.isFloat (a :: as) → ∀ n rest,
      (commaJoin (itemTexts ft.repr (a :: as))).length + 1 ≤ n →
      scanItems ft hook n (commaJoin (itemTexts ft.repr (a :: as)) ++ ']' :: rest) =
        some (a :: as, rest)
  | a, as, hj, 0, rest, hn => by omega
  | a, [], hj, n + 1, rest, hn => by
      have htext : commaJoin (itemTexts ft.repr [a]) = textOf ft.repr a := rfl
      rw [htext] at hn ⊢
      have hread := scanValue_textOf hhook a hj.1 n (']' :: rest) (by omega)
        (delimited_cons (by decide) rest)
      rw [scanItems, hread]
      rfl
  | a, b :: bs, hj, n + 1, rest, hn => by
      have htext : commaJoin (itemTexts ft.repr (a :: b :: bs)) =
          textOf ft.repr a ++ ',' :: commaJoin (itemTexts ft.repr (b :: bs)) := rfl
      rw [htext] at hn ⊢
      simp only [List.length_append, List.length_cons] at hn
      rw [List.append_assoc, List.cons_append]
      have hread := scanValue_textOf hhook a hj.1 n
        (',' :: (commaJoin (itemTexts ft.repr (b :: bs)) ++ ']' :: rest)) (by omega)
        (delimited_cons (by decide) _)
      have hbegins := (begins_commaJoin (begins_textOf hj.2.1) (itemTexts ft.repr bs)).append
        (']' :: rest)
      have hitems := scanItems_itemTexts hhook b bs hj.2 n rest (by omega)
      rw [scanItems, hread, Option.bind_eq_bind, Option.bind_some]
      change (scanItems ft hook n (skip (commaJoin (itemTexts ft.repr (b :: bs)) ++ ']' :: rest)) >>=
        fun p => some (a :: p.1, p.2)) = _
      have hskip : skip (commaJoin (itemTexts ft.repr (b :: bs)) ++ ']' :: rest) =
          commaJoin (itemTexts ft.repr (b :: bs)) ++ ']' :: rest := hbegins.skip
      rw [hskip, hitems]
      rfl

theorem scanPairs_memberTexts (hhook : hook.Faithful) : ∀ (k : String) (a : Json)
    (ms : List (String × Json)), ProperMembers ft.isFloat ((k, a) :: ms) → ∀ n rest,
      (commaJoin (memberTexts ft.repr ((k, a) :: ms))).length + 1 ≤ n →
      scanPairs ft hook n (commaJoin (memberTexts ft.repr ((k, a) :: ms)) ++ '}' :: rest) =
        some ((k, a) :: ms, rest)
  | k, a, ms, hj, 0, rest, hn => by omega
  | k, a, [], hj, n + 1, rest, hn => by
      have htext : commaJoin (memberTexts ft.repr [(k, a)]) ++ '}' :: rest =
          '"' :: (k.toList.flatMap escapeChar ++ '"' :: ':' ::
            (textOf ft.repr a ++ '}' :: rest)) := by
        simp [memberTexts, commaJoin, quote]
      have hlength : (textOf ft.repr a).length ≤ n := by
        simp [memberTexts, commaJoin, quote] at hn
        omega
      have hread := scanValue_textOf hhook a hj.1 n ('}' :: rest) hlength
        (delimited_cons (by decide) rest)
      have hskip : skip (textOf ft.repr a ++ '}' :: rest) = textOf ft.repr a ++ '}' :: rest :=
        ((begins_textOf hj.1).append _).skip
      rw [htext, scanPairs, scanString_append, Option.bind_eq_bind, Option.bind_some]
      change (scanValue ft hook n (skip (textOf ft.repr a ++ '}' :: rest)) >>= _) = _
      rw [hskip, hread]
      rfl
  | k, a, (l, b) :: ms, hj, n + 1, rest, hn => by
      have htext : commaJoin (memberTexts ft.repr ((k, a) :: (l, b) :: ms)) ++ '}' :: rest =
          '"' :: (k.toList.flatMap escapeChar ++ '"' :: ':' :: (textOf ft.repr a ++
            ',' :: (commaJoin (memberTexts ft.repr ((l, b) :: ms)) ++ '}' :: rest))) := by
        simp [memberTexts, commaJoin, quote]
      have hlength : (textOf ft.repr a).length ≤ n ∧
          (commaJoin (memberTexts ft.repr ((l, b) :: ms))).length + 1 ≤ n := by
        have hcommas : commaJoin (memberTexts ft.repr ((k, a) :: (l, b) :: ms)) =
            quote k ++ ':' :: textOf ft.repr a ++
              ',' :: commaJoin (memberTexts ft.repr ((l, b) :: ms)) := rfl
        rw [hcommas] at hn
        simp only [List.length_append, List.length_cons] at hn
        omega
      have hread := scanValue_textOf hhook a hj.1 n
        (',' :: (commaJoin (memberTexts ft.repr ((l, b) :: ms)) ++ '}' :: rest)) hlength.1
        (delimited_cons (by decide) _)
      have hskip : skip (textOf ft.repr a ++
            ',' :: (commaJoin (memberTexts ft.repr ((l, b) :: ms)) ++ '}' :: rest)) = _ :=
        ((begins_textOf hj.1).append _).skip
      have hbegins : Begins (commaJoin (memberTexts ft.repr ((l, b) :: ms))) :=
        begins_commaJoin ⟨'"', _, rfl, by decide⟩ _
      have hskip' : skip (commaJoin (memberTexts ft.repr ((l, b) :: ms)) ++ '}' :: rest) = _ :=
        (hbegins.append _).skip
      have hpairs := scanPairs_memberTexts hhook l b ms hj.2 n rest hlength.2
      rw [htext, scanPairs, scanString_append, Option.bind_eq_bind, Option.bind_some]
      change (scanValue ft hook n (skip (textOf ft.repr a ++ ',' :: _)) >>= _) = _
      rw [hskip, hread, Option.bind_eq_bind, Option.bind_some]
      change (scanPairs ft hook n (skip (commaJoin _ ++ '}' :: rest)) >>=
        fun p => some ((k, a) :: p.1, p.2)) = _
      rw [hskip', hpairs]
      rfl

end

/-- A text between blanks is read as its value. -/
theorem loads_textOf (hhook : hook.Faithful) {j : Json} (hj : j.Proper ft.isFloat)
    {rest : List Char} (hrest : rest = [] ∨ rest = ['\n']) :
    loads ft hook (textOf ft.repr j ++ rest) = some j := by
  have hskip : skip (textOf ft.repr j ++ rest) = textOf ft.repr j ++ rest :=
    ((begins_textOf hj).append rest).skip
  have hdelimited : Delimited rest := by
    rcases hrest with rfl | rfl
    · exact fun c hc => nomatch hc
    · exact delimited_cons (by decide) []
  have hempty : skip rest = [] := by
    rcases hrest with rfl | rfl <;> rfl
  have hread := scanValue_textOf hhook j hj ((textOf ft.repr j ++ rest).length + 1) rest
    (by rw [List.length_append]; omega) hdelimited
  unfold loads
  rw [hskip, hread, Option.bind_eq_bind, Option.bind_some]
  exact if_pos hempty

/-- The round trip: the text with sorted keys is read as the value with sorted keys. -/
theorem loads_dumpChars (hhook : hook.Faithful) {j : Json} (hj : j.Proper ft.isFloat)
    {rest : List Char} (hrest : rest = [] ∨ rest = ['\n']) :
    loads ft hook (dumpChars ft.repr j ++ rest) = some j.sortKeys := by
  rw [dumpChars_eq]
  exact loads_textOf hhook hj.sortKeys hrest

/-- Equal texts are texts of equal values. -/
theorem sortKeys_of_dumpChars {i j : Json} (hi : i.Proper ft.isFloat) (hj : j.Proper ft.isFloat)
    (h : dumpChars ft.repr i = dumpChars ft.repr j) : i.sortKeys = j.sortKeys := by
  have hi := loads_dumpChars dict_faithful hi (Or.inl rfl)
  rw [h, loads_dumpChars dict_faithful hj (Or.inl rfl)] at hi
  injection hi with hi
  exact hi.symm

/-! ## What is read -/

/-- The hook makes distinct keys of the pairs, and takes every value from them. -/
def Hook.Distinct (hook : Hook) : Prop :=
  ∀ pairs members, hook pairs = some members →
    (members.map Prod.fst).Nodup ∧ ∀ m ∈ members, m.2 ∈ pairs.map Prod.snd

theorem proper_scanNumber {cs rest : List Char} {j : Json}
    (h : scanNumber ft.parse cs = some (j, rest)) : j.Proper ft.isFloat := by
  unfold scanNumber at h
  split at h
  · cases h
  · dsimp only at h
    split at h
    · split at h
      · next hshort =>
          obtain ⟨rfl, -⟩ := Prod.mk.inj (Option.some.inj h)
          exact hshort
      · cases h
    · obtain ⟨q, hq, heq⟩ := Option.map_eq_some_iff.mp h
      obtain ⟨rfl, -⟩ := Prod.mk.inj heq
      exact ft.parse_isFloat _ q hq

/-- The values that the scanners read, by induction on their fuel. -/
theorem proper_scan (hhook : hook.Distinct) (n : Nat) :
    (∀ cs j rest, scanValue ft hook n cs = some (j, rest) → j.Proper ft.isFloat) ∧
      (∀ cs items rest, scanItems ft hook n cs = some (items, rest) →
        ∀ a ∈ items, Proper ft.isFloat a) ∧
      ∀ cs pairs rest, scanPairs ft hook n cs = some (pairs, rest) →
        ∀ m ∈ pairs, Proper ft.isFloat m.2 := by
  have hobject : ∀ pairs members, (∀ m ∈ pairs, Proper ft.isFloat m.2) →
      hook pairs = some members → Proper ft.isFloat (.obj members) := by
    intro pairs members hpairs h
    obtain ⟨hnodup, hvalues⟩ := hhook pairs members h
    refine ⟨hnodup, properMembers_iff.mpr fun m hm => ?_⟩
    obtain ⟨p, hp, heq⟩ := List.mem_map.mp (hvalues m hm)
    exact heq ▸ hpairs p hp
  induction n with
  | zero =>
      refine ⟨fun cs j rest h => ?_, fun cs items rest h => ?_, fun cs pairs rest h => ?_⟩
      · cases h
      · cases h
      · cases h
  | succ n ih =>
      obtain ⟨hvalue, hitems, hpairs⟩ := ih
      refine ⟨fun cs j rest h => ?_, fun cs items rest h => ?_, fun cs pairs rest h => ?_⟩
      · unfold scanValue at h
        split at h
        · obtain ⟨p, -, heq⟩ := Option.map_eq_some_iff.mp h
          obtain ⟨rfl, -⟩ := Prod.mk.inj heq
          trivial
        · split at h
          · obtain ⟨rfl, -⟩ := Prod.mk.inj (Option.some.inj h)
            trivial
          · obtain ⟨p, hp, heq⟩ := Option.map_eq_some_iff.mp h
            obtain ⟨rfl, -⟩ := Prod.mk.inj heq
            exact properItems_iff.mpr (hitems _ _ _ hp)
        · split at h
          · obtain ⟨members, hm, heq⟩ := Option.map_eq_some_iff.mp h
            obtain ⟨rfl, -⟩ := Prod.mk.inj heq
            exact hobject [] members (fun _ hm => nomatch hm) hm
          · obtain ⟨p, hp, h⟩ := Option.bind_eq_some_iff.mp h
            obtain ⟨members, hm, h⟩ := Option.bind_eq_some_iff.mp h
            obtain ⟨rfl, -⟩ := Prod.mk.inj (Option.some.inj h)
            exact hobject p.1 members (hpairs _ _ _ hp) hm
        · obtain ⟨rfl, -⟩ := Prod.mk.inj (Option.some.inj h)
          trivial
        · obtain ⟨rfl, -⟩ := Prod.mk.inj (Option.some.inj h)
          trivial
        · obtain ⟨rfl, -⟩ := Prod.mk.inj (Option.some.inj h)
          trivial
        · exact proper_scanNumber h
      · unfold scanItems at h
        obtain ⟨p, hp, h⟩ := Option.bind_eq_some_iff.mp h
        dsimp only at h
        have hfirst : Proper ft.isFloat p.1 := hvalue _ _ _ hp
        split at h
        · obtain ⟨q, hq, h⟩ := Option.bind_eq_some_iff.mp h
          obtain ⟨rfl, -⟩ := Prod.mk.inj (Option.some.inj h)
          exact List.forall_mem_cons.mpr ⟨hfirst, hitems _ _ _ hq⟩
        · obtain ⟨rfl, -⟩ := Prod.mk.inj (Option.some.inj h)
          exact List.forall_mem_cons.mpr ⟨hfirst, fun _ ha => nomatch ha⟩
        · cases h
      · unfold scanPairs at h
        split at h
        · obtain ⟨key, -, h⟩ := Option.bind_eq_some_iff.mp h
          dsimp only at h
          split at h
          · obtain ⟨p, hp, h⟩ := Option.bind_eq_some_iff.mp h
            have hfirst : Proper ft.isFloat p.1 := hvalue _ _ _ hp
            split at h
            · obtain ⟨q, hq, h⟩ := Option.bind_eq_some_iff.mp h
              obtain ⟨rfl, -⟩ := Prod.mk.inj (Option.some.inj h)
              exact List.forall_mem_cons.mpr ⟨hfirst, hpairs _ _ _ hq⟩
            · obtain ⟨rfl, -⟩ := Prod.mk.inj (Option.some.inj h)
              exact List.forall_mem_cons.mpr ⟨hfirst, fun _ hm => nomatch hm⟩
            · cases h
          · cases h
        · cases h

/-- What `json.loads` returns has distinct keys, and its numbers have texts. -/
theorem proper_loads (hhook : hook.Distinct) {cs : List Char} {j : Json}
    (h : loads ft hook cs = some j) : j.Proper ft.isFloat := by
  unfold loads at h
  obtain ⟨p, hp, h⟩ := Option.bind_eq_some_iff.mp h
  dsimp only at h
  split at h
  · obtain rfl := Option.some.inj h
    exact (proper_scan hhook _).1 _ _ _ hp
  · cases h

end RoundTrip

end Json

end NetStrike.Foundation
