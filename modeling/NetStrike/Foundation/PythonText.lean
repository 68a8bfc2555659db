import NetStrike.Foundation.JsonText

/-!
# Python texts of JSON values

`pyRepr` and `pyStr` are `repr` and `str` of a decoded value. The text of a float and the Unicode
table of printable characters are parameters.

`Genuine` is what every decoded value satisfies: dictionaries have distinct keys and floats are
floats. With `short`, the test that the encoder makes on every integer, it gives `Proper`.
-/

set_option autoImplicit false

namespace NetStrike.Foundation

namespace Json

/-! ## Decoded values -/

mutual

/-- The keys of every object are distinct and every float is one. -/
def Genuine (isFloat : Rat → Prop) : Json → Prop
  | float q => isFloat q
  | arr items => GenuineItems isFloat items
  | obj members => (members.map Prod.fst).Nodup ∧ GenuineMembers isFloat members
  | _ => True

/-- `Genuine` of every item. -/
def GenuineItems (isFloat : Rat → Prop) : List Json → Prop
  | [] => True
  | a :: as => Genuine isFloat a ∧ GenuineItems isFloat as

/-- `Genuine` of every member. -/
def GenuineMembers (isFloat : Rat → Prop) : List (String × Json) → Prop
  | [] => True
  | (_, a) :: as => Genuine isFloat a ∧ GenuineMembers isFloat as

end

mutual

/-- Every integer has a text. -/
def short : Json → Bool
  | int n => decide (Short n)
  | arr items => shortItems items
  | obj members => shortMembers members
  | _ => true

/-- `short` of every item. -/
def shortItems : List Json → Bool
  | [] => true
  | a :: as => short a && shortItems as

/-- `short` of every member. -/
def shortMembers : List (String × Json) → Bool
  | [] => true
  | (_, a) :: as => short a && shortMembers as

end

section Genuine

variable {isFloat : Rat → Prop}

mutual

theorem proper_of_genuine : ∀ {j : Json}, j.Genuine isFloat → j.short = true → j.Proper isFloat
  | int n, _, hshort => of_decide_eq_true (p := Short n) hshort
  | float _, h, _ => h
  | arr _, h, hshort => properItems_of_genuine h hshort
  | obj _, h, hshort => ⟨h.1, properMembers_of_genuine h.2 hshort⟩
  | null, _, _ | bool _, _, _ | str _, _, _ => trivial

theorem properItems_of_genuine : ∀ {items : List Json}, GenuineItems isFloat items →
    shortItems items = true → ProperItems isFloat items
  | [], _, _ => trivial
  | _ :: _, h, hshort =>
      have hboth := Bool.and_eq_true_iff.mp hshort
      ⟨proper_of_genuine h.1 hboth.1, properItems_of_genuine h.2 hboth.2⟩

theorem properMembers_of_genuine : ∀ {ms : List (String × Json)}, GenuineMembers isFloat ms →
    shortMembers ms = true → ProperMembers isFloat ms
  | [], _, _ => trivial
  | (_, _) :: _, h, hshort =>
      have hboth := Bool.and_eq_true_iff.mp hshort
      ⟨proper_of_genuine h.1 hboth.1, properMembers_of_genuine h.2 hboth.2⟩

end

theorem Genuine.item {items : List Json} (h : (arr items).Genuine isFloat) {j : Json}
    (hj : j ∈ items) : j.Genuine isFloat := by
  have hitems : GenuineItems isFloat items := h
  induction items with
  | nil => cases hj
  | cons a items ih =>
      rcases List.mem_cons.mp hj with rfl | hj
      · exact hitems.1
      · exact ih hitems.2 hj hitems.2

theorem Genuine.get? {j : Json} (h : j.Genuine isFloat) {key : String} {child : Json}
    (hchild : j.get? key = some child) : child.Genuine isFloat := by
  cases j with
  | obj ms =>
      have hms : GenuineMembers isFloat ms := h.2
      rw [Json.get?] at hchild
      clear h
      induction ms with
      | nil => cases hchild
      | cons m ms ih =>
          obtain ⟨k, a⟩ := m
          rw [List.lookup_cons] at hchild
          split at hchild
          · exact Option.some.inj hchild ▸ hms.1
          · exact ih hchild hms.2
  | null | bool | int | float | str | arr => cases hchild

end Genuine

/-! ## Numbers -/

/-- The value of a number; a Boolean counts as one. -/
def numeric? : Json → Option Rat
  | bool b => some (if b then 1 else 0)
  | int n => some n
  | float q => some q
  | _ => none

/-- `isinstance(value, int)`, with the value. -/
def int? : Json → Option Int
  | bool b => some (if b then 1 else 0)
  | int n => some n
  | _ => none

/-- `isinstance(value, int) and not isinstance(value, bool)`, with the value. -/
def plainInt? : Json → Option Int
  | int n => some n
  | _ => none

/-! ## Texts -/

section Repr

variable (repr : Rat → String) (printable : Char → Bool)

/-- The last hexadecimal digits of a number. -/
def hexDigits : Nat → Nat → List Char
  | 0, _ => []
  | width + 1, n => hexDigits width (n / 16) ++ [hexDigit (n % 16)]

/-- A character inside a string literal between the given marks. -/
def reprChar (mark c : Char) : List Char :=
  if c = mark ∨ c = '\\' then ['\\', c]
  else if c = '\t' then ['\\', 't']
  else if c = '\n' then ['\\', 'n']
  else if c = '\r' then ['\\', 'r']
  else if 32 ≤ c.toNat ∧ c.toNat < 127 ∨ 127 < c.toNat ∧ printable c = true then [c]
  else if c.toNat < 256 then '\\' :: 'x' :: hexDigits 2 c.toNat
  else if c.toNat < 65536 then '\\' :: 'u' :: hexDigits 4 c.toNat
  else '\\' :: 'U' :: hexDigits 8 c.toNat

/-- `repr` of a string: between apostrophes, unless it holds one and no quotation mark. -/
def reprString (s : String) : List Char :=
  let mark := if '\'' ∈ s.toList ∧ '"' ∉ s.toList then '"' else '\''
  [mark] ++ s.toList.flatMap (reprChar printable mark) ++ [mark]

mutual

/-- `repr`. -/
def pyRepr : Json → List Char
  | null => "None".toList
  | bool true => "True".toList
  | bool false => "False".toList
  | int n => (toString n).toList
  | float q => (repr q).toList
  | str s => reprString printable s
  | arr items => ['['] ++ List.intercalate [',', ' '] (reprItems items) ++ [']']
  | obj members => ['{'] ++ List.intercalate [',', ' '] (reprMembers members) ++ ['}']

/-- The texts of the items of a list. -/
def reprItems : List Json → List (List Char)
  | [] => []
  | a :: as => pyRepr a :: reprItems as

/-- The texts of the members of a dictionary. -/
def reprMembers : List (String × Json) → List (List Char)
  | [] => []
  | (k, a) :: as => (reprString printable k ++ [':', ' '] ++ pyRepr a) :: reprMembers as

end

/-- `str`: a string is its own text. -/
def pyStr : Json → List Char
  | str s => s.toList
  | j => pyRepr repr printable j

end Repr

end Json

/-! ## Characters of numbers -/

/-- The characters that the text of a number is made of. -/
def isNumberChar (c : Char) : Bool := c.isDigit || c == '-' || c == '+' || c == '.' || c == 'e'

theorem NumberText.isNumberChar (t : NumberText) {c : Char} (hc : c ∈ t.chars) :
    isNumberChar c = true := by
  have hdigit : ∀ d : Char, d.isDigit = true → Foundation.isNumberChar d = true := by
    intro d hd
    simp [Foundation.isNumberChar, hd]
  rcases List.mem_append.mp hc with hsign | hc
  · cases hminus : t.minus with
    | true =>
        rw [hminus] at hsign
        rw [List.mem_singleton.mp hsign]
        rfl
    | false =>
        rw [hminus] at hsign
        exact nomatch hsign
  rcases List.mem_append.mp hc with hwhole | hc
  · rcases t.whole_given with heq | ⟨-, hall, -⟩
    · rw [heq, List.mem_singleton] at hwhole
      rw [hwhole]
      rfl
    · exact hdigit c (hall c hwhole)
  rcases List.mem_append.mp hc with hfraction | hexponent
  · rcases t.fraction_given with heq | ⟨digits, heq, -, hall⟩
    · rw [heq] at hfraction
      exact nomatch hfraction
    · rw [heq] at hfraction
      rcases List.mem_cons.mp hfraction with rfl | hmem
      · rfl
      · exact hdigit c (hall c hmem)
  · rcases t.exponent_given with heq | ⟨sign, digits, heq, hsign, -, hall⟩
    · rw [heq] at hexponent
      exact nomatch hexponent
    · rw [heq] at hexponent
      rcases List.mem_cons.mp hexponent with rfl | hmem
      · rfl
      rcases List.mem_append.mp hmem with hmem | hmem
      · rcases hsign with rfl | rfl | rfl
        · exact nomatch hmem
        · rw [List.mem_singleton.mp hmem]
          rfl
        · rw [List.mem_singleton.mp hmem]
          rfl
      · exact hdigit c (hall c hmem)

theorem isNumberChar_toString (n : Int) {c : Char} (hc : c ∈ (toString n).toList) :
    isNumberChar c = true := by
  rw [Json.toString_int] at hc
  exact NumberText.isNumberChar _ hc

theorem FloatText.isNumberChar (ft : FloatText) {q : Rat} (hq : ft.isFloat q) {c : Char}
    (hc : c ∈ (ft.repr q).toList) : Foundation.isNumberChar c = true := by
  obtain ⟨t, heq, -⟩ := ft.shape q hq
  rw [heq] at hc
  exact t.isNumberChar hc

end NetStrike.Foundation
