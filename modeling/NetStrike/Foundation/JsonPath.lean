import NetStrike.Foundation.Json

/-!
# Positions in a JSON value

`at?` reads the value at a position, a list of indices into the children, and returns the keys on
the way. `outline` is what one sees of a value from above: a leaf, the length of an array, the keys
of an object. Two values with the same outline at every position are equal (`ext_outline`).
-/

set_option autoImplicit false

namespace NetStrike.Foundation

namespace Json

/-- What stands directly inside a value, each item with its key where it has one. -/
def children : Json → List (Option String × Json)
  | arr items => items.map fun j => (none, j)
  | obj members => members.map fun m => (some m.1, m.2)
  | _ => []

/-- The value at a position, with the keys on the way. -/
def at? : List Nat → Json → Option (List (Option String) × Json)
  | [], j => some ([], j)
  | i :: is, j =>
      match j.children[i]? with
      | some (key, child) => (at? is child).map fun r => (key :: r.1, r.2)
      | none => none

/-- A value seen from above. -/
inductive Outline where
  | leaf (value : Json)
  | list (length : Nat)
  | object (keys : List String)
deriving DecidableEq

/-- The outline of a value. -/
def outline : Json → Outline
  | arr items => .list items.length
  | obj members => .object (members.map Prod.fst)
  | j => .leaf j

@[simp] theorem at?_nil (j : Json) : j.at? [] = some ([], j) := rfl

theorem at?_cons (i : Nat) (is : List Nat) (j : Json) :
    j.at? (i :: is) =
      j.children[i]?.bind fun c => (c.2.at? is).map fun r => (c.1 :: r.1, r.2) := by
  rw [at?]
  cases j.children[i]? <;> rfl

theorem at?_cons_iff {i : Nat} {is : List Nat} {j x : Json} {keys : List (Option String)} :
    j.at? (i :: is) = some (keys, x) ↔
      ∃ c below, j.children[i]? = some c ∧ c.2.at? is = some (below, x) ∧ keys = c.1 :: below := by
  rw [at?_cons]
  constructor
  · intro h
    obtain ⟨c, hc, h⟩ := Option.bind_eq_some_iff.mp h
    obtain ⟨r, hr, h⟩ := Option.map_eq_some_iff.mp h
    obtain ⟨rfl, rfl⟩ := Prod.mk.inj h
    exact ⟨c, r.1, hc, hr, rfl⟩
  · rintro ⟨c, below, hc, hbelow, rfl⟩
    simp [hc, hbelow]

/-- A position one level further down. -/
theorem at?_append (is js : List Nat) (j : Json) :
    j.at? (is ++ js) =
      (j.at? is).bind fun r => (r.2.at? js).map fun r' => (r.1 ++ r'.1, r'.2) := by
  induction is generalizing j with
  | nil => cases h : j.at? js <;> simp [h]
  | cons i is ih =>
      rw [List.cons_append, at?_cons, at?_cons]
      cases j.children[i]? with
      | none => rfl
      | some c =>
          simp only [Option.bind_some, ih]
          cases c.2.at? is with
          | none => rfl
          | some r =>
              simp only [Option.bind_some, Option.map_some, Option.map_map]
              rfl

/-- Values with the same outline have as many children, under the same keys. -/
theorem keys_of_outline {j k : Json} (h : j.outline = k.outline) :
    j.children.map Prod.fst = k.children.map Prod.fst := by
  cases j <;> cases k <;> simp_all [outline, children, Function.comp_def]
  case obj.obj members members' =>
    have hkeys := congrArg (List.map some) h
    simpa [Function.comp_def] using hkeys

/-- A value is determined by its outline and its children. -/
theorem eq_of_children {j k : Json} (h : j.outline = k.outline) (hc : j.children = k.children) :
    j = k := by
  cases j <;> cases k <;> simp_all [outline, children]
  case arr.arr items items' =>
    exact List.map_injective_iff.mpr (fun a b hab => (Prod.mk.inj hab).2) hc
  case obj.obj members members' =>
    refine List.map_injective_iff.mpr (fun a b hab => ?_) hc
    obtain ⟨hkey, hvalue⟩ := Prod.mk.inj hab
    exact Prod.ext (Option.some.inj hkey) hvalue

/-- A child is smaller. -/
theorem sizeOf_child {j : Json} {c : Option String × Json} (h : c ∈ j.children) :
    sizeOf c.2 < sizeOf j := by
  cases j with
  | arr items =>
      obtain ⟨a, ha, rfl⟩ := List.mem_map.mp h
      have hlt := List.sizeOf_lt_of_mem ha
      simp only [arr.sizeOf_spec]
      omega
  | obj members =>
      obtain ⟨m, hm, rfl⟩ := List.mem_map.mp h
      have hlt := List.sizeOf_lt_of_mem hm
      obtain ⟨key, value⟩ := m
      simp only [Prod.mk.sizeOf_spec] at hlt
      simp only [obj.sizeOf_spec]
      omega
  | null | bool | int | float | str => cases h

/-- Induction on a value through its children. -/
theorem childInduction {motive : Json → Prop}
    (step : ∀ j : Json, (∀ c ∈ j.children, motive c.2) → motive j) (j : Json) : motive j :=
  step j fun c _hc => childInduction step c.2
termination_by sizeOf j
decreasing_by exact sizeOf_child ‹_›

/-- **Values with the same outline at every position are equal.** -/
theorem ext_outline {j k : Json}
    (h : ∀ is, (j.at? is).map (fun r => r.2.outline) = (k.at? is).map fun r => r.2.outline) :
    j = k := by
  induction j using childInduction generalizing k with
  | step j ih =>
      have houtline : j.outline = k.outline := by simpa using h []
      have hkeys := keys_of_outline houtline
      have hlength : j.children.length = k.children.length := by
        simpa using congrArg List.length hkeys
      refine eq_of_children houtline (List.ext_getElem hlength fun i hj hk => Prod.ext ?_ ?_)
      · have hkey : (j.children.map Prod.fst)[i]? = (k.children.map Prod.fst)[i]? := by rw [hkeys]
        simpa [hj, hk] using hkey
      · refine ih _ (List.getElem_mem hj) fun is => ?_
        have hchild := h (i :: is)
        rw [at?_cons, at?_cons, List.getElem?_eq_getElem hj, List.getElem?_eq_getElem hk] at hchild
        simpa [Option.map_map, Function.comp_def] using hchild

end Json

end NetStrike.Foundation
