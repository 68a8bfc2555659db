import NetStrike.Foundation.PythonText
import NetStrike.Foundation.SchemaOrder

/-!
# Equality of Python values

`same` is `==` on decoded values: a Boolean is a number, numbers are compared by value, and the
order of the members of a dictionary does not matter. So sorting the keys on either side changes
nothing, and a value is equal to what is read back of its text (`same_sortKeys`).
-/

set_option autoImplicit false

namespace NetStrike.Foundation

namespace Json

mutual

/-- `==`. -/
def same : Json → Json → Bool
  | null, null => true
  | str a, str b => a == b
  | arr as, arr bs => sameItems as bs
  | obj as, obj bs => as.length == bs.length && sameMembers as bs
  | bool a, b => numeric? b == some (if a then 1 else 0)
  | int a, b => numeric? b == some (a : Rat)
  | float a, b => numeric? b == some a
  | _, _ => false

/-- `==` of lists. -/
def sameItems : List Json → List Json → Bool
  | [], [] => true
  | a :: as, b :: bs => same a b && sameItems as bs
  | _, _ => false

/-- Every member is found among the others. -/
def sameMembers : List (String × Json) → List (String × Json) → Bool
  | [], _ => true
  | (key, a) :: as, bs => (bs.lookup key).any (same a) && sameMembers as bs

end

@[simp] theorem numeric?_sortKeys (j : Json) : numeric? j.sortKeys = numeric? j := by
  cases j <;> rfl

theorem sameMembers_iff {as bs : List (String × Json)} :
    sameMembers as bs = true ↔ ∀ m ∈ as, (bs.lookup m.1).any (same m.2) = true := by
  induction as with
  | nil => exact iff_of_true rfl fun m hm => absurd hm List.not_mem_nil
  | cons m as ih => rw [sameMembers, Bool.and_eq_true_iff, ih, List.forall_mem_cons]

theorem lookup_of_mem {α : Type} {ms : List (String × α)} (h : (ms.map Prod.fst).Nodup)
    {key : String} {a : α} (hmem : (key, a) ∈ ms) : ms.lookup key = some a := by
  induction ms with
  | nil => cases hmem
  | cons m ms ih =>
      rw [List.map_cons, List.nodup_cons] at h
      rw [List.lookup_cons]
      rcases List.mem_cons.mp hmem with rfl | hmem
      · rw [beq_self_eq_true]
      · have hne : (key == m.1) = false := by
          refine beq_eq_false_iff_ne.mpr fun heq => h.1 ?_
          exact heq ▸ List.mem_map_of_mem hmem
        rw [hne]
        exact ih h.2 hmem

theorem length_sortMembers (ms : List (String × Json)) : (sortMembers ms).length = ms.length := by
  rw [(sortMembers_perm ms).length_eq, List.length_map]

section Order

variable {isFloat : Rat → Prop}

mutual

theorem same_refl : ∀ {j : Json}, j.Genuine isFloat → same j j = true
  | null, _ => rfl
  | str s, _ => beq_self_eq_true s
  | bool _, _ => beq_self_eq_true _
  | int _, _ => beq_self_eq_true _
  | float _, _ => beq_self_eq_true _
  | arr _, h => sameItems_refl h
  | obj ms, h => by
      rw [same, beq_self_eq_true, Bool.true_and]
      exact sameMembers_refl h.2 fun _ hm => lookup_of_mem h.1 hm

theorem sameItems_refl : ∀ {items : List Json}, GenuineItems isFloat items →
    sameItems items items = true
  | [], _ => rfl
  | _ :: _, h => Bool.and_eq_true_iff.mpr ⟨same_refl h.1, sameItems_refl h.2⟩

theorem sameMembers_refl : ∀ {ms found : List (String × Json)}, GenuineMembers isFloat ms →
    (∀ m ∈ ms, found.lookup m.1 = some m.2) → sameMembers ms found = true
  | [], _, _, _ => rfl
  | (key, a) :: ms, found, h, hfound => by
      have hfirst : found.lookup key = some a := hfound _ List.mem_cons_self
      rw [sameMembers, hfirst]
      exact Bool.and_eq_true_iff.mpr ⟨same_refl h.1,
        sameMembers_refl h.2 fun m hm => hfound m (List.mem_cons_of_mem _ hm)⟩

end

mutual

/-- Sorting the keys on the right changes nothing. -/
theorem same_sortKeys_right : ∀ (a : Json) {b : Json}, b.Genuine isFloat →
    same a b.sortKeys = same a b
  | arr as, arr bs, h => sameItems_sortItems_right as h
  | obj as, obj bs, h => by
      rw [sortKeys, same, same, length_sortMembers, sameMembers_sortMembers_right as h]
  | bool _, b, _ => by rw [same, same, numeric?_sortKeys]
  | int _, b, _ => by rw [same, same, numeric?_sortKeys]
  | float _, b, _ => by rw [same, same, numeric?_sortKeys]
  | null, b, _ | str _, b, _ => by cases b <;> rfl
  | arr as, null, _ | arr as, bool _, _ | arr as, int _, _ | arr as, float _, _
  | arr as, str _, _ | arr as, obj _, _ => rfl
  | obj as, null, _ | obj as, bool _, _ | obj as, int _, _ | obj as, float _, _
  | obj as, str _, _ | obj as, arr _, _ => rfl

theorem sameItems_sortItems_right : ∀ (as : List Json) {bs : List Json},
    GenuineItems isFloat bs → sameItems as (sortItems bs) = sameItems as bs
  | [], [], _ => rfl
  | [], _ :: _, _ => rfl
  | _ :: _, [], _ => rfl
  | a :: as, b :: bs, h => by
      rw [sortItems, sameItems, sameItems, same_sortKeys_right a h.1,
        sameItems_sortItems_right as h.2]

theorem sameMembers_sortMembers_right : ∀ (as : List (String × Json)) {bs : List (String × Json)},
    (obj bs).Genuine isFloat → sameMembers as (sortMembers bs) = sameMembers as bs
  | [], _, _ => rfl
  | (key, a) :: as, bs, h => by
      rw [sameMembers, sameMembers, sameMembers_sortMembers_right as h,
        Schema.lookup_sortMembers h.1]
      cases hfound : bs.lookup key with
      | none => rfl
      | some b =>
          have hmember : (obj bs).get? key = some b := hfound
          have hb : b.Genuine isFloat := h.get? hmember
          rw [Option.map_some, Option.any_some, Option.any_some, same_sortKeys_right a hb]

end

mutual

/-- Sorting the keys on the left changes nothing. -/
theorem same_sortKeys_left : ∀ {a : Json} (b : Json), a.Genuine isFloat →
    same a.sortKeys b = same a b
  | arr as, arr bs, h => sameItems_sortItems_left bs h
  | obj as, obj bs, h => by
      have hmembers : sameMembers (sortMembers as) bs = sameMembers as bs := by
        -- Every member is looked up by itself, so their order does not matter.
        rw [Bool.eq_iff_iff, sameMembers_iff, ← sameMembers_sorted_left bs h.2]
        simp only [(sortMembers_perm as).mem_iff, List.forall_mem_map]
      rw [sortKeys, same, same, length_sortMembers, hmembers]
  | null, _, _ | bool _, _, _ | int _, _, _ | float _, _, _ | str _, _, _ => rfl
  | arr as, null, _ | arr as, bool _, _ | arr as, int _, _ | arr as, float _, _
  | arr as, str _, _ | arr as, obj _, _ => rfl
  | obj as, null, _ | obj as, bool _, _ | obj as, int _, _ | obj as, float _, _
  | obj as, str _, _ | obj as, arr _, _ => rfl

theorem sameItems_sortItems_left : ∀ {as : List Json} (bs : List Json),
    GenuineItems isFloat as → sameItems (sortItems as) bs = sameItems as bs
  | [], _, _ => rfl
  | _ :: _, [], _ => rfl
  | a :: as, b :: bs, h => by
      rw [sortItems, sameItems, sameItems, same_sortKeys_left b h.1,
        sameItems_sortItems_left bs h.2]

theorem sameMembers_sorted_left : ∀ {as : List (String × Json)} (bs : List (String × Json)),
    GenuineMembers isFloat as →
    ((∀ m ∈ as, (bs.lookup m.1).any (same m.2.sortKeys) = true) ↔ sameMembers as bs = true)
  | [], _, _ => iff_of_true (fun m hm => absurd hm List.not_mem_nil) rfl
  | (key, a) :: as, bs, h => by
      have hfirst : (bs.lookup key).any (same a.sortKeys) = (bs.lookup key).any (same a) := by
        cases bs.lookup key with
        | none => rfl
        | some b => rw [Option.any_some, Option.any_some, same_sortKeys_left b h.1]
      rw [List.forall_mem_cons, sameMembers, Bool.and_eq_true_iff, hfirst,
        sameMembers_sorted_left bs h.2]

end

/-- What is read back is equal to what was written. -/
theorem same_sortKeys {j : Json} (h : j.Genuine isFloat) : same j j.sortKeys = true := by
  rw [same_sortKeys_right j h]
  exact same_refl h

end Order

end Json

end NetStrike.Foundation
