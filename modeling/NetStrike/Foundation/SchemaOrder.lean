import NetStrike.Foundation.JsonText

/-!
# Schemas and the order of members

A schema is `Orderless` when it accepts a value with sorted keys as it accepts the value itself. Every
keyword is, save a constant or an enumeration of arrays and objects and `uniqueItems` of anything but
strings.
-/

set_option autoImplicit false

namespace NetStrike.Foundation

namespace Schema

open Json

/-- The schema does not see the order of members. -/
def Orderless (isFloat : Rat → Prop) (schema : Schema) : Prop :=
  ∀ j : Json, j.Proper isFloat → schema.valid j.sortKeys = schema.valid j

section Keywords

variable {isFloat : Rat → Prop}

theorem admits_sortKeys (t : JsonType) (j : Json) : t.admits j.sortKeys = t.admits j := by
  cases j <;> cases t <;> rfl

theorem orderless_type (names : List JsonType) : (type names).Orderless isFloat := by
  intro j _
  simp [admits_sortKeys]

theorem orderless_allOf {schemas : List Schema} (h : ∀ s ∈ schemas, s.Orderless isFloat) :
    (allOf schemas).Orderless isFloat := by
  intro j hj
  rw [valid_allOf, valid_allOf]
  induction schemas with
  | nil => rfl
  | cons s ss ih =>
      rw [List.forall_mem_cons] at h
      rw [validAll_cons, validAll_cons, h.1 j hj, ih h.2]

theorem orderless_oneOf {schemas : List Schema} (h : ∀ s ∈ schemas, s.Orderless isFloat) :
    (oneOf schemas).Orderless isFloat := by
  intro j hj
  rw [valid_oneOf, valid_oneOf]
  congr 1
  induction schemas with
  | nil => rfl
  | cons s ss ih =>
      rw [List.forall_mem_cons] at h
      rw [countValid_cons, countValid_cons, h.1 j hj, ih h.2]

/-- A value without members. -/
def Scalar : Json → Bool
  | arr _ => false
  | obj _ => false
  | _ => true

theorem sortKeys_eq_scalar {j v : Json} (h : Scalar v = true) : j.sortKeys = v ↔ j = v := by
  cases j <;> cases v <;> simp_all [sortKeys, Scalar]

theorem orderless_const {v : Json} (h : Scalar v = true) : (const v).Orderless isFloat := by
  intro j _
  rw [valid_const, valid_const, decide_eq_decide]
  exact sortKeys_eq_scalar h

theorem orderless_enum {vs : List Json} (h : ∀ v ∈ vs, Scalar v = true) :
    (enum vs).Orderless isFloat := by
  intro j _
  rw [valid_enum, valid_enum, decide_eq_decide]
  induction vs with
  | nil => simp
  | cons v vs ih =>
      rw [List.forall_mem_cons] at h
      rw [List.mem_cons, List.mem_cons, sortKeys_eq_scalar h.1, ih h.2]

/-- A keyword about strings and numbers. -/
theorem orderless_of_scalars {schema : Schema} (harr : ∀ xs, schema.valid (arr xs) = true)
    (hobj : ∀ ms, schema.valid (obj ms) = true) : schema.Orderless isFloat := by
  intro j _
  cases j with
  | arr xs => exact (harr _).trans (harr _).symm
  | obj ms => exact (hobj _).trans (hobj _).symm
  | null | bool | int | float | str => rfl

theorem orderless_pattern (r : Pattern) : (pattern r).Orderless isFloat :=
  orderless_of_scalars (fun _ => rfl) fun _ => rfl

theorem orderless_format (check : String → Bool) : (format check).Orderless isFloat :=
  orderless_of_scalars (fun _ => rfl) fun _ => rfl

theorem orderless_minLength (n : Nat) : (minLength n).Orderless isFloat :=
  orderless_of_scalars (fun _ => rfl) fun _ => rfl

theorem orderless_maxLength (n : Nat) : (maxLength n).Orderless isFloat :=
  orderless_of_scalars (fun _ => rfl) fun _ => rfl

theorem orderless_minimum (n : Int) : (minimum n).Orderless isFloat :=
  orderless_of_scalars (fun _ => rfl) fun _ => rfl

theorem orderless_items {schema : Schema} (h : schema.Orderless isFloat) :
    (items schema).Orderless isFloat := by
  intro j hj
  cases j with
  | arr xs =>
      have hitems := properItems_iff.mp hj
      rw [sortKeys, valid_items, valid_items, sortItems_eq_map, List.all_map]
      rw [Bool.eq_iff_iff, List.all_eq_true, List.all_eq_true]
      exact forall₂_congr fun x hx => by rw [Function.comp_apply, h x (hitems x hx)]
  | obj | null | bool | int | float | str => rfl

theorem lookup_sortMembers {ms : List (String × Json)} (h : (ms.map Prod.fst).Nodup)
    (key : String) : (sortMembers ms).lookup key = (ms.lookup key).map sortKeys := by
  have hnodup : ((sortMembers ms).map Prod.fst).Nodup :=
    (sortMembers_keys_perm ms).nodup_iff.mpr h
  rw [lookup_perm (sortMembers_perm ms) hnodup, lookup_map]

theorem orderless_required (names : List String) : (required names).Orderless isFloat := by
  intro j hj
  cases j with
  | obj ms =>
      rw [sortKeys, valid_required, valid_required]
      simp [lookup_sortMembers hj.1]
  | arr | null | bool | int | float | str => rfl

theorem orderless_properties {props : List (String × Schema)}
    (h : ∀ p ∈ props, p.2.Orderless isFloat) : (properties props).Orderless isFloat := by
  intro j hj
  cases j with
  | obj ms =>
      have hmembers := properMembers_iff.mp hj.2
      rw [sortKeys, valid_properties, valid_properties]
      induction props with
      | nil => rfl
      | cons p ps ih =>
          obtain ⟨name, schema⟩ := p
          rw [List.forall_mem_cons] at h
          rw [validMembers_cons, validMembers_cons, lookup_sortMembers hj.1, ih h.2]
          congr 1
          cases hlookup : ms.lookup name with
          | none => rfl
          | some value =>
              obtain ⟨m, hm, rfl⟩ : ∃ m ∈ ms, m.2 = value := by
                obtain ⟨before, after, rfl, -⟩ := List.lookup_eq_some_iff.mp hlookup
                exact ⟨(name, value), by simp, rfl⟩
              exact h.1 m.2 (hmembers m hm)
  | arr | null | bool | int | float | str => rfl

/-- A property of the keys of an object. -/
theorem all_sortMembers (p : String → Bool) (ms : List (String × Json)) :
    ((sortMembers ms).all fun m => p m.1) = ms.all fun m => p m.1 := by
  have hall : ∀ ns : List (String × Json), (ns.all fun m => p m.1) = (ns.map Prod.fst).all p :=
    fun ns => List.all_map.symm
  rw [hall, hall]
  exact (sortMembers_keys_perm ms).all_eq

theorem orderless_additionalProperties (allowed : List String) :
    (additionalProperties allowed).Orderless isFloat := by
  intro j _
  cases j with
  | obj ms => exact all_sortMembers (fun key => allowed.contains key) ms
  | arr | null | bool | int | float | str => rfl

theorem orderless_propertyNames (schema : Schema) : (propertyNames schema).Orderless isFloat := by
  intro j _
  cases j with
  | obj ms => exact all_sortMembers (fun key => schema.valid (.str key)) ms
  | arr | null | bool | int | float | str => rfl

/-- Distinct strings stay distinct. -/
theorem orderless_stringSet {schema : Schema} (h : schema.Orderless isFloat)
    (hstring : ∀ j, schema.valid j = true → ∃ s, j = .str s) :
    (allOf [type [.array], items schema, uniqueItems]).Orderless isFloat := by
  intro j hj
  have htype := orderless_type [.array] j hj
  have hitems := orderless_items h j hj
  simp only [valid_allOf, validAll_cons, validAll_nil, htype, hitems]
  cases hvalid : (items schema).valid j with
  | false => rfl
  | true =>
      -- All items are strings, and sorting keeps a string.
      have hunique : uniqueItems.valid j.sortKeys = uniqueItems.valid j := by
        cases j with
        | arr xs =>
            have hself : ∀ x ∈ xs, x.sortKeys = x := by
              intro x hx
              obtain ⟨s, rfl⟩ := hstring x (List.all_eq_true.mp hvalid x hx)
              rfl
            rw [sortKeys, sortItems_eq_map, List.map_congr_left hself, List.map_id']
        | obj | null | bool | int | float | str => rfl
      rw [hunique]

theorem orderless_text (lo hi : Nat) : (text lo hi).Orderless isFloat :=
  orderless_allOf (List.forall_mem_cons.mpr ⟨orderless_type _, List.forall_mem_cons.mpr
    ⟨orderless_minLength lo, List.forall_mem_singleton.mpr (orderless_maxLength hi)⟩⟩)

theorem orderless_closedObject {names : List String} {props : List (String × Schema)}
    (h : ∀ p ∈ props, p.2.Orderless isFloat) : (closedObject names props).Orderless isFloat :=
  orderless_allOf (List.forall_mem_cons.mpr ⟨orderless_type _, List.forall_mem_cons.mpr
    ⟨orderless_additionalProperties _, List.forall_mem_cons.mpr ⟨orderless_required names,
      List.forall_mem_singleton.mpr (orderless_properties h)⟩⟩⟩)

end Keywords

end Schema

end NetStrike.Foundation
