import Mathlib.Data.Rat.Defs
import Mathlib.Data.List.Nodup
import NetStrike.Foundation.Text

/-!
# JSON values and schemas

`Json` is the type of JSON values; an object is the list of its members in insertion order, and a
number is an integer or a finite float given by its exact rational value. `dumps` is the compact
text with sorted keys; the text of a float is a parameter.

`Schema` is the fragment of JSON Schema 2020-12 made of type, constant, enumeration, string, number,
array and object keywords with `allOf` and `oneOf`; a reference is inlined. A keyword holds of every
value outside its domain: `minLength` of a number, `required` of a string. `format` takes the check
of the format as a parameter, since format checkers are plug-ins of a validator.
-/

set_option autoImplicit false

namespace NetStrike.Foundation

/-- A JSON value. -/
inductive Json where
  | null
  | bool (b : Bool)
  | int (n : Int)
  | float (q : Rat)
  | str (s : String)
  | arr (items : List Json)
  | obj (members : List (String × Json))

namespace Json

/-! ## Equality -/

mutual

/-- Structural equality test. -/
def beq : Json → Json → Bool
  | null, null => true
  | bool a, bool b => a == b
  | int a, int b => decide (a = b)
  | float a, float b => decide (a = b)
  | str a, str b => decide (a = b)
  | arr a, arr b => beqItems a b
  | obj a, obj b => beqMembers a b
  | _, _ => false

/-- Structural equality of arrays. -/
def beqItems : List Json → List Json → Bool
  | [], [] => true
  | a :: as, b :: bs => beq a b && beqItems as bs
  | _, _ => false

/-- Structural equality of member lists. -/
def beqMembers : List (String × Json) → List (String × Json) → Bool
  | [], [] => true
  | (k, a) :: as, (l, b) :: bs => decide (k = l) && beq a b && beqMembers as bs
  | _, _ => false

end

mutual

theorem beq_iff : ∀ a b : Json, beq a b = true ↔ a = b
  | null, b => by cases b <;> simp [beq]
  | bool a, b => by cases b <;> simp [beq]
  | int a, b => by cases b <;> simp [beq]
  | float a, b => by cases b <;> simp [beq]
  | str a, b => by cases b <;> simp [beq]
  | arr a, b => by
      cases b with
      | arr b => simpa [beq] using beqItems_iff a b
      | null | bool | int | float | str | obj => simp [beq]
  | obj a, b => by
      cases b with
      | obj b => simpa [beq] using beqMembers_iff a b
      | null | bool | int | float | str | arr => simp [beq]

theorem beqItems_iff : ∀ a b : List Json, beqItems a b = true ↔ a = b
  | [], b => by cases b <;> simp [beqItems]
  | a :: as, b => by
      cases b with
      | nil => simp [beqItems]
      | cons b bs => simp [beqItems, beq_iff a b, beqItems_iff as bs]

theorem beqMembers_iff : ∀ a b : List (String × Json), beqMembers a b = true ↔ a = b
  | [], b => by cases b <;> simp [beqMembers]
  | (k, a) :: as, b => by
      cases b with
      | nil => simp [beqMembers]
      | cons lb bs =>
          obtain ⟨l, b⟩ := lb
          simp [beqMembers, beq_iff a b, beqMembers_iff as bs]

end

instance : DecidableEq Json := fun a b => decidable_of_iff _ (beq_iff a b)

/-! ## Members -/

/-- The member of an object under a key. -/
def get? (key : String) : Json → Option Json
  | obj members => members.lookup key
  | _ => none

/-- The string under a key. -/
def str? (key : String) (j : Json) : Option String :=
  match j.get? key with
  | some (str s) => some s
  | _ => none

/-- A list of strings as an array. -/
def strs (ss : List String) : Json := arr (ss.map str)

/-! ## Text -/

/-- A hexadecimal digit. -/
def hexDigit (n : Nat) : Char := if n < 10 then Char.ofNat (48 + n) else Char.ofNat (87 + n)

/-- The escape of one UTF-16 code unit. -/
def escapeUnit (n : Nat) : List Char :=
  ['\\', 'u', hexDigit (n / 4096 % 16), hexDigit (n / 256 % 16), hexDigit (n / 16 % 16),
    hexDigit (n % 16)]

/-- A character inside a string literal, escaped to ASCII. -/
def escapeChar (c : Char) : List Char :=
  let n := c.toNat
  if n = 34 then ['\\', '"']
  else if n = 92 then ['\\', '\\']
  else if n = 10 then ['\\', 'n']
  else if n = 13 then ['\\', 'r']
  else if n = 9 then ['\\', 't']
  else if n = 8 then ['\\', 'b']
  else if n = 12 then ['\\', 'f']
  else if 32 ≤ n ∧ n ≤ 126 then [c]
  else if n < 65536 then escapeUnit n
  else escapeUnit (55296 + (n - 65536) / 1024) ++ escapeUnit (56320 + (n - 65536) % 1024)

/-- A string literal. -/
def quote (s : String) : List Char := ['"'] ++ s.toList.flatMap escapeChar ++ ['"']

/-- Insert a member into a member list sorted by key. -/
def insertMember (m : String × List Char) : List (String × List Char) → List (String × List Char)
  | [] => [m]
  | n :: ns => if m.1 < n.1 then m :: n :: ns else n :: insertMember m ns

/-- Join texts with commas. -/
def commaJoin : List (List Char) → List Char
  | [] => []
  | [a] => a
  | a :: as => a ++ ',' :: commaJoin as

section Dumps

variable (repr : Rat → String)

mutual

/-- The compact text of a value, object keys sorted. -/
def dumpChars : Json → List Char
  | null => "null".toList
  | bool true => "true".toList
  | bool false => "false".toList
  | int n => (toString n).toList
  | float q => (repr q).toList
  | str s => quote s
  | arr items => '[' :: commaJoin (dumpItems items) ++ [']']
  | obj members =>
      '{' :: commaJoin ((dumpMembers members).map fun m => quote m.1 ++ ':' :: m.2) ++ ['}']

/-- The texts of the items of an array. -/
def dumpItems : List Json → List (List Char)
  | [] => []
  | a :: as => dumpChars a :: dumpItems as

/-- The texts of the members of an object, sorted by key. -/
def dumpMembers : List (String × Json) → List (String × List Char)
  | [] => []
  | (k, a) :: as => insertMember (k, dumpChars a) (dumpMembers as)

end

/-- The compact JSON text with sorted keys. -/
def dumps (j : Json) : String := String.ofList (dumpChars repr j)

end Dumps

end Json

/-! ## Schemas -/

/-- The type names of JSON Schema. -/
inductive JsonType where
  | null
  | boolean
  | integer
  | number
  | string
  | array
  | object
deriving DecidableEq

/-- The value has the type; a float with an integral value is an integer, a Boolean is not. -/
def JsonType.admits : JsonType → Json → Bool
  | .null, .null => true
  | .boolean, .bool _ => true
  | .integer, .int _ => true
  | .integer, .float q => decide (q.den = 1)
  | .number, .int _ => true
  | .number, .float _ => true
  | .string, .str _ => true
  | .array, .arr _ => true
  | .object, .obj _ => true
  | _, _ => false

-- The table of the types, for the keyword lemmas below.
attribute [local simp] JsonType.admits

/-- A schema. -/
inductive Schema where
  | allOf (schemas : List Schema)
  | oneOf (schemas : List Schema)
  | type (names : List JsonType)
  | const (value : Json)
  | enum (values : List Json)
  | pattern (r : Pattern)
  | format (check : String → Bool)
  | minLength (n : Nat)
  | maxLength (n : Nat)
  | minimum (n : Int)
  | maximum (n : Int)
  | uniqueItems
  | items (schema : Schema)
  | required (names : List String)
  | properties (schemas : List (String × Schema))
  | additionalProperties (allowed : List String)
  | propertyNames (schema : Schema)

namespace Schema

mutual

/-- The value satisfies the schema. -/
def valid : Schema → Json → Bool
  | allOf schemas, j => validAll schemas j
  | oneOf schemas, j => countValid schemas j == 1
  | type names, j => names.any fun t => t.admits j
  | const value, j => decide (j = value)
  | enum values, j => decide (j ∈ values)
  | pattern r, .str s => r.search s
  | pattern _, _ => true
  | format check, .str s => check s
  | format _, _ => true
  | minLength n, .str s => decide (n ≤ s.length)
  | minLength _, _ => true
  | maxLength n, .str s => decide (s.length ≤ n)
  | maxLength _, _ => true
  | minimum n, .int i => decide (n ≤ i)
  | minimum n, .float q => decide ((n : Rat) ≤ q)
  | minimum _, _ => true
  | maximum n, .int i => decide (i ≤ n)
  | maximum n, .float q => decide (q ≤ (n : Rat))
  | maximum _, _ => true
  | uniqueItems, .arr xs => decide xs.Nodup
  | uniqueItems, _ => true
  | items schema, .arr xs => xs.all fun x => valid schema x
  | items _, _ => true
  | required names, .obj ms => names.all fun name => (ms.lookup name).isSome
  | required _, _ => true
  | properties schemas, .obj ms => validMembers schemas ms
  | properties _, _ => true
  | additionalProperties allowed, .obj ms => ms.all fun m => allowed.contains m.1
  | additionalProperties _, _ => true
  | propertyNames schema, .obj ms => ms.all fun m => valid schema (.str m.1)
  | propertyNames _, _ => true

/-- The value satisfies every schema of the list. -/
def validAll : List Schema → Json → Bool
  | [], _ => true
  | s :: ss, j => valid s j && validAll ss j

/-- The number of schemas of the list that the value satisfies. -/
def countValid : List Schema → Json → Nat
  | [], _ => 0
  | s :: ss, j => (if valid s j then 1 else 0) + countValid ss j

/-- Every member that a property schema names satisfies that schema. -/
def validMembers : List (String × Schema) → List (String × Json) → Bool
  | [], _ => true
  | (name, s) :: ps, ms =>
      (match ms.lookup name with
        | some j => valid s j
        | none => true) && validMembers ps ms

end

section Keywords

variable (j : Json) (s : String) (xs : List Json) (ms : List (String × Json))

@[simp] theorem valid_allOf (schemas : List Schema) :
    (allOf schemas).valid j = validAll schemas j := rfl

@[simp] theorem valid_oneOf (schemas : List Schema) :
    (oneOf schemas).valid j = (countValid schemas j == 1) := rfl

@[simp] theorem valid_type (names : List JsonType) :
    (type names).valid j = names.any fun t => t.admits j := rfl

@[simp] theorem valid_const (value : Json) : (const value).valid j = decide (j = value) := rfl

@[simp] theorem valid_enum (values : List Json) : (enum values).valid j = decide (j ∈ values) := rfl

@[simp] theorem valid_pattern (r : Pattern) : (pattern r).valid (.str s) = r.search s := rfl

@[simp] theorem valid_format (check : String → Bool) :
    (format check).valid (.str s) = check s := rfl

@[simp] theorem valid_minLength (n : Nat) :
    (minLength n).valid (.str s) = decide (n ≤ s.length) := rfl

@[simp] theorem valid_maxLength (n : Nat) :
    (maxLength n).valid (.str s) = decide (s.length ≤ n) := rfl

@[simp] theorem valid_minimum (n i : Int) : (minimum n).valid (.int i) = decide (n ≤ i) := rfl

@[simp] theorem valid_maximum (n i : Int) : (maximum n).valid (.int i) = decide (i ≤ n) := rfl

@[simp] theorem valid_uniqueItems : uniqueItems.valid (.arr xs) = decide xs.Nodup := rfl

@[simp] theorem valid_items (schema : Schema) :
    (items schema).valid (.arr xs) = xs.all fun x => schema.valid x := rfl

@[simp] theorem valid_required (names : List String) :
    (required names).valid (.obj ms) = names.all fun name => (ms.lookup name).isSome := rfl

@[simp] theorem valid_properties (schemas : List (String × Schema)) :
    (properties schemas).valid (.obj ms) = validMembers schemas ms := rfl

@[simp] theorem valid_additionalProperties (allowed : List String) :
    (additionalProperties allowed).valid (.obj ms) = ms.all fun m => allowed.contains m.1 := rfl

@[simp] theorem valid_propertyNames (schema : Schema) :
    (propertyNames schema).valid (.obj ms) = ms.all fun m => schema.valid (.str m.1) := rfl

@[simp] theorem validAll_nil : validAll [] j = true := rfl

@[simp] theorem validAll_cons (schema : Schema) (schemas : List Schema) :
    validAll (schema :: schemas) j = (schema.valid j && validAll schemas j) := rfl

@[simp] theorem countValid_nil : countValid [] j = 0 := rfl

@[simp] theorem countValid_cons (schema : Schema) (schemas : List Schema) :
    countValid (schema :: schemas) j =
      (if schema.valid j then 1 else 0) + countValid schemas j := rfl

@[simp] theorem validMembers_nil : validMembers [] ms = true := rfl

@[simp] theorem validMembers_cons (name : String) (schema : Schema)
    (props : List (String × Schema)) :
    validMembers ((name, schema) :: props) ms =
      ((match ms.lookup name with
        | some j => schema.valid j
        | none => true) && validMembers props ms) := rfl

end Keywords

/-- A string of bounded length. -/
def text (lo hi : Nat) : Schema := allOf [type [.string], minLength lo, maxLength hi]

/-- An object with the given properties and no others. -/
def closedObject (names : List String) (props : List (String × Schema)) : Schema :=
  allOf [type [.object], additionalProperties (props.map Prod.fst), required names,
    properties props]

theorem valid_text (lo hi : Nat) (s : String) :
    (text lo hi).valid (.str s) = true ↔ lo ≤ s.length ∧ s.length ≤ hi := by
  simp [text]

/-- Of a string, `oneOf` with the null type asks what the other schema asks. -/
theorem valid_oneOf_null_str (schema : Schema) (s : String) :
    (oneOf [schema, type [.null]]).valid (.str s) = schema.valid (.str s) := by
  cases h : schema.valid (.str s) <;> simp [h]

/-- Of an object, `oneOf` with the null type asks what the other schema asks. -/
theorem valid_oneOf_null_obj (schema : Schema) (ms : List (String × Json)) :
    (oneOf [schema, type [.null]]).valid (.obj ms) = schema.valid (.obj ms) := by
  cases h : schema.valid (.obj ms) <;> simp [h]

/-- An array of strings: each one valid, and no two equal. -/
theorem valid_stringSet (schema : Schema) (ss : List String) :
    (allOf [type [.array], items schema, uniqueItems]).valid (Json.strs ss) = true ↔
      (∀ s ∈ ss, schema.valid (.str s) = true) ∧ ss.Nodup := by
  have hinj : Function.Injective Json.str := fun a b h => by injection h
  simp [Json.strs, List.nodup_map_iff hinj]

/-- A closed object: known keys only, the required ones among them, each value valid. -/
theorem valid_closedObject (names : List String) (props : List (String × Schema))
    (ms : List (String × Json)) :
    (closedObject names props).valid (.obj ms) = true ↔
      (∀ m ∈ ms, m.1 ∈ props.map Prod.fst) ∧ (∀ name ∈ names, (ms.lookup name).isSome = true) ∧
        validMembers props ms = true := by
  simp [closedObject]

/-- A valid member under a name that has a schema. -/
theorem valid_of_validMembers {props : List (String × Schema)} {ms : List (String × Json)}
    {name : String} {schema : Schema} {j : Json} (h : validMembers props ms = true)
    (hschema : (name, schema) ∈ props) (hj : ms.lookup name = some j) :
    schema.valid j = true := by
  induction props with
  | nil => cases hschema
  | cons p ps ih =>
      obtain ⟨name', schema'⟩ := p
      simp only [validMembers_cons, Bool.and_eq_true] at h
      rcases List.mem_cons.mp hschema with heq | hmem
      · injection heq with hname hs
        subst hname
        subst hs
        have hfirst := h.1
        rwa [hj] at hfirst
      · exact ih h.2 hmem

/-- A required property of a closed object is there and valid. -/
theorem required_of_closedObject {names : List String} {props : List (String × Schema)}
    {ms : List (String × Json)} {name : String} {schema : Schema}
    (h : (closedObject names props).valid (.obj ms) = true) (hname : name ∈ names)
    (hschema : (name, schema) ∈ props) :
    ∃ j, ms.lookup name = some j ∧ schema.valid j = true := by
  obtain ⟨-, hrequired, hmembers⟩ := (valid_closedObject names props ms).mp h
  obtain ⟨j, hj⟩ := Option.isSome_iff_exists.mp (hrequired name hname)
  exact ⟨j, hj, valid_of_validMembers hmembers hschema hj⟩

/-- Of two alternatives exactly one holds. -/
theorem valid_oneOf_pair (a b : Schema) (j : Json) :
    (oneOf [a, b]).valid j = (a.valid j ^^ b.valid j) := by
  cases ha : a.valid j <;> cases hb : b.valid j <;> simp [ha, hb]

/-- A value of the string type is a string. -/
theorem str_of_valid_string {schemas : List Schema} {j : Json}
    (h : (allOf (type [.string] :: schemas)).valid j = true) : ∃ s, j = .str s := by
  cases j with
  | str s => exact ⟨s, rfl⟩
  | null | bool | int | float | arr | obj => simp at h

end Schema

end NetStrike.Foundation
