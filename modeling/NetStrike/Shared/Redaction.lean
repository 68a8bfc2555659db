import NetStrike.Foundation.JsonPath
import NetStrike.Shared.EventSchema

/-!
# Redaction as a projection

`redact_sensitive` with any set of sensitive keys. `Redacts` says position by position what a
redaction of a value is: below no sensitive key it looks like the value, under a sensitive key it
is the mark. `redact_iff` shows that the code computes the one value with this property, and
`redact_eq_self_iff` that it keeps exactly the values without an unredacted sensitive field.
-/

set_option autoImplicit false

namespace NetStrike.Shared

open NetStrike.Foundation

/-! ## The code -/

/-- The mark that replaces a sensitive value. -/
def redactionMark : Json := .str "[REDACTED]"

mutual

/-- `redact` inside `redact_sensitive`. -/
def redact (configured : List String) : Json → Json
  | .obj members => .obj (redactFields configured members)
  | .arr items => .arr (redactList configured items)
  | j => j

/-- Redaction of the items of an array. -/
def redactList (configured : List String) : List Json → List Json
  | [] => []
  | j :: js => redact configured j :: redactList configured js

/-- Redaction of the members of an object. -/
def redactFields (configured : List String) : List (String × Json) → List (String × Json)
  | [] => []
  | (key, child) :: ms =>
      (key, if configured.contains (normalizedKey key) then redactionMark
        else redact configured child) :: redactFields configured ms

end

/-- `configured`: the normal forms of `sensitive_keys or _SENSITIVE_KEYS`. -/
def configuredKeys : Option (List String) → List String
  | some (key :: keys) => (key :: keys).map normalizedKey
  | some [] | none => sensitiveKeys.map normalizedKey

/-- `redact_sensitive`. -/
def redactSensitiveWith (value : Json) (sensitive_keys : Option (List String)) : Json :=
  redact (configuredKeys sensitive_keys) value

/-- The default keys are their own normal forms. -/
theorem configuredKeys_none : configuredKeys none = sensitiveKeys := by decide

mutual

theorem redact_sensitiveKeys : ∀ j : Json, redact sensitiveKeys j = redactSensitive j
  | .obj members => by rw [redact, redactSensitive, redactFields_sensitiveKeys members]
  | .arr items => by rw [redact, redactSensitive, redactList_sensitiveKeys items]
  | .null | .bool _ | .int _ | .float _ | .str _ => rfl

theorem redactList_sensitiveKeys :
    ∀ items : List Json, redactList sensitiveKeys items = redactItems items
  | [] => rfl
  | j :: js => by
      rw [redactList, redactItems, redact_sensitiveKeys j, redactList_sensitiveKeys js]

theorem redactFields_sensitiveKeys :
    ∀ members : List (String × Json), redactFields sensitiveKeys members = redactMembers members
  | [] => rfl
  | (key, child) :: ms => by
      rw [redactFields, redactMembers, redact_sensitiveKeys child, redactFields_sensitiveKeys ms,
        redactionMark]

end

/-- Without an argument the default keys are redacted. -/
theorem redactSensitiveWith_none (value : Json) :
    redactSensitiveWith value none = redactSensitive value := by
  rw [redactSensitiveWith, configuredKeys_none, redact_sensitiveKeys]

/-! ## The purpose -/

/-- A key on the way to a value is sensitive. -/
def Hidden (sensitive : String → Prop) (key : Option String) : Prop :=
  ∃ k, key = some k ∧ sensitive k

/-- `w` is `v` with the value under every sensitive key replaced by the mark. -/
structure Redacts (sensitive : String → Prop) (v w : Json) : Prop where
  /-- Below no sensitive key there is the same leaf, list length or keys as before. -/
  kept : ∀ is keys x, v.at? is = some (keys, x) → (∀ key ∈ keys, ¬ Hidden sensitive key) →
    ∃ y, w.at? is = some (keys, y) ∧ y.outline = x.outline
  /-- Directly under a sensitive key there is the mark. -/
  marked : ∀ is keys key x, v.at? is = some (keys ++ [some key], x) →
    (∀ k ∈ keys, ¬ Hidden sensitive k) → sensitive key →
    w.at? is = some (keys ++ [some key], redactionMark)

/-- A field at some depth has a sensitive key and a value that is not the mark. -/
def CarriesSecret (sensitive : String → Prop) (v : Json) : Prop :=
  ∃ is keys key x, v.at? is = some (keys ++ [some key], x) ∧ sensitive key ∧ x ≠ redactionMark

/-! ## One level -/

section Level

variable (configured : List String)

/-- The key of a child is configured. -/
def hides (key : Option String) : Bool :=
  match key with
  | some k => configured.contains (normalizedKey k)
  | none => false

/-- A child after redaction. -/
def redactChild (c : Option String × Json) : Option String × Json :=
  (c.1, if hides configured c.1 then redactionMark else redact configured c.2)

theorem redactList_eq_map (items : List Json) :
    redactList configured items = items.map (redact configured) := by
  induction items with
  | nil => rfl
  | cons j js ih => rw [redactList, ih, List.map_cons]

theorem redactFields_eq_map (members : List (String × Json)) :
    redactFields configured members =
      members.map fun m => (m.1, if configured.contains (normalizedKey m.1) then redactionMark
        else redact configured m.2) := by
  induction members with
  | nil => rfl
  | cons m ms ih => rw [redactFields, ih, List.map_cons]

/-- Redaction keeps the outline. -/
@[simp] theorem outline_redact (v : Json) : (redact configured v).outline = v.outline := by
  cases v with
  | arr items => simp [redact, Json.outline, redactList_eq_map]
  | obj members => simp [redact, Json.outline, redactFields_eq_map]
  | null | bool | int | float | str => rfl

/-- Redaction works on every child. -/
@[simp] theorem children_redact (v : Json) :
    (redact configured v).children = v.children.map (redactChild configured) := by
  cases v with
  | arr items => simp [redact, Json.children, redactList_eq_map, redactChild, hides]
  | obj members => simp [redact, Json.children, redactFields_eq_map, redactChild, hides]
  | null | bool | int | float | str => rfl

theorem hides_iff (key : Option String) :
    hides configured key = true ↔ Hidden (fun k => normalizedKey k ∈ configured) key := by
  cases key <;> simp [hides, Hidden]

end Level

/-! ## The code meets the purpose -/

section Purpose

variable {sensitive : String → Prop}

/-- A redaction looks like its value. -/
theorem Redacts.outline {v w : Json} (h : Redacts sensitive v w) : w.outline = v.outline := by
  obtain ⟨y, hy, houtline⟩ := h.kept [] [] v rfl (by simp)
  simp only [Json.at?_nil, Option.some.injEq, Prod.mk.injEq, true_and] at hy
  exact hy ▸ houtline

/-- A redaction redacts the child under a key that is not sensitive. -/
theorem Redacts.child {v w : Json} (h : Redacts sensitive v w) {i : Nat} {key : Option String}
    {a b : Json} (ha : v.children[i]? = some (key, a)) (hb : w.children[i]? = some (key, b))
    (hkey : ¬ Hidden sensitive key) : Redacts sensitive a b := by
  have hup : ∀ (is : List Nat) (keys : List (Option String)) (x : Json),
      a.at? is = some (keys, x) → v.at? (i :: is) = some (key :: keys, x) :=
    fun is keys x hx => Json.at?_cons_iff.mpr ⟨(key, a), keys, ha, hx, rfl⟩
  have hdown : ∀ (is : List Nat) (keys : List (Option String)) (y : Json),
      w.at? (i :: is) = some (key :: keys, y) → b.at? is = some (keys, y) := by
    intro is keys y hy
    obtain ⟨c, below, hc, hbelow, hkeys⟩ := Json.at?_cons_iff.mp hy
    obtain rfl : c = (key, b) := Option.some.inj (hc.symm.trans hb)
    obtain rfl : keys = below := (List.cons.inj hkeys).2
    exact hbelow
  have hall : ∀ keys : List (Option String), (∀ k ∈ keys, ¬ Hidden sensitive k) →
      ∀ k ∈ key :: keys, ¬ Hidden sensitive k := by
    intro keys hkeys k hk
    rcases List.mem_cons.mp hk with rfl | hk
    · exact hkey
    · exact hkeys k hk
  constructor
  · intro is keys x hx hkeys
    obtain ⟨y, hy, houtline⟩ := h.kept (i :: is) (key :: keys) x (hup is keys x hx) (hall keys hkeys)
    exact ⟨y, hdown is keys y hy, houtline⟩
  · intro is keys k x hx hkeys hk
    exact hdown is _ _
      (h.marked (i :: is) (key :: keys) k x (hup is _ x hx) (hall keys hkeys) hk)

/-- A redaction has the mark as the child under a sensitive key. -/
theorem Redacts.child_marked {v w : Json} (h : Redacts sensitive v w) {i : Nat}
    {key : Option String} {a b : Json} (ha : v.children[i]? = some (key, a))
    (hb : w.children[i]? = some (key, b)) (hkey : Hidden sensitive key) : b = redactionMark := by
  obtain ⟨k, rfl, hk⟩ := hkey
  have hmark := h.marked [i] [] k a (by simp [Json.at?_cons, ha]) (by simp) hk
  simpa [Json.at?_cons, hb] using hmark

end Purpose

variable (configured : List String)

/-- `redact` keeps what is below no sensitive key. -/
theorem at?_redact (is : List Nat) (v : Json) (keys : List (Option String)) (x : Json)
    (hx : v.at? is = some (keys, x)) (hkeys : ∀ key ∈ keys, hides configured key = false) :
    (redact configured v).at? is = some (keys, redact configured x) := by
  induction is generalizing v keys with
  | nil =>
      simp only [Json.at?_nil, Option.some.injEq, Prod.mk.injEq] at hx
      rw [← hx.1, ← hx.2]
      rfl
  | cons i is ih =>
      obtain ⟨c, below, hc, hbelow, rfl⟩ := Json.at?_cons_iff.mp hx
      have hfirst : hides configured c.1 = false := hkeys c.1 List.mem_cons_self
      have hrest := ih c.2 below hbelow fun key hkey => hkeys key (List.mem_cons_of_mem _ hkey)
      refine Json.at?_cons_iff.mpr ⟨redactChild configured c, below, ?_, ?_, rfl⟩
      · rw [children_redact, List.getElem?_map, hc, Option.map_some]
      · simpa [redactChild, hfirst] using hrest

/-- Below no sensitive key, a child under a sensitive key becomes the mark. -/
theorem at?_redact_marked (is : List Nat) (v : Json) (keys : List (Option String)) (key : String)
    (x : Json) (hx : v.at? is = some (keys ++ [some key], x))
    (hkeys : ∀ k ∈ keys, hides configured k = false) (hkey : hides configured (some key) = true) :
    (redact configured v).at? is = some (keys ++ [some key], redactionMark) := by
  induction is generalizing v keys with
  | nil => simp at hx
  | cons i is ih =>
      obtain ⟨c, below, hc, hbelow, hlist⟩ := Json.at?_cons_iff.mp hx
      refine Json.at?_cons_iff.mpr ⟨redactChild configured c, below, ?_, ?_, hlist⟩
      · rw [children_redact, List.getElem?_map, hc, Option.map_some]
      cases keys with
      | nil =>
          -- The sensitive key is the first one: the position ends here.
          obtain ⟨hfirst, rfl⟩ := List.cons.inj hlist
          cases is with
          | nil => simp [redactChild, ← hfirst, hkey]
          | cons j js =>
              obtain ⟨_, _, -, -, hnil⟩ := Json.at?_cons_iff.mp hbelow
              cases hnil
      | cons k ks =>
          obtain ⟨rfl, rfl⟩ := List.cons.inj hlist
          have hfirst : hides configured c.1 = false := hkeys c.1 List.mem_cons_self
          have hdown := ih c.2 ks hbelow fun k hk => hkeys k (List.mem_cons_of_mem _ hk)
          simpa [redactChild, hfirst] using hdown

/-- **The code computes the redaction.** -/
theorem redacts_redact (v : Json) :
    Redacts (fun k => normalizedKey k ∈ configured) v (redact configured v) := by
  have hides_false : ∀ {key : Option String},
      ¬ Hidden (fun k => normalizedKey k ∈ configured) key → hides configured key = false := by
    intro key hkey
    rwa [← hides_iff, Bool.not_eq_true] at hkey
  constructor
  · intro is keys x hx hkeys
    exact ⟨_, at?_redact configured is v keys x hx fun key hkey => hides_false (hkeys key hkey),
      outline_redact configured x⟩
  · intro is keys key x hx hkeys hkey
    exact at?_redact_marked configured is v keys key x hx
      (fun k hk => hides_false (hkeys k hk)) ((hides_iff configured _).mpr ⟨key, rfl, hkey⟩)

/-- **There is no other redaction.** -/
theorem redact_iff (v w : Json) :
    Redacts (fun k => normalizedKey k ∈ configured) v w ↔ w = redact configured v := by
  refine ⟨fun h => ?_, fun h => h ▸ redacts_redact configured v⟩
  induction v using Json.childInduction generalizing w with
  | step v ih =>
      have houtline : w.outline = (redact configured v).outline := by
        rw [outline_redact, h.outline]
      refine Json.eq_of_children houtline (List.ext_getElem? fun i => ?_)
      have hkeys : (w.children.map Prod.fst)[i]? = (v.children.map Prod.fst)[i]? := by
        rw [Json.keys_of_outline h.outline]
      rw [List.getElem?_map, List.getElem?_map] at hkeys
      rw [children_redact, List.getElem?_map]
      cases hv : v.children[i]? with
      | none => simpa [hv] using hkeys
      | some a =>
          obtain ⟨b, hb, hkey⟩ : ∃ b, w.children[i]? = some b ∧ b.1 = a.1 := by
            simpa [hv] using hkeys
          rw [hb, Option.map_some]
          refine congrArg some (Prod.ext hkey ?_)
          have hb' : w.children[i]? = some (a.1, b.2) := by rw [hb, ← hkey]
          cases hhides : hides configured a.1 with
          | true =>
              simpa [redactChild, hhides] using
                h.child_marked hv hb' ((hides_iff configured a.1).mp hhides)
          | false =>
              have hdown := h.child hv hb' fun hkey =>
                absurd ((hides_iff configured a.1).mpr hkey) (by simp [hhides])
              simpa [redactChild, hhides] using
                ih a (List.mem_of_getElem? hv) b.2 hdown

/-- **Redaction twice is redaction.** -/
theorem redact_redact (v : Json) : redact configured (redact configured v) = redact configured v := by
  induction v using Json.childInduction with
  | step v ih =>
      refine Json.eq_of_children (by simp) ?_
      rw [children_redact, children_redact, List.map_map]
      refine List.map_congr_left fun c hc => Prod.ext rfl ?_
      cases hhides : hides configured c.1 with
      | true => simp [redactChild, hhides]
      | false => simpa [redactChild, hhides] using ih c hc

/-- A child of a value without secrets is without secrets. -/
theorem CarriesSecret.of_child {sensitive : String → Prop} {v : Json} {c : Option String × Json}
    (hc : c ∈ v.children) (h : CarriesSecret sensitive c.2) : CarriesSecret sensitive v := by
  obtain ⟨is, keys, key, x, hx, hkey, hmark⟩ := h
  obtain ⟨i, hi⟩ := List.mem_iff_getElem?.mp hc
  exact ⟨i :: is, c.1 :: keys, key, x, Json.at?_cons_iff.mpr ⟨c, _, hi, hx, rfl⟩, hkey, hmark⟩

/-- A value that redaction does not change has only marks under its sensitive keys. -/
theorem eq_mark_of_redact_eq_self (is : List Nat) (v : Json) (hself : redact configured v = v)
    (keys : List (Option String)) (key : String) (x : Json)
    (hx : v.at? is = some (keys ++ [some key], x)) (hkey : normalizedKey key ∈ configured) :
    x = redactionMark := by
  induction is generalizing v keys with
  | nil => simp at hx
  | cons i is ih =>
      obtain ⟨c, below, hc, hbelow, hlist⟩ := Json.at?_cons_iff.mp hx
      have hchild : redactChild configured c = c := by
        have hat := congrArg (fun j => j.children[i]?) hself
        simpa [hc] using hat
      have hvalue := congrArg Prod.snd hchild
      cases hhides : hides configured c.1 with
      | true =>
          -- Nothing stands below a mark, so the position ends here.
          have hc2 : redactionMark = c.2 := by simpa [redactChild, hhides] using hvalue
          rw [← hc2] at hbelow
          cases is with
          | nil => simpa using (congrArg (Option.map Prod.snd) hbelow).symm
          | cons j js =>
              obtain ⟨d, -, hd, -⟩ := Json.at?_cons_iff.mp hbelow
              cases hd
      | false =>
          have hself' : redact configured c.2 = c.2 := by
            simpa [redactChild, hhides] using hvalue
          cases keys with
          | nil =>
              obtain ⟨hfirst, -⟩ := List.cons.inj hlist
              rw [← hfirst] at hhides
              simp [hides, hkey] at hhides
          | cons k ks =>
              obtain ⟨-, rfl⟩ := List.cons.inj hlist
              exact ih c.2 hself' ks hbelow

/-- **A value is its own redaction when no sensitive field is left in it, and only then.** -/
theorem redact_eq_self_iff (v : Json) :
    redact configured v = v ↔ ¬ CarriesSecret (fun k => normalizedKey k ∈ configured) v := by
  constructor
  · rintro hself ⟨is, keys, key, x, hx, hkey, hmark⟩
    exact hmark (eq_mark_of_redact_eq_self configured is v hself keys key x hx hkey)
  · intro hclean
    induction v using Json.childInduction with
    | step v ih =>
        refine Json.eq_of_children (by simp) ?_
        rw [children_redact]
        refine (List.map_congr_left fun c hc => ?_).trans (List.map_id v.children)
        refine Prod.ext rfl ?_
        cases hhides : hides configured c.1 with
        | true =>
            obtain ⟨k, hk, hsensitive⟩ := (hides_iff configured c.1).mp hhides
            obtain ⟨i, hi⟩ := List.mem_iff_getElem?.mp hc
            have hat : v.at? [i] = some ([] ++ [some k], c.2) :=
              Json.at?_cons_iff.mpr ⟨c, [], hi, rfl, by rw [hk]; rfl⟩
            have hmark : c.2 = redactionMark := by
              by_contra hne
              exact hclean ⟨[i], [], k, c.2, hat, hsensitive, hne⟩
            simp [redactChild, hhides, hmark]
        | false =>
            simpa [redactChild, hhides] using
              ih c hc fun hsecret => hclean (hsecret.of_child hc)

/-! ## Any set of keys -/

/-- A key is sensitive for the given keys: its normal form is the normal form of one of them. -/
def Sensitive (sensitive_keys : List String) (key : String) : Prop :=
  normalizedKey key ∈ sensitive_keys.map normalizedKey

/-- The keys that an argument stands for. -/
def keysOf : Option (List String) → List String
  | some (key :: keys) => key :: keys
  | some [] | none => sensitiveKeys

/-- **Redaction is a projection.** For the keys given, or the default keys where none are given,
redaction twice is redaction, the result is the one value that has the mark under every sensitive
key and everything else as before, and the values it keeps are those that carry no unredacted
sensitive field. -/
theorem redaction_projection (v : Json) (sensitive_keys : Option (List String)) :
    redactSensitiveWith (redactSensitiveWith v sensitive_keys) sensitive_keys =
        redactSensitiveWith v sensitive_keys ∧
      (∀ w, Redacts (Sensitive (keysOf sensitive_keys)) v w ↔
        w = redactSensitiveWith v sensitive_keys) ∧
      (redactSensitiveWith v sensitive_keys = v ↔
        ¬ CarriesSecret (Sensitive (keysOf sensitive_keys)) v) := by
  have hkeys : configuredKeys sensitive_keys = (keysOf sensitive_keys).map normalizedKey := by
    rcases sensitive_keys with - | (- | ⟨key, keys⟩) <;> rfl
  unfold redactSensitiveWith
  rw [hkeys]
  exact ⟨redact_redact _ v, redact_iff _ v, redact_eq_self_iff _ v⟩

/-- The empty set of keys stands for the default keys: a field under no given key is replaced. -/
theorem empty_set_redacts_default :
    redactSensitiveWith (.obj [("token", .str "x")]) (some []) =
        .obj [("token", .str "[REDACTED]")] ∧
      ¬ Redacts (Sensitive []) (.obj [("token", .str "x")])
        (redactSensitiveWith (.obj [("token", .str "x")]) (some [])) := by
  refine ⟨by decide, fun h => ?_⟩
  have hnone : ∀ key : Option String, ¬ Hidden (Sensitive []) key := by
    rintro key ⟨k, -, hk⟩
    cases hk
  obtain ⟨y, hy, houtline⟩ := h.kept [0] [some "token"] (.str "x") rfl fun key _ => hnone key
  obtain rfl : y = .str "[REDACTED]" := by
    have heval : (redactSensitiveWith (.obj [("token", .str "x")]) (some [])).at? [0] =
        some ([some "token"], .str "[REDACTED]") := by decide
    exact ((Prod.mk.inj (Option.some.inj (heval.symm.trans hy))).2).symm
  revert houtline
  decide

end NetStrike.Shared
