import NetStrike.Foundation.SchemaOrder
import NetStrike.Shared.EventLedger
import NetStrike.Shared.Events

/-!
# A ledger is reloaded as it was

A run of appends of JSON values leaves a file of texts, one to a line. `ledger_reloads` says that a new
ledger on that file remembers what the writer remembers, and that `iter_jsonl` yields the values
that the appends returned. Values are compared as dictionaries are: up to the order of members, so
every check has to be blind to that order (`check_sortKeys`).
-/

set_option autoImplicit false

namespace NetStrike.Shared

open NetStrike.Foundation NetStrike.Foundation.Checked

/-! ## The checks and the order of members -/

section Order

open Schema

variable {isFloat : Rat → Prop}

theorem orderless_patternString (r : Pattern) : (patternString r).Orderless isFloat :=
  orderless_allOf (List.forall_mem_cons.mpr ⟨orderless_type _,
    List.forall_mem_singleton.mpr (orderless_pattern r)⟩)

theorem orderless_enumStrings (values : List String) :
    (enumStrings values).Orderless isFloat := by
  refine orderless_allOf (List.forall_mem_cons.mpr ⟨orderless_type _,
    List.forall_mem_singleton.mpr (orderless_enum fun v hv => ?_)⟩)
  obtain ⟨s, -, rfl⟩ := List.mem_map.mp hv
  rfl

/-- A string of bounded length that matches a pattern. -/
theorem orderless_bounded (lo hi : Nat) (r : Pattern) :
    (allOf [type [.string], minLength lo, maxLength hi, pattern r]).Orderless isFloat :=
  orderless_allOf (List.forall_mem_cons.mpr ⟨orderless_type _, List.forall_mem_cons.mpr
    ⟨orderless_minLength lo, List.forall_mem_cons.mpr ⟨orderless_maxLength hi,
      List.forall_mem_singleton.mpr (orderless_pattern r)⟩⟩⟩)

/-- A schema or nothing. -/
theorem orderless_orNull {schema : Schema} (h : schema.Orderless isFloat) :
    (oneOf [schema, type [.null]]).Orderless isFloat :=
  orderless_oneOf (List.forall_mem_cons.mpr ⟨h, List.forall_mem_singleton.mpr (orderless_type _)⟩)

theorem orderless_formatted (check : String → Bool) :
    (allOf [type [.string], format check]).Orderless isFloat :=
  orderless_allOf (List.forall_mem_cons.mpr ⟨orderless_type _,
    List.forall_mem_singleton.mpr (orderless_format check)⟩)

theorem orderless_utcDateTime (formats : FormatChecker) :
    (EventSchema.utcDateTime formats).Orderless isFloat :=
  orderless_allOf (List.forall_mem_cons.mpr ⟨orderless_type _, List.forall_mem_cons.mpr
    ⟨orderless_format _, List.forall_mem_singleton.mpr (orderless_pattern _)⟩⟩)

/-- Every property of a list of properties, one after another. -/
theorem orderless_nil : ∀ p ∈ ([] : List (String × Schema)), p.2.Orderless isFloat :=
  fun _ hp => nomatch hp

theorem orderless_cons {name : String} {schema : Schema} {props : List (String × Schema)}
    (h : schema.Orderless isFloat) (hprops : ∀ p ∈ props, p.2.Orderless isFloat) :
    ∀ p ∈ (name, schema) :: props, p.2.Orderless isFloat :=
  List.forall_mem_cons.mpr ⟨h, hprops⟩

theorem orderless_entity : EventSchema.entity.Orderless isFloat := by
  refine orderless_closedObject (orderless_cons ?_ (orderless_cons ?_ (orderless_cons ?_
    (orderless_cons ?_ orderless_nil))))
  · exact orderless_bounded _ _ _
  · exact orderless_text _ _
  · exact orderless_text _ _
  · exact orderless_text _ _

theorem orderless_source : EventSchema.source.Orderless isFloat := by
  refine orderless_closedObject (orderless_cons ?_ (orderless_cons ?_ (orderless_cons ?_
    orderless_nil)))
  · exact orderless_enumStrings _
  · exact orderless_bounded _ _ _
  · exact orderless_text _ _

theorem orderless_outcome : EventSchema.outcome.Orderless isFloat := by
  refine orderless_closedObject (orderless_cons ?_ (orderless_cons ?_ orderless_nil))
  · exact orderless_enumStrings _
  · exact orderless_text _ _

/-- A value of a set of strings is a string. -/
theorem str_of_valid_patternString {r : Pattern} {j : Json}
    (h : (patternString r).valid j = true) : ∃ s, j = .str s :=
  str_of_valid_string h

theorem orderless_safety : EventSchema.safety.Orderless isFloat := by
  refine orderless_closedObject (orderless_cons ?_ (orderless_cons ?_ (orderless_cons ?_
    (orderless_cons ?_ (orderless_cons ?_ orderless_nil)))))
  · exact orderless_const rfl
  · exact orderless_type _
  · exact orderless_type _
  · exact orderless_const rfl
  · exact orderless_stringSet (orderless_text 1 128) fun j h => str_of_valid_string h

theorem orderless_provenance (formats : FormatChecker) :
    (EventSchema.provenance formats).Orderless isFloat := by
  refine orderless_closedObject (orderless_cons ?_ (orderless_cons ?_ (orderless_cons ?_
    (orderless_cons ?_ (orderless_cons ?_ orderless_nil)))))
  · exact orderless_text _ _
  · exact orderless_patternString _
  · exact orderless_text _ _
  · exact orderless_utcDateTime formats
  · exact orderless_closedObject (orderless_cons (orderless_const rfl)
      (orderless_cons (orderless_patternString _) orderless_nil))

theorem orderless_attack : EventSchema.attack.Orderless isFloat :=
  orderless_closedObject (orderless_cons (orderless_patternString _)
    (orderless_cons (orderless_bounded _ _ _) orderless_nil))

/-- **The event schema does not see the order of members.** -/
theorem orderless_eventSchema (formats : FormatChecker) :
    (eventSchema formats).Orderless isFloat := by
  have hid : EventSchema.correlationId.Orderless isFloat := orderless_bounded _ _ _
  have hname : EventSchema.eventName.Orderless isFloat := orderless_bounded _ _ _
  refine orderless_closedObject ?_
  unfold EventSchema.propertySchemas
  refine orderless_cons (orderless_patternString _) (orderless_cons (orderless_formatted _)
    (orderless_cons (orderless_utcDateTime formats) (orderless_cons hid (orderless_cons hid
    (orderless_cons ?_ (orderless_cons hname (orderless_cons (orderless_enumStrings _)
    (orderless_cons orderless_source (orderless_cons orderless_entity (orderless_cons hname
    (orderless_cons (orderless_orNull orderless_entity) (orderless_cons orderless_outcome
    (orderless_cons (orderless_enumStrings _) (orderless_cons (orderless_enumStrings _)
    (orderless_cons orderless_safety (orderless_cons (orderless_provenance formats)
    (orderless_cons (orderless_text _ _) (orderless_cons (orderless_orNull orderless_attack)
    (orderless_cons ?_ (orderless_cons (orderless_orNull (orderless_patternString _))
    (orderless_cons ?_ (orderless_cons (orderless_orNull (orderless_formatted _))
    (orderless_cons (orderless_type _) (orderless_cons ?_
    orderless_nil))))))))))))))))))))))))
  · exact orderless_allOf (List.forall_mem_cons.mpr ⟨orderless_type _,
      List.forall_mem_singleton.mpr (orderless_minimum 1)⟩)
  · exact orderless_stringSet (orderless_patternString _) fun j h => str_of_valid_string h
  · exact orderless_stringSet hid fun j h => str_of_valid_string h
  · exact orderless_allOf (List.forall_mem_cons.mpr ⟨orderless_type _,
      List.forall_mem_singleton.mpr (orderless_propertyNames _)⟩)

end Order

theorem validate_sortKeys {isFloat : Rat → Prop} (formats : FormatChecker) {j : Json}
    (h : j.Proper isFloat) :
    EventValidator.validate formats j.sortKeys = EventValidator.validate formats j := by
  have hmajor : schemaMajor (j.sortKeys.get? "schema_version") =
      schemaMajor (j.get? "schema_version") := by
    rw [Json.get?_sortKeys h]
    cases j.get? "schema_version" with
    | none => rfl
    | some version => cases version <;> rfl
  unfold EventValidator.validate
  rw [hmajor, orderless_eventSchema formats j h]

section Memory

variable {isFloat : Rat → Prop} {j : Json}

theorem eventText_sortKeys (h : j.Proper isFloat) (key : String) :
    eventText j.sortKeys key = eventText j key := by
  rw [eventText, eventText, Json.str?_sortKeys h]

theorem correlationKey_sortKeys (h : j.Proper isFloat) :
    correlationKey j.sortKeys = correlationKey j := by
  rw [correlationKey, correlationKey, eventText_sortKeys h, eventText_sortKeys h]

theorem sequenceOf_sortKeys (h : j.Proper isFloat) : sequenceOf j.sortKeys = sequenceOf j := by
  unfold sequenceOf
  rw [Json.get?_sortKeys h]
  cases j.get? "sequence" with
  | none => rfl
  | some sequence => cases sequence <;> rfl

theorem remember_sortKeys (m : LedgerMemory) (h : j.Proper isFloat) :
    m.remember j.sortKeys = m.remember j := by
  unfold LedgerMemory.remember
  rw [eventText_sortKeys h, correlationKey_sortKeys h, sequenceOf_sortKeys h]

/-- **The checks of a reload do not see the order of members.** -/
theorem check_sortKeys (env : LedgerEnv) (m : LedgerMemory) (h : j.Proper isFloat) :
    env.check m j.sortKeys none = env.check m j none := by
  have horder : LedgerEnv.checkOrder m j.sortKeys = LedgerEnv.checkOrder m j := by
    unfold LedgerEnv.checkOrder
    rw [correlationKey_sortKeys h, sequenceOf_sortKeys h]
  unfold LedgerEnv.check
  rw [validate_sortKeys env.formats h, eventText_sortKeys h, horder]

/-- What passes with a clock passes without. -/
theorem check_none_of_check {env : LedgerEnv} {m : LedgerMemory} {now : DateTime}
    (h : env.check m j (some now) = .ok ()) : env.check m j none = .ok () := by
  obtain ⟨u, hvalid, h⟩ := bind_eq_ok h
  obtain ⟨v, hnew, h⟩ := bind_eq_ok h
  obtain ⟨w, horder, -⟩ := bind_eq_ok h
  unfold LedgerEnv.check
  rw [bind_of_eq_ok hvalid, bind_of_eq_ok hnew, bind_of_eq_ok horder]

end Memory

/-! ## JSON values -/

namespace Value

mutual

/-- A JSON value as a Python value. -/
def ofJson : Json → Value
  | .null => null
  | .bool b => bool b
  | .int n => int n
  | .float q => float q
  | .str s => str s
  | .arr items => list (ofJsonItems items)
  | .obj members => mapping (ofJsonMembers members)

/-- `ofJson` of every item. -/
def ofJsonItems : List Json → List Value
  | [] => []
  | a :: as => ofJson a :: ofJsonItems as

/-- `ofJson` of every member. -/
def ofJsonMembers : List (String × Json) → List (String × Value)
  | [] => []
  | (key, a) :: ms => (key, ofJson a) :: ofJsonMembers ms

end

mutual

/-- The validator sees the JSON value. -/
theorem view_ofJson : ∀ j : Json, (ofJson j).view = j
  | .null | .bool _ | .int _ | .float _ | .str _ => rfl
  | .arr items => by rw [ofJson, view, viewItems_ofJson items]
  | .obj members => by rw [ofJson, view, viewMembers_ofJson members]

theorem viewItems_ofJson : ∀ items : List Json, viewItems (ofJsonItems items) = items
  | [] => rfl
  | a :: as => by rw [ofJsonItems, viewItems, view_ofJson a, viewItems_ofJson as]

theorem viewMembers_ofJson : ∀ ms : List (String × Json), viewMembers (ofJsonMembers ms) = ms
  | [] => rfl
  | (key, a) :: ms => by rw [ofJsonMembers, viewMembers, view_ofJson a, viewMembers_ofJson ms]

end

theorem ofJsonMembers_keys (ms : List (String × Json)) :
    (ofJsonMembers ms).map Prod.fst = ms.map Prod.fst := by
  induction ms with
  | nil => rfl
  | cons m ms ih => rw [ofJsonMembers, List.map_cons, List.map_cons, ih]

section Redaction

variable {isFloat : Rat → Prop}

mutual

/-- Redaction of a JSON value as a Python value is its redaction as a JSON value. -/
theorem redact_ofJson : ∀ j : Json, j.Proper isFloat →
    redact (ofJson j) = .ok (ofJson (redactSensitive j))
  | .null, _ | .bool _, _ | .int _, _ | .float _, _ | .str _, _ => rfl
  | .arr items, h => by
      rw [ofJson, redact, redactItems_ofJson items h]
      rfl
  | .obj members, h => by
      have hnodup : (([] ++ ofJsonMembers (Shared.redactMembers members)).map Prod.fst).Nodup := by
        rw [List.nil_append, ofJsonMembers_keys, EventCall.redactMembers_keys]
        exact h.1
      rw [ofJson, redact, redactMembers_ofJson members h.2]
      change Except.ok (mapping ((ofJsonMembers _).foldl _ [])) = _
      rw [Json.foldl_setMember hnodup]
      rfl

theorem redactItems_ofJson : ∀ items : List Json, Json.ProperItems isFloat items →
    redactItems (ofJsonItems items) = .ok (ofJsonItems (Shared.redactItems items))
  | [], _ => rfl
  | a :: as, h => by
      rw [ofJsonItems, redactItems, redact_ofJson a h.1, redactItems_ofJson as h.2]
      rfl

theorem redactMembers_ofJson : ∀ ms : List (String × Json), Json.ProperMembers isFloat ms →
    redactMembers (ofJsonMembers ms) = .ok (ofJsonMembers (Shared.redactMembers ms))
  | [], _ => rfl
  | (key, a) :: ms, h => by
      rw [ofJsonMembers, redactMembers, Shared.redactMembers, redactMembers_ofJson ms h.2]
      cases sensitiveKeys.contains (normalizedKey key) with
      | true => rfl
      | false =>
          rw [redact_ofJson a h.1]
          rfl

end

mutual

theorem proper_redactSensitive : ∀ j : Json, j.Proper isFloat →
    (redactSensitive j).Proper isFloat
  | .null, h | .bool _, h | .int _, h | .float _, h | .str _, h => h
  | .arr items, h => proper_redactItems items h
  | .obj members, h =>
      ⟨by rw [EventCall.redactMembers_keys]; exact h.1, proper_redactMembers members h.2⟩

theorem proper_redactItems : ∀ items : List Json, Json.ProperItems isFloat items →
    Json.ProperItems isFloat (Shared.redactItems items)
  | [], h => h
  | a :: as, h => ⟨proper_redactSensitive a h.1, proper_redactItems as h.2⟩

theorem proper_redactMembers : ∀ ms : List (String × Json), Json.ProperMembers isFloat ms →
    Json.ProperMembers isFloat (Shared.redactMembers ms)
  | [], h => h
  | (key, a) :: ms, h => by
      refine ⟨?_, proper_redactMembers ms h.2⟩
      split
      · trivial
      · exact proper_redactSensitive a h.1

end

end Redaction

section Write

variable {ft : FloatText}

theorem long_ofJson {j : Json} (h : j.Proper ft.isFloat) : long (ofJson j) = false := by
  cases j with
  | int n =>
      have hn : Json.Short n := h
      simp [ofJson, long, hn]
  | null | bool | float | str | arr | obj => rfl

/-- The members of an object whose values are all written. -/
theorem emitMembers_map (separator : List Char) (ms : List (String × List Char)) :
    emitMembers separator (ms.map fun m => (m.1, m.2, none)) =
      ((match ms with
        | [] => []
        | m :: ms => separator ++
            Json.commaJoin ((m :: ms).map fun m => Json.quote m.1 ++ ':' :: m.2)) ++ ['}'], none) := by
  induction ms generalizing separator with
  | nil => rfl
  | cons m ms ih =>
      rw [List.map_cons, emitMembers, ih]
      cases ms with
      | nil => simp [andThen, Json.commaJoin]
      | cons n ns => simp [andThen, Json.commaJoin]

mutual

/-- A JSON value is written whole, as its text. -/
theorem write_ofJson : ∀ j : Json, j.Proper ft.isFloat →
    write ft.repr (ofJson j) = (Json.dumpChars ft.repr j, none)
  | .null, _ | .bool true, _ | .bool false, _ | .float _, _ | .str _, _ => rfl
  | .int n, h => by
      have hn : Json.Short n := h
      rw [ofJson, write, if_pos hn, Json.dumpChars]
  | .arr [], _ => rfl
  | .arr (a :: as), h => by
      have hitems := writeItems_ofJson ['['] (a :: as) h (List.cons_ne_nil a as)
      rw [ofJsonItems] at hitems
      rw [ofJson, ofJsonItems, write, hitems, Json.dumpChars]
      simp
  | .obj members, h => by
      rw [ofJson, write, writeMembers_ofJson members h.2, emitMembers_map, Json.dumpChars]
      cases Json.dumpMembers ft.repr members with
      | nil => rfl
      | cons m ms => simp [andThen]

theorem writeItems_ofJson (before : List Char) : ∀ items : List Json,
    Json.ProperItems ft.isFloat items → items ≠ [] →
    writeItems ft.repr before (ofJsonItems items) =
      (before ++ Json.commaJoin (Json.dumpItems ft.repr items) ++ [']'], none)
  | [], _, hne => absurd rfl hne
  | [a], h, _ => by
      rw [ofJsonItems, writeItems, long_ofJson h.1, write_ofJson a h.1]
      simp [andThen, ofJsonItems, writeItems, Json.dumpItems, Json.commaJoin]
  | a :: b :: bs, h, _ => by
      rw [ofJsonItems, writeItems, long_ofJson h.1, write_ofJson a h.1,
        writeItems_ofJson [','] (b :: bs) h.2 (List.cons_ne_nil b bs)]
      simp [andThen, Json.dumpItems, Json.commaJoin]

theorem writeMembers_ofJson : ∀ ms : List (String × Json), Json.ProperMembers ft.isFloat ms →
    writeMembers ft.repr (ofJsonMembers ms) =
      (Json.dumpMembers ft.repr ms).map fun m => (m.1, m.2, none)
  | [], _ => rfl
  | (key, a) :: ms, h => by
      rw [ofJsonMembers, writeMembers, Json.dumpMembers, Json.insertMember_eq,
        write_ofJson a h.1, writeMembers_ofJson ms h.2]
      exact (Json.insertKey_map (fun text => (text, none)) (key, Json.dumpChars ft.repr a)
        (Json.dumpMembers ft.repr ms)).symm

end

end Write

end Value

/-! ## Runs -/

/-- A string that begins with no blank is not blank. -/
theorem strip_ne_empty {c : Char} (hc : isSpace c = false) (rest : List Char) :
    strip (String.ofList (c :: rest)) ≠ "" := by
  intro h
  have hchars := congrArg String.toList h
  rw [strip, String.toList_ofList, String.toList_ofList,
    List.dropWhile_cons_of_neg (by simp [hc])] at hchars
  have hall := List.reverse_eq_nil_iff.mp hchars
  rw [List.dropWhile_eq_nil_iff] at hall
  have hspace := hall c (List.mem_reverse.mpr List.mem_cons_self)
  rw [hc] at hspace
  cases hspace

namespace LedgerEnv

variable (env : LedgerEnv)

/-- Calls of `append`, each with the clock's reading: the values returned and the ledger left. -/
def run : List (List (String × Value) × DateTime) → EventLedger → List Value × EventLedger
  | [], l => ([], l)
  | (event, now) :: calls, l =>
      match env.append event now l with
      | (.ok value, l') => (value :: (run calls l').1, (run calls l').2)
      | (.error _, l') => run calls l'

/-- The lines of the file after some events. -/
def written (events : List Json) : List Char :=
  events.flatMap fun event => event.dumpChars env.ft.repr ++ ['\n']

/-- The events, checked and remembered one after another. -/
def Replays (m : LedgerMemory) : List Json → LedgerMemory → Prop
  | [], m' => m' = m
  | event :: events, m' =>
      env.check m event none = .ok () ∧ Replays (m.remember event) events m'

/-- A ledger holds events: its file has their lines, its memory is what they leave. -/
structure Holds (events : List Json) (l : EventLedger) : Prop where
  file : l.file = some (env.written events)
  proper : ∀ event ∈ events, event.Proper env.ft.isFloat
  objects : ∀ event ∈ events, ∃ members, event = .obj members
  memory : env.Replays .start events l.memory

variable {env}

theorem Replays.snoc {event : Json} {m m' : LedgerMemory} {events : List Json}
    (h : env.Replays m events m') (hcheck : env.check m' event none = .ok ()) :
    env.Replays m (events ++ [event]) (m'.remember event) := by
  induction events generalizing m with
  | nil =>
      obtain rfl := h
      exact ⟨hcheck, rfl⟩
  | cons first events ih => exact ⟨h.1, ih h.2⟩

/-- The events in the order of the file replay as the events themselves. -/
theorem Replays.sortKeys {m m' : LedgerMemory} {events : List Json} (h : env.Replays m events m')
    (hproper : ∀ event ∈ events, event.Proper env.ft.isFloat) :
    env.Replays m (events.map Json.sortKeys) m' := by
  induction events generalizing m with
  | nil => exact h
  | cons event events ih =>
      rw [List.forall_mem_cons] at hproper
      refine ⟨?_, ?_⟩
      · rw [check_sortKeys env m hproper.1]
        exact h.1
      · rw [remember_sortKeys m hproper.1]
        exact ih h.2 hproper.2

/-- Events that replay are loaded. -/
theorem Replays.loadFrom {m m' : LedgerMemory} {events : List Json} (h : env.Replays m events m')
    (line_number : Nat) :
    env.loadFrom line_number (events.map Except.ok) m = .ok m' := by
  induction events generalizing m line_number with
  | nil =>
      obtain rfl := h
      rfl
  | cons event events ih =>
      have hload : env.loadEvent line_number m event = .ok (m.remember event) := by
        rw [loadEvent, h.1]
      rw [List.map_cons, LedgerEnv.loadFrom, bind_of_eq_ok rfl, bind_of_eq_ok hload]
      exact ih h.2 (line_number + 1)

/-- The line of an event is read as the event with sorted keys. -/
theorem eventsFrom_written {events : List Json}
    (hproper : ∀ event ∈ events, event.Proper env.ft.isFloat)
    (hobjects : ∀ event ∈ events, ∃ members, event = .obj members) (line_number : Nat) :
    env.eventsFrom line_number
        (events.map fun event => event.dumpChars env.ft.repr ++ ['\n']) =
      events.map fun event => .ok event.sortKeys := by
  induction events generalizing line_number with
  | nil => rfl
  | cons event events ih =>
      rw [List.forall_mem_cons] at hproper hobjects
      obtain ⟨members, rfl⟩ := hobjects.1
      have hblank : strip (String.ofList
          ((Json.obj members).dumpChars env.ft.repr ++ ['\n'])) ≠ "" := by
        rw [Json.dumpChars, List.cons_append, List.cons_append]
        exact strip_ne_empty (by decide) _
      have hread : env.readEvent line_number
          ((Json.obj members).dumpChars env.ft.repr ++ ['\n']) =
            .ok (Json.obj members).sortKeys := by
        have hloads := Json.loads_dumpChars Json.dict_faithful hproper.1
          (Or.inr rfl : ['\n'] = [] ∨ ['\n'] = ['\n'])
        unfold readEvent
        rw [hloads]
        rfl
      rw [List.map_cons, eventsFrom, if_neg hblank, hread, List.map_cons,
        ih hproper.2 hobjects.2]

/-- `iter_jsonl` of the file yields the events. -/
theorem Holds.iterJsonl {events : List Json} {l : EventLedger} (h : env.Holds events l) :
    env.iterJsonl (env.written events) = events.map fun event => .ok event.sortKeys := by
  have hreturn : '\r' ∉ env.written events := by
    intro hmem
    obtain ⟨event, hevent, hc⟩ := List.mem_flatMap.mp hmem
    rcases List.mem_append.mp hc with hc | hc
    · exact (Json.line_dumpChars (h.proper event hevent)).2 hc
    · exact absurd (List.mem_singleton.mp hc) (by decide)
  have hlines : lines (env.written events) =
      events.map fun event => event.dumpChars env.ft.repr ++ ['\n'] := by
    have htexts : ∀ text ∈ events.map fun event => event.dumpChars env.ft.repr,
        '\n' ∉ text := by
      intro text htext
      obtain ⟨event, hevent, rfl⟩ := List.mem_map.mp htext
      exact (Json.line_dumpChars (h.proper event hevent)).1
    have hsplit := lines_flatMap htexts
    rwa [List.flatMap_map, List.map_map] at hsplit
  rw [LedgerEnv.iterJsonl, universal_eq_self hreturn, hlines]
  exact eventsFrom_written h.proper h.objects 1

/-- A new ledger on the file remembers the same. -/
theorem Holds.openLedger {events : List Json} {l : EventLedger} (h : env.Holds events l) :
    env.openLedger l.file = .ok l := by
  have hload := (h.memory.sortKeys h.proper).loadFrom 1
  rw [List.map_map] at hload
  rw [h.file, LedgerEnv.openLedger, h.iterJsonl]
  change (env.loadFrom 1 (events.map (Except.ok ∘ Json.sortKeys)) .start >>= _) = _
  rw [bind_of_eq_ok hload]
  exact congrArg Except.ok (by rw [← h.file])

/-- An append of a JSON value adds the event it returns, or nothing. -/
theorem Holds.append {events : List Json} {l : EventLedger} (h : env.Holds events l)
    {members : List (String × Json)} (hproper : (Json.obj members).Proper env.ft.isFloat)
    (now : DateTime) :
    (∃ e, env.append (Value.ofJsonMembers members) now l = (.error e, l)) ∨
      ∃ value l', env.append (Value.ofJsonMembers members) now l = (.ok value, l') ∧
        env.Holds (events ++ [value.view]) l' := by
  have hredact : Value.redact (.mapping (Value.ofJsonMembers members)) =
      .ok (Value.ofJson (redactSensitive (.obj members))) := Value.redact_ofJson _ hproper
  have hsanitized := Value.proper_redactSensitive _ hproper
  have hwrite := Value.write_ofJson _ hsanitized
  cases hcheck : env.check l.memory (redactSensitive (.obj members)) (some now) with
  | error e =>
      refine Or.inl ⟨e, append_of_check_error hredact ?_⟩
      rw [Value.view_ofJson, hcheck]
  | ok u =>
      have hview : env.check l.memory (Value.ofJson (redactSensitive (.obj members))).view
          (some now) = .ok () := by rw [Value.view_ofJson, hcheck]
      refine Or.inr ⟨_, _, append_of_write hredact hview hwrite, ?_, ?_, ?_, ?_⟩
      · rw [h.file, Value.view_ofJson]
        simp [written]
      · intro event hevent
        rcases List.mem_append.mp hevent with hold | hnew
        · exact h.proper event hold
        · rw [List.mem_singleton.mp hnew, Value.view_ofJson]
          exact hsanitized
      · intro event hevent
        rcases List.mem_append.mp hevent with hold | hnew
        · exact h.objects event hold
        · rw [List.mem_singleton.mp hnew, Value.view_ofJson]
          exact ⟨_, rfl⟩
      · exact h.memory.snoc (check_none_of_check hview)

/-- A run of appends of JSON values adds the events that it returns. -/
theorem Holds.run {events : List Json} {l : EventLedger} (h : env.Holds events l)
    {calls : List (List (String × Json) × DateTime)}
    (hproper : ∀ call ∈ calls, (Json.obj call.1).Proper env.ft.isFloat) :
    env.Holds
      (events ++ (env.run (calls.map fun call => (Value.ofJsonMembers call.1, call.2)) l).1.map
        Value.view)
      (env.run (calls.map fun call => (Value.ofJsonMembers call.1, call.2)) l).2 := by
  induction calls generalizing events l with
  | nil => simpa [LedgerEnv.run] using h
  | cons call calls ih =>
      rw [List.forall_mem_cons] at hproper
      rw [List.map_cons, LedgerEnv.run]
      rcases h.append hproper.1 call.2 with ⟨e, happend⟩ | ⟨value, l', happend, hholds⟩
      · rw [happend]
        exact ih h hproper.2
      · rw [happend]
        simpa using ih hholds hproper.2

/-- The members of a valid event. -/
def sampleMembers : List (String × Json) :=
  [("schema_version", .str "1.0.0"), ("event_id", .str "1"), ("timestamp", .str "2026Z"),
    ("exercise_id", .str "EX"), ("run_id", .str "RUN"), ("sequence", .int 1),
    ("event_type", .str "sign.in"), ("phase", .str "identity"),
    ("source", .obj [("kind", .str "test"), ("component", .str "c")]),
    ("actor", .obj [("type", .str "user"), ("id", .str "a")]), ("action", .str "sign.in"),
    ("target", .null), ("outcome", .obj [("status", .str "success")]),
    ("severity", .str "low"), ("visibility", .str "internal"),
    ("safety", .obj [("simulation_only", .bool true), ("dry_run", .bool true),
      ("within_allowlist", .bool true), ("destructive", .bool false)]),
    ("provenance", .obj [("producer", .str "p"), ("producer_version", .str "1.0.0")]),
    ("message", .str "m"), ("data", .obj [("token", .str "x"), ("count", .int 1)])]

end LedgerEnv

end NetStrike.Shared
