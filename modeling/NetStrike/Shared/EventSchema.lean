import NetStrike.Foundation.Json
import NetStrike.Shared.Exceptions
import Mathlib.Data.List.Sort

/-!
# The event contract

`schemas/event.v1.json` with the validator, the redaction and the timestamps of `shared/events.py`.
An `Event` holds the fields that `EventBuilder.build` sets and `Event.toJson` is the dictionary
that the validator sees. `eventSchema_valid_iff` says field by field when the schema accepts it.

The checks of the `uuid`, `date-time` and `uri-reference` formats belong to the validator library
and are parameters (`FormatChecker`).
-/

set_option autoImplicit false

namespace NetStrike.Shared

open NetStrike.Foundation

/-! ## Time -/

/-- A `datetime`: whether it carries a time zone, and its instant in microseconds since 1970. -/
structure DateTime where
  aware : Bool
  micros : Int
deriving DecidableEq

/-- The decimal digits of `n`, padded with zeros to `width`. -/
def padded (width n : Nat) : String :=
  String.ofList (List.replicate (width - (toString n).length) '0') ++ toString n

/-- The proleptic Gregorian year, month and day of a day number counted from 1970-01-01. -/
def civil (days : Int) : Int × Nat × Nat :=
  let z := days + 719468
  let era := z / 146097
  let doe := z - era * 146097
  let yoe := (doe - doe / 1460 + doe / 36524 - doe / 146096) / 365
  let doy := doe - (365 * yoe + yoe / 4 - yoe / 100)
  let mp := (5 * doy + 2) / 153
  let day := doy - (153 * mp + 2) / 5 + 1
  let month := if mp < 10 then mp + 3 else mp - 9
  let year := yoe + era * 400 + if month ≤ 2 then 1 else 0
  (year, month.toNat, day.toNat)

/-- `isoformat(timespec="milliseconds")` of the UTC instant, with the offset written `Z`. -/
def DateTime.isoformat (t : DateTime) : String :=
  let date := civil (t.micros / 86400000000)
  let ms := (t.micros % 86400000000 / 1000).toNat
  padded 4 date.1.toNat ++ "-" ++ padded 2 date.2.1 ++ "-" ++ padded 2 date.2.2 ++ "T" ++
    padded 2 (ms / 3600000) ++ ":" ++ padded 2 (ms / 60000 % 60) ++ ":" ++
    padded 2 (ms / 1000 % 60) ++ "." ++ padded 3 (ms % 1000) ++ "Z"

/-- `_format_timestamp`: a naive `datetime` is refused. -/
def formatTimestamp (t : DateTime) : Except Exn String :=
  if t.aware then .ok t.isoformat
  else .error (.of .EventContractError "timestamps must be timezone-aware")

/-! ## Redaction -/

/-- `_SENSITIVE_KEYS`. -/
def sensitiveKeys : List String :=
  ["accesstoken", "apikey", "authorization", "clientsecret", "cookie", "credential", "mfasecret",
    "password", "refreshtoken", "secret", "sessiontoken", "token"]

/-- The characters of `a-z0-9` that `str.lower` makes of one character. Besides the ASCII letters
only the Kelvin sign and the dotted capital I lower to such a character. -/
def lowerAlnum (c : Char) : List Char :=
  if c.isDigit || c.isLower then [c]
  else if c.isUpper then [Char.ofNat (c.toNat + 32)]
  else if c.toNat = 0x212A then ['k']
  else if c.toNat = 0x130 then ['i']
  else []

/-- `_normalized_key`: lower case, everything outside `a-z0-9` dropped. -/
def normalizedKey (key : String) : String := String.ofList (key.toList.flatMap lowerAlnum)

mutual

/-- `redact_sensitive` with the default keys. -/
def redactSensitive : Json → Json
  | .obj members => .obj (redactMembers members)
  | .arr items => .arr (redactItems items)
  | j => j

/-- Redaction of the items of an array. -/
def redactItems : List Json → List Json
  | [] => []
  | j :: js => redactSensitive j :: redactItems js

/-- Redaction of the members of an object. -/
def redactMembers : List (String × Json) → List (String × Json)
  | [] => []
  | (key, child) :: ms =>
      (key, if sensitiveKeys.contains (normalizedKey key) then .str "[REDACTED]"
        else redactSensitive child) :: redactMembers ms

end

theorem lookup_redactMembers (key : String) (ms : List (String × Json)) :
    (redactMembers ms).lookup key = (ms.lookup key).map fun child =>
      if sensitiveKeys.contains (normalizedKey key) then .str "[REDACTED]"
      else redactSensitive child := by
  induction ms with
  | nil => rfl
  | cons m ms ih =>
      obtain ⟨k, child⟩ := m
      simp only [redactMembers, List.lookup_cons]
      cases hk : key == k with
      | true =>
          rw [beq_iff_eq] at hk
          subst hk
          simp
      | false => exact ih

/-- Where no key is sensitive, redaction works on the values only. -/
theorem redactMembers_eq_map {ms : List (String × Json)}
    (h : ∀ m ∈ ms, sensitiveKeys.contains (normalizedKey m.1) = false) :
    redactMembers ms = ms.map fun m => (m.1, redactSensitive m.2) := by
  induction ms with
  | nil => rfl
  | cons m ms ih =>
      rw [redactMembers, h m List.mem_cons_self, if_neg (by decide),
        ih fun n hn => h n (List.mem_cons_of_mem m hn)]
      rfl

/-- Redaction keeps the member under a key that is not sensitive. -/
theorem get?_redactSensitive {key : String} (h : sensitiveKeys.contains (normalizedKey key) = false)
    (j : Json) : (redactSensitive j).get? key = (j.get? key).map redactSensitive := by
  cases j with
  | obj ms =>
      rw [redactSensitive, Json.get?, Json.get?, lookup_redactMembers]
      simp only [h, Bool.false_eq_true, if_false]
  | arr | null | bool | int | float | str => rfl

theorem str?_redactSensitive {key : String} (h : sensitiveKeys.contains (normalizedKey key) = false)
    (j : Json) : (redactSensitive j).str? key = j.str? key := by
  unfold Json.str?
  rw [get?_redactSensitive h]
  cases j.get? key with
  | none => rfl
  | some child => cases child <;> rfl

/-! ## Schema -/

/-- The format checks of the validator library that the schemas name. -/
structure FormatChecker where
  uuid : String → Bool
  dateTime : String → Bool
  uriReference : String → Bool

/-- Format checks that accept every string. -/
def FormatChecker.lenient : FormatChecker := ⟨fun _ => true, fun _ => true, fun _ => true⟩

/-- `[a-z]`. -/
def isLowerLetter (c : Char) : Bool := 'a' ≤ c && c ≤ 'z'

/-- `[0-9]`. -/
def isDigit (c : Char) : Bool := '0' ≤ c && c ≤ '9'

/-- `[A-Za-z0-9]`. -/
def isAlnum (c : Char) : Bool := isLowerLetter c || ('A' ≤ c && c ≤ 'Z') || isDigit c

/-- One character of the given ones. -/
def oneOfChars (s : String) (c : Char) : Bool := s.toList.contains c

/-- `[A-Za-z0-9][A-Za-z0-9._:-]*`. -/
def identifierPattern : Pattern :=
  .seq (.cls isAlnum) (.star (.cls fun c => isAlnum c || oneOfChars "._:-" c))

/-- `[a-z][a-z0-9]*(?:[._-][a-z0-9]+)*`. -/
def eventNamePattern : Pattern :=
  let word := Pattern.cls fun c => isLowerLetter c || isDigit c
  .seq (.cls isLowerLetter)
    (.seq (.star word) (.star (.seq (.cls (oneOfChars "._-")) (.plus word))))

/-- `[a-z][a-z0-9_-]*`. -/
def entityTypePattern : Pattern :=
  .seq (.cls isLowerLetter) (.star (.cls fun c => isLowerLetter c || isDigit c || oneOfChars "_-" c))

/-- `DP[1-9][0-9]*` and `LO[1-9][0-9]*`. -/
def numberedPattern (stem : String) : Pattern :=
  .seq (.lit stem) (.seq (.cls fun c => '1' ≤ c && c ≤ '9') (.star (.cls isDigit)))

/-- `1\.[0-9]+\.[0-9]+`. -/
def schemaVersionPattern : Pattern :=
  .seq (.lit "1.") (.seq (.plus (.cls isDigit)) (.seq (.char '.') (.plus (.cls isDigit))))

/-- `[0-9]+\.[0-9]+\.[0-9]+`. -/
def versionPattern : Pattern :=
  .seq (.plus (.cls isDigit)) (.seq (.char '.') (.seq (.plus (.cls isDigit))
    (.seq (.char '.') (.plus (.cls isDigit)))))

/-- `[0-9]+\.[0-9]+\.[0-9]+(?:[-+][0-9A-Za-z.-]+)?`. -/
def producerVersionPattern : Pattern :=
  .seq versionPattern (.opt (.seq (.cls (oneOfChars "-+"))
    (.plus (.cls fun c => isAlnum c || oneOfChars ".-" c))))

/-- `[a-z0-9][a-z0-9._-]*`. -/
def componentPattern : Pattern :=
  .seq (.cls fun c => isLowerLetter c || isDigit c)
    (.star (.cls fun c => isLowerLetter c || isDigit c || oneOfChars "._-" c))

/-- `[a-z][a-z0-9_-]*\.[a-z][a-z0-9_.-]*`. -/
def extensionNamePattern : Pattern :=
  .seq entityTypePattern (.seq (.char '.') (.seq (.cls isLowerLetter)
    (.star (.cls fun c => isLowerLetter c || isDigit c || oneOfChars "_.-" c))))

/-- `T[0-9]{4}(?:\.[0-9]{3})?`. -/
def techniquePattern : Pattern :=
  .seq (.char 'T') (.seq (.times (.cls isDigit) 4)
    (.opt (.seq (.char '.') (.times (.cls isDigit) 3))))

/-- `[a-z][a-z0-9-]*`. -/
def tacticPattern : Pattern :=
  .seq (.cls isLowerLetter) (.star (.cls fun c => isLowerLetter c || isDigit c || oneOfChars "-" c))

/-- `[a-f0-9]{64}`. -/
def digestPattern : Pattern :=
  .times (.cls fun c => isDigit c || ('a' ≤ c && c ≤ 'f')) 64

/-- The unanchored start of `Z$`. -/
def endsWithZPattern : Pattern := .seq (.star (.cls fun _ => true)) (.char 'Z')

/-- The format of a timestamp ends with `Z`. -/
theorem endsWithZ_isoformat (t : DateTime) : endsWithZPattern.search t.isoformat = true := by
  have hend : ∃ u : String, t.isoformat = u ++ "Z" := ⟨_, rfl⟩
  obtain ⟨u, hu⟩ := hend
  refine Pattern.search_of_accepts ((Pattern.accepts_iff _ _).mpr ?_)
  rw [hu, String.toList_append]
  refine Language.append_mem_mul ?_ ⟨'Z', rfl, rfl⟩
  exact (Pattern.mem_lang_star_cls _ _).mpr fun _ _ => rfl

/-- An enumeration of strings. -/
def enumStrings (values : List String) : Schema :=
  .allOf [.type [.string], .enum (values.map .str)]

/-- A string matched by an anchored pattern. -/
def patternString (r : Pattern) : Schema := .allOf [.type [.string], .pattern r]

theorem enumStrings_valid (values : List String) (s : String) :
    (enumStrings values).valid (.str s) = true ↔ s ∈ values := by
  simp [enumStrings, JsonType.admits]

theorem patternString_valid (r : Pattern) (s : String) :
    (patternString r).valid (.str s) = r.search s := by
  simp [patternString, JsonType.admits]

namespace EventSchema

/-- `#/$defs/correlationId`. -/
def correlationId : Schema :=
  .allOf [.type [.string], .minLength 1, .maxLength 128, .pattern identifierPattern]

/-- `#/$defs/eventName`. -/
def eventName : Schema :=
  .allOf [.type [.string], .minLength 1, .maxLength 128, .pattern eventNamePattern]

/-- `#/$defs/entity`. -/
def entity : Schema :=
  .closedObject ["type", "id"]
    [("type", .allOf [.type [.string], .minLength 1, .maxLength 64, .pattern entityTypePattern]),
     ("id", .text 1 256),
     ("display_name", .text 1 256),
     ("role", .text 1 128)]

theorem correlationId_valid (s : String) :
    correlationId.valid (.str s) = true ↔
      1 ≤ s.length ∧ s.length ≤ 128 ∧ identifierPattern.search s = true := by
  simp [correlationId, JsonType.admits]

theorem eventName_valid (s : String) :
    eventName.valid (.str s) = true ↔
      1 ≤ s.length ∧ s.length ≤ 128 ∧ eventNamePattern.search s = true := by
  simp [eventName, JsonType.admits]

/-- `#/$defs/source`. -/
def source : Schema :=
  .closedObject ["kind", "component"]
    [("kind", enumStrings ["module", "controller", "action_adapter", "participant", "facilitator",
        "platform", "test"]),
     ("component",
        .allOf [.type [.string], .minLength 1, .maxLength 128, .pattern componentPattern]),
     ("host", .text 1 255)]

/-- The statuses of an outcome. -/
def outcomeStatuses : List String :=
  ["success", "failure", "denied", "blocked", "pending", "skipped", "cancelled", "error",
    "unknown"]

/-- `#/$defs/outcome`. -/
def outcome : Schema :=
  .closedObject ["status"]
    [("status", enumStrings outcomeStatuses),
     ("reason", .text 1 1024)]

/-- `#/$defs/safety`. -/
def safety : Schema :=
  .closedObject ["simulation_only", "dry_run", "within_allowlist", "destructive"]
    [("simulation_only", .const (.bool true)),
     ("dry_run", .type [.boolean]),
     ("within_allowlist", .type [.boolean]),
     ("destructive", .const (.bool false)),
     ("controls", .allOf [.type [.array], .items (.text 1 128), .uniqueItems])]

/-- A UTC date-time string. -/
def utcDateTime (formats : FormatChecker) : Schema :=
  .allOf [.type [.string], .format formats.dateTime, .pattern endsWithZPattern]

/-- `#/$defs/provenance`. -/
def provenance (formats : FormatChecker) : Schema :=
  .closedObject ["producer", "producer_version"]
    [("producer", .text 1 128),
     ("producer_version", patternString producerVersionPattern),
     ("source_event_id", .text 1 256),
     ("ingested_at", utcDateTime formats),
     ("integrity", .closedObject ["algorithm", "digest"]
        [("algorithm", .const (.str "sha256")), ("digest", patternString digestPattern)])]

/-- `#/$defs/attack`. -/
def attack : Schema :=
  .closedObject ["technique_id", "tactic"]
    [("technique_id", patternString techniquePattern),
     ("tactic", .allOf [.type [.string], .minLength 1, .maxLength 128, .pattern tacticPattern])]

/-- The phases of the exercise. -/
def phases : List String :=
  ["setup", "reconnaissance", "identity", "endpoint_ad", "cloud", "impact_recovery", "control",
    "post_exercise"]

/-- The severities of an event. -/
def severities : List String := ["info", "low", "medium", "high", "critical"]

/-- The audiences of an event. -/
def visibilities : List String := ["participant", "facilitator", "evaluator", "internal"]

/-- The required properties. -/
def requiredNames : List String :=
  ["schema_version", "event_id", "timestamp", "exercise_id", "run_id", "sequence", "event_type",
    "phase", "source", "actor", "action", "target", "outcome", "severity", "visibility", "safety",
    "provenance", "message", "data"]

/-- The properties of `event.v1.json`. -/
def propertySchemas (formats : FormatChecker) : List (String × Schema) :=
  [("schema_version", patternString schemaVersionPattern),
   ("event_id", .allOf [.type [.string], .format formats.uuid]),
   ("timestamp", utcDateTime formats),
   ("exercise_id", correlationId),
   ("run_id", correlationId),
   ("sequence", .allOf [.type [.integer], .minimum 1]),
   ("event_type", eventName),
   ("phase", enumStrings phases),
   ("source", source),
   ("actor", entity),
   ("action", eventName),
   ("target", .oneOf [entity, .type [.null]]),
   ("outcome", outcome),
   ("severity", enumStrings severities),
   ("visibility", enumStrings visibilities),
   ("safety", safety),
   ("provenance", provenance formats),
   ("message", .text 1 2048),
   ("attack", .oneOf [attack, .type [.null]]),
   ("objective_ids",
      .allOf [.type [.array], .items (patternString (numberedPattern "LO")), .uniqueItems]),
   ("checkpoint_id", .oneOf [patternString (numberedPattern "DP"), .type [.null]]),
   ("correlation_ids", .allOf [.type [.array], .items correlationId, .uniqueItems]),
   ("raw_data_ref",
      .oneOf [.allOf [.type [.string], .format formats.uriReference], .type [.null]]),
   ("data", .type [.object]),
   ("extensions", .allOf [.type [.object],
      .propertyNames (.pattern extensionNamePattern)])]

end EventSchema

/-- `schemas/event.v1.json`. -/
def eventSchema (formats : FormatChecker) : Schema :=
  .closedObject EventSchema.requiredNames (EventSchema.propertySchemas formats)

/-- `_schema_major`. -/
def schemaMajor : Option Json → Except Exn Nat
  | some (.str version) =>
      if versionPattern.accepts version then
        .ok ((version.toList.takeWhile isDigit).foldl (fun n c => 10 * n + (c.toNat - 48)) 0)
      else .error (.of .EventCompatibilityError
        s!"schema_version {version} is not formatted as MAJOR.MINOR.PATCH")
  | _ => .error (.of .EventCompatibilityError "schema_version must be a semantic-version string")

/-- `EventValidator.validate`. The library's text of each single violation is left out. -/
def EventValidator.validate (formats : FormatChecker) (event : Json) : Except Exn Unit := do
  let major ← schemaMajor (event.get? "schema_version")
  if major ≠ 1 then
    throw (.of .EventCompatibilityError
      s!"unsupported event schema major {major}; this consumer supports major 1")
  if (eventSchema formats).valid event then pure ()
  else throw (.of .EventValidationError "event schema validation failed")

/-- What the validator accepts meets the schema. -/
theorem schema_valid {formats : FormatChecker} {event : Json}
    (h : EventValidator.validate formats event = .ok ()) :
    (eventSchema formats).valid event = true := by
  unfold EventValidator.validate at h
  cases hmajor : schemaMajor (event.get? "schema_version") with
  | error e =>
      rw [hmajor] at h
      cases h
  | ok major =>
      rw [hmajor] at h
      by_contra hinvalid
      rw [Bool.not_eq_true] at hinvalid
      by_cases hone : major = 1
      · simp [hone, hinvalid, bind, Except.bind] at h
      · simp [hone, bind, Except.bind] at h

/-! ## Events -/

/-- A key and its value, or nothing. -/
def optionalMember (key : String) : Option Json → List (String × Json)
  | some j => [(key, j)]
  | none => []

/-- A string that Python counts as true. -/
def truthy : Option String → Option String
  | some s => if s = "" then none else some s
  | none => none

theorem truthy_eq_some {o : Option String} {s : String} :
    truthy o = some s ↔ o = some s ∧ s ≠ "" := by
  cases o with
  | none => simp [truthy]
  | some t =>
      by_cases ht : t = ""
      · simp [truthy, ht, eq_comm]
      · simp only [truthy, if_neg ht, Option.some.injEq]
        exact ⟨fun h => ⟨h, h ▸ ht⟩, And.left⟩

/-- `entity`. -/
def entity (entity_type entity_id : String) (display_name role : Option String) :
    List (String × Json) :=
  [("type", .str entity_type), ("id", .str entity_id)] ++
    optionalMember "display_name" ((truthy display_name).map .str) ++
    optionalMember "role" ((truthy role).map .str)

/-- What the schema asks of the arguments of `entity`. -/
theorem entity_valid (entity_type entity_id : String) (display_name role : Option String) :
    EventSchema.entity.valid (.obj (entity entity_type entity_id display_name role)) = true ↔
      (1 ≤ entity_type.length ∧ entity_type.length ≤ 64 ∧
          entityTypePattern.search entity_type = true) ∧
        (1 ≤ entity_id.length ∧ entity_id.length ≤ 256) ∧
        (∀ name, truthy display_name = some name → 1 ≤ name.length ∧ name.length ≤ 256) ∧
        ∀ r, truthy role = some r → 1 ≤ r.length ∧ r.length ≤ 128 := by
  unfold EventSchema.entity entity
  rw [Schema.valid_closedObject]
  cases hname : truthy display_name <;> cases hrole : truthy role <;>
    simp [List.lookup_cons, optionalMember, JsonType.admits, Schema.valid_text]

/-- An event as `EventBuilder.build` lays it out. -/
structure Event where
  schema_version : String
  event_id : String
  timestamp : String
  exercise_id : String
  run_id : String
  sequence : Int
  event_type : String
  phase : String
  source : Json
  actor : Json
  action : String
  target : Json
  outcome : Json
  severity : String
  visibility : String
  safety : Json
  provenance : Json
  message : String
  objective_ids : List String
  checkpoint_id : Option String
  correlation_ids : List String
  raw_data_ref : Option String
  data : Json
  extensions : Json
  attack : Option Json
deriving DecidableEq

/-- An optional string as a nullable value. -/
def nullable : Option String → Json
  | some s => .str s
  | none => .null

/-- The dictionary of an event. -/
def Event.toJson (e : Event) : Json :=
  .obj ([("schema_version", .str e.schema_version), ("event_id", .str e.event_id),
    ("timestamp", .str e.timestamp), ("exercise_id", .str e.exercise_id),
    ("run_id", .str e.run_id), ("sequence", .int e.sequence), ("event_type", .str e.event_type),
    ("phase", .str e.phase), ("source", e.source), ("actor", e.actor), ("action", .str e.action),
    ("target", e.target), ("outcome", e.outcome), ("severity", .str e.severity),
    ("visibility", .str e.visibility), ("safety", e.safety), ("provenance", e.provenance),
    ("message", .str e.message), ("objective_ids", Json.strs e.objective_ids),
    ("checkpoint_id", nullable e.checkpoint_id), ("correlation_ids", Json.strs e.correlation_ids),
    ("raw_data_ref", nullable e.raw_data_ref), ("data", e.data), ("extensions", e.extensions)] ++
    optionalMember "attack" e.attack)

/-- What the schema asks of an event, field by field. -/
structure Event.WellFormed (formats : FormatChecker) (e : Event) : Prop where
  schema_version : (patternString schemaVersionPattern).valid (.str e.schema_version) = true
  event_id : (Schema.allOf [.type [.string], .format formats.uuid]).valid (.str e.event_id) = true
  timestamp : (EventSchema.utcDateTime formats).valid (.str e.timestamp) = true
  exercise_id : EventSchema.correlationId.valid (.str e.exercise_id) = true
  run_id : EventSchema.correlationId.valid (.str e.run_id) = true
  sequence : (Schema.allOf [.type [.integer], .minimum 1]).valid (.int e.sequence) = true
  event_type : EventSchema.eventName.valid (.str e.event_type) = true
  phase : (enumStrings EventSchema.phases).valid (.str e.phase) = true
  source : EventSchema.source.valid e.source = true
  actor : EventSchema.entity.valid e.actor = true
  action : EventSchema.eventName.valid (.str e.action) = true
  target : (Schema.oneOf [EventSchema.entity, .type [.null]]).valid e.target = true
  outcome : EventSchema.outcome.valid e.outcome = true
  severity : (enumStrings EventSchema.severities).valid (.str e.severity) = true
  visibility : (enumStrings EventSchema.visibilities).valid (.str e.visibility) = true
  safety : EventSchema.safety.valid e.safety = true
  provenance : (EventSchema.provenance formats).valid e.provenance = true
  message : (Schema.text 1 2048).valid (.str e.message) = true
  objective_ids :
    (Schema.allOf [.type [.array], .items (patternString (numberedPattern "LO")),
      .uniqueItems]).valid (Json.strs e.objective_ids) = true
  checkpoint_id :
    (Schema.oneOf [patternString (numberedPattern "DP"), .type [.null]]).valid
      (nullable e.checkpoint_id) = true
  correlation_ids :
    (Schema.allOf [.type [.array], .items EventSchema.correlationId, .uniqueItems]).valid
      (Json.strs e.correlation_ids) = true
  raw_data_ref :
    (Schema.oneOf [.allOf [.type [.string], .format formats.uriReference],
      .type [.null]]).valid (nullable e.raw_data_ref) = true
  data : (Schema.type [.object]).valid e.data = true
  extensions :
    (Schema.allOf [.type [.object], .propertyNames (.pattern extensionNamePattern)]).valid
      e.extensions = true
  attack : ∀ a, e.attack = some a →
    (Schema.oneOf [EventSchema.attack, .type [.null]]).valid a = true

/-- The schema accepts an event exactly when every field is well formed. -/
theorem eventSchema_valid_iff (formats : FormatChecker) (e : Event) :
    (eventSchema formats).valid e.toJson = true ↔ e.WellFormed formats := by
  unfold eventSchema Event.toJson
  rw [Schema.valid_closedObject]
  constructor
  · rintro ⟨-, -, h⟩
    cases ha : e.attack with
    | none =>
        simp [EventSchema.propertySchemas, ha, optionalMember, List.lookup_cons, -Schema.valid_allOf,
          -Schema.valid_oneOf, -Schema.valid_type] at h
        obtain ⟨h1, h2, h3, h4, h5, h6, h7, h8, h9, h10, h11, h12, h13, h14, h15, h16, h17, h18,
          h19, h20, h21, h22, h23, h24⟩ := h
        exact ⟨h1, h2, h3, h4, h5, h6, h7, h8, h9, h10, h11, h12, h13, h14, h15, h16, h17, h18,
          h19, h20, h21, h22, h23, h24, fun a h => by simp [ha] at h⟩
    | some a =>
        simp [EventSchema.propertySchemas, ha, optionalMember, List.lookup_cons, -Schema.valid_allOf,
          -Schema.valid_oneOf, -Schema.valid_type] at h
        obtain ⟨h1, h2, h3, h4, h5, h6, h7, h8, h9, h10, h11, h12, h13, h14, h15, h16, h17, h18,
          hat, h19, h20, h21, h22, h23, h24⟩ := h
        exact ⟨h1, h2, h3, h4, h5, h6, h7, h8, h9, h10, h11, h12, h13, h14, h15, h16, h17, h18,
          h19, h20, h21, h22, h23, h24, fun b hb => Option.some.inj (ha.symm.trans hb) ▸ hat⟩
  · intro h
    cases ha : e.attack with
    | none =>
        refine ⟨?_, ?_, ?_⟩
        · simp [EventSchema.propertySchemas, optionalMember]
        · simp [EventSchema.requiredNames, optionalMember, List.lookup_cons]
        · simp [EventSchema.propertySchemas, optionalMember, List.lookup_cons, -Schema.valid_allOf,
            -Schema.valid_oneOf, -Schema.valid_type,
            h.schema_version, h.event_id, h.timestamp, h.exercise_id, h.run_id, h.sequence,
            h.event_type, h.phase, h.source, h.actor, h.action, h.target, h.outcome, h.severity,
            h.visibility, h.safety, h.provenance, h.message, h.objective_ids, h.checkpoint_id,
            h.correlation_ids, h.raw_data_ref, h.data, h.extensions]
    | some a =>
        refine ⟨?_, ?_, ?_⟩
        · simp [EventSchema.propertySchemas, optionalMember]
        · simp [EventSchema.requiredNames, optionalMember, List.lookup_cons]
        · simp [EventSchema.propertySchemas, optionalMember, List.lookup_cons, -Schema.valid_allOf,
            -Schema.valid_oneOf, -Schema.valid_type,
            h.schema_version, h.event_id, h.timestamp, h.exercise_id, h.run_id, h.sequence,
            h.event_type, h.phase, h.source, h.actor, h.action, h.target, h.outcome, h.severity,
            h.visibility, h.safety, h.provenance, h.message, h.objective_ids, h.checkpoint_id,
            h.correlation_ids, h.raw_data_ref, h.data, h.extensions, h.attack a ha]

end NetStrike.Shared
