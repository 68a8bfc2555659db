import NetStrike.Shared.EventSchema

/-!
# The action contract

`schemas/action.v1.json`, the `ActionValidator` and the result records of `shared/actions.py`. A
request is the dictionary that the caller passes; `ActionResult` holds the fields that `_result`
sets. `actionSchema_valid_iff` says field by field when the schema accepts a result, and
`record_fields` what the fields of an accepted record are, a request or a result alike.
-/

set_option autoImplicit false

namespace NetStrike.Shared

open NetStrike.Foundation

/-! ## Dictionaries -/

/-- A dictionary with JSON values. -/
abbrev JsonObject := List (String × Json)

namespace JsonObject

/-- `d.get(key)`. -/
def get (d : JsonObject) (key : String) : Json := (d.lookup key).getD .null

/-- `d[key]` where the value is a string. -/
def text (d : JsonObject) (key : String) : String :=
  match d.lookup key with
  | some (.str s) => s
  | _ => ""

/-- `d[key]` where the value is an object. -/
def object (d : JsonObject) (key : String) : JsonObject :=
  match d.lookup key with
  | some (.obj members) => members
  | _ => []

/-- `d[key]` where the value is a number. -/
def number (d : JsonObject) (key : String) : Rat :=
  match d.lookup key with
  | some (.int n) => n
  | some (.float q) => q
  | _ => 0

/-- `bool(d.get("dry_run", True))`. -/
def dryRun (d : JsonObject) : Bool :=
  match d.lookup "dry_run" with
  | some (.bool b) => b
  | _ => true

theorem lookup_text {d : JsonObject} {key s : String} (h : d.lookup key = some (.str s)) :
    d.text key = s := by
  unfold text
  rw [h]

end JsonObject

/-! ## Schema -/

namespace ActionSchema

/-- `#/$defs/identifier`. -/
def identifier : Schema :=
  .allOf [.type [.string], .minLength 1, .maxLength 128, .pattern identifierPattern]

/-- `#/$defs/entity`. -/
def entity : Schema :=
  .closedObject ["type", "id"]
    [("type", patternString entityTypePattern),
     ("id", .text 1 256),
     ("display_name", .text 1 256),
     ("role", .text 1 128)]

/-- A nonempty string. -/
def nonempty : Schema := .allOf [.type [.string], .minLength 1]

/-- `#/$defs/rollback`. -/
def rollback : Schema :=
  .closedObject ["supported", "required", "attempted", "succeeded"]
    [("supported", .type [.boolean]), ("required", .type [.boolean]),
     ("attempted", .type [.boolean]), ("succeeded", .type [.boolean]),
     ("method", nonempty), ("token", nonempty)]

/-- A string in UUID format. -/
def uuid (formats : FormatChecker) : Schema := .allOf [.type [.string], .format formats.uuid]

/-- The properties that requests and results share. -/
def sharedProperties (formats : FormatChecker) : List (String × Schema) :=
  [("schema_version", patternString schemaVersionPattern),
   ("request_id", uuid formats),
   ("idempotency_key", identifier),
   ("exercise_id", identifier),
   ("run_id", identifier),
   ("action_id", patternString eventNamePattern),
   ("target", entity)]

/-- The required properties of `#/$defs/request`. -/
def requestNames : List String :=
  ["schema_version", "record_type", "request_id", "idempotency_key", "timestamp", "exercise_id",
    "run_id", "actor", "action_id", "target", "parameters", "dry_run", "timeout_seconds"]

/-- `#/$defs/request`. -/
def request (formats : FormatChecker) : Schema :=
  .closedObject requestNames
    (sharedProperties formats ++
      [("record_type", .const (.str "request")),
       ("timestamp", EventSchema.utcDateTime formats),
       ("actor", .allOf [entity, .required ["role"]]),
       ("parameters", .type [.object]),
       ("dry_run", .type [.boolean]),
       ("timeout_seconds", .allOf [.type [.integer], .minimum 1, .maximum 300])])

/-- The statuses of a result. -/
def resultStatuses : List String :=
  ["executed", "dry_run", "denied", "failed", "timed_out", "cancelled"]

/-- The required properties of `#/$defs/result`. -/
def resultNames : List String :=
  ["schema_version", "record_type", "request_id", "idempotency_key", "exercise_id", "run_id",
    "action_id", "target", "status", "successful", "started_at", "finished_at", "cached",
    "effects", "rollback", "error_code", "message"]

/-- `#/$defs/result`. -/
def result (formats : FormatChecker) : Schema :=
  .closedObject resultNames
    (sharedProperties formats ++
      [("record_type", .const (.str "result")),
       ("status", .enum (resultStatuses.map .str)),
       ("successful", .type [.boolean]),
       ("started_at", EventSchema.utcDateTime formats),
       ("finished_at", EventSchema.utcDateTime formats),
       ("cached", .type [.boolean]),
       ("effects", .allOf [.type [.array], .items (.type [.string]), .uniqueItems]),
       ("rollback", rollback),
       ("error_code", .type [.string, .null]),
       ("message", .text 1 1024)])

end ActionSchema

/-- `schemas/action.v1.json`. -/
def actionSchema (formats : FormatChecker) : Schema :=
  .oneOf [ActionSchema.request formats, ActionSchema.result formats]

/-- `isinstance(version, str) and version.startswith("1.")`. -/
def supportedVersion : Option Json → Bool
  | some (.str version) => decide ("1.".toList <+: version.toList)
  | _ => false

/-- `ActionValidator.validate`. The library's text of each single violation is left out. -/
def ActionValidator.validate (formats : FormatChecker) (record : JsonObject) : Except Exn Unit :=
  if supportedVersion (record.lookup "schema_version") then
    if (actionSchema formats).valid (.obj record) then .ok ()
    else .error (.of .ActionValidationError "action schema validation failed")
  else .error (.of .ActionValidationError "unsupported action schema major version")

/-! ## Accepted records -/

/-- What every accepted record, request or result, has in common. -/
structure RecordFields (formats : FormatChecker) (record : JsonObject) : Prop where
  request_id : (ActionSchema.uuid formats).valid (.str (record.text "request_id")) = true
  idempotency_key : ActionSchema.identifier.valid (.str (record.text "idempotency_key")) = true
  exercise_id : ActionSchema.identifier.valid (.str (record.text "exercise_id")) = true
  run_id : ActionSchema.identifier.valid (.str (record.text "run_id")) = true
  action_id : (patternString eventNamePattern).valid (.str (record.text "action_id")) = true
  target : ActionSchema.entity.valid (record.get "target") = true

/-- A required string of a closed object is valid. -/
theorem valid_text_of_closedObject {names : List String} {props : List (String × Schema)}
    {record : JsonObject} {key : String} {schemas : List Schema}
    (h : (Schema.closedObject names props).valid (.obj record) = true) (hkey : key ∈ names)
    (hschema : (key, Schema.allOf (.type [.string] :: schemas)) ∈ props) :
    (Schema.allOf (.type [.string] :: schemas)).valid (.str (record.text key)) = true := by
  obtain ⟨j, hlookup, hvalid⟩ := Schema.required_of_closedObject h hkey hschema
  obtain ⟨s, rfl⟩ := Schema.str_of_valid_string hvalid
  rwa [JsonObject.lookup_text hlookup]

/-- A closed object with the shared properties has the common fields. -/
theorem recordFields_of_closedObject {formats : FormatChecker} {names : List String}
    {props : List (String × Schema)} {record : JsonObject}
    (h : (Schema.closedObject names (ActionSchema.sharedProperties formats ++ props)).valid
      (.obj record) = true)
    (hnames : ∀ key ∈ ["request_id", "idempotency_key", "exercise_id", "run_id", "action_id",
      "target"], key ∈ names) : RecordFields formats record := by
  have hshared : ∀ p ∈ ActionSchema.sharedProperties formats,
      p ∈ ActionSchema.sharedProperties formats ++ props :=
    fun p hp => List.mem_append_left props hp
  obtain ⟨target, htarget, hvalid⟩ := Schema.required_of_closedObject h
    (hnames "target" (by simp)) (hshared ("target", ActionSchema.entity)
      (by simp [ActionSchema.sharedProperties]))
  exact {
    request_id := valid_text_of_closedObject h (hnames _ (by simp))
      (hshared ("request_id", ActionSchema.uuid formats) (by simp [ActionSchema.sharedProperties]))
    idempotency_key := valid_text_of_closedObject h (hnames _ (by simp))
      (hshared ("idempotency_key", ActionSchema.identifier)
        (by simp [ActionSchema.sharedProperties]))
    exercise_id := valid_text_of_closedObject h (hnames _ (by simp))
      (hshared ("exercise_id", ActionSchema.identifier) (by simp [ActionSchema.sharedProperties]))
    run_id := valid_text_of_closedObject h (hnames _ (by simp))
      (hshared ("run_id", ActionSchema.identifier) (by simp [ActionSchema.sharedProperties]))
    action_id := valid_text_of_closedObject h (hnames _ (by simp))
      (hshared ("action_id", patternString eventNamePattern)
        (by simp [ActionSchema.sharedProperties]))
    target := by
      unfold JsonObject.get
      rw [htarget]
      exact hvalid }

/-- The common fields of an accepted record. -/
theorem record_fields {formats : FormatChecker} {record : JsonObject}
    (h : ActionValidator.validate formats record = .ok ()) : RecordFields formats record := by
  unfold ActionValidator.validate at h
  split at h
  · split at h
    · next hvalid =>
        unfold actionSchema at hvalid
        rw [Schema.valid_oneOf_pair] at hvalid
        by_cases hrequest : (ActionSchema.request formats).valid (.obj record) = true
        · exact recordFields_of_closedObject hrequest (by decide)
        · have hresult : (ActionSchema.result formats).valid (.obj record) = true := by
            rw [Bool.not_eq_true] at hrequest
            simpa [hrequest] using hvalid
          exact recordFields_of_closedObject hresult (by decide)
    · cases h
  · cases h

/-! ## Results -/

/-- The status of a result. -/
inductive ResultStatus where
  | executed
  | dry_run
  | denied
  | failed
  | timed_out
  | cancelled
deriving DecidableEq

/-- The text of a status. -/
def ResultStatus.value : ResultStatus → String
  | executed => "executed"
  | dry_run => "dry_run"
  | denied => "denied"
  | failed => "failed"
  | timed_out => "timed_out"
  | cancelled => "cancelled"

/-- The rollback record of a result. -/
structure Rollback where
  supported : Bool
  required : Bool
  attempted : Bool
  succeeded : Bool
  method : Option String
  token : Option String
deriving DecidableEq

/-- The rollback record of a result without rollback. -/
def Rollback.unsupported : Rollback := ⟨false, false, false, false, none, none⟩

/-- The dictionary of a rollback record. -/
def Rollback.toJson (r : Rollback) : Json :=
  .obj ([("supported", .bool r.supported), ("required", .bool r.required),
    ("attempted", .bool r.attempted), ("succeeded", .bool r.succeeded)] ++
    optionalMember "method" (r.method.map .str) ++ optionalMember "token" (r.token.map .str))

/-- A result as `_result` lays it out. -/
structure ActionResult where
  request_id : String
  idempotency_key : String
  exercise_id : String
  run_id : String
  action_id : String
  target : Json
  status : ResultStatus
  successful : Bool
  started_at : String
  finished_at : String
  cached : Bool
  effects : List String
  rollback : Rollback
  error_code : Option String
  message : String
deriving DecidableEq

/-- The dictionary of a result. -/
def ActionResult.toJson (r : ActionResult) : JsonObject :=
  [("schema_version", .str "1.0.0"), ("record_type", .str "result"),
    ("request_id", .str r.request_id), ("idempotency_key", .str r.idempotency_key),
    ("exercise_id", .str r.exercise_id), ("run_id", .str r.run_id),
    ("action_id", .str r.action_id), ("target", r.target), ("status", .str r.status.value),
    ("successful", .bool r.successful), ("started_at", .str r.started_at),
    ("finished_at", .str r.finished_at), ("cached", .bool r.cached),
    ("effects", Json.strs r.effects), ("rollback", r.rollback.toJson),
    ("error_code", nullable r.error_code), ("message", .str r.message)]

/-- What the schema asks of a result, field by field. -/
structure ActionResult.WellFormed (formats : FormatChecker) (r : ActionResult) : Prop where
  request_id : (ActionSchema.uuid formats).valid (.str r.request_id) = true
  idempotency_key : ActionSchema.identifier.valid (.str r.idempotency_key) = true
  exercise_id : ActionSchema.identifier.valid (.str r.exercise_id) = true
  run_id : ActionSchema.identifier.valid (.str r.run_id) = true
  action_id : (patternString eventNamePattern).valid (.str r.action_id) = true
  target : ActionSchema.entity.valid r.target = true
  started_at : (EventSchema.utcDateTime formats).valid (.str r.started_at) = true
  finished_at : (EventSchema.utcDateTime formats).valid (.str r.finished_at) = true
  effects : r.effects.Nodup
  method : ∀ method, r.rollback.method = some method → method ≠ ""
  token : ∀ token, r.rollback.token = some token → token ≠ ""
  message : 1 ≤ r.message.length ∧ r.message.length ≤ 1024

theorem valid_nonempty (s : String) :
    ActionSchema.nonempty.valid (.str s) = true ↔ s ≠ "" := by
  simp [ActionSchema.nonempty, JsonType.admits, Nat.one_le_iff_ne_zero]

/-- A rollback record is valid when its method and token are not empty strings. -/
theorem rollback_valid (r : Rollback) :
    ActionSchema.rollback.valid r.toJson = true ↔
      (∀ method, r.method = some method → method ≠ "") ∧
        ∀ token, r.token = some token → token ≠ "" := by
  unfold ActionSchema.rollback Rollback.toJson
  rw [Schema.valid_closedObject]
  cases hm : r.method <;> cases ht : r.token <;>
    simp [optionalMember, List.lookup_cons, JsonType.admits, valid_nonempty]

theorem effects_valid (effects : List String) :
    (Schema.allOf [.type [.array], .items (.type [.string]), .uniqueItems]).valid
      (Json.strs effects) = true ↔ effects.Nodup := by
  rw [Schema.valid_stringSet]
  simp [JsonType.admits]

theorem error_code_valid (error_code : Option String) :
    (Schema.type [.string, .null]).valid (nullable error_code) = true := by
  cases error_code <;> rfl

theorem status_valid (status : ResultStatus) :
    (Schema.enum (ActionSchema.resultStatuses.map .str)).valid (.str status.value) = true := by
  cases status <;> decide

theorem bool_valid (b : Bool) : (Schema.type [.boolean]).valid (.bool b) = true := rfl

/-- A result is no request: its record type is another. -/
theorem request_invalid_result (formats : FormatChecker) (r : ActionResult) :
    (ActionSchema.request formats).valid (.obj r.toJson) = false := by
  rw [Bool.eq_false_iff]
  intro h
  obtain ⟨j, hj, hvalid⟩ := Schema.required_of_closedObject h
    (show "record_type" ∈ ActionSchema.requestNames by decide)
    (show ("record_type", Schema.const (.str "request")) ∈ _ by simp)
  simp [ActionResult.toJson, List.lookup_cons] at hj
  subst hj
  simp at hvalid

/-- The schema accepts a result exactly when every field is well formed. -/
theorem actionSchema_valid_iff (formats : FormatChecker) (r : ActionResult) :
    (actionSchema formats).valid (.obj r.toJson) = true ↔ r.WellFormed formats := by
  have hversion : (patternString schemaVersionPattern).valid (.str "1.0.0") = true := by decide
  have htype : (Schema.const (.str "result")).valid (.str "result") = true := by decide
  unfold actionSchema
  rw [Schema.valid_oneOf_pair, request_invalid_result, Bool.false_xor]
  unfold ActionSchema.result
  rw [Schema.valid_closedObject]
  constructor
  · rintro ⟨-, -, h⟩
    simp [ActionResult.toJson, ActionSchema.sharedProperties, List.lookup_cons, effects_valid,
      rollback_valid, Schema.valid_text, -Schema.valid_allOf, -Schema.valid_type,
      -Schema.valid_const, -Schema.valid_enum] at h
    obtain ⟨-, h1, h2, h3, h4, h5, h6, -, -, -, h7, h8, -, h9, h10, -, h11⟩ := h
    exact ⟨h1, h2, h3, h4, h5, h6, h7, h8, h9, h10.1, h10.2, h11⟩
  · intro h
    refine ⟨?_, ?_, ?_⟩
    · simp [ActionResult.toJson, ActionSchema.sharedProperties]
    · simp [ActionResult.toJson, ActionSchema.resultNames, List.lookup_cons]
    · simp [ActionResult.toJson, ActionSchema.sharedProperties, List.lookup_cons,
        hversion, htype, h.request_id, h.idempotency_key, h.exercise_id, h.run_id, h.action_id,
        h.target, status_valid, bool_valid, h.started_at, h.finished_at, effects_valid, h.effects,
        rollback_valid, error_code_valid, Schema.valid_text, h.message, -Schema.valid_allOf,
        -Schema.valid_type, -Schema.valid_const, -Schema.valid_enum]
      exact ⟨h.method, h.token⟩

/-- The validator accepts a result exactly when every field is well formed. -/
theorem validate_result_iff (formats : FormatChecker) (r : ActionResult) :
    ActionValidator.validate formats r.toJson = .ok () ↔ r.WellFormed formats := by
  have hversion : supportedVersion (r.toJson.lookup "schema_version") = true := by
    show decide ("1.".toList <+: "1.0.0".toList) = true
    decide
  unfold ActionValidator.validate
  rw [if_pos hversion, ← actionSchema_valid_iff]
  split_ifs with h
  · exact ⟨fun _ => h, fun _ => rfl⟩
  · exact ⟨fun h' => (by cases h'), fun h' => absurd h' h⟩

/-- A refused record raises an `ActionValidationError`. -/
theorem validate_error {formats : FormatChecker} {record : JsonObject} {e : Exn}
    (h : ActionValidator.validate formats record = .error e) : e.type = .ActionValidationError := by
  unfold ActionValidator.validate at h
  split at h
  · split at h
    · cases h
    · cases h
      rfl
  · cases h
    rfl

end NetStrike.Shared
