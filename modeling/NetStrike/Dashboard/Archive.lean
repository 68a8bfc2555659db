import NetStrike.Foundation.PythonEquality
import NetStrike.Orchestrator.Aar

/-!
# Review archives

`dashboard/archive.py`: what makes a bundle and its audit event an archive, and the metadata that is
derived from them. A snapshot is read back by deriving the metadata again.

`datetime.fromisoformat` is a parameter.
-/

set_option autoImplicit false

namespace NetStrike.Dashboard

open NetStrike.Foundation NetStrike.Foundation.Checked NetStrike.Shared NetStrike.Orchestrator
open NetStrike.Orchestrator.Aar

namespace Archive

/-! ## Vocabulary -/

/-- `MAX_BYTES`. -/
def maxBytes : Nat := 20 * 1024 * 1024

/-- `BOUNDARY`. -/
def boundary : String := "terminal_review_snapshot_before_archive_audit"

/-- `REASONS`. -/
inductive CaptureReason where
  | staff_capture
  | application_reset
deriving DecidableEq

/-- The word for a reason. -/
def CaptureReason.name : CaptureReason → String
  | staff_capture => "staff_capture"
  | application_reset => "application_reset"

/-- `REASONS`. -/
def reasons : List CaptureReason := [.staff_capture, .application_reset]

/-- `ROLES`. -/
inductive CaptureRole where
  | evaluator
  | facilitator
  | technical_operator
  | system
deriving DecidableEq

/-- The word for a role. -/
def CaptureRole.name : CaptureRole → String
  | evaluator => "evaluator"
  | facilitator => "facilitator"
  | technical_operator => "technical_operator"
  | system => "system"

/-- `ROLES`. -/
def roles : List CaptureRole := [.evaluator, .facilitator, .technical_operator, .system]

/-- The roles that may capture for a reason. -/
def CaptureReason.roles : CaptureReason → List CaptureRole
  | staff_capture => [.evaluator, .facilitator]
  | application_reset => [.facilitator, .technical_operator, .system]

/-- The message where the role may not. -/
def CaptureReason.refusal : CaptureReason → String
  | staff_capture => "review archive capture requires a review role"
  | application_reset => "review archive reset capture requires a control role"

/-- The text of a UUID of version 4. -/
def uuid4Pattern : Pattern :=
  let hex := Pattern.cls fun c => isDigit c || ('a' ≤ c && c ≤ 'f')
  .seq (.times hex 8) (.seq (.char '-') (.seq (.times hex 4) (.seq (.lit "-4") (.seq (.times hex 3)
    (.seq (.char '-') (.seq (.cls (oneOfChars "89ab")) (.seq (.times hex 3)
      (.seq (.char '-') (.times hex 12)))))))))

/-- `archive_id`: only the canonical text of a UUID of version 4. -/
def archiveId (value : String) : Except Exn String :=
  if uuid4Pattern.accepts value then .ok value else .error (invalid "invalid review archive id")

/-- The result of `metadata`; its fixed members are left out. -/
structure Metadata where
  archive_id : String
  captured_at : String
  capture_reason : CaptureReason
  actor_id : String
  role : CaptureRole
  exercise_id : String
  run_id : String
  scenario_id : String
  run_state : FrozenState
  bundle_sha256 : String
  event_count : Nat
  submission_count : Nat
  last_sequence : Json
  review_status : ReviewStatus
  reviewed_objectives : Nat
  audit_event_id : String

/-- The metadata as a dictionary. -/
def Metadata.toJson (m : Metadata) : Json :=
  .obj
    [("archive_id", .str m.archive_id),
     ("archive_version", .str version),
     ("captured_at", .str m.captured_at),
     ("capture_reason", .str m.capture_reason.name),
     ("capture_boundary", .str boundary),
     ("captured_by", .obj [("actor_id", .str m.actor_id), ("role", .str m.role.name)]),
     ("exercise_id", .str m.exercise_id),
     ("run_id", .str m.run_id),
     ("scenario_id", .str m.scenario_id),
     ("run_state", .str m.run_state.name),
     ("bundle_sha256", .str m.bundle_sha256),
     ("event_count", .int m.event_count),
     ("submission_count", .int m.submission_count),
     ("last_sequence", m.last_sequence),
     ("review_status", .str m.review_status.name),
     ("reviewed_objectives", .int m.reviewed_objectives),
     ("audit_event_id", .str m.audit_event_id)]

/-- `expected_data`. -/
def Metadata.expectedData (m : Metadata) : Json :=
  .obj
    [("archive_id", .str m.archive_id),
     ("bundle_sha256", .str m.bundle_sha256),
     ("last_sequence", m.last_sequence),
     ("capture_reason", .str m.capture_reason.name)]

/-- What the code takes from outside. -/
structure Env extends Aar.Env where
  /-- `datetime.fromisoformat`. -/
  fromisoformat : String → Option DateTime

/-- `event["sequence"]` as a number. -/
def sequenceNumber (event : Json) : Option Rat := (event.get? "sequence").bind Json.numeric?

/-- The items of `bundle[key]`. -/
def itemsOf (bundle : Json) (key : String) : List Json :=
  match bundle.get? key with
  | some (.arr items) => items
  | _ => []

/-- `bundle["events"][-1]["sequence"]`, or 0. -/
def lastSequence (events : List Json) : Json :=
  (events.getLast?.bind fun event => event.get? "sequence").getD (.int 0)

/-- `value[key]`, of a dictionary. -/
def member (value : Json) (key : String) : Except Exn Json :=
  given (.of .KeyError ("'" ++ key ++ "'")) (value.get? key)

/-- A value that is looked for in a set. -/
def hashable : Json → Except Exn Unit
  | .arr _ => .error (.of .TypeError "unhashable type: 'list'")
  | .obj _ => .error (.of .TypeError "unhashable type: 'dict'")
  | _ => .ok ()

/-- The audit belongs to the bundle. -/
structure Correlated (bundle audit : Json) (m : Metadata) : Prop where
  actor : 1 ≤ m.actor_id.length ∧ m.actor_id.length ≤ 256
  event_type : eventText audit "event_type" = "evaluation.archive.created"
  action : eventText audit "action" = "evaluation.archive.capture"
  target : ((audit.get? "target").getD .null).str? "type" = some "review_archive"
  exercise_id : eventText audit "exercise_id" = m.exercise_id
  run_id : eventText audit "run_id" = m.run_id
  sequence : sequenceNumber audit = m.last_sequence.numeric?.map (· + 1)
  visibility : eventText audit "visibility" = "evaluator"
  outcome : ((audit.get? "outcome").getD .null).str? "status" = some "success"
  data : (dataOf audit).same m.expectedData = true
  fresh : ∀ item ∈ itemsOf bundle "events", eventId item ≠ m.audit_event_id

theorem correlated_iff (bundle audit : Json) (m : Metadata) : Correlated bundle audit m ↔
    (1 ≤ m.actor_id.length ∧ m.actor_id.length ≤ 256) ∧
      eventText audit "event_type" = "evaluation.archive.created" ∧
      eventText audit "action" = "evaluation.archive.capture" ∧
      ((audit.get? "target").getD .null).str? "type" = some "review_archive" ∧
      eventText audit "exercise_id" = m.exercise_id ∧
      eventText audit "run_id" = m.run_id ∧
      sequenceNumber audit = m.last_sequence.numeric?.map (· + 1) ∧
      eventText audit "visibility" = "evaluator" ∧
      ((audit.get? "outcome").getD .null).str? "status" = some "success" ∧
      (dataOf audit).same m.expectedData = true ∧
      ∀ item ∈ itemsOf bundle "events", eventId item ≠ m.audit_event_id :=
  ⟨fun h => ⟨h.actor, h.event_type, h.action, h.target, h.exercise_id, h.run_id, h.sequence,
      h.visibility, h.outcome, h.data, h.fresh⟩,
    fun ⟨h₁, h₂, h₃, h₄, h₅, h₆, h₇, h₈, h₉, h₁₀, h₁₁⟩ =>
      ⟨h₁, h₂, h₃, h₄, h₅, h₆, h₇, h₈, h₉, h₁₀, h₁₁⟩⟩

instance (bundle audit : Json) (m : Metadata) : Decidable (Correlated bundle audit m) :=
  decidable_of_iff _ (correlated_iff bundle audit m).symm

/-! ## Archives -/

namespace Env

variable (env : Env)

/-- `encode_bundle`. The text is ASCII, so its bytes are its characters. -/
def encodeBundle (bundle : Json) : Except Exn (List Char) := do
  let report ← env.buildReport bundle
  let events := itemsOf bundle "events"
  require (events.map sequenceNumber =
      (List.range events.length).map fun i => some ((i + 1 : Nat) : Rat))
    (invalid "review archive requires a complete event prefix")
  require (report.run_state = .stopped ∨ report.run_state = .completed)
    (invalid "review archive requires stopped or completed play")
  require ((redactSensitive bundle).same bundle = true)
    (invalid "review archive contains unredacted sensitive fields")
  let encoded := bundle.dumpChars env.ft.repr
  require (encoded.length ≤ maxBytes) (invalid "review archive exceeds the offline review limit")
  return encoded

/-- The metadata of a report with an audit event, before its checks. -/
def gather (report : Report) (bundle audit : Json) (archive_id : String)
    (capture_reason : CaptureReason) (role : CaptureRole) : Metadata where
  archive_id := archive_id
  captured_at := eventText audit "timestamp"
  capture_reason := capture_reason
  actor_id := ((actorOf audit).str? "id").getD ""
  role := role
  exercise_id := report.exercise_id
  run_id := report.run_id
  scenario_id := report.scenario_id
  run_state := report.run_state
  bundle_sha256 := report.bundle_sha256
  event_count := (itemsOf bundle "events").length
  submission_count := (itemsOf bundle "submissions").length
  last_sequence := lastSequence (itemsOf bundle "events")
  review_status := report.status
  reviewed_objectives := report.reviewed_objectives
  audit_event_id := eventId audit

/-- `metadata`. -/
def metadata (bundle audit : Json) : Except Exn Metadata := do
  let _ ← env.encodeBundle bundle
  EventValidator.validate env.formats audit
  let report ← env.buildReport bundle
  let target ← given (.of .TypeError "'NoneType' object is not subscriptable")
    (((audit.get? "target").getD .null).str? "id")
  let archive_id ← archiveId target
  let reason ← member (dataOf audit) "capture_reason"
  let role ← member (actorOf audit) "role"
  hashable reason
  let refused := invalid "review archive audit correlation is invalid"
  let capture_reason ← given refused (named CaptureReason.name reasons (some reason))
  let role ← given refused (named CaptureRole.name roles (some role))
  let m := gather report bundle audit archive_id capture_reason role
  require (Correlated bundle audit m) refused
  require (role ∈ capture_reason.roles) (invalid capture_reason.refusal)
  let _ ← given (invalid "Invalid isoformat string")
    (env.fromisoformat (m.captured_at.replace "Z" "+00:00"))
  return m

/-- The exceptions that `validate_snapshot` catches. -/
def caught (e : Exn) : Bool :=
  e.type.isA .ValueError || e.type.isA .KeyError || e.type.isA .TypeError ||
    e.type.isA (.other "AttributeError")

/-- `validate_snapshot`. -/
def validateSnapshot (record bundle audit : Json) : Except Exn Report :=
  let body : Except Exn Report := do
    let m ← env.metadata bundle audit
    require (record.same m.toJson = true) (invalid "review archive metadata is inconsistent")
    env.buildReport bundle
  match body with
  | .ok report => .ok report
  | .error e => .error (if caught e then invalid "review archive validation failed" else e)

end Env

end Archive

end NetStrike.Dashboard
