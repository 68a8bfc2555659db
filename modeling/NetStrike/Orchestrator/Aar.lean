import NetStrike.Foundation.Checked
import NetStrike.Foundation.PythonText
import NetStrike.Orchestrator.SupportIndex
import NetStrike.Shared.EventLedger

/-!
# The after-action review

`orchestrator/aar.py`: the validation of a frozen bundle and the report that is built from it. A
validator returns what it has read; the rating, the objective and the reasons of a judgment are typed
from there on, and a `Judgment` carries that its revision counts the earlier ones.

The criteria of the rubrics are texts that nothing here reads and are left out. `sha256` is a
parameter.
-/

set_option autoImplicit false

namespace NetStrike.Orchestrator

open NetStrike.Foundation NetStrike.Foundation.Checked NetStrike.Shared

namespace Aar

/-! ## Vocabulary -/

/-- `VERSION`. -/
def version : String := "1.0.0"

/-- `RATINGS`. -/
inductive Rating where
  | performed
  | performed_with_support
  | partially_performed
  | not_performed
  | not_observed
deriving DecidableEq

/-- The word for a rating. -/
def Rating.name : Rating → String
  | performed => "performed"
  | performed_with_support => "performed_with_support"
  | partially_performed => "partially_performed"
  | not_performed => "not_performed"
  | not_observed => "not_observed"

/-- `RATINGS`. -/
def ratings : List Rating :=
  [.performed, .performed_with_support, .partially_performed, .not_performed, .not_observed]

/-- The learning objectives. -/
inductive Objective where
  | LO1
  | LO2
  | LO3
  | LO4
  | LO5
deriving DecidableEq

/-- The identifier of an objective. -/
def Objective.id : Objective → String
  | LO1 => "LO1"
  | LO2 => "LO2"
  | LO3 => "LO3"
  | LO4 => "LO4"
  | LO5 => "LO5"

/-- The title in `OBJECTIVES`. -/
def Objective.title : Objective → String
  | LO1 => "Triage the identity incident"
  | LO2 => "Reconstruct the intrusion"
  | LO3 => "Contain identity and endpoint access"
  | LO4 => "Determine and contain cloud data exposure"
  | LO5 => "Recover and communicate"

/-- The keys of `OBJECTIVES`. -/
def objectives : List Objective := [.LO1, .LO2, .LO3, .LO4, .LO5]

/-- The checkpoints of `CHECKPOINT_RUBRICS`. -/
def checkpointIds : List String := ["DP1", "DP2", "DP3", "DP4"]

/-- `JUDGMENT_FIELDS`. -/
def judgmentFields : List String :=
  ["objective_id", "rating", "rationale", "evidence_ids", "expected_revision", "override_reason",
    "platform_reason", "improvement_actions"]

/-- `ACTION_FIELDS`. -/
def actionFields : List String := ["description", "owner", "priority", "target_date"]

/-- The states of a run that a bundle may name. -/
inductive FrozenState where
  | idle
  | ready
  | running
  | paused
  | stopped
  | completed
deriving DecidableEq

/-- The word for a state. -/
def FrozenState.name : FrozenState → String
  | idle => "idle"
  | ready => "ready"
  | running => "running"
  | paused => "paused"
  | stopped => "stopped"
  | completed => "completed"

/-- All states. -/
def frozenStates : List FrozenState := [.idle, .ready, .running, .paused, .stopped, .completed]

/-- A `ValueError`. -/
def invalid (message : String) : Exn := .of .ValueError message

/-- The value that a required string has among the named ones. -/
def named {α : Type} (name : α → String) (values : List α) (value : Option Json) : Option α :=
  match value with
  | some (.str s) => values.find? fun a => name a = s
  | _ => none

/-- The value, or an error. -/
def given {α : Type} (e : Exn) : Option α → Except Exn α
  | some a => .ok a
  | none => .error e

/-- `_text`. -/
def text (value : Option Json) (name : String) (maximum : Nat) : Except Exn String :=
  match value with
  | some (.str s) =>
      if ¬ Blank s ∧ s.length ≤ maximum then .ok s else .error (invalid s!"invalid {name}")
  | _ => .error (invalid s!"invalid {name}")

/-! ## Events -/

/-- `event["data"]`. -/
def dataOf (event : Json) : Json := (event.get? "data").getD .null

/-- `event["actor"]`. -/
def actorOf (event : Json) : Json := (event.get? "actor").getD .null

/-- `(event.get("target") or {}).get("id")`. -/
def targetId (event : Json) : Option Json := (event.get? "target").bind fun t => t.get? "id"

/-- `event["event_type"]`. -/
def eventType (event : Json) : String := eventText event "event_type"

/-- `event["event_id"]`. -/
def eventId (event : Json) : String := eventText event "event_id"

/-- A list of strings, or the empty one. -/
def stringList (value : Option Json) : List String :=
  (value.bind Support.stringItems).getD []

/-- A valid event as the support index reads it. -/
def supportEvent (event : Json) : Event where
  schema_version := eventText event "schema_version"
  event_id := eventId event
  timestamp := eventText event "timestamp"
  exercise_id := eventText event "exercise_id"
  run_id := eventText event "run_id"
  sequence := sequenceOf event
  event_type := eventType event
  phase := eventText event "phase"
  source := (event.get? "source").getD .null
  actor := actorOf event
  action := eventText event "action"
  target := (event.get? "target").getD .null
  outcome := (event.get? "outcome").getD .null
  severity := eventText event "severity"
  visibility := eventText event "visibility"
  safety := (event.get? "safety").getD .null
  provenance := (event.get? "provenance").getD .null
  message := eventText event "message"
  objective_ids := stringList (event.get? "objective_ids")
  checkpoint_id := event.str? "checkpoint_id"
  correlation_ids := stringList (event.get? "correlation_ids")
  raw_data_ref := event.str? "raw_data_ref"
  data := dataOf event
  extensions := (event.get? "extensions").getD .null
  attack := event.get? "attack"

/-! ## Observations -/

/-- The outcome of a machine observation. -/
inductive Status where
  | human_review_required
  | not_observed
  | met
  | not_met
deriving DecidableEq

/-- The word for a status. -/
def Status.name : Status → String
  | human_review_required => "human_review_required"
  | not_observed => "not_observed"
  | met => "met"
  | not_met => "not_met"

/-- The result of `objective_observation`. -/
structure Observation where
  status : Status
  event_ids : List String
  checks : Option Json
  explanation : String

/-- The last lines of `objective_observation`: the result must be a Boolean. -/
def concluded (event : Json) : Option Json → Except Exn Observation
  | some (.bool passed) => .ok {
      status := if passed then .met else .not_met
      event_ids := [eventId event]
      checks := some ((((dataOf event).get? "checks").or
        ((dataOf event).get? "verifier_checks")).getD (.obj []))
      explanation := "Machine-verifiable subset only; human criteria still require review." }
  | _ => .error (invalid "invalid frozen observation")

/-- The result of a checkpoint. -/
def checkpointPassed (event : Json) : Except Exn Bool :=
  match (dataOf event).get? "result" with
  | some (.str result) =>
      if result = "pass" then .ok true
      else if result = "miss" then .ok false
      else .error (invalid "invalid checkpoint result")
  | some (.arr _) => .error (.of .TypeError "unhashable type: 'list'")
  | some (.obj _) => .error (.of .TypeError "unhashable type: 'dict'")
  | _ => .error (invalid "invalid checkpoint result")

/-- `inject_times`. -/
def injectTimes (events : List Json) : Except Exn (List Int) :=
  (events.filter fun item => eventType item = "scenario.item.delivered" ∧
      (dataOf item).str? "item_kind" = some "inject").mapM fun item =>
    given (invalid "invalid inject elapsed time")
      (((dataOf item).get? "elapsed_seconds").bind Json.plainInt?)

/-- Whether the identity checkpoint was resolved in time, where both times are known. -/
def inTime (events : List Json) (event : Json) : Except Exn (Option Bool) := do
  let times ← injectTimes events
  match times.min?, ((dataOf event).get? "elapsed_seconds").bind Json.int? with
  | some first, some elapsed => return some (decide (elapsed ≤ first + 1500))
  | _, _ => return none

/-- `event["data"].get("reason", "").startswith(…)`. -/
def stateMissing (event : Json) : Except Exn Bool :=
  match (dataOf event).get? "reason" with
  | none => .ok false
  | some (.str reason) => .ok ("Verifier state is missing".toList.isPrefixOf reason.toList)
  | some _ => .error (.of (.other "AttributeError") "no attribute 'startswith'")

/-- The end of the checkpoint branch. -/
def finished (event : Json) (passed : Bool) : Except Exn Observation := do
  if ← stateMissing event then
    return ⟨.not_observed, [eventId event], none,
      "Verifier state missing; platform review required."⟩
  concluded event (some (.bool passed))

/-- The branch of the objectives that a checkpoint verifies. -/
def checkpointObservation (events : List Json) (checkpoint : String) (timed : Bool) :
    Except Exn Observation :=
  match events.filter fun event => eventType event = "scenario.checkpoint.resolved" ∧
      targetId event = some (.str checkpoint) with
  | [] => .ok ⟨.not_observed, [], none, "Checkpoint observation unavailable."⟩
  | [event] => do
      let passed ← checkpointPassed event
      if timed then
        match ← inTime events event with
        | none =>
            return ⟨.not_observed, [eventId event], none, "Identity timing telemetry unavailable."⟩
        | some timely => finished event (passed && timely)
      else finished event passed
  | _ => .error (invalid "duplicate checkpoint resolution")

/-- `objective_observation`, for a known objective. -/
def objectiveObservation (events : List Json) : Objective → Except Exn Observation
  | .LO1 => checkpointObservation events "DP1" true
  | .LO2 => .ok ⟨.human_review_required, [], none,
      "No automatic timeline-quality verifier exists; review learner artifacts."⟩
  | .LO3 => checkpointObservation events "DP2" false
  | .LO4 => checkpointObservation events "DP3" false
  | .LO5 =>
      match (events.filter fun event => eventType event = "recovery.review.completed").getLast? with
      | none => .ok ⟨.not_observed, [], none, "Final recovery observation unavailable."⟩
      | some event => concluded event ((dataOf event).get? "passed")

/-! ## Judgments -/

/-- A corrective action. -/
structure ImprovementAction where
  description : String
  owner : String
  priority : String
  target_date : String
deriving DecidableEq

/-- The fields of a judgment that an evaluator gives. -/
structure Payload where
  objective : Objective
  rating : Rating
  rationale : String
  evidence_ids : List String
  expected_revision : Int
  override_reason : String
  platform_reason : String
  improvement_actions : List ImprovementAction

/-- A persisted judgment with its event; the revision is the number after the expected one. -/
structure Judgment extends Payload where
  revision : Json
  event_id : String
  evaluator_id : String
  timestamp : String
  counted : revision.numeric? = some ((expected_revision + 1 : Int) : Rat)

/-- A string of bounded length, possibly empty. -/
def reason (payload : Json) (field : String) : Except Exn String :=
  match payload.get? field with
  | some (.str s) => if s.length ≤ 2048 then .ok s else .error (invalid s!"invalid {field}")
  | _ => .error (invalid s!"invalid {field}")

/-- The references that a judgment may cite. -/
def evidence (payload : Json) (references : List String) : Except Exn (List String) := do
  let refused := invalid "evidence references must be unique current-run event or submission IDs"
  let ids ← given refused ((payload.get? "evidence_ids").bind Support.stringItems)
  require (ids.length ≤ 20 ∧ ids.Nodup ∧ ∀ id ∈ ids, id ∈ references) refused
  return ids

/-- One turn of the loop over the actions. -/
def improvementAction (action : Json) : Except Exn ImprovementAction := do
  require (Support.HasFields action actionFields) (invalid "invalid improvement action fields")
  let description ← text (action.get? "description") "description" 512
  let owner ← text (action.get? "owner") "owner" 512
  let priority ← text (action.get? "priority") "priority" 512
  let target_date ← text (action.get? "target_date") "target_date" 512
  require (priority ∈ ["high", "medium", "low"]) (invalid "invalid improvement priority")
  return ⟨description, owner, priority, target_date⟩

/-- The actions of a judgment. -/
def improvementActions (payload : Json) : Except Exn (List ImprovementAction) :=
  match payload.get? "improvement_actions" with
  | some (.arr actions) => do
      require (actions.length ≤ 5) (invalid "invalid improvement actions")
      actions.mapM improvementAction
  | _ => .error (invalid "invalid improvement actions")

/-- `override_reason` must be explained in these cases. -/
def NeedsReason (rating : Rating) (previous : Option Judgment) (observation : Observation) : Prop :=
  ((rating = .performed ∨ rating = .performed_with_support) ∧ observation.status = .not_met) ∨
    (observation.status = .not_observed ∧ rating ≠ .not_observed) ∨ previous.isSome = true

instance (rating : Rating) (previous : Option Judgment) (observation : Observation) :
    Decidable (NeedsReason rating previous observation) :=
  inferInstanceAs (Decidable (_ ∨ _))

/-- The number that an expected revision must equal. -/
def lastRevision (previous : Option Judgment) : Option Rat :=
  match previous with
  | some judgment => judgment.revision.numeric?
  | none => some 0

/-- `validate_judgment`. -/
def validateJudgment (payload : Json) (references : List String) (previous : Option Judgment)
    (observation : Observation) : Except Exn Payload := do
  require (Support.HasFields payload judgmentFields) (invalid "invalid evaluator judgment fields")
  let objective ← given (invalid "invalid objective or rating")
    (named Objective.id objectives (payload.get? "objective_id"))
  let rating ← given (invalid "invalid objective or rating")
    (named Rating.name ratings (payload.get? "rating"))
  let rationale ← text (payload.get? "rationale") "rationale" 2048
  let revision ← given (invalid "invalid expected revision")
    ((payload.get? "expected_revision").bind Json.plainInt?)
  require (0 ≤ revision) (invalid "invalid expected revision")
  require (some (revision : Rat) = lastRevision previous)
    (invalid "judgment revision conflict; refresh before submitting")
  let evidence ← evidence payload references
  let override_reason ← reason payload "override_reason"
  let platform_reason ← reason payload "platform_reason"
  if rating = .not_observed then
    let _ ← text (some (.str platform_reason)) "platform/exercise-control reason" 2048
  else require (evidence ≠ []) (invalid "observed ratings require cited evidence")
  if NeedsReason rating previous observation then
    let _ ← text (some (.str override_reason)) "override/revision reason" 2048
  let actions ← improvementActions payload
  return ⟨objective, rating, rationale, evidence, revision, override_reason, platform_reason,
    actions⟩

/-- The variables of the loop of `_validate_judgments`, with the judgments read so far. -/
structure Replay where
  judged : List Judgment
  earlier_ids : List String

/-- The last judgment of an objective. -/
def Replay.previous (replay : Replay) (objective : Objective) : Option Judgment :=
  (replay.judged.filter fun j => j.objective = objective).getLast?

/-- `{field: data.get(field) for field in JUDGMENT_FIELDS}`. -/
def payloadOf (data : Json) : Json :=
  .obj (judgmentFields.map fun field => (field, (data.get? field).getD .null))

/-- The branch of a judged event. -/
def judge (events : List Json) (replay : Replay) (event : Json) : Except Exn Judgment := do
  let data := dataOf event
  require ((actorOf event).str? "role" ∈ [some "evaluator", some "facilitator"] ∧
      (actorOf event).str? "type" = some "facilitator" ∧
      eventText event "visibility" = "evaluator")
    (invalid "objective judgment must be attributable to an evaluator")
  require (Support.HasFields data (judgmentFields ++ ["revision", "supersedes_event_id"]))
    (invalid "invalid persisted judgment fields")
  require (event.get? "objective_ids" = some (.arr [(data.get? "objective_id").getD .null]) ∧
      targetId event = data.get? "objective_id")
    (invalid "judgment objective binding mismatch")
  let objective ← given (invalid "unknown learning objective")
    (named Objective.id objectives (data.get? "objective_id"))
  let previous := replay.previous objective
  let observation ← objectiveObservation events objective
  let payload ← validateJudgment (payloadOf data) replay.earlier_ids previous observation
  let revision := (data.get? "revision").getD .null
  if counted : revision.numeric? = some ((payload.expected_revision + 1 : Int) : Rat) then
    require ((data.get? "supersedes_event_id").getD .null =
        nullable (previous.map Judgment.event_id))
      (invalid "invalid judgment supersession")
    return {
      payload with
      revision := revision
      event_id := eventId event
      evaluator_id := ((actorOf event).str? "id").getD ""
      timestamp := eventText event "timestamp"
      counted := counted }
  else throw (invalid "invalid judgment revision")

/-- One turn of the loop of `_validate_judgments`. -/
def replayEvent (events : List Json) (replay : Replay) (event : Json) : Except Exn Replay :=
  if eventType event = "evaluation.objective.judged" then do
    let judgment ← judge events replay event
    return ⟨replay.judged ++ [judgment], eventId event :: replay.earlier_ids⟩
  else .ok { replay with earlier_ids := eventId event :: replay.earlier_ids }

/-- `_validate_judgments`, with the judgments that it has read. -/
def validateJudgments (events : List Json) (references : List String) :
    Except Exn (List Judgment) := do
  let start := references.filter fun r => "submission:".toList.isPrefixOf r.toList
  let replay ← events.foldlM (replayEvent events) ⟨[], start⟩
  return replay.judged

/-! ## Bundles -/

/-- What the modelled code takes from outside. -/
structure Env where
  formats : FormatChecker
  ft : FloatText
  /-- `str.isprintable` of one character outside ASCII. -/
  printable : Char → Bool
  /-- `hashlib.sha256(text.encode("utf-8")).hexdigest()`. -/
  sha256 : List Char → String

/-- A validated bundle. -/
structure Bundle where
  exercise_id : String
  run_id : String
  scenario_id : String
  run_state : FrozenState
  checkpoint_ids : List String
  events : List Json
  submissions : List Json
  content_sha256 : String
  judged : List Judgment

/-- The fields of a bundle. -/
def bundleFields : List String :=
  ["bundle_version", "rubric_version", "exercise_id", "run_id", "scenario_id", "run_state",
    "checkpoint_ids", "events", "submissions", "content_sha256"]

/-- The fields of a submission. -/
def submissionFields : List String :=
  ["submission_id", "actor_id", "submission_type", "submitted_at", "payload", "result"]

/-- The bundle without its digest. -/
def unsigned : Json → Json
  | .obj members => .obj (members.filter fun m => m.1 ≠ "content_sha256")
  | j => j

/-- `isinstance(value, dict)`. -/
def IsDict (value : Option Json) : Prop := value.any (JsonType.object.admits ·) = true

instance (value : Option Json) : Decidable (IsDict value) := inferInstanceAs (Decidable (_ = _))

/-- One turn of the loop of `_submission_references`. -/
def referenceSubmission (reference_ids : List String) (submission : Json) :
    Except Exn (List String) := do
  require (Support.HasFields submission submissionFields) (invalid "invalid submission record")
  let identifier ← given (invalid "invalid submission id")
    ((submission.get? "submission_id").bind Json.plainInt?)
  require (1 ≤ identifier) (invalid "invalid submission id")
  let reference := s!"submission:{identifier}"
  require (reference ∉ reference_ids) (invalid "duplicate submission id")
  let _ ← text (submission.get? "actor_id") "actor_id" 256
  let _ ← text (submission.get? "submission_type") "submission_type" 256
  let _ ← text (submission.get? "submitted_at") "submitted_at" 256
  require (IsDict (submission.get? "payload") ∧ IsDict (submission.get? "result"))
    (invalid "invalid submission payload")
  return reference :: reference_ids

/-- `_submission_references`, with the submissions. -/
def submissionReferences (submissions : Option Json) (event_ids : List String) :
    Except Exn (List Json × List String) :=
  match submissions with
  | some (.arr submissions) => do
      require (submissions.length ≤ 10000) (invalid "invalid submission ledger size")
      let references ← submissions.foldlM referenceSubmission event_ids
      return (submissions, references)
  | _ => .error (invalid "invalid submission ledger size")

/-- The checkpoints of a bundle. -/
def checkpointScope (value : Option Json) : Except Exn (List String) := do
  let ids ← given (invalid "invalid checkpoint scope") (value.bind Support.stringItems)
  require (ids.Nodup ∧ ∀ id ∈ ids, id ∈ checkpointIds) (invalid "invalid checkpoint scope")
  return ids

namespace Env

variable (env : Env)

/-- `_digest`: the encoder refuses an integer of more than 4300 digits. -/
def digest (payload : Json) : Except Exn String := do
  require (payload.short = true)
    (invalid "Exceeds the limit (4300 digits) for integer string conversion")
  return env.sha256 (payload.dumpChars env.ft.repr)

/-- One turn of the loop of `_event_references`. -/
def referenceEvent (exercise_id run_id : String) (seen : List String × Int) (event : Json) :
    Except Exn (List String × Int) := do
  require (IsDict (some event)) (invalid "invalid canonical event")
  EventValidator.validate env.formats event
  require (eventText event "exercise_id" = exercise_id ∧ eventText event "run_id" = run_id ∧
      seen.2 < sequenceOf event ∧ eventId event ∉ seen.1)
    (invalid "AAR requires unique, ordered events from one run")
  return (eventId event :: seen.1, sequenceOf event)

/-- `_event_references`, with the events. -/
def eventReferences (events : Option Json) (exercise_id run_id : String) :
    Except Exn (List Json × List String) :=
  match events with
  | some (.arr events) => do
      require (events.length ≤ 100000) (invalid "invalid event ledger size")
      let seen ← events.foldlM (env.referenceEvent exercise_id run_id) ([], 0)
      return (events, seen.1)
  | _ => .error (invalid "invalid event ledger size")

/-- `validate_bundle`. -/
def validateBundle (bundle : Json) : Except Exn Bundle := do
  require (Support.HasFields bundle bundleFields) (invalid "invalid AAR bundle fields")
  require (bundle.str? "bundle_version" = some version ∧
      bundle.str? "rubric_version" = some version)
    (invalid "unsupported AAR bundle or rubric version")
  let exercise_id ← text (bundle.get? "exercise_id") "exercise_id" 128
  let run_id ← text (bundle.get? "run_id") "run_id" 128
  let scenario_id ← text (bundle.get? "scenario_id") "scenario_id" 128
  let run_state ← given (invalid "invalid run state")
    (named FrozenState.name frozenStates (bundle.get? "run_state"))
  let checkpoint_ids ← checkpointScope (bundle.get? "checkpoint_ids")
  let content_sha256 ← env.digest (unsigned bundle)
  require (bundle.str? "content_sha256" = some content_sha256)
    (invalid "AAR bundle integrity check failed")
  let (events, event_ids) ← env.eventReferences (bundle.get? "events") exercise_id run_id
  let (submissions, references) ← submissionReferences (bundle.get? "submissions") event_ids
  let _ ← Support.supportIndex (events.map supportEvent)
  let judged ← validateJudgments events references
  return ⟨exercise_id, run_id, scenario_id, run_state, checkpoint_ids, events, submissions,
    content_sha256, judged⟩

end Env

/-! ## Reports -/

/-- An objective in a report. -/
structure ObjectiveReview where
  objective : Objective
  observation : Observation
  history : List Judgment

/-- `item["judgment"]`: the last one of the history. -/
def ObjectiveReview.judgment (item : ObjectiveReview) : Option Judgment := item.history.getLast?

/-- An item of `checkpoint_path`. -/
structure CheckpointVisit where
  checkpoint_id : Json
  result : Json
  event_id : String
  elapsed_seconds : Json
  verifier_checks : Json

/-- An item of `timeline`. -/
structure TimelineEntry where
  event_id : String
  sequence : Json
  timestamp : String
  event_type : String
  actor_id : String
  message : String
  elapsed_seconds : Json

/-- `status`. -/
inductive ReviewStatus where
  | reviewed
  | provisional
deriving DecidableEq

/-- The word for a status. -/
def ReviewStatus.name : ReviewStatus → String
  | reviewed => "reviewed"
  | provisional => "provisional"

/-- `scope_note`. -/
def scopeNote : String :=
  "Local synthetic observations; not confirmation of Cyber Range or Splunk acceptance."

/-- `aggregate_note`. -/
def aggregateNote : String :=
  "Charter dimension weights retained; no numeric grade until criterion weights and evaluator calibration are approved."

/-- `support_note`. -/
def supportNote : String :=
  "Human assistance labels are evidence, not automatic objective ratings."

/-- A report; its fixed members are left out. -/
structure Report where
  exercise_id : String
  run_id : String
  scenario_id : String
  run_state : FrozenState
  bundle_sha256 : String
  status : ReviewStatus
  reviewed_objectives : Nat
  objectives : List ObjectiveReview
  in_scenario : List (String × Bool)
  checkpoint_path : List CheckpointVisit
  timeline : List TimelineEntry
  submissions : List Json
  support_requests : List Support.Record
  platform_observations : List (Objective × String)
  improvement_actions : List (Objective × ImprovementAction)

/-- An objective of a report. -/
def review (bundle : Bundle) (objective : Objective) : Except Exn ObjectiveReview := do
  let observation ← objectiveObservation bundle.events objective
  return ⟨objective, observation, bundle.judged.filter fun j => j.objective = objective⟩

/-- An item of `checkpoint_path`; the result is required. -/
def checkpointVisit (event : Json) : Except Exn CheckpointVisit := do
  let result ← given (.of .KeyError "'result'") ((dataOf event).get? "result")
  return ⟨(targetId event).getD .null, result, eventId event,
    ((dataOf event).get? "elapsed_seconds").getD .null,
    ((dataOf event).get? "verifier_checks").getD (.obj [])⟩

/-- An item of `timeline`. -/
def timelineEntry (event : Json) : TimelineEntry where
  event_id := eventId event
  sequence := (event.get? "sequence").getD .null
  timestamp := eventText event "timestamp"
  event_type := eventType event
  actor_id := ((actorOf event).str? "id").getD ""
  message := eventText event "message"
  elapsed_seconds := ((dataOf event).get? "elapsed_seconds").getD .null

/-- The report of a validated bundle. -/
def reportOf (bundle : Bundle) : Except Exn Report := do
  let items ← objectives.mapM (review bundle)
  let path ← (bundle.events.filter fun event =>
    eventType event = "scenario.checkpoint.resolved").mapM checkpointVisit
  let requests ← Support.supportIndex (bundle.events.map supportEvent)
  let reviewed := items.countP fun item => item.judgment.isSome
  return {
    exercise_id := bundle.exercise_id
    run_id := bundle.run_id
    scenario_id := bundle.scenario_id
    run_state := bundle.run_state
    bundle_sha256 := bundle.content_sha256
    status :=
      if reviewed = 5 ∧ (bundle.run_state = .stopped ∨ bundle.run_state = .completed) then .reviewed
      else .provisional
    reviewed_objectives := reviewed
    objectives := items
    in_scenario := checkpointIds.map fun id => (id, decide (id ∈ bundle.checkpoint_ids))
    checkpoint_path := path
    timeline := bundle.events.map timelineEntry
    submissions := bundle.submissions
    support_requests := requests
    platform_observations := items.filterMap fun item =>
      (item.judgment.filter fun j => j.rating = .not_observed).map fun j =>
        (item.objective, j.platform_reason)
    improvement_actions := items.flatMap fun item =>
      match item.judgment with
      | some judgment => judgment.improvement_actions.map fun action => (item.objective, action)
      | none => [] }

/-- `build_report`. -/
def Env.buildReport (env : Env) (bundle : Json) : Except Exn Report := do
  let validated ← env.validateBundle bundle
  reportOf validated

end Aar

end NetStrike.Orchestrator
