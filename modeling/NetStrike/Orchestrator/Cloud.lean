import NetStrike.Orchestrator.Checkpoints
import NetStrike.Orchestrator.CloudActions

/-!
# The cloud stage

`CloudStage` of `orchestrator/cloud.py`. The state of the stage holds its two adapters; the world
and the simulation of an adapter are those of the run and of the stage, which `onAdapter` and
`onAutomation` give to it for the time of a call. A `CloudRun` is a controller with the stage in its
world.
-/

set_option autoImplicit false

namespace NetStrike.Orchestrator

open NetStrike.Foundation NetStrike.Shared MockCloud

/-! ## Steps -/

/-- The keys of `STEPS`. -/
inductive CloudStep where
  | stage
  | expand
  | verify
  | attempt
deriving DecidableEq

namespace CloudStep

/-- The steps in the order of `STEPS`. -/
def all : List CloudStep := [.stage, .expand, .verify, .attempt]

/-- The action id of the step. -/
def actionId : CloudStep → String
  | .stage => "cloud.access.stage"
  | .expand => "cloud.policy.expand"
  | .verify => "cloud.bulk.verify"
  | .attempt => "cloud.bulk.attempt"

/-- `STEPS[action_id]`. -/
def itemId : CloudStep → String
  | .stage => "ACT-05"
  | .expand => "ACT-06"
  | .verify => "ACT-07A"
  | .attempt => "ACT-07B"

/-- `action_id.startswith("cloud.bulk.")`. -/
def bulk (step : CloudStep) : Bool := step = .verify || step = .attempt

/-- The step with the given action id. -/
def ofActionId (action_id : String) : Option CloudStep := byValue actionId all action_id

end CloudStep

namespace SimulatedCloud

/-- `_decision`. -/
def decision (bulk : Bool) (s : SimulatedCloud) : Bool × String :=
  s.state.accessDecision principalId keyId bucketId bulk

/-- `_capture`. -/
def captureStage (s : SimulatedCloud) : String × SimulatedCloud :=
  let token := s!"cloud-stage-rb-{s.rollback_sequence + 1}"
  (token, { s with
    rollbacks := setEntry token ⟨s.state.snapshot, s.access_staged, s.policy_attempted⟩ s.rollbacks
    rollback_sequence := s.rollback_sequence + 1 })

/-- `_rollback` after its checkpoint. -/
def rollbackStage (token : String) : Py SimulatedCloud (List String) := do
  let found ← Raising.gets fun s => s.rollbacks.lookup token
  match found with
  | none => Raising.raise (executionError "invalid_rollback" "Unknown transition snapshot")
  | some saved =>
      Raising.modify fun s => { s with
        state := { s.state with
          toSections := saved.snapshot.sections
          preserved_evidence := saved.snapshot.preserved_evidence }
        access_staged := saved.access_staged
        policy_attempted := saved.policy_attempted
        rollbacks := popEntry token s.rollbacks }
      return ["restored exact mock-cloud transition state"]

/-- `sorted(self.state.objects)[:count]`. -/
def firstRecords (count : Nat) (s : MockCloudState) : List String :=
  ((s.objects.map Prod.fst).insertionSort (· ≤ ·)).take count

/-- `_read_records`. -/
def readRecords (count : Nat) (s : SimulatedCloud) : SimulatedCloud :=
  { s with state := s.state.setExposed fun exposure => { exposure with
      accessed_record_ids := firstRecords count s.state
      confirmed_count := (firstRecords count s.state).length
      last_outcome := if count = 25 then "full_exposure" else "sample_access" } }

/-- What the policy step changes when it is allowed. -/
def expandPolicy (sha256 : String → String) (s : SimulatedCloud) : SimulatedCloud :=
  readRecords 5 { s with state := { s.state with
    buckets := MockCloudState.modifyEntry bucketId (fun bucket => { bucket with
      policy_id := alteredPolicyId
      policy_hash := sha256 alteredPolicyId
      bulk_access_allowed := true }) s.state.buckets } }

/-- What a bulk step changes when it is blocked. -/
def blockBulk (s : SimulatedCloud) : SimulatedCloud :=
  { s with state := s.state.setExposed fun exposure =>
      { exposure with last_outcome := "bulk_blocked" } }

/-- The result of DP3 that a bulk step needs. -/
def expected (step : CloudStep) : CheckpointOutcome := if step = .verify then .pass else .miss

/-- The part of `_transition` after the checks. -/
def performStep (sha256 : String → String) (step : CloudStep) : Py SimulatedCloud Unit := do
  let allowed ← Raising.gets fun s => (s.decision false).1
  match step with
  | .stage =>
      Raising.modify fun s => { s with access_staged := true }
      if allowed then Raising.modify (readRecords 1) else pure ()
  | .expand =>
      Raising.modify fun s => { s with policy_attempted := true }
      if allowed then Raising.modify (expandPolicy sha256) else pure ()
  | _ =>
      let allowed ← Raising.gets fun s => (s.decision true).1
      Raising.require (fun _ => ¬ (step = .verify ∧ allowed = true)) fun _ =>
        executionError "containment_mismatch" "Bulk request is unexpectedly allowed"
      if allowed then Raising.modify (readRecords 25)
      else Raising.modify blockBulk

/-- `_transition`. -/
def transition (sha256 : String → String) (checkpoint_results : String → Option CheckpointOutcome)
    (step : CloudStep) : Py SimulatedCloud ActionEffect := do
  Raising.require (fun s => step = .stage ∨ s.access_staged = true) fun _ =>
    executionError "cloud_not_staged" "Cloud access must be staged first"
  Raising.require (fun s => step.bulk = true → s.policy_attempted = true) fun _ =>
    executionError "policy_not_attempted" "Policy step must precede bulk attempt"
  Raising.require (fun _ => step.bulk = true → checkpoint_results "DP3" = some (expected step))
    fun _ => executionError "branch_not_verified" "Resolve DP3 before its branch"
  let token ← Raising.step captureStage
  performStep sha256 step
  return ⟨["completed reviewed mock step " ++ step.actionId], some token, []⟩

end SimulatedCloud

/-! ## The stage -/

/-- `assessment`. -/
structure CloudAssessment where
  principal_id : String
  confirmed_count : Int
  conclusion : String
  evidence_ids : List String
deriving DecidableEq

/-- The state of a `CloudStage`. -/
structure CloudStage (O : Type) where
  run_id : String
  cloud : SimulatedCloud
  assessment : Option CloudAssessment
  emitted : List String
  events : EventBuilder
  adapter : SafeActionAdapter O SimulatedCloud
  automation_adapter : SafeActionAdapter O SimulatedCloud

/-- A run without its cloud stage. -/
abbrev CloudSurroundings (O : Type) := Surroundings (CloudStage O) O

/-- The cloud stage in its surroundings. -/
abbrev CloudWorld (O : Type) := CloudStage O × O

namespace CloudStage

variable {O : Type} (env : CloudSurroundings O)

/-- The definition of a step in the automation registry. -/
def automationAction (checkpoint_results : String → Option CheckpointOutcome) (step : CloudStep) :
    ActionDefinition O SimulatedCloud where
  action_id := step.actionId
  phase := "cloud"
  allowed_roles := ["scenario_engine"]
  allowed_targets := ["msel_item:" ++ step.itemId]
  allowed_run_states := if step.bulk then ["running", "paused"] else ["running"]
  max_timeout_seconds := 20
  expected_effects := [step.actionId]
  rollback_method := "restore exact mock-cloud transition state"
  handler := simulationHandler env.monotonic fun _ _ =>
    SimulatedCloud.logged step.actionId
      (SimulatedCloud.transition env.sha256 checkpoint_results step)
  rollback_handler := simulationRollback env.monotonic SimulatedCloud.rollbackStage
  parameter_validator := some (noParameters "mock-cloud transitions accept no parameters")
  roles_given := one_given _
  targets_given := one_given _
  effects_given := one_given _
  method_given := by decide
  timeout_positive := twenty_positive

/-- The automation registry. -/
def automationRegistry (checkpoint_results : String → Option CheckpointOutcome) :
    ActionRegistry O SimulatedCloud where
  definitions := CloudStep.all.map (automationAction env checkpoint_results)
  ids_unique := by
    show List.Nodup ["cloud.access.stage", "cloud.policy.expand", "cloud.bulk.verify",
      "cloud.bulk.attempt"]
    decide

/-- The participants' adapter. -/
def actions (run_id : String) (view : ControllerView) : Adapter O SimulatedCloud :=
  env.adapter "mock-cloud-action-adapter" run_id
    (cloudRegistry env.monotonic env.sha256 run_id) view

/-- The adapter of the scenario engine. -/
def automation (run_id : String) (view : ControllerView) : Adapter O SimulatedCloud :=
  env.adapter "mock-cloud-automation" run_id (automationRegistry env view.checkpoint_results) view

/-- `CloudStage.__init__`. -/
def init (run_id : String) (view : ControllerView) (w : O) : CloudStage O where
  run_id := run_id
  cloud := ⟨MockCloudState.baseline env.sha256, [], false, false, [], 0, []⟩
  assessment := none
  emitted := []
  events := ⟨⟨env.definition.exercise_id, run_id, "module", "mock-cloud-simulator", "1.0.0", none⟩,
    0⟩
  adapter := (actions env run_id view).init w
    ⟨MockCloudState.baseline env.sha256, [], false, false, [], 0, []⟩
  automation_adapter := (automation env run_id view).init w
    ⟨MockCloudState.baseline env.sha256, [], false, false, [], 0, []⟩

/-- Run a call on the participants' adapter. -/
def onAdapter {α : Type} (m : Py (SafeActionAdapter O SimulatedCloud) α) : Py (CloudWorld O) α :=
  Raising.focus (fun w => { w.1.adapter with world := w.2, simulation := w.1.cloud })
    (fun a w => ({ w.1 with adapter := a, cloud := a.simulation }, a.world)) m

/-- Run a call on the adapter of the scenario engine. -/
def onAutomation {α : Type} (m : Py (SafeActionAdapter O SimulatedCloud) α) : Py (CloudWorld O) α :=
  Raising.focus (fun w => { w.1.automation_adapter with world := w.2, simulation := w.1.cloud })
    (fun a w => ({ w.1 with automation_adapter := a, cloud := a.simulation }, a.world)) m

/-! ## Evidence -/

/-- The arguments that `_emit` gives to the builder. -/
def emitCall (event_type operation message : String) (allowed : Bool) (data : JsonObject) :
    EventCall where
  event_type := event_type
  phase := "cloud"
  actor := entity "cloud_principal" principalId none none
  action := operation
  target := some (entity "cloud_bucket" bucketId none none)
  outcome_status := if allowed then "success" else "blocked"
  message := message
  visibility := "participant"
  dry_run := false
  safety_controls := ["synthetic-data", "local-mock", "allowlisted-target"]
  objective_ids := ["LO3"]
  correlation_ids := [principalId, keyId, bucketId]
  data := some (Controller.mergeMembers
    [("host", .str "CLOUD01"), ("principal_id", .str principalId), ("key_id", .str keyId),
      ("bucket_id", .str bucketId), ("source_ip", .str "203.0.113.77"), ("synthetic", .bool true),
      ("external_transfer_observed", .bool false)] data)

/-- Append an event to the audit. -/
def appendAudit (event : Event) (w : CloudWorld O) : CloudWorld O :=
  ({ w.1 with cloud := { w.1.cloud with audit := w.1.cloud.audit ++ [event] } }, w.2)

/-- `_emit`. -/
def emit (event_type operation message : String) (allowed : Bool) (data : JsonObject) :
    Py (CloudWorld O) Unit := do
  let event ← Raising.focus (fun w : CloudWorld O => (w.1.events, w.2))
    (fun s w => ({ w.1 with events := s.1 }, s.2))
    (EventBuilder.build env.formats env.sources
      (emitCall event_type operation message allowed data))
  let accepted ← Raising.step (aside (env.event_sink event))
  Raising.ofExcept accepted
  Raising.modify (appendAudit event)

/-- The events of `_evidence` about the step itself. -/
def stepEvidence (step : CloudStep) : Py (CloudWorld O) Unit := do
  let cloud ← Raising.gets fun w : CloudWorld O => w.1.cloud
  match step with
  | .stage => do
      let (allowed, reason) := cloud.decision false
      emit env
        (if allowed then "cloud.authentication.succeeded" else "cloud.authentication.blocked")
        "cloud.authenticate" "Mock service-key authentication evaluated" allowed
        [("reason", .str reason)]
      if allowed then
        emit env "cloud.bucket.enumerated" "cloud.bucket.list"
          "Mock storage enumeration completed" true [("buckets", Json.strs [bucketId])]
      else pure ()
  | .expand =>
      let (allowed, reason) := cloud.decision false
      let bucket := cloud.state.bucket
      emit env (if allowed then "cloud.policy.changed" else "cloud.policy.change_blocked")
        "cloud.policy.change" "Mock bucket policy change evaluated" allowed
        [("reason", .str reason), ("old_policy_id", .str approvedPolicyId),
          ("new_policy_id", .str bucket.policy_id), ("policy_hash", .str bucket.policy_hash),
          ("approved_policy_hash", .str bucket.approved_policy_hash)]
  | _ => do
      let (allowed, reason) := cloud.decision true
      emit env (if allowed then "cloud.bulk_access.completed" else "cloud.bulk_access.blocked")
        "cloud.object.bulk_read" "Mock bulk retrieval evaluated against current controls" allowed
        [("reason", .str reason), ("confirmed_count", .int cloud.state.exposed.confirmed_count)]
      if allowed then
        emit env "cloud.extortion.claimed" "cloud.extortion.claim"
          "Synthetic threat message claims theft of the customer export" true
          [("claim_only", .bool true), ("claimed_records", .int 25)]
      else pure ()

/-- `_evidence`. -/
def evidence (step : CloudStep) : Py (CloudWorld O) Unit := do
  let exposure ← Raising.gets fun w : CloudWorld O => w.1.cloud.state.exposed
  stepEvidence env step
  emit env "cloud.object.accessed" "cloud.object.review"
    "Cumulative confirmed synthetic object access" true
    [("record_ids", Json.strs exposure.accessed_record_ids),
      ("confirmed_count", .int exposure.confirmed_count),
      ("bytes", .int (exposure.confirmed_count * 200))]

/-! ## Delivery -/

/-- The request of `_handle_locked` for a step. -/
def stepCall (run_id : String) (step : CloudStep) : ActionCall where
  exercise_id := env.definition.exercise_id
  run_id := run_id
  actor := entity "service_account" "scenario-engine" none (some "scenario_engine")
  action_id := step.actionId
  target := entity "msel_item" step.itemId none none
  idempotency_key := run_id ++ ":" ++ step.itemId
  timeout_seconds := 20
  dry_run := false

/-- Build a request with the clock and the ids of the run. -/
def makeRequest (call : ActionCall) : Py (CloudWorld O) JsonObject :=
  Raising.focus Prod.snd (fun o w => (w.1, o))
    (makeActionRequest env.formats env.sources.clock env.uuid4 call)

/-- The evidence of a step, once. -/
def giveEvidence (step : CloudStep) : Py (CloudWorld O) Unit := do
  let emitted ← Raising.gets fun w : CloudWorld O => w.1.emitted
  if step.itemId ∈ emitted then pure ()
  else do
    evidence env step
    Raising.modify fun w => ({ w.1 with emitted := step.itemId :: w.1.emitted }, w.2)

/-- The end of `_handle_locked`, with the result of the step. -/
def report (step : CloudStep) (result : ActionResult) : Py (CloudWorld O) HandlerReturn := do
  if result.successful then do
    giveEvidence env step
    return .automation ⟨true, "Reviewed mock-cloud operation completed",
      [("action_request_id", .str result.request_id)]⟩
  else
    return .automation ⟨false, result.message,
      [("error_code", match result.error_code with
        | some code => .str code
        | none => .null)]⟩

/-- `_handle_locked` after the correlation check. -/
def runStep (step : CloudStep) (run_id : String) (view : ControllerView) :
    Py (CloudWorld O) HandlerReturn := do
  let request ← makeRequest env (stepCall env run_id step)
  let result ← onAutomation ((automation env run_id view).execute request)
  report env step result

/-- The step of an item that `STEPS` names. -/
def stepOf (item : ScenarioItem) : Option CloudStep :=
  (item.action_id.bind CloudStep.ofActionId).filter fun step => step.itemId = item.item_id

/-- `_handle_locked`. -/
def handle (item : ScenarioItem) (run_id : String) (view : ControllerView) :
    Py (CloudWorld O) HandlerReturn := do
  let own ← Raising.gets fun w : CloudWorld O => w.1.run_id
  match stepOf item with
  | some step =>
      if run_id = own then runStep env step run_id view
      else return .automation ⟨false, "cloud MSEL/run correlation mismatch", []⟩
  | none => return .automation ⟨false, "cloud MSEL/run correlation mismatch", []⟩

/-- `cloud_enabled`. -/
def enabled : Bool := env.definition.items.any fun item => item.item_id == "ACT-05"

/-- `handlers`, which a run installs when the scenario has a cloud stage. -/
def handlers (action_id : String) :
    Option (ScenarioItem → String → ControllerView → Py (CloudWorld O) HandlerReturn) :=
  if enabled env then (CloudStep.ofActionId action_id).map fun _ => handle env else none

/-! ## Assessment -/

/-- The event ids of the audit. -/
def auditIds (stage : CloudStage O) : List String := stage.cloud.audit.map Event.event_id

/-- An integer from 0 to 25. -/
def countOf : Json → Option Int
  | .int n => if 0 ≤ n ∧ n ≤ 25 then some n else none
  | _ => none

/-- `submit_assessment`. -/
def submitAssessment (view : ControllerView) (principal_id : String) (confirmed_count : Json)
    (conclusion : String) (evidence_ids : List String) : Py (CloudStage O) Unit := do
  Raising.require (fun stage => view.state = .running ∧ stage.cloud.access_staged = true) fun _ =>
    .of .ActionContractError "cloud assessment requires an active staged cloud run"
  Raising.require (fun _ => evidence_ids ≠ [] ∧ evidence_ids.Nodup) fun _ =>
    .of .ActionContractError "provide unique cloud audit event references"
  Raising.require (fun stage => evidence_ids.length ≤ 20 ∧ ∀ id ∈ evidence_ids, id ∈ stage.auditIds)
    fun _ => .of .ActionContractError "evidence references must belong to this run's cloud audit"
  let count ← Raising.ofExcept (match countOf confirmed_count with
    | some count => .ok count
    | none => .error (.of .ActionContractError "confirmed_count must be an integer from 0 to 25"))
  Raising.require (fun _ => conclusion ∈
      ["mock_access_only", "external_transfer_proven", "unknown"]) fun _ =>
    .of .ActionContractError "unsupported exposure conclusion"
  Raising.modify fun stage => { stage with
    assessment := some ⟨principal_id, count, conclusion, evidence_ids⟩ }

/-! ## Evaluation -/

/-- An event of the audit that supports the assessed count. -/
def citedBy (assessment : CloudAssessment) (event : Event) : Bool :=
  event.event_type == "cloud.object.accessed" && assessment.evidence_ids.contains event.event_id &&
    event.data.get? "confirmed_count" == some (.int assessment.confirmed_count)

/-- The approved policy is in force. -/
def policyRestored (state : MockCloudState) : Bool :=
  state.bucket.policy_hash == state.bucket.approved_policy_hash &&
    state.bucket.policy_id == approvedPolicyId && state.bucket.bulk_access_allowed == false

/-- The checks of `_evaluate_locked`. -/
def checks (stage : CloudStage O) : List (String × Bool) :=
  [("cloud_steps_observed", stage.cloud.access_staged && stage.cloud.policy_attempted),
    ("principal_identified", stage.assessment.any fun a => a.principal_id == principalId),
    ("key_revoked", stage.cloud.state.key.active == false),
    ("approved_policy_restored", policyRestored stage.cloud.state),
    ("exposure_count_supported", stage.assessment.any fun a =>
      a.confirmed_count == (stage.cloud.state.exposed.confirmed_count : Int)),
    ("transfer_not_overclaimed", stage.assessment.any fun a => a.conclusion == "mock_access_only"),
    ("exposure_evidence_cited", stage.assessment.any fun a => stage.cloud.audit.any (citedBy a))]

/-- `_evaluate_locked`. -/
def evaluate (stage : CloudStage O) : CheckpointEvaluation :=
  let failed := (checks stage).filterMap fun check => if check.2 then none else some check.1
  ⟨(checks stage).all Prod.snd,
    if failed = [] then "Cloud containment and evidenced assessment verified"
    else "Missing cloud checkpoint requirements: " ++ ", ".intercalate failed,
    (stage.assessment.map CloudAssessment.evidence_ids).getD [], checks stage⟩

end CloudStage

/-! ## The run -/

/-- The state of a run with a cloud stage. -/
abbrev CloudRun (O : Type) := ScenarioController (CloudWorld O)

namespace CloudRun

variable {O : Type} (env : CloudSurroundings O)

/-- The controller of the run. -/
def controller : Controller (CloudWorld O) := env.controller (CloudStage.handlers env)

/-- Run a computation on the world of the controller. -/
def onWorld {α : Type} (m : Py (CloudWorld O) α) : Py (CloudRun O) α :=
  Raising.focus ScenarioController.world (fun w c => { c with world := w }) m

/-- `controller.items[item_id].status`. -/
def statusOf (item_id : String) : Py (CloudRun O) ItemStatus := do
  Raising.require (fun _ => ∃ item ∈ env.definition.items, item.item_id = item_id) fun _ =>
    .of .KeyError ("'" ++ item_id ++ "'")
  Raising.gets fun c => (c.items item_id).status

/-- The status that decides whether the branches are pending: that of the second one only where the
first one is. -/
def branchStatus (verify : ItemStatus) : Py (CloudRun O) ItemStatus :=
  if verify = .pending then statusOf env "ACT-07B" else pure verify

/-- `CloudStage.resolve`. -/
def resolve : Py (CloudRun O) CheckpointEvaluation := do
  Raising.require (fun _ => ∃ item ∈ env.definition.items, item.item_id = "DP3") fun _ =>
    Controller.controllerError "selected scenario has no cloud checkpoint"
  Raising.require (fun c => (c.items "DP3").status = .ready) fun _ =>
    Controller.controllerError "DP3 must be due before evaluation"
  Raising.require (fun c => c.world.1.cloud.access_staged = true ∧
      c.world.1.cloud.policy_attempted = true ∧ (c.items "ACT-05").status = .delivered ∧
      (c.items "ACT-06").status = .delivered) fun _ =>
    Controller.controllerError "cloud source steps incomplete; pause and investigate"
  let verify ← statusOf env "ACT-07A"
  let status ← branchStatus env verify
  Raising.require (fun _ => status = .pending) fun _ =>
    Controller.controllerError "cloud branch unavailable; pause and record the deviation"
  let result ← Raising.gets fun c => c.world.1.evaluate
  (controller env).resolveCheckpoint "DP3" result.passed result.evidence_ids result.reason
    (some (.obj (result.checks.map fun check => (check.1, .bool check.2))))
  return result

/-- `CLOUD_ACTIONS`. -/
def cloudActions : List String :=
  ["cloud.key.revoke", "cloud.principal.disable", "cloud.policy.restore", "cloud.evidence.preserve"]

/-- The arguments of the request that `submit_action` makes. -/
def participantCall (run_id : String) (actor target : JsonObject)
    (action_id idempotency_key : String) (parameters : Option JsonObject) (dry_run : Bool) :
    ActionCall where
  exercise_id := env.definition.exercise_id
  run_id := run_id
  actor := actor
  action_id := action_id
  target := target
  idempotency_key := idempotency_key
  parameters := parameters
  dry_run := dry_run
  timeout_seconds := 20

/-- `submit_action` of the run, as far as it is about the cloud stage. -/
def submitAction (actor target : JsonObject) (action_id idempotency_key : String)
    (parameters : Option JsonObject) (dry_run : Bool) : Py (CloudRun O) ActionResult := do
  Raising.require (fun _ => action_id ∈ cloudActions ∧ CloudStage.enabled env = true) fun _ =>
    .of .ActionContractError "action is not available in the identity slice"
  let c ← Raising.gets id
  let request ← onWorld (CloudStage.makeRequest env
    (participantCall env c.run_id actor target action_id idempotency_key parameters dry_run))
  let result ← onWorld (CloudStage.onAdapter
    ((CloudStage.actions env c.world.1.run_id c.view).execute request))
  let advanced ← Raising.step fun c =>
    ((aside (env.mfa_advance c.elapsed_seconds) c.world).1,
      { c with world := (aside (env.mfa_advance c.elapsed_seconds) c.world).2 })
  Raising.ofExcept advanced
  return result

/-- `submit_assessment`. -/
def submitAssessment (principal_id : String) (confirmed_count : Json) (conclusion : String)
    (evidence_ids : List String) : Py (CloudRun O) Unit := do
  let view ← Raising.gets ScenarioController.view
  onWorld (Raising.focus Prod.fst (fun stage w => (stage, w.2))
    (CloudStage.submitAssessment view principal_id confirmed_count conclusion evidence_ids))

/-- The part of `fail_safe_stop` that is about the cloud stage: the stop of its adapters. -/
def stopAdapters (operator : JsonObject) (reason : String) : Py (CloudRun O) Unit := do
  let c ← Raising.gets id
  let actions := CloudStage.actions env c.world.1.run_id c.view
  let automation := CloudStage.automation env c.world.1.run_id c.view
  let _ ← onWorld (Raising.attempt (CloudStage.onAdapter
    (actions.activateFailSafe c.run_id operator reason)))
  let _ ← onWorld (Raising.attempt (CloudStage.onAutomation
    (automation.activateFailSafe c.run_id operator reason)))
  return ()

/-! ## Operations -/

/-- The operations of a run. `elsewhere` is any operation of another part of the run. -/
inductive Operation (O : Type) where
  | control (op : Controller.Operation)
  | submit_action (actor target : JsonObject) (action_id idempotency_key : String)
      (parameters : Option JsonObject) (dry_run : Bool)
  | submit_assessment (principal_id : String) (confirmed_count : Json) (conclusion : String)
      (evidence_ids : List String)
  | resolve
  | stop_adapters (operator : JsonObject) (reason : String)
  | elsewhere (effect : O → O)

/-- The operation belongs to the run in progress: a reset begins another run, and DP3 is resolved
by its own operation only. -/
def Operation.WithinRun : Operation O → Prop
  | .control (.reset _) => False
  | .control (.resolve_checkpoint checkpoint_id _ _ _ _) => checkpoint_id ≠ "DP3"
  | _ => True

/-- The state after an operation, whether it returned or raised. -/
def perform : Operation O → CloudRun O → CloudRun O
  | .control op, c => ((controller env).call op c).2
  | .submit_action actor target action_id idempotency_key parameters dry_run, c =>
      (submitAction env actor target action_id idempotency_key parameters dry_run c).2
  | .submit_assessment principal_id confirmed_count conclusion evidence_ids, c =>
      (submitAssessment principal_id confirmed_count conclusion evidence_ids c).2
  | .resolve, c => (resolve env c).2
  | .stop_adapters operator reason, c => (stopAdapters env operator reason c).2
  | .elsewhere effect, c => { c with world := (c.world.1, effect c.world.2) }

/-- A new run. -/
def init (run_id : String) (w : O) : CloudRun O :=
  let view : ControllerView := ⟨run_id, .ready, 0, fun _ => {}, fun _ => none⟩
  (controller env).init run_id (CloudStage.init env run_id view w, w)

end CloudRun

end NetStrike.Orchestrator
