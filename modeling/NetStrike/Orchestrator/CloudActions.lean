import NetStrike.Orchestrator.Stages

/-!
# The mock cloud

`MockCloudState` of `modules/06-cloud-exfil/cloud_actions.py` with the actions on it. Its
dictionaries are lists in insertion order. Every change saves a snapshot under a token that can be
used once.

`SimulatedCloud` is what the handlers of the cloud stage act on: the state of the mock cloud, the
audit and the flags of the stage. Its `journal` is a ghost field: every body that ran, with the
state before and after it and the code of its refusal.
-/

set_option autoImplicit false

namespace NetStrike.Orchestrator

open NetStrike.Foundation NetStrike.Shared

/-! ## State -/

namespace MockCloud

/-- `PRINCIPAL_ID`. -/
def principalId : String := "svc-cloud-backup"

/-- `KEY_ID`. -/
def keyId : String := "svc-cloud-backup-key-01"

/-- `BUCKET_ID`. -/
def bucketId : String := "simcorp-customer-exports"

/-- `APPROVED_POLICY_ID`. -/
def approvedPolicyId : String := "simcorp-export-read-v1"

/-- `ALTERED_POLICY_ID`. -/
def alteredPolicyId : String := "simcorp-export-expanded-v1"

/-- An entry of `principals`. -/
structure Principal where
  enabled : Bool
  synthetic : Bool
  kind : String
  roles : List String
deriving DecidableEq

/-- An entry of `keys`. -/
structure Key where
  principal_id : String
  active : Bool
  synthetic : Bool
deriving DecidableEq

/-- An entry of `buckets`. -/
structure Bucket where
  policy_id : String
  policy_hash : String
  approved_policy_hash : String
  bulk_access_allowed : Bool
  record_count : Nat
  synthetic : Bool
deriving DecidableEq

/-- An entry of `exposure`. -/
structure Exposure where
  accessed_record_ids : List String
  confirmed_count : Nat
  last_outcome : String
deriving DecidableEq

/-- An entry of `objects`. -/
structure Object where
  bucket_id : String
  size_bytes : Nat
  synthetic : Bool
deriving DecidableEq

/-- The sections of a snapshot but the preserved evidence. -/
structure Sections where
  principals : List (String × Principal)
  keys : List (String × Key)
  buckets : List (String × Bucket)
  exposure : List (String × Exposure)
  objects : List (String × Object)
deriving DecidableEq

/-- `{"state": snapshot, "audit": audit}`. -/
structure PreservedEvidence where
  state : Sections
  audit : List Event
deriving DecidableEq

/-- `snapshot`. -/
structure Snapshot where
  sections : Sections
  preserved_evidence : Option PreservedEvidence
deriving DecidableEq

end MockCloud

open MockCloud

/-- `MockCloudState`. -/
structure MockCloudState extends Sections where
  preserved_evidence : Option PreservedEvidence
  rollbacks : List (String × Snapshot)
  rollback_sequence : Nat
deriving DecidableEq

namespace MockCloudState

/-- The id of a synthetic record. -/
def recordId (index : Nat) : String :=
  "synthetic-record-" ++ String.ofList (List.replicate (3 - (toString index).length) '0') ++
    toString index

/-- `objects` of the baseline. -/
def baselineObjects : List (String × Object) :=
  (List.range 25).map fun i => (recordId (i + 1), ⟨bucketId, 200, true⟩)

/-- `baseline`. -/
def baseline (sha256 : String → String) : MockCloudState where
  principals := [(principalId, ⟨true, true, "service", ["simcorp-export-reader"]⟩)]
  keys := [(keyId, ⟨principalId, true, true⟩)]
  buckets := [(bucketId, ⟨approvedPolicyId, sha256 approvedPolicyId, sha256 approvedPolicyId, false,
    25, true⟩)]
  exposure := [(bucketId, ⟨[], 0, "none"⟩)]
  objects := baselineObjects
  preserved_evidence := none
  rollbacks := []
  rollback_sequence := 0

/-- Update the entry under a key. -/
def modifyEntry {α : Type} (key : String) (f : α → α) (entries : List (String × α)) :
    List (String × α) :=
  entries.map fun entry => if entry.1 = key then (entry.1, f entry.2) else entry

/-- `snapshot`. -/
def snapshot (s : MockCloudState) : Snapshot := ⟨s.toSections, s.preserved_evidence⟩

/-- The next token. -/
def token (s : MockCloudState) : String := s!"cloud-rb-{s.rollback_sequence + 1}"

/-- `_capture`. -/
def capture (s : MockCloudState) : String × MockCloudState :=
  (s.token, { s with
    rollbacks := setEntry s.token s.snapshot s.rollbacks
    rollback_sequence := s.rollback_sequence + 1 })

/-- `revoke_key`. -/
def revokeKey (key_id : String) (s : MockCloudState) : String × MockCloudState :=
  let (token, s) := s.capture
  (token, { s with keys := modifyEntry key_id (fun key => { key with active := false }) s.keys })

/-- `disable_principal`. -/
def disablePrincipal (principal_id : String) (s : MockCloudState) : String × MockCloudState :=
  let (token, s) := s.capture
  (token, { s with
    principals :=
      modifyEntry principal_id (fun principal => { principal with enabled := false }) s.principals
    keys := s.keys.map fun entry =>
      if entry.2.principal_id = principal_id then (entry.1, { entry.2 with active := false })
      else entry })

/-- `restore_policy`. -/
def restorePolicy (bucket_id : String) (s : MockCloudState) : String × MockCloudState :=
  let (token, s) := s.capture
  (token, { s with
    buckets := modifyEntry bucket_id (fun bucket => { bucket with
      policy_id := approvedPolicyId
      policy_hash := bucket.approved_policy_hash
      bulk_access_allowed := false }) s.buckets })

/-- `access_decision`. -/
def accessDecision (principal_id key_id bucket_id : String) (bulk : Bool) (s : MockCloudState) :
    Bool × String :=
  let reason :=
    match s.principals.lookup principal_id, s.keys.lookup key_id, s.buckets.lookup bucket_id with
    | none, _, _ => "principal_unknown"
    | _, none, _ => "key_unknown"
    | _, _, none => "bucket_unknown"
    | some principal, some key, some bucket =>
        if principal.enabled = false then "principal_disabled"
        else if key.principal_id ≠ principal_id then "key_principal_mismatch"
        else if key.active = false then "key_revoked"
        else if bulk = true ∧ bucket.bulk_access_allowed = false then "policy_denied"
        else "allowed"
  (reason == "allowed", reason)

/-- `reset_to_baseline`. -/
def resetToBaseline (sha256 : String → String) (s : MockCloudState) : String × MockCloudState :=
  let (token, s) := s.capture
  (token, { baseline sha256 with
    rollbacks := s.rollbacks
    rollback_sequence := s.rollback_sequence })

/-- `preserve_evidence`. -/
def preserveEvidence (audit : List Event) (s : MockCloudState) : String × MockCloudState :=
  let (token, s) := s.capture
  (token, match s.preserved_evidence with
    | none => { s with preserved_evidence := some ⟨s.toSections, audit⟩ }
    | some _ => s)

/-- `readiness_mismatches`. -/
def readinessMismatches (sha256 : String → String) (s : MockCloudState) : List String :=
  [("principals", decide (s.principals = (baseline sha256).principals)),
    ("keys", decide (s.keys = (baseline sha256).keys)),
    ("buckets", decide (s.buckets = (baseline sha256).buckets)),
    ("exposure", decide (s.exposure = (baseline sha256).exposure)),
    ("objects", decide (s.objects = (baseline sha256).objects)),
    ("preserved_evidence", decide (s.preserved_evidence = none))].filterMap fun entry =>
      if entry.2 then none else some entry.1

/-- `rollback` after its checkpoint. -/
def rollback (token : String) : Py MockCloudState (List String) := do
  let found ← Raising.gets fun s => s.rollbacks.lookup token
  match found with
  | none => Raising.raise ⟨.ActionExecutionError, "Unknown or already-used rollback token",
      some "invalid_rollback"⟩
  | some saved =>
      Raising.modify fun s => { s with
        toSections := saved.sections
        preserved_evidence := saved.preserved_evidence
        rollbacks := popEntry token s.rollbacks }
      return ["restored pre-action mock-cloud state"]

/-- `exposure[BUCKET_ID]`; the entry is never removed. -/
def exposed (s : MockCloudState) : Exposure := (s.exposure.lookup bucketId).getD ⟨[], 0, "none"⟩

/-- `buckets[BUCKET_ID]`; the entry is never removed. -/
def bucket (s : MockCloudState) : Bucket :=
  (s.buckets.lookup bucketId).getD ⟨"", "", "", false, 0, true⟩

/-- `keys[KEY_ID]`; the entry is never removed. -/
def key (s : MockCloudState) : Key := (s.keys.lookup keyId).getD ⟨"", false, true⟩

/-- `principals[PRINCIPAL_ID]`; the entry is never removed. -/
def principal (s : MockCloudState) : Principal :=
  (s.principals.lookup principalId).getD ⟨false, true, "", []⟩

/-- Replace `exposure[BUCKET_ID]`. -/
def setExposed (f : Exposure → Exposure) (s : MockCloudState) : MockCloudState :=
  { s with exposure := modifyEntry bucketId f s.exposure }

end MockCloudState

/-! ## Bodies of actions -/

/-- A body that ran: the state of the mock cloud before and after, and the code of its refusal. -/
structure CloudEntry where
  action_id : String
  before : MockCloudState
  after : MockCloudState
  refusal : Option String
deriving DecidableEq

/-- What a step of the stage saves. -/
structure StageSnapshot where
  snapshot : Snapshot
  access_staged : Bool
  policy_attempted : Bool
deriving DecidableEq

/-- What the handlers of the cloud stage act on. -/
structure SimulatedCloud where
  state : MockCloudState
  audit : List Event
  access_staged : Bool
  policy_attempted : Bool
  rollbacks : List (String × StageSnapshot)
  rollback_sequence : Nat
  journal : List CloudEntry
deriving DecidableEq

namespace SimulatedCloud

/-- The code of a raised `ActionExecutionError`. -/
def refusalOf : Except Exn ActionEffect → Option String
  | .ok _ => none
  | .error e => some (e.code.getD e.type.name)

/-- Run the body of an action and write it down. -/
def logged (action_id : String) (body : Py SimulatedCloud ActionEffect) :
    Py SimulatedCloud ActionEffect := fun s =>
  ((body s).1, { (body s).2 with
    journal := (body s).2.journal ++
      [⟨action_id, s.state, (body s).2.state, refusalOf (body s).1⟩] })

/-- A body that changes the state of the mock cloud and returns its token. -/
def changing (effects : JsonObject → List String)
    (change : JsonObject → SimulatedCloud → String × MockCloudState)
    (_parameters target : JsonObject) : Py SimulatedCloud ActionEffect := do
  let token ← Raising.step fun s =>
    ((change target s).1, { s with state := (change target s).2 })
  return ⟨effects target, some token, []⟩

/-- `preserve`. -/
def preserve : JsonObject → JsonObject → Py SimulatedCloud ActionEffect :=
  changing (fun _ => ["preserved immutable mock-cloud evidence snapshot"])
    fun _ s => s.state.preserveEvidence s.audit

/-- `revoke`. -/
def revoke : JsonObject → JsonObject → Py SimulatedCloud ActionEffect :=
  changing (fun target => ["revoked mock-cloud key " ++ target.text "id"])
    fun target s => s.state.revokeKey (target.text "id")

/-- `disable`. -/
def disable : JsonObject → JsonObject → Py SimulatedCloud ActionEffect :=
  changing (fun target => ["disabled mock-cloud principal " ++ target.text "id"])
    fun target s => s.state.disablePrincipal (target.text "id")

/-- `restore`. -/
def restore : JsonObject → JsonObject → Py SimulatedCloud ActionEffect :=
  changing (fun target => ["restored approved policy for " ++ target.text "id"])
    fun target s => s.state.restorePolicy (target.text "id")

/-- `reset`. -/
def reset (sha256 : String → String) : JsonObject → JsonObject → Py SimulatedCloud ActionEffect :=
  changing (fun _ => ["restored approved mock-cloud baseline"])
    fun _ s => s.state.resetToBaseline sha256

/-- `state.rollback`. -/
def rollback (token : String) : Py SimulatedCloud (List String) :=
  Raising.focus SimulatedCloud.state (fun state s => { s with state := state })
    (MockCloudState.rollback token)

/-- An `ActionExecutionError`. -/
def executionError (code message : String) : Exn := ⟨.ActionExecutionError, message, some code⟩

/-- `readiness`. -/
def readiness (sha256 : String → String) (_parameters _target : JsonObject) :
    Py SimulatedCloud ActionEffect := do
  let mismatches ← Raising.gets fun s => s.state.readinessMismatches sha256
  Raising.require (fun _ => mismatches = []) fun _ => executionError "baseline_mismatch"
    ("Mock-cloud baseline differs in: " ++ ", ".intercalate mismatches)
  return ⟨["validated approved mock-cloud baseline"], none, []⟩

end SimulatedCloud

/-! ## Registration -/

/-- `_no_parameters`. -/
def noParameters {W : Type} (message : String) (parameters : JsonObject) :
    Callback W (Except Exn Unit) :=
  .finish (if parameters = [] then .ok () else .error (.of .ValueError message))

section Register

variable {W : Type} (monotonic : W → Rat × W)

/-- A registration of the first loop of `register_cloud_actions`. -/
def containmentAction (action_id target rollback_method : String)
    (body : JsonObject → JsonObject → Py SimulatedCloud ActionEffect)
    (method_given : rollback_method ≠ "") : ActionDefinition W SimulatedCloud where
  action_id := action_id
  phase := "cloud"
  allowed_roles := ["cloud_responder", "facilitator"]
  allowed_targets := [target]
  allowed_run_states := ["running"]
  max_timeout_seconds := 20
  expected_effects := [action_id]
  rollback_method := rollback_method
  handler := simulationHandler monotonic fun parameters target =>
    SimulatedCloud.logged action_id (body parameters target)
  rollback_handler := simulationRollback monotonic SimulatedCloud.rollback
  parameter_validator := some (noParameters "this action accepts no parameters")
  roles_given := two_given _ _
  targets_given := one_given _
  effects_given := one_given _
  method_given := method_given
  timeout_positive := twenty_positive

/-- A registration of the second loop. -/
def controlAction (action_id phase run_id effect : String) (states : List String)
    (body : JsonObject → JsonObject → Py SimulatedCloud ActionEffect) :
    ActionDefinition W SimulatedCloud where
  action_id := action_id
  phase := phase
  allowed_roles := ["technical_operator", "facilitator"]
  allowed_targets := ["exercise_run:" ++ run_id]
  allowed_run_states := states
  max_timeout_seconds := 30
  expected_effects := [effect]
  rollback_method := "restore captured pre-action state"
  handler := simulationHandler monotonic fun parameters target =>
    SimulatedCloud.logged action_id (body parameters target)
  rollback_handler := simulationRollback monotonic SimulatedCloud.rollback
  parameter_validator := some (noParameters "this action accepts no parameters")
  roles_given := two_given _ _
  targets_given := one_given _
  effects_given := one_given _
  method_given := restore_method_given
  timeout_positive := thirty_positive

/-- The registry that `register_cloud_actions` fills. -/
def cloudRegistry (sha256 : String → String) (run_id : String) :
    ActionRegistry W SimulatedCloud where
  definitions :=
    [containmentAction monotonic "cloud.evidence.preserve" ("cloud_bucket:" ++ bucketId)
      "restore prior evidence preservation state" SimulatedCloud.preserve (by decide),
    containmentAction monotonic "cloud.key.revoke" ("cloud_key:" ++ keyId)
      "restore prior mock key state" SimulatedCloud.revoke (by decide),
    containmentAction monotonic "cloud.principal.disable" ("cloud_principal:" ++ principalId)
      "restore principal and owned key states" SimulatedCloud.disable (by decide),
    containmentAction monotonic "cloud.policy.restore" ("cloud_bucket:" ++ bucketId)
      "restore prior mock bucket policy" SimulatedCloud.restore (by decide),
    controlAction monotonic "exercise.cloud.reset" "post_exercise" run_id
      "restore approved mock-cloud baseline" ["stopped", "resetting"] (SimulatedCloud.reset sha256),
    controlAction monotonic "exercise.cloud.readiness.validate" "setup" run_id
      "validate approved mock-cloud baseline" ["setup", "stopped", "resetting", "ready"]
      (SimulatedCloud.readiness sha256)]
  ids_unique := by
    show List.Nodup ["cloud.evidence.preserve", "cloud.key.revoke", "cloud.principal.disable",
      "cloud.policy.restore", "exercise.cloud.reset", "exercise.cloud.readiness.validate"]
    decide

end Register

end NetStrike.Orchestrator
