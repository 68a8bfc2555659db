import NetStrike.Modules.IdentityActions

/-!
# The endpoint and directory state

`EndpointAdState` of `modules/05-lateral-movement/endpoint_actions.py` with the actions on it. Its
dictionaries are lists in insertion order. Every change saves a snapshot under a token that can be
used once.
-/

set_option autoImplicit false

namespace NetStrike.Modules

open NetStrike.Foundation NetStrike.Shared

/-! ## State -/

/-- An entry of `hosts`. -/
structure EndpointHost where
  isolated : Bool
  remote_path_enabled : Bool
  controller_visible : Bool
deriving DecidableEq

/-- An entry of `accounts`; `present` is the member `exists`. -/
structure DirectoryAccount where
  present : Bool
  enabled : Bool
  groups : List String
deriving DecidableEq

/-- An entry of `processes`. -/
structure EndpointProcess where
  active : Bool
  host_id : String
deriving DecidableEq

/-- An entry of `artifacts`. -/
structure EvidenceArtifact where
  preserved : Bool
  sha256 : String
  host_id : String
deriving DecidableEq

/-- `snapshot`. -/
structure EndpointSections where
  hosts : List (String × EndpointHost)
  accounts : List (String × DirectoryAccount)
  processes : List (String × EndpointProcess)
  artifacts : List (String × EvidenceArtifact)
deriving DecidableEq

/-- `EndpointAdState`. -/
structure EndpointAdState extends EndpointSections where
  rollbacks : List (String × EndpointSections)
  rollback_sequence : Nat
deriving DecidableEq

namespace EndpointAdState

/-- The sections of `baseline`. -/
def fixture : EndpointSections where
  hosts := [("FIN-WS01", ⟨false, true, true⟩)]
  accounts := [("svc-print-sync", ⟨false, false, []⟩)]
  processes := [("impact-task-01", ⟨false, "FIN-WS01"⟩)]
  artifacts := [("FIN-WS01-discovery-bundle",
    ⟨false, "2fdb12a705aa08f08c23e57b57c3ba6657ea7825efcbd24066fded92d95f9ea5", "FIN-WS01"⟩)]

/-- `baseline`. -/
def baseline : EndpointAdState := { fixture with rollbacks := [], rollback_sequence := 0 }

/-- The next token. -/
def token (s : EndpointAdState) : String := s!"endpoint-rb-{s.rollback_sequence + 1}"

/-- `_capture`. -/
def capture : Py EndpointAdState String :=
  Raising.step fun s => (s.token, { s with
    rollbacks := setEntry s.token s.toEndpointSections s.rollbacks
    rollback_sequence := s.rollback_sequence + 1 })

/-- `entries[key]`, which raises where there is none. -/
def entry {α : Type} (entries : EndpointAdState → List (String × α)) (key : String) :
    Py EndpointAdState α := do
  let found ← Raising.gets fun s => (entries s).lookup key
  match found with
  | some value => return value
  | none => Raising.raise (.of .KeyError key)

/-- `isolate_host`. -/
def isolateHost (host_id : String) : Py EndpointAdState String := do
  let token ← capture
  let _ ← entry (fun s => s.hosts) host_id
  Raising.modify fun s => { s with hosts := setEntry host_id ⟨true, false, true⟩ s.hosts }
  return token

/-- `preserve_artifact`. -/
def preserveArtifact (artifact_id : String) : Py EndpointAdState String := do
  let token ← capture
  let artifact ← entry (fun s => s.artifacts) artifact_id
  Raising.modify fun s =>
    { s with artifacts := setEntry artifact_id { artifact with preserved := true } s.artifacts }
  return token

/-- `disable_account`. -/
def disableAccount (account_id : String) : Py EndpointAdState String := do
  let account ← entry (fun s => s.accounts) account_id
  Raising.require (fun _ => account.present = true) fun _ =>
    ⟨.ActionExecutionError, "Persistence account is absent", some "target_not_present"⟩
  let token ← capture
  Raising.modify fun s =>
    { s with accounts := setEntry account_id { account with enabled := false } s.accounts }
  return token

/-- `remove_persistence`. -/
def removePersistence (account_id : String) : Py EndpointAdState String := do
  let token ← capture
  Raising.modify fun s => { s with accounts := setEntry account_id ⟨false, false, []⟩ s.accounts }
  return token

/-- `stop_process`. -/
def stopProcess (process_id : String) : Py EndpointAdState String := do
  let token ← capture
  let process ← entry (fun s => s.processes) process_id
  Raising.modify fun s =>
    { s with processes := setEntry process_id { process with active := false } s.processes }
  return token

/-- `reset_to_baseline`. -/
def resetToBaseline : Py EndpointAdState String := do
  let token ← capture
  Raising.modify fun s => { s with toEndpointSections := fixture }
  return token

/-- `readiness_mismatches`. -/
def readinessMismatches (s : EndpointAdState) : List String :=
  [("hosts", decide (s.hosts = fixture.hosts)), ("accounts", decide (s.accounts = fixture.accounts)),
    ("processes", decide (s.processes = fixture.processes)),
    ("artifacts", decide (s.artifacts = fixture.artifacts))].filterMap fun entry =>
      if entry.2 then none else some entry.1

/-- `rollback` after its checkpoint. -/
def rollback (token : String) : Py EndpointAdState (List String) := do
  let found ← Raising.gets fun s => s.rollbacks.lookup token
  match found with
  | none => Raising.raise ⟨.ActionExecutionError, "Unknown or already-used rollback token",
      some "invalid_rollback"⟩
  | some saved =>
      Raising.modify fun s =>
        { s with toEndpointSections := saved, rollbacks := popEntry token s.rollbacks }
      return ["restored pre-action endpoint/AD state"]

end EndpointAdState

namespace EndpointActions

/-! ## Bodies -/

/-- A body that makes a change and returns its token. -/
def changing (effects : JsonObject → String) (change : JsonObject → Py EndpointAdState String)
    (_parameters target : JsonObject) : Py EndpointAdState ActionEffect := do
  let token ← change target
  return ⟨[effects target], some token, []⟩

/-- `isolate`. -/
def isolate : JsonObject → JsonObject → Py EndpointAdState ActionEffect :=
  changing (fun target => "isolated remote path for " ++ target.text "id")
    fun target => EndpointAdState.isolateHost (target.text "id")

/-- `preserve`. -/
def preserve : JsonObject → JsonObject → Py EndpointAdState ActionEffect :=
  changing (fun target => "preserved evidence " ++ target.text "id")
    fun target => EndpointAdState.preserveArtifact (target.text "id")

/-- `disable`. -/
def disable : JsonObject → JsonObject → Py EndpointAdState ActionEffect :=
  changing (fun target => "disabled directory account " ++ target.text "id")
    fun target => EndpointAdState.disableAccount (target.text "id")

/-- `remove`. -/
def remove : JsonObject → JsonObject → Py EndpointAdState ActionEffect :=
  changing (fun target => "removed persistence " ++ target.text "id")
    fun target => EndpointAdState.removePersistence (target.text "id")

/-- `stop`. -/
def stop : JsonObject → JsonObject → Py EndpointAdState ActionEffect :=
  changing (fun target => "stopped simulated process " ++ target.text "id")
    fun target => EndpointAdState.stopProcess (target.text "id")

/-- `reset`. -/
def reset : JsonObject → JsonObject → Py EndpointAdState ActionEffect :=
  changing (fun _ => "restored endpoint/AD baseline") fun _ => EndpointAdState.resetToBaseline

/-- `readiness`. -/
def readiness (_parameters _target : JsonObject) : Py EndpointAdState ActionEffect := do
  let mismatches ← Raising.gets EndpointAdState.readinessMismatches
  Raising.require (fun _ => mismatches = []) fun _ => ⟨.ActionExecutionError,
    "Endpoint/AD baseline differs in: " ++ ", ".intercalate mismatches, some "baseline_mismatch"⟩
  return ⟨["validated endpoint/AD baseline"], none, []⟩

/-! ## Registration -/

section Register

variable {W : Type} (monotonic : W → Rat × W)

/-- A registration: everything that the registrations of the module differ in. -/
def endpointAction (action_id phase role other_role target effect rollback_method : String)
    (states : List String) (timeout : Int)
    (body : JsonObject → JsonObject → Py EndpointAdState ActionEffect)
    (method_given : rollback_method ≠ "") (timeout_positive : 1 ≤ timeout) :
    ActionDefinition W EndpointAdState where
  action_id := action_id
  phase := phase
  allowed_roles := [role, other_role]
  allowed_targets := [target]
  allowed_run_states := states
  max_timeout_seconds := timeout
  expected_effects := [effect]
  rollback_method := rollback_method
  handler := simulationHandler monotonic body
  rollback_handler := simulationRollback monotonic EndpointAdState.rollback
  parameter_validator := some noParameters
  roles_given := two_given _ _
  targets_given := one_given _
  effects_given := one_given _
  method_given := method_given
  timeout_positive := timeout_positive

/-- A registration of the first loop. -/
def containmentAction (action_id target phase : String)
    (body : JsonObject → JsonObject → Py EndpointAdState ActionEffect) :
    ActionDefinition W EndpointAdState :=
  endpointAction monotonic action_id phase "endpoint_responder" "facilitator" target action_id
    "restore captured pre-action state" ["running"] 20 body restore_method_given twenty_positive

/-- A registration of the second loop. -/
def controlAction (action_id phase run_id effect : String) (states : List String)
    (body : JsonObject → JsonObject → Py EndpointAdState ActionEffect) :
    ActionDefinition W EndpointAdState :=
  endpointAction monotonic action_id phase "technical_operator" "facilitator"
    ("exercise_run:" ++ run_id) effect "restore captured pre-action state" states 30 body
    restore_method_given thirty_positive

/-- The registry that `register_endpoint_actions` fills. -/
def registry (run_id : String) : ActionRegistry W EndpointAdState where
  definitions :=
    [containmentAction monotonic "endpoint.host.isolate" "host:FIN-WS01" "endpoint_ad" isolate,
    containmentAction monotonic "evidence.artifact.preserve"
      "evidence_artifact:FIN-WS01-discovery-bundle" "endpoint_ad" preserve,
    containmentAction monotonic "ad.account.disable" "directory_account:svc-print-sync"
      "endpoint_ad" disable,
    containmentAction monotonic "ad.persistence.remove" "directory_account:svc-print-sync"
      "endpoint_ad" remove,
    containmentAction monotonic "endpoint.process.stop" "process:impact-task-01" "impact_recovery"
      stop,
    controlAction monotonic "exercise.endpoint.reset" "post_exercise" run_id
      "restore endpoint/AD baseline" ["stopped", "resetting"] reset,
    controlAction monotonic "exercise.endpoint.readiness.validate" "setup" run_id
      "validate endpoint/AD baseline" ["setup", "stopped", "resetting", "ready"] readiness]
  ids_unique := by
    show List.Nodup ["endpoint.host.isolate", "evidence.artifact.preserve", "ad.account.disable",
      "ad.persistence.remove", "endpoint.process.stop", "exercise.endpoint.reset",
      "exercise.endpoint.readiness.validate"]
    decide

end Register

end EndpointActions

end NetStrike.Modules
