import Mathlib.Data.Finset.Insert
import NetStrike.Shared.ActionSchema
import NetStrike.Shared.Events

/-!
# Safe actions

`SafeActionAdapter` of `shared/actions.py`. `Adapter W S` holds what never changes: the context, the
registry and the collaborators. `SafeActionAdapter W S` is the state. The collaborators act on a
world `W`, action handlers also on the simulation state `S`.

A collaborator may itself stop a run on the adapter that is calling it, so its code is a `Callback`,
a tree whose nodes are its own effects and its calls of `activate_fail_safe`. Python bounds how deep
such calls nest; the bound is `depth`, and a call at the bound raises `RecursionError`.
-/

set_option autoImplicit false

namespace NetStrike.Shared

open NetStrike.Foundation

/-! ## Collaborators -/

/-- The code of a collaborator that may touch the state `V`: what it does when it is called, up to
its result. `is_set` reads the cancel event of the control it was given. -/
inductive Callback (V α : Type) where
  | finish (result : α)
  | act (effect : V → V) (next : V → Callback V α)
  | is_set (request_id : String) (next : Bool → Callback V α)
  | activate_fail_safe (run_id : String) (operator : JsonObject) (reason : String)
      (next : Except Exn Nat → Callback V α)

/-- `ExecutionControl`. Its cancel event is kept in the entry of `_running` that `execute` makes
for the request and removes after the last look at the event. -/
structure ExecutionControl where
  deadline : Rat
  request_id : String

/-- `ActionEffect`. -/
structure ActionEffect where
  effects : List String
  rollback_token : Option String
  metadata : JsonObject
deriving DecidableEq

/-- `ActionDefinition`; `__post_init__` refuses the values that the last fields exclude. Nothing sets
the cancel event of a rollback, so its handler is given the deadline of its control. -/
structure ActionDefinition (W S : Type) where
  action_id : String
  phase : String
  allowed_roles : List String
  allowed_targets : List String
  allowed_run_states : List String
  max_timeout_seconds : Int
  expected_effects : List String
  rollback_method : String
  handler : JsonObject → JsonObject → ExecutionControl → Callback (W × S) (Except Exn ActionEffect)
  rollback_handler : String → Rat → Callback (W × S) (Except Exn (List String))
  parameter_validator : Option (JsonObject → Callback W (Except Exn Unit))
  roles_given : allowed_roles ≠ []
  targets_given : allowed_targets ≠ []
  effects_given : expected_effects ≠ []
  method_given : rollback_method ≠ ""
  timeout_positive : 1 ≤ max_timeout_seconds

theorem one_given (entry : String) : [entry] ≠ [] := List.cons_ne_nil _ _

theorem two_given (first second : String) : [first, second] ≠ [] := List.cons_ne_nil _ _

theorem restore_method_given : "restore captured pre-action state" ≠ "" := by decide

theorem twenty_positive : (1 : Int) ≤ 20 := by decide

theorem thirty_positive : (1 : Int) ≤ 30 := by decide

/-- `ActionRegistry`: no two definitions have one id. -/
structure ActionRegistry (W S : Type) where
  definitions : List (ActionDefinition W S)
  ids_unique : (definitions.map ActionDefinition.action_id).Nodup

namespace ActionRegistry

variable {W S : Type}

/-- The empty registry. -/
def empty : ActionRegistry W S := ⟨[], List.nodup_nil⟩

/-- `register`. -/
def register (registry : ActionRegistry W S) (definition : ActionDefinition W S) :
    Except Exn (ActionRegistry W S) :=
  if h : definition.action_id ∈ registry.definitions.map ActionDefinition.action_id then
    .error (.of .ActionContractError s!"duplicate action registration: {definition.action_id}")
  else .ok ⟨definition :: registry.definitions, List.nodup_cons.mpr ⟨h, registry.ids_unique⟩⟩

/-- `get`. -/
def get (registry : ActionRegistry W S) (action_id : String) : Option (ActionDefinition W S) :=
  registry.definitions.find? fun definition => definition.action_id == action_id

end ActionRegistry

/-! ## State -/

/-- An entry of `_running`: the run and whether the cancel event of its control is set. -/
structure RunningAction where
  run_id : String
  cancelled : Bool
deriving DecidableEq

/-- What is observed of an adapter: a call of `execute`, an event that the sink accepted for a
request, an answer of the run state, accepted parameters, a started handler with the cancel event of
its control, and a run put under the stop. -/
inductive ActionEntry where
  | called (request : JsonObject)
  | audited (request : JsonObject) (event_type : String)
  | runStateRead (run_state : String)
  | parametersAccepted
  | invoked (request : JsonObject) (cancelled : Bool)
  | latched (run_id : String)
deriving DecidableEq

/-- The state of a `SafeActionAdapter`, its world and the simulation. -/
structure SafeActionAdapter (W S : Type) where
  events : EventBuilder
  results : String × String → Option ActionResult
  fingerprints : String × String → Option String
  executions : String → Option (ActionDefinition W S × JsonObject × ActionEffect)
  running : List (String × RunningAction)
  stopped_runs : Finset String
  world : W
  simulation : S
  journal : List ActionEntry

/-- The parts of an adapter that never change. `sha256` and the text of a float are Python's. -/
structure Adapter (W S : Type) where
  context : EventContext
  registry : ActionRegistry W S
  run_state : String → String → Callback W (Except Exn String)
  event_sink : Event → Callback W (Except Exn Unit)
  monotonic : Callback W Rat
  sources : EventSources W
  uuid4 : W → String × W
  formats : FormatChecker
  sha256 : String → String
  float_repr : Rat → String
  depth : Nat

/-- `d[key] = value` for a dictionary in insertion order. -/
def setEntry {α : Type} (key : String) (value : α) : List (String × α) → List (String × α)
  | [] => [(key, value)]
  | (k, v) :: entries =>
      if k = key then (key, value) :: entries else (k, v) :: setEntry key value entries

/-- `d.pop(key, None)`. -/
def popEntry {α : Type} (key : String) (entries : List (String × α)) : List (String × α) :=
  entries.filter fun entry => entry.1 ≠ key

@[simp] theorem lookup_setEntry {α : Type} (q : String) (v : α) (entries : List (String × α)) :
    (setEntry q v entries).lookup q = some v := by
  induction entries with
  | nil => simp [setEntry]
  | cons entry entries ih =>
      obtain ⟨k, w⟩ := entry
      unfold setEntry
      split_ifs with hk
      · simp
      · have hbeq : (q == k) = false := beq_eq_false_iff_ne.mpr (fun h => hk h.symm)
        simp [List.lookup_cons, hbeq, ih]

namespace Adapter

variable {W S : Type} (env : Adapter W S)

/-- A new adapter. -/
def init (world : W) (simulation : S) : SafeActionAdapter W S where
  events := ⟨env.context, 0⟩
  results := fun _ => none
  fingerprints := fun _ => none
  executions := fun _ => none
  running := []
  stopped_runs := ∅
  world := world
  simulation := simulation
  journal := []

/-- Add an observation. -/
def note (entry : ActionEntry) (a : SafeActionAdapter W S) : SafeActionAdapter W S :=
  { a with journal := a.journal ++ [entry] }

/-- Put a run under the stop and set the cancel events of its running actions. -/
def latch (run_id : String) (a : SafeActionAdapter W S) : SafeActionAdapter W S :=
  { a with
    stopped_runs := insert run_id a.stopped_runs
    running := a.running.map fun entry =>
      (entry.1, { entry.2 with cancelled := entry.2.cancelled || entry.2.run_id == run_id })
    journal := a.journal ++ [.latched run_id] }

/-! ## Calls into collaborators -/

/-- A call of `activate_fail_safe` as collaborators make it. -/
abbrev Nested (W S : Type) := String → JsonObject → String → Py (SafeActionAdapter W S) Nat

/-- The cancel event of the control of a request. -/
def isSet (request_id : String) (a : SafeActionAdapter W S) : Bool :=
  match a.running.lookup request_id with
  | some action => action.cancelled
  | none => false

/-- Run the code of a collaborator on the part of the state that `view` reads and `put` writes. -/
def runCallback {V α : Type} (view : SafeActionAdapter W S → V)
    (put : V → SafeActionAdapter W S → SafeActionAdapter W S) (nested : Nested W S) :
    Callback V α → SafeActionAdapter W S → α × SafeActionAdapter W S
  | .finish result, a => (result, a)
  | .act effect next, a =>
      runCallback view put nested (next (effect (view a))) (put (effect (view a)) a)
  | .is_set request_id next, a => runCallback view put nested (next (isSet request_id a)) a
  | .activate_fail_safe run_id operator reason next, a =>
      runCallback view put nested (next (nested run_id operator reason a).1)
        (nested run_id operator reason a).2

/-- Run a collaborator that sees the world only. -/
def onWorld {α : Type} (nested : Nested W S) (code : Callback W α) :
    Py (SafeActionAdapter W S) α :=
  Raising.step (runCallback SafeActionAdapter.world (fun w a => { a with world := w }) nested code)

/-- Run a handler, which sees the world and the simulation. -/
def onSimulation {α : Type} (nested : Nested W S) (code : Callback (W × S) α) :
    Py (SafeActionAdapter W S) α :=
  Raising.step (runCallback (fun a => (a.world, a.simulation))
    (fun v a => { a with world := v.1, simulation := v.2 }) nested code)

/-! ## Audit -/

/-- The safety controls that every event of the adapter names. -/
def safetyControls : List String := ["safe-action-adapter", "role-policy", "target-allowlist"]

/-- The arguments that `_emit` gives to the builder. -/
def emitCall (request : JsonObject) (event_type outcome message phase : String)
    (within_allowlist : Bool) (data : JsonObject) : EventCall where
  event_type := event_type
  phase := phase
  actor :=
    match request.object "actor" with
    | [] => entity "system" "action-adapter" none none
    | actor => actor
  action := (truthy (some (request.text "action_id"))).getD "action.unknown"
  target :=
    match request.get "target" with
    | .obj target => some target
    | _ => none
  outcome_status := outcome
  message := message
  visibility := "facilitator"
  dry_run := request.dryRun
  within_allowlist := within_allowlist
  safety_controls := safetyControls
  correlation_ids := (truthy (some (request.text "request_id"))).toList
  data := some data

/-- `_emit`. -/
def emitWith (nested : Nested W S) (request : JsonObject)
    (event_type outcome message phase : String) (within_allowlist : Bool) (data : JsonObject) :
    Py (SafeActionAdapter W S) Unit := do
  let event ← Raising.focus (fun a => (a.events, a.world))
    (fun s a => { a with events := s.1, world := s.2 })
    (EventBuilder.build env.formats env.sources
      (emitCall request event_type outcome message phase within_allowlist data))
  let answer ← onWorld nested (env.event_sink event)
  Raising.ofExcept answer
  Raising.modify (note (.audited request event_type))

/-! ## The fail-safe stop -/

/-- The roles that may stop a run or roll an action back. -/
def controlRoles : List String := ["facilitator", "technical_operator"]

/-- The request of the audit event of a stop. -/
def stopRequest (request_id run_id : String) (operator : JsonObject) : JsonObject :=
  [("request_id", .str request_id), ("actor", .obj operator),
    ("target", .obj (entity "exercise_run" run_id none none)),
    ("action_id", .str "control.fail_safe.activate"), ("dry_run", .bool false)]

/-- The body of `activate_fail_safe`. -/
def activateWith (nested : Nested W S) (run_id : String) (operator : JsonObject)
    (reason : String) : Py (SafeActionAdapter W S) Nat := do
  Raising.require (fun _ => operator.text "role" ∈ controlRoles) fun _ =>
    .of .ActionContractError "fail-safe stop requires an exercise-control role"
  Raising.require (fun _ => ¬ Blank reason) fun _ =>
    .of .ActionContractError "fail-safe stop requires a reason"
  let request_id ← Raising.step fun a =>
    ((env.uuid4 a.world).1, { a with world := (env.uuid4 a.world).2 })
  let cancelled ← Raising.gets fun a =>
    (a.running.filter fun entry => entry.2.run_id == run_id).length
  Raising.modify (latch run_id)
  env.emitWith nested (stopRequest request_id run_id operator) "action.fail_safe.activated"
    "success" "Fail-safe stop activated" "control" true
    [("reason", .str reason), ("cancelled_actions", .int cancelled)]
  return cancelled

/-- `activate_fail_safe`, `depth` calls away from the recursion limit. -/
def activateAt : Nat → Nested W S
  | 0 => fun _ _ _ => Raising.raise (.of .RecursionError "maximum recursion depth exceeded")
  | depth + 1 => env.activateWith (activateAt depth)

/-- `activate_fail_safe` as a collaborator calls it. -/
def nested : Nested W S := env.activateAt env.depth

/-- `activate_fail_safe`. -/
def activateFailSafe (run_id : String) (operator : JsonObject) (reason : String) :
    Py (SafeActionAdapter W S) Nat :=
  env.activateWith env.nested run_id operator reason

/-- `_emit` inside `execute`. -/
def emit (request : JsonObject) (event_type outcome message phase : String)
    (within_allowlist : Bool) (data : JsonObject) : Py (SafeActionAdapter W S) Unit :=
  env.emitWith env.nested request event_type outcome message phase within_allowlist data

/-! ## Results -/

/-- The fields that `_fingerprint` reads. -/
def fingerprintKeys : List String :=
  ["exercise_id", "run_id", "actor", "action_id", "target", "parameters", "dry_run",
    "timeout_seconds"]

/-- `_fingerprint`. -/
def fingerprint (request : JsonObject) : String :=
  env.sha256 (Json.dumps env.float_repr
    (.obj (fingerprintKeys.map fun key => (key, request.get key))))

/-- The key of `_results` and `_fingerprints`. -/
def key (request : JsonObject) : String × String :=
  (request.text "run_id", request.text "idempotency_key")

/-- The dictionary that `_result` builds before it is validated. -/
def resultRecord (request : JsonObject) (status : ResultStatus) (successful : Bool)
    (started_at finished_at : String) (effects : List String) (rollback : Rollback)
    (error_code : Option String) (message : String) : ActionResult where
  request_id := request.text "request_id"
  idempotency_key := request.text "idempotency_key"
  exercise_id := request.text "exercise_id"
  run_id := request.text "run_id"
  action_id := request.text "action_id"
  target := request.get "target"
  status := status
  successful := successful
  started_at := started_at
  finished_at := finished_at
  cached := false
  effects := effects
  rollback := rollback
  error_code := error_code
  message := message

/-- `_timestamp`. -/
def timestamp (t : DateTime) : Except Exn String :=
  if t.aware then .ok t.isoformat
  else .error (.of .ActionContractError "action timestamps must be timezone-aware")

/-- `_result`. -/
def result (request : JsonObject) (status : ResultStatus) (successful : Bool)
    (started_at : DateTime) (effects : List String) (rollback : Rollback)
    (error_code : Option String) (message : String) :
    Py (SafeActionAdapter W S) ActionResult := do
  let started_at ← Raising.ofExcept (timestamp started_at)
  let now ← Raising.step fun a =>
    ((env.sources.clock a.world).1, { a with world := (env.sources.clock a.world).2 })
  let finished_at ← Raising.ofExcept (timestamp now)
  let record := resultRecord request status successful started_at finished_at effects rollback
    error_code message
  Raising.ofExcept (ActionValidator.validate env.formats record.toJson)
  return record

/-- `_deny`. -/
def deny (request : JsonObject) (started_at : DateTime) (code message : String)
    (within_allowlist : Bool) : Py (SafeActionAdapter W S) ActionResult := do
  env.emit request "action.authorization.denied" "denied" message "control" within_allowlist
    [("error_code", .str code)]
  env.result request .denied false started_at [] .unsupported (some code) message

/-- `_store`. -/
def store (request : JsonObject) (result : ActionResult) (a : SafeActionAdapter W S) :
    SafeActionAdapter W S :=
  { a with
    fingerprints := Function.update a.fingerprints (key request) (some (env.fingerprint request))
    results := Function.update a.results (key request) (some result) }

/-! ## Authorization -/

/-- How the first part of `execute` ends: with an answer, or with a granted authorization. -/
inductive Decision (W S : Type) where
  | answered (result : ActionResult)
  | granted (definition : ActionDefinition W S)

/-- Deny, and answer with the denial. -/
def denied (request : JsonObject) (started_at : DateTime) (code message : String)
    (within_allowlist : Bool) : Py (SafeActionAdapter W S) (Decision W S) := do
  let result ← env.deny request started_at code message within_allowlist
  return .answered result

/-- The answer for a key that has a stored result. -/
def replay (request : JsonObject) (started_at : DateTime) (stored : ActionResult) :
    Py (SafeActionAdapter W S) (Decision W S) := do
  let first ← Raising.gets fun a => a.fingerprints (key request)
  if first ≠ some (env.fingerprint request) then
    env.denied request started_at "idempotency_conflict"
      "Idempotency key was reused for a different action" true
  else
    let cached := { stored with cached := true }
    Raising.ofExcept (ActionValidator.validate env.formats cached.toJson)
    env.emit request "action.result.replayed" "success" "Returned cached action result" "control"
      true []
    return .answered cached

/-- `f"{request['target']['type']}:{request['target']['id']}"`. -/
def targetKey (request : JsonObject) : String :=
  (request.object "target").text "type" ++ ":" ++ (request.object "target").text "id"

/-- The run state, by its callback. -/
def readRunState (request : JsonObject) : Py (SafeActionAdapter W S) String := do
  let answer ← onWorld env.nested
    (env.run_state (request.text "exercise_id") (request.text "run_id"))
  let run_state ← Raising.ofExcept answer
  Raising.modify (note (.runStateRead run_state))
  return run_state

/-- `(TypeError, ValueError, ActionContractError)`. -/
def refusesParameters (e : Exn) : Bool :=
  e.type.isA .TypeError || e.type.isA .ValueError || e.type.isA .ActionContractError

/-- The parameter check; the message of a refusal is returned. -/
def checkParameters (definition : ActionDefinition W S) (request : JsonObject) :
    Py (SafeActionAdapter W S) (Option String) :=
  match definition.parameter_validator with
  | none => return none
  | some validator => do
      let answer ← onWorld env.nested (validator (request.object "parameters"))
      match answer with
      | .ok _ =>
          Raising.modify (note .parametersAccepted)
          return none
      | .error e => if refusesParameters e then return some e.message else Raising.raise e

/-- The checks against the definition of the action. A result record passes as a request up to the
first look at its actor. -/
def checkPolicy (definition : ActionDefinition W S) (request : JsonObject)
    (started_at : DateTime) : Py (SafeActionAdapter W S) (Decision W S) := do
  let run_state ← env.readRunState request
  if run_state ∉ definition.allowed_run_states then
    env.denied request started_at "invalid_run_state"
      "Action is not allowed in the current run state" true
  else
    Raising.require (fun _ => (request.lookup "actor").isSome = true) fun _ =>
      .of .KeyError "'actor'"
    if (request.object "actor").text "role" ∉ definition.allowed_roles then
      env.denied request started_at "role_denied" "Actor role is not authorized" true
    else if targetKey request ∉ definition.allowed_targets then
      env.denied request started_at "target_denied" "Target is outside the action allowlist" false
    else if request.number "timeout_seconds" > definition.max_timeout_seconds then
      env.denied request started_at "timeout_exceeds_policy"
        "Requested timeout exceeds action policy" true
    else
      let refusal ← env.checkParameters definition request
      match refusal with
      | some message => env.denied request started_at "invalid_parameters" message true
      | none =>
          env.emit request "action.authorization.granted" "success" "Action authorized"
            definition.phase true []
          return .granted definition

/-- The checks of a request whose key is new. -/
def checkRequest (request : JsonObject) (started_at : DateTime) :
    Py (SafeActionAdapter W S) (Decision W S) := do
  match env.registry.get (request.text "action_id") with
  | none =>
      env.denied request started_at "unregistered_action" "Action is not registered" true
  | some definition =>
      let stopped_runs ← Raising.gets SafeActionAdapter.stopped_runs
      if request.text "run_id" ∈ stopped_runs then
        env.denied request started_at "run_stopped" "Run is under fail-safe stop" true
      else env.checkPolicy definition request started_at

/-- Everything up to the granted authorization. -/
def authorize (request : JsonObject) (started_at : DateTime) :
    Py (SafeActionAdapter W S) (Decision W S) := do
  env.emit request "action.requested" "pending" "Action requested" "control" true []
  if request.text "exercise_id" ≠ env.context.exercise_id ∨
      request.text "run_id" ≠ env.context.run_id then
    env.denied request started_at "correlation_mismatch" "Request is for another exercise run" true
  else
    let stored ← Raising.gets fun a => a.results (key request)
    match stored with
    | some result => env.replay request started_at result
    | none => env.checkRequest request started_at

/-! ## Execution -/

/-- The rollback record of an action that was or would be executed. -/
def supportedRollback (definition : ActionDefinition W S) (token : Option String) : Rollback :=
  ⟨true, false, false, false, some definition.rollback_method, token⟩

/-- Emit the completion of a stored result. -/
def emitCompletion (definition : ActionDefinition W S) (request : JsonObject)
    (result : ActionResult) (metadata : JsonObject) : Py (SafeActionAdapter W S) Unit :=
  env.emit request "action.execution.completed" (if result.successful then "success" else "failure")
    result.message definition.phase true
    ([("status", .str result.status.value), ("effects", Json.strs result.effects)] ++
      if metadata = [] then [] else [("metadata", .obj metadata)])

/-- A dry run: the result is stored, no handler is called. -/
def dryRun (definition : ActionDefinition W S) (request : JsonObject) (started_at : DateTime) :
    Py (SafeActionAdapter W S) ActionResult := do
  let result ← env.result request .dry_run true started_at definition.expected_effects
    (supportedRollback definition none) none "Dry run passed; handler was not invoked"
  Raising.modify (env.store request result)
  env.emitCompletion definition request result []
  return result

/-- The entry of a request in `_running`, its cancel event clear. -/
def enterRunning (request : JsonObject) (a : SafeActionAdapter W S) : SafeActionAdapter W S :=
  { a with
    running := setEntry (request.text "request_id") ⟨request.text "run_id", false⟩ a.running }

/-- Make the control of an execution and enter it in `_running`. -/
def registerControl (request : JsonObject) : Py (SafeActionAdapter W S) ExecutionControl := do
  let now ← onWorld env.nested env.monotonic
  Raising.modify (enterRunning request)
  return ⟨now + request.number "timeout_seconds", request.text "request_id"⟩

/-- Announce the start of an execution. -/
def emitStarted (definition : ActionDefinition W S) (request : JsonObject) :
    Py (SafeActionAdapter W S) Unit :=
  env.emit request "action.execution.started" "pending" "Action execution started"
    definition.phase true []

/-- `ExecutionControl.checkpoint`. -/
def checkpoint (control : ExecutionControl) : Py (SafeActionAdapter W S) Unit := do
  Raising.require (fun a => isSet control.request_id a = false) fun _ =>
    .of .ActionCancelled "action cancelled by fail-safe stop"
  let now ← onWorld env.nested env.monotonic
  Raising.require (fun _ => now ≤ control.deadline) fun _ =>
    .of .TimeoutError "action deadline exceeded"

/-- The handler of the definition at work. -/
def callHandler (definition : ActionDefinition W S) (request : JsonObject)
    (control : ExecutionControl) : Py (SafeActionAdapter W S) ActionEffect := do
  let answer ← onSimulation env.nested
    (definition.handler (request.object "parameters") (request.object "target") control)
  Raising.ofExcept answer

/-- The call of the handler. -/
def invoke (definition : ActionDefinition W S) (request : JsonObject)
    (control : ExecutionControl) : Py (SafeActionAdapter W S) ActionEffect := do
  Raising.modify fun a => note (.invoked request (isSet control.request_id a)) a
  env.callHandler definition request control

/-- The body of the `try` in `execute`. -/
def runAction (definition : ActionDefinition W S) (request : JsonObject)
    (control : ExecutionControl) : Py (SafeActionAdapter W S) ActionEffect := do
  let effect ← env.invoke definition request control
  env.checkpoint control
  return effect

/-- The `except` clauses. -/
def failedResult (request : JsonObject) (started_at : DateTime) (e : Exn) :
    Py (SafeActionAdapter W S) ActionResult :=
  if e.type.isA .ActionCancelled then
    env.result request .cancelled false started_at [] .unsupported (some "cancelled") e.message
  else if e.type.isA .TimeoutError then
    env.result request .timed_out false started_at [] .unsupported (some "timed_out") e.message
  else if e.type.isA .ActionExecutionError then
    env.result request .failed false started_at [] .unsupported e.code e.message
  else
    env.result request .failed false started_at [] .unsupported (some "handler_error")
      ("Handler failed: " ++ e.type.name)

/-- The `else` clause: an executed action is remembered for rollback. -/
def executedResult (definition : ActionDefinition W S) (request : JsonObject)
    (started_at : DateTime) (effect : ActionEffect) : Py (SafeActionAdapter W S) ActionResult := do
  let result ← env.result request .executed true started_at effect.effects
    (supportedRollback definition (truthy effect.rollback_token)) none
    "Action executed successfully"
  Raising.modify fun a => { a with
    executions := Function.update a.executions (request.text "request_id")
      (some (definition, request, effect)) }
  return result

/-- The result of a finished handler, and the metadata for its completion. -/
def conclude (definition : ActionDefinition W S) (request : JsonObject) (started_at : DateTime) :
    Except Exn ActionEffect → Py (SafeActionAdapter W S) (ActionResult × JsonObject)
  | .error e => do
      let result ← env.failedResult request started_at e
      return (result, [])
  | .ok effect => do
      let result ← env.executedResult definition request started_at effect
      return (result, effect.metadata)

/-- The `finally` clause. -/
def removeRunning (request : JsonObject) (a : SafeActionAdapter W S) : SafeActionAdapter W S :=
  { a with running := popEntry (request.text "request_id") a.running }

/-- The `try` statement with all its clauses. -/
def attemptAction (definition : ActionDefinition W S) (request : JsonObject)
    (started_at : DateTime) (control : ExecutionControl) :
    Py (SafeActionAdapter W S) (ActionResult × JsonObject) :=
  Raising.ensure (do
    let outcome ← Raising.attempt (env.runAction definition request control)
    env.conclude definition request started_at outcome) (removeRunning request)

/-- The part of `execute` after the start was announced. -/
def completeAction (definition : ActionDefinition W S) (request : JsonObject)
    (started_at : DateTime) (control : ExecutionControl) :
    Py (SafeActionAdapter W S) ActionResult := do
  let concluded ← env.attemptAction definition request started_at control
  Raising.modify (env.store request concluded.1)
  env.emitCompletion definition request concluded.1 concluded.2
  return concluded.1

/-- The part of `execute` after a granted authorization that is no dry run. -/
def executeAction (definition : ActionDefinition W S) (request : JsonObject)
    (started_at : DateTime) : Py (SafeActionAdapter W S) ActionResult := do
  let control ← env.registerControl request
  env.emitStarted definition request
  env.completeAction definition request started_at control

/-- `execute` on a redacted request. -/
def executeRedacted (request : JsonObject) : Py (SafeActionAdapter W S) ActionResult := do
  Raising.modify (note (.called request))
  Raising.ofExcept (ActionValidator.validate env.formats request)
  let started_at ← Raising.step fun a =>
    ((env.sources.clock a.world).1, { a with world := (env.sources.clock a.world).2 })
  let decision ← env.authorize request started_at
  match decision with
  | .answered result => return result
  | .granted definition =>
      if request.dryRun then env.dryRun definition request started_at
      else env.executeAction definition request started_at

/-- `redact_sensitive(dict(request))`. -/
def redacted (request : JsonObject) : JsonObject := redactMembers request

/-- `execute`. -/
def execute (request : JsonObject) : Py (SafeActionAdapter W S) ActionResult :=
  env.executeRedacted (redacted request)

/-! ## Operations -/

/-- The operations of an adapter. -/
inductive Operation where
  | execute (request : JsonObject)
  | activate_fail_safe (run_id : String) (operator : JsonObject) (reason : String)

/-- The state after an operation, whether it returned or raised. -/
def perform : Operation → SafeActionAdapter W S → SafeActionAdapter W S
  | .execute request, a => (env.execute request a).2
  | .activate_fail_safe run_id operator reason, a =>
      (env.activateFailSafe run_id operator reason a).2

/-! ## A small adapter -/

/-- An action that isolates a host; the handler is given. -/
def sampleDefinition
    (handler : JsonObject → JsonObject → ExecutionControl →
      Callback (Nat × Bool) (Except Exn ActionEffect)) : ActionDefinition Nat Bool where
  action_id := "host.isolate"
  phase := "endpoint_ad"
  allowed_roles := ["participant"]
  allowed_targets := ["host:ws-01"]
  allowed_run_states := ["running"]
  max_timeout_seconds := 60
  expected_effects := ["host isolated"]
  rollback_method := "host.release"
  handler := handler
  rollback_handler := fun _ _ => .act (fun v => (v.1, false)) fun _ => .finish (.ok ["host released"])
  parameter_validator := none
  roles_given := by decide
  targets_given := by decide
  effects_given := by decide
  method_given := by decide
  timeout_positive := by decide

/-- An adapter with that one action. Its world is a clock that counts seconds, its simulation says
whether the host is isolated. -/
def sample (event_sink : Event → Callback Nat (Except Exn Unit))
    (handler : JsonObject → JsonObject → ExecutionControl →
      Callback (Nat × Bool) (Except Exn ActionEffect)) : Adapter Nat Bool where
  context := ⟨"EX-1", "RUN-1", "action_adapter", "endpoint-adapter", "1.0.0", none⟩
  registry := ⟨[sampleDefinition handler], List.nodup_singleton _⟩
  run_state := fun _ _ => .finish (.ok "running")
  event_sink := event_sink
  monotonic := .act id fun seconds => .finish seconds
  sources := ⟨none, fun w => (⟨true, 0⟩, w), fun w => ("6f1c0e0a-0000-4000-8000-000000000001", w)⟩
  uuid4 := fun w => ("6f1c0e0a-0000-4000-8000-000000000002", w)
  formats := FormatChecker.lenient
  sha256 := fun payload => payload
  float_repr := fun _ => ""
  depth := 1

/-- A sink that accepts everything. -/
def acceptAll : Event → Callback Nat (Except Exn Unit) := fun _ => .finish (.ok ())

/-- A handler that isolates the host in the given number of seconds. -/
def isolateIn (seconds : Nat) :
    JsonObject → JsonObject → ExecutionControl → Callback (Nat × Bool) (Except Exn ActionEffect) :=
  fun _ _ _ => .act (fun v => (v.1 + seconds, true)) fun _ =>
    .finish (.ok ⟨["host isolated"], some "isolate-1", []⟩)

/-- A request to isolate the host. -/
def sampleRequest (request_id exercise_id : String) : JsonObject :=
  [("schema_version", .str "1.0.0"), ("record_type", .str "request"),
    ("request_id", .str request_id), ("idempotency_key", .str "KEY-1"),
    ("timestamp", .str "2026-01-01T00:00:00.000Z"), ("exercise_id", .str exercise_id),
    ("run_id", .str "RUN-1"), ("actor", .obj (entity "person" "analyst-1" none (some "participant"))),
    ("action_id", .str "host.isolate"), ("target", .obj (entity "host" "ws-01" none none)),
    ("parameters", .obj []), ("dry_run", .bool false), ("timeout_seconds", .int 30)]

end Adapter

end NetStrike.Shared
