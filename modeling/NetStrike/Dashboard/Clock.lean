import NetStrike.Orchestrator.Controller
import NetStrike.Shared.ActionSchema

/-!
# The supervised clock

`ClockSupervisor` of `dashboard/clock.py`, with what it supervises: the scheduler of
`orchestrator/scheduler.py`, the safety stop of `IdentitySliceRun`, and the guard `runtime_mutation`
and the reset of `dashboard/service.py`. Every method runs under the lock of the run, so a call is
one step.

Readings of the monotonic clock are of a type `R` about whose `Arithmetic` nothing is assumed, so
that not-a-number and the infinities are among them. The provider is a function on a state `P`: it
may return any reading and may raise at any time. What a service method does outside the controller
is a program `ServiceCode` on the world `W` of the controller, which holds the simulation and the
store.

The `journal` is a ghost field with the steps of the supervisor.
-/

set_option autoImplicit false

namespace NetStrike.Dashboard

open NetStrike.Foundation NetStrike.Shared NetStrike.Orchestrator
open NetStrike.Orchestrator.Controller (controllerError)

/-! ## States -/

/-- The values of `fault_code`. -/
inductive FaultCode where
  | heartbeat_stale
  | invalid_monotonic
  | driver_unavailable
  | scheduler_tick_failed
  | driver_failed
deriving DecidableEq

/-- The text of the code. -/
def FaultCode.value : FaultCode → String
  | heartbeat_stale => "heartbeat_stale"
  | invalid_monotonic => "invalid_monotonic"
  | driver_unavailable => "driver_unavailable"
  | scheduler_tick_failed => "scheduler_tick_failed"
  | driver_failed => "driver_failed"

/-- The code that `fault` takes from its argument. -/
def FaultCode.ofString (code : String) : FaultCode :=
  if code = "heartbeat_stale" then .heartbeat_stale
  else if code = "invalid_monotonic" then .invalid_monotonic
  else if code = "driver_unavailable" then .driver_unavailable
  else if code = "scheduler_tick_failed" then .scheduler_tick_failed
  else .driver_failed

/-- The `status` of a snapshot. -/
inductive ClockStatus where
  | faulted
  | unmonitored
  | detached
  | invalid_clock
  | stale
  | healthy
deriving DecidableEq

/-- The code of the fault that a status calls for. -/
def ClockStatus.code : ClockStatus → String
  | .stale => "heartbeat_stale"
  | .invalid_clock => "invalid_monotonic"
  | .detached => "driver_unavailable"
  | .faulted | .unmonitored | .healthy => ""

/-- The mutable fields of `ClockSupervisor`. -/
structure ClockSupervisor (R : Type) where
  attached : Bool := false
  managed : Bool := false
  last_heartbeat : Option R := none
  ticks : Nat := 0
  fault_code : Option FaultCode := none
  cleanup_complete : Option Bool := none
  audit_persisted : Option Bool := none
deriving DecidableEq

/-- One observable step of the supervisor: `fault_code` is assigned, the event of the fault is handed
to the store, the scheduler is called, the reset clears the fields. -/
inductive ClockEntry where
  | latched (code : FaultCode)
  | audited (event : Event)
  | scheduler_tick
  | cleared
deriving DecidableEq

/-- The controller, the scheduler and the clock of `PortalService`, with the state of the provider
and the journal. -/
structure Service (P R W : Type) where
  controller : ScenarioController W
  last_observed : Option R
  fractional_seconds : R
  clock : ClockSupervisor R
  provider : P
  journal : List ClockEntry

/-- What the code computes with readings: `-`, `+`, `isfinite`, the comparisons `>= 0`, `< 0` and
`> 30`, and `int`. -/
structure Arithmetic (R : Type) where
  zero : R
  sub : R → R → R
  add : R → R → R
  isfinite : R → Bool
  nonnegative : R → Bool
  negative : R → Bool
  exceedsStale : R → Bool
  int : R → Except Exn Int
  subInt : R → Int → R

/-- The fixed parts of the service. A latch is `mfa.stop` or the `activate_fail_safe` of an adapter;
it is called with the run id, the operator and the reason. -/
structure Supervision (P R W : Type) where
  controller : Controller W
  arithmetic : Arithmetic R
  monotonic : P → Except Exn R × P
  latches : List (String → JsonObject → String → W → Except Exn Unit × W)
  append_event : Event → W → Except Exn Unit × W

/-- The calls of the controller that a service method makes. -/
inductive Control where
  | prepare
  | deliver (item_id : String)
  | skip (item_id reason : String)
  | resolve_checkpoint (checkpoint_id : String) (passed : Bool) (evidence_ids : List String)
      (reason : String) (checks : Option Json)

/-- The operation of the controller. -/
def Control.operation : Control → Controller.Operation
  | .prepare => .prepare
  | .deliver item_id => .deliver item_id
  | .skip item_id reason => .skip item_id reason
  | .resolve_checkpoint checkpoint_id passed evidence_ids reason checks =>
      .resolve_checkpoint checkpoint_id passed evidence_ids reason checks

/-- The calls of the scheduler that a service method makes. -/
inductive Timing where
  | start
  | pause
  | resume
  | advance_to (elapsed_seconds : Int)

/-- A method of the service in execution. It changes the simulation and the store, looks at them,
at the run and at the clock, calls the safety stop, another guarded method, the controller or the
scheduler, and finally returns or raises. -/
inductive ServiceCode (R W : Type) where
  | finish
  | raise (e : Exn)
  | act (effect : W → W) (next : W → ServiceCode R W)
  | inspect (next : ControllerView → ClockSupervisor R → ServiceCode R W)
  | fail_safe_stop (reason : String) (operator : Option JsonObject)
      (next : Except Exn Unit → ServiceCode R W)
  | guarded (body : ServiceCode R W) (next : Except Exn Unit → ServiceCode R W)
  | control (call : Control) (next : Except Exn Unit → ServiceCode R W)
  | timed (call : Timing) (next : Except Exn Unit → ServiceCode R W)

/-- The method calls the controller and the scheduler only inside guarded methods. -/
def ServiceCode.Unguarded {R W : Type} : ServiceCode R W → Prop
  | .finish => True
  | .raise _ => True
  | .act _ next => ∀ w, (next w).Unguarded
  | .inspect next => ∀ view clock, (next view clock).Unguarded
  | .fail_safe_stop _ _ next => ∀ r, (next r).Unguarded
  | .guarded _ next => ∀ r, (next r).Unguarded
  | .control _ _ => False
  | .timed _ _ => False

/-- A method that `runtime_mutation` does not guard. -/
structure UnguardedCode (R W : Type) where
  code : ServiceCode R W
  unguarded : code.Unguarded

namespace Supervision

variable {P R W : Type} (env : Supervision P R W)

/-! ## Parts of the service -/

/-- A call of the controller. -/
def onController {α : Type} (m : Py (ScenarioController W) α) : Py (Service P R W) α :=
  Raising.focus Service.controller (fun c s => { s with controller := c }) m

/-- A call that changes nothing but the world. -/
def onWorld (f : W → Except Exn Unit × W) : Py (Service P R W) Unit := fun s =>
  ((f s.controller.world).1,
    { s with controller := { s.controller with world := (f s.controller.world).2 } })

/-- Assign fields of the clock. -/
def setClock (f : ClockSupervisor R → ClockSupervisor R) : Py (Service P R W) Unit :=
  Raising.modify fun s => { s with clock := f s.clock }

/-- Append to the journal. -/
def note (entry : ClockEntry) : Py (Service P R W) Unit :=
  Raising.modify fun s => { s with journal := s.journal ++ [entry] }

/-- `self.monotonic()`. -/
def reading : Py (Service P R W) R := fun s =>
  ((env.monotonic s.provider).1, { s with provider := (env.monotonic s.provider).2 })

/-! ## The safety stop -/

/-- The roles that may stop a run. -/
def stopRoles : List String := ["facilitator", "technical_operator"]

/-- The components that `IdentitySliceRun.fail_safe_stop` stops, in order. -/
def stops (reason : String) (operator : JsonObject) : List (Py (Service P R W) Unit) :=
  (do
    let state ← Raising.gets fun s => s.controller.state
    if state ≠ .stopped then onController (env.controller.failSafeStop reason)) ::
  env.latches.map fun latch => do
    let run_id ← Raising.gets fun s => s.controller.run_id
    onWorld (latch run_id operator reason)

/-- `IdentitySliceRun.fail_safe_stop`. -/
def failSafeStop (reason : String) (operator : Option JsonObject) : Py (Service P R W) Unit := do
  Raising.require (fun _ => ¬ Blank reason) fun _ => controllerError "stop reason cannot be empty"
  Raising.require (fun _ => ∀ o ∈ operator, JsonObject.text o "role" ∈ stopRoles) fun _ =>
    controllerError "stop requires an exercise-control role"
  Raising.require (fun s => s.controller.state ≠ .completed) fun _ =>
    controllerError "completed run cannot be stopped"
  let errors ← Raising.attemptAll (env.stops reason
    ((operator.filter (· ≠ [])).getD (entity "facilitator" "facilitator" none (some "facilitator"))))
  Raising.require (fun _ => errors = []) fun _ =>
    controllerError "run stopped; safety cleanup or audit incomplete"

/-! ## The fault latch -/

/-- `entity("system", "exercise-clock", role="technical_operator")`. -/
def exerciseClock : JsonObject := entity "system" "exercise-clock" none (some "technical_operator")

/-- The context of the fault event. -/
def faultContext (s : Service P R W) : EventContext :=
  ⟨env.controller.definition.exercise_id, s.controller.run_id, "controller",
    "exercise-clock-supervisor", "1.0.0", none⟩

/-- The arguments of the fault event. -/
def faultCall (code : FaultCode) (cleanup_complete : Bool) (s : Service P R W) : EventCall where
  event_type := "exercise.clock.faulted"
  phase := "control"
  actor := exerciseClock
  action := "exercise.clock.stop"
  target := some (entity "scenario_run" s.controller.run_id none none)
  outcome_status := "failure"
  visibility := "facilitator"
  dry_run := false
  message := "Exercise clock fault latched; preserve evidence before recovery"
  safety_controls := ["fail-closed", "single-process", "no-catch-up"]
  data := some [("fault_code", .str code.value), ("cleanup_complete", .bool cleanup_complete)]

/-- Build the fault event and hand it to the store. -/
def auditFault (code : FaultCode) (cleanup_complete : Bool) : Py (Service P R W) Unit := do
  let context ← Raising.gets env.faultContext
  let call ← Raising.gets (faultCall code cleanup_complete)
  let event ← onController (Raising.focus (fun c => ((⟨context, 0⟩ : EventBuilder), c.world))
    (fun b c => { c with world := b.2 })
    (EventBuilder.build env.controller.formats env.controller.sources call))
  note (.audited event)
  onWorld (env.append_event event)

/-- The stop inside `fault`, with its outcome. -/
def faultStop : Py (Service P R W) (Except Exn Unit) := do
  let state ← Raising.gets fun s => s.controller.state
  if state = .completed then return .ok ()
  else Raising.attempt (env.failSafeStop "exercise clock safety stop" (some exerciseClock))

/-- `fault`. -/
def fault (code : String) : Py (Service P R W) Unit := do
  let latched ← Raising.gets fun s => s.clock.fault_code
  if latched.isSome then pure ()
  else do
    let code := FaultCode.ofString code
    setClock fun clock => { clock with fault_code := some code, cleanup_complete := some true }
    note (.latched code)
    let stopped ← env.faultStop
    let cleanup_complete := stopped.toBool
    setClock fun clock =>
      { clock with cleanup_complete := some cleanup_complete, audit_persisted := some false }
    let audited ← Raising.attempt (env.auditFault code cleanup_complete)
    setClock fun clock => { clock with audit_persisted := some audited.toBool }

/-! ## Health -/

/-- `_age`. -/
def age : Py (Service P R W) (Option R) := do
  match ← Raising.gets fun s => s.clock.last_heartbeat with
  | none => return none
  | some last_heartbeat =>
      match ← Raising.attempt env.reading with
      | .error _ => return none
      | .ok now =>
          let age := env.arithmetic.sub now last_heartbeat
          return if env.arithmetic.isfinite now && env.arithmetic.isfinite age &&
            env.arithmetic.nonnegative age then some age else none

/-- The `status` of `snapshot`. -/
def statusOf (clock : ClockSupervisor R) (age : Option R) : ClockStatus :=
  if clock.fault_code.isSome then .faulted
  else if !clock.managed then .unmonitored
  else if !clock.attached then .detached
  else match age with
    | none => .invalid_clock
    | some age => if env.arithmetic.exceedsStale age then .stale else .healthy

/-- The part of `snapshot` that calls the provider. -/
def status : Py (Service P R W) ClockStatus := do
  let age ← env.age
  Raising.gets fun s => env.statusOf s.clock age

/-- An item of the run has failed. -/
def AnyFailed (c : ScenarioController W) : Prop :=
  ∃ item ∈ env.controller.definition.items, (c.items item.item_id).status = .failed

instance (c : ScenarioController W) : Decidable (env.AnyFailed c) :=
  inferInstanceAs (Decidable (∃ item ∈ _, _))

/-- What the guard raises. -/
def unavailable : Exn :=
  controllerError "exercise clock unavailable; preserve evidence and reset safely"

/-- The end of `require_healthy` on an unhealthy clock. -/
def refuse (status : ClockStatus) : Py (Service P R W) Unit := do
  let latched ← Raising.gets fun s => s.clock.fault_code
  if latched.isNone then env.fault status.code
  Raising.raise unavailable

/-- `require_healthy`. -/
def requireHealthy : Py (Service P R W) Unit := do
  let status ← env.status
  let failed ← Raising.gets fun s => decide (status = .healthy ∧
    s.controller.state ∈ [RunState.running, RunState.paused] ∧ env.AnyFailed s.controller)
  if failed then do
    env.fault "scheduler_tick_failed"
    env.refuse .faulted
  else if status = .healthy ∨ status = .unmonitored then pure ()
  else env.refuse status

/-! ## The scheduler -/

/-- `start` of the scheduler. -/
def schedulerStart : Py (Service P R W) Unit := do
  onController env.controller.start
  let now ← env.reading
  Raising.modify fun s =>
    { s with last_observed := some now, fractional_seconds := env.arithmetic.zero }

/-- The part of `tick` after the difference to the last reading. -/
def advanceBy (now delta : R) : Py (Service P R W) Unit := do
  Raising.require (fun _ => env.arithmetic.negative delta = false) fun _ =>
    .of .RuntimeError "monotonic clock moved backwards"
  Raising.modify fun s => { s with last_observed := some now }
  let elapsed ← Raising.gets fun s => env.arithmetic.add s.fractional_seconds delta
  let complete_seconds ← Raising.ofExcept (env.arithmetic.int elapsed)
  Raising.modify fun s =>
    { s with fractional_seconds := env.arithmetic.subInt elapsed complete_seconds }
  let elapsed_seconds ← Raising.gets fun s => s.controller.elapsed_seconds
  if complete_seconds = 0 then pure ()
  else onController (env.controller.advanceTo (elapsed_seconds + complete_seconds))

/-- `tick` of the scheduler. -/
def schedulerTick : Py (Service P R W) Unit := do
  let state ← Raising.gets fun s => s.controller.state
  if state = .running then do
    let now ← env.reading
    match ← Raising.gets Service.last_observed with
    | none => Raising.modify fun s => { s with last_observed := some now }
    | some last_observed => env.advanceBy now (env.arithmetic.sub now last_observed)
  else pure ()

/-- `pause` of the scheduler. -/
def schedulerPause : Py (Service P R W) Unit := do
  env.schedulerTick
  onController env.controller.pause
  Raising.modify fun s => { s with last_observed := none }

/-- `resume` of the scheduler. -/
def schedulerResume : Py (Service P R W) Unit := do
  onController env.controller.resume
  let now ← env.reading
  Raising.modify fun s => { s with last_observed := some now }

/-- `advance_to` of the scheduler. -/
def schedulerAdvanceTo (elapsed_seconds : Int) : Py (Service P R W) Unit := do
  onController (env.controller.advanceTo elapsed_seconds)
  let now ← env.reading
  Raising.modify fun s =>
    { s with last_observed := some now, fractional_seconds := env.arithmetic.zero }

/-- A call of the scheduler. -/
def timing : Timing → Py (Service P R W) Unit
  | .start => env.schedulerStart
  | .pause => env.schedulerPause
  | .resume => env.schedulerResume
  | .advance_to elapsed_seconds => env.schedulerAdvanceTo elapsed_seconds

/-! ## The driver -/

/-- The part of `attach` inside the `try`. -/
def anchor : Py (Service P R W) Unit := do
  let now ← env.reading
  setClock fun clock => { clock with last_heartbeat := some now }
  let age ← env.age
  if age.isNone then env.fault "invalid_monotonic"

/-- `attach`. -/
def attach : Py (Service P R W) Unit := do
  Raising.require (fun s => s.clock.attached = false) fun _ =>
    controllerError "exercise clock already has a driver"
  setClock fun clock => { clock with managed := true, attached := true }
  match ← Raising.attempt env.anchor with
  | .ok _ => pure ()
  | .error _ => env.fault "invalid_monotonic"

/-- The part of `tick` inside the `try`. -/
def deliverTime : Py (Service P R W) Unit := do
  env.requireHealthy
  let was_running ← Raising.gets fun s => decide (s.controller.state = .running)
  note .scheduler_tick
  env.schedulerTick
  Raising.require (fun s => ¬ (was_running ∧
      (s.controller.state = .stopped ∨ env.AnyFailed s.controller))) fun _ =>
    controllerError "scheduled handler failed or stopped delivery"
  env.requireHealthy
  let now ← env.reading
  setClock fun clock => { clock with last_heartbeat := some now, ticks := clock.ticks + 1 }
  env.requireHealthy

/-- `tick`. -/
def tick : Py (Service P R W) Unit := do
  let idle ← Raising.gets fun s => s.clock.fault_code.isSome || !s.clock.attached
  if idle then pure ()
  else do
    match ← Raising.attempt env.deliverTime with
    | .ok _ => pure ()
    | .error _ => env.fault "scheduler_tick_failed"

/-- `detach`. -/
def detach : Py (Service P R W) Unit := do
  setClock fun clock => { clock with attached := false }
  let state ← Raising.gets fun s => s.controller.state
  if state ∈ [RunState.running, RunState.paused] then do
    match ← Raising.attempt
        (env.failSafeStop "exercise clock driver shutdown" (some exerciseClock)) with
    | .ok _ => pure ()
    | .error _ => env.fault "driver_failed"
  else pure ()

/-- The heartbeat that `reset` takes. -/
def resetHeartbeat : Py (Service P R W) (Option R) := do
  let attached ← Raising.gets fun s => s.clock.attached
  if attached then do
    let now ← env.reading
    Raising.require (fun _ => env.arithmetic.isfinite now = true) fun _ =>
      controllerError "exercise clock reset requires valid monotonic time"
    return some now
  else return none

/-- `reset` of the clock. -/
def resetClock : Py (Service P R W) Unit := do
  let heartbeat ← env.resetHeartbeat
  setClock fun clock =>
    { clock with
      fault_code := none
      cleanup_complete := none
      audit_persisted := none
      ticks := 0
      last_heartbeat := heartbeat }
  note .cleared

/-! ## Service methods -/

/-- A method body under `runtime_mutation`. -/
def guard (body : Py (Service P R W) Unit) : Py (Service P R W) Unit := do
  env.requireHealthy
  body

/-- The execution of a method. -/
def runCode : ServiceCode R W → Py (Service P R W) Unit
  | .finish => pure ()
  | .raise e => Raising.raise e
  | .act effect next => do
      let w ← Raising.step fun s => (effect s.controller.world,
        { s with controller := { s.controller with world := effect s.controller.world } })
      runCode (next w)
  | .inspect next => do
      let view ← Raising.gets fun s => s.controller.view
      let clock ← Raising.gets Service.clock
      runCode (next view clock)
  | .fail_safe_stop reason operator next => do
      let outcome ← Raising.attempt (env.failSafeStop reason operator)
      runCode (next outcome)
  | .guarded body next => do
      let outcome ← Raising.attempt (env.guard (runCode body))
      runCode (next outcome)
  | .control call next => do
      let outcome ← Raising.attempt (onController (env.controller.call call.operation))
      runCode (next outcome)
  | .timed call next => do
      let outcome ← Raising.attempt (env.timing call)
      runCode (next outcome)

/-- What a `reset_run` does between its calls of the controller, the scheduler and the clock: the
checks of the new run id and the review archive, the initialization of the run, and the cleanup. -/
structure Reset (R W : Type) where
  new_run_id : Option String
  archive : UnguardedCode R W
  setup : UnguardedCode R W
  cleanup : UnguardedCode R W
  report : UnguardedCode R W

/-- `reset_run`. -/
def resetRun (reset : Reset R W) : Py (Service P R W) Unit := do
  Raising.require (fun s => s.controller.state ∈ [RunState.stopped, RunState.completed]) fun _ =>
    controllerError "run must be stopped or completed before reset"
  env.runCode reset.archive.code
  onController (env.controller.reset reset.new_run_id)
  env.runCode reset.setup.code
  Raising.modify fun s =>
    { s with last_observed := none, fractional_seconds := env.arithmetic.zero }
  env.runCode reset.cleanup.code
  env.resetClock
  let _ ← env.status
  env.runCode reset.report.code

/-- The calls that the driver and the clients of the service make. -/
inductive Call (R W : Type) where
  | attach
  | tick
  | detach
  | fault (code : String)
  | snapshot
  | guarded (body : ServiceCode R W)
  | unguarded (method : UnguardedCode R W)
  | reset_run (reset : Reset R W)

/-- The execution of a call. -/
def execute : Call R W → Py (Service P R W) Unit
  | .attach => env.attach
  | .tick => env.tick
  | .detach => env.detach
  | .fault code => env.fault code
  | .snapshot => do
      let _ ← env.status
  | .guarded body => env.guard (env.runCode body)
  | .unguarded method => env.runCode method.code
  | .reset_run reset => env.resetRun reset

/-- The state after a call, whether it returned or raised. -/
def perform (call : Call R W) (s : Service P R W) : Service P R W := (env.execute call s).2

/-- `PortalService.__init__`. -/
def init (controller : ScenarioController W) (provider : P) : Service P R W :=
  ⟨controller, none, env.arithmetic.zero, {}, provider, []⟩

end Supervision

end NetStrike.Dashboard
