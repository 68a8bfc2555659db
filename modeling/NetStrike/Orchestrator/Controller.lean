import NetStrike.Orchestrator.Scenario

/-!
# The scenario controller

`orchestrator/controller.py`. The state `ScenarioController` holds the fields of the class that
change; the definition, the handlers, the sink, the observers and the clock are the environment
`Controller`. All of these act on a world `W`, which stands for everything outside the controller.

A handler is a program `HandlerCode` that changes the world, looks at it and at the run, calls
`fail_safe_stop` on the controller and finally returns or raises.

The `journal` is a ghost field: the state and status assignments, the handler invocations, the items
that `_deliver` processed and the emitted events in the order in which they happen.
-/

set_option autoImplicit false

namespace NetStrike.Orchestrator

open NetStrike.Foundation NetStrike.Shared

/-! ## States -/

/-- `RunState`. -/
inductive RunState where
  | ready
  | running
  | paused
  | stopped
  | completed
deriving DecidableEq

/-- The name of the state. -/
def RunState.value : RunState → String
  | ready => "ready"
  | running => "running"
  | paused => "paused"
  | stopped => "stopped"
  | completed => "completed"

/-- `ItemStatus`. -/
inductive ItemStatus where
  | pending
  | ready
  | delivered
  | skipped
  | failed
deriving DecidableEq

/-- The name of the status. -/
def ItemStatus.value : ItemStatus → String
  | pending => "pending"
  | ready => "ready"
  | delivered => "delivered"
  | skipped => "skipped"
  | failed => "failed"

/-- A status from which staff can deliver or skip the item. -/
def ItemStatus.Open (s : ItemStatus) : Prop := s = .pending ∨ s = .ready

instance (s : ItemStatus) : Decidable s.Open := inferInstanceAs (Decidable (_ ∨ _))

/-- `AutomationResult`. -/
structure AutomationResult where
  success : Bool
  message : String
  data : List (String × Json)
deriving DecidableEq

/-- `ItemRuntime`. -/
structure ItemRuntime where
  status : ItemStatus := .pending
  delivered_at_seconds : Option Int := none
  error : Option String := none
deriving DecidableEq

/-- What a handler returns: a result, or a value that is none. -/
inductive HandlerReturn where
  | automation (result : AutomationResult)
  | other
deriving DecidableEq

/-- What a handler may read of the controller. -/
structure ControllerView where
  run_id : String
  state : RunState
  elapsed_seconds : Int
  items : String → ItemRuntime
  checkpoint_results : String → Option CheckpointOutcome

/-- A handler in execution. -/
inductive HandlerCode (W : Type) where
  | finish (result : HandlerReturn)
  | raise (e : Exn)
  | act (effect : W → W) (next : W → HandlerCode W)
  | inspect (next : ControllerView → HandlerCode W)
  | fail_safe_stop (reason : String) (next : Except Exn Unit → HandlerCode W)

/-- One observable step of the controller. -/
inductive JournalEntry where
  | stateSet (state : RunState)
  | statusSet (item_id : String) (status : ItemStatus)
  | processed (item : ScenarioItem) (actor_role : String)
  | handlerInvoked (item_id : String)
  | emitted (event : Event)
deriving DecidableEq

/-- The mutable fields of `ScenarioController`, with the journal and the world. -/
structure ScenarioController (W : Type) where
  run_id : String
  state : RunState
  elapsed_seconds : Int
  items : String → ItemRuntime
  checkpoint_results : String → Option CheckpointOutcome
  events : EventBuilder
  journal : List JournalEntry
  world : W

/-- The controller as a handler sees it. -/
def ScenarioController.view {W : Type} (c : ScenarioController W) : ControllerView :=
  ⟨c.run_id, c.state, c.elapsed_seconds, c.items, c.checkpoint_results⟩

/-- The fixed fields of `ScenarioController`, and the format checks of the validator. -/
structure Controller (W : Type) where
  definition : ScenarioDefinition
  event_sink : Event → W → Except Exn Unit × W
  handlers : String → Option (ScenarioItem → String → HandlerCode W)
  producer_version : String
  sources : EventSources W
  time_observers : List (Int → W → Except Exn Unit × W)
  uuid4 : W → String × W
  formats : FormatChecker

namespace Controller

variable {W : Type} (env : Controller W)

/-! ## Assignments -/

/-- `self.state = state`. -/
def setState (state : RunState) (c : ScenarioController W) : ScenarioController W :=
  { c with state := state, journal := c.journal ++ [.stateSet state] }

/-- Assign the runtime of an item. -/
def setItem (item_id : String) (runtime : ItemRuntime) (c : ScenarioController W) :
    ScenarioController W :=
  { c with
    items := Function.update c.items item_id runtime
    journal := c.journal ++ [.statusSet item_id runtime.status] }

/-- Append to the journal. -/
def note (entry : JournalEntry) (c : ScenarioController W) : ScenarioController W :=
  { c with journal := c.journal ++ [entry] }

/-- The builder of the run `run_id`. -/
def newBuilder (run_id : String) : EventBuilder :=
  ⟨⟨env.definition.exercise_id, run_id, "controller", "scenario-controller",
    env.producer_version, none⟩, 0⟩

/-- `ScenarioController.__init__`. -/
def init (run_id : String) (world : W) : ScenarioController W where
  run_id := run_id
  state := .ready
  elapsed_seconds := 0
  items := fun _ => {}
  checkpoint_results := fun _ => none
  events := env.newBuilder run_id
  journal := []
  world := world

/-! ## Events -/

/-- `{**base, **extra}`. -/
def mergeMembers (base extra : List (String × Json)) : List (String × Json) :=
  extra.foldl (fun ms m =>
    if ms.any fun n => n.1 == m.1 then ms.map fun n => if n.1 == m.1 then m else n
    else ms ++ [m]) base

/-- The arguments that `_emit` passes to the builder. -/
def emitCall (c : ScenarioController W) (event_type action message status : String)
    (item : Option ScenarioItem) (actor_role : String) (data : List (String × Json)) :
    EventCall where
  event_type := event_type
  phase := match item with
    | some item => item.phase.value
    | none => "control"
  actor := entity "system" actor_role none (some actor_role)
  action := action
  target := match item with
    | some item => some (entity "msel_item" item.item_id (some item.title) none)
    | none => some (entity "scenario_run" c.run_id none none)
  outcome_status := status
  message := message
  visibility := match item with
    | some item => item.visibility.value
    | none => "facilitator"
  safety_controls := ["reviewed-msel", "allowlisted-actions", "fail-safe-stop"]
  objective_ids := match item with
    | some item => item.objective_ids
    | none => []
  checkpoint_id := item.bind ScenarioItem.checkpoint_id
  data := some (mergeMembers [("scenario_id", .str env.definition.scenario_id),
    ("elapsed_seconds", .int c.elapsed_seconds)] data)

/-- The builder and the world of a controller. -/
def buildState (c : ScenarioController W) : EventBuilder × W := (c.events, c.world)

/-- Write back the builder and the world. -/
def withBuildState (s : EventBuilder × W) (c : ScenarioController W) : ScenarioController W :=
  { c with events := s.1, world := s.2 }

/-- `_emit`. -/
def emit (event_type action message status : String) (item : Option ScenarioItem)
    (actor_role : String) (data : List (String × Json)) : Py (ScenarioController W) Unit := do
  let call ← Raising.gets fun c =>
    env.emitCall c event_type action message status item actor_role data
  let event ← Raising.focus buildState withBuildState
    (EventBuilder.build env.formats env.sources call)
  Raising.modify (note (.emitted event))
  let accepted ← Raising.step fun c =>
    ((env.event_sink event c.world).1, { c with world := (env.event_sink event c.world).2 })
  Raising.ofExcept accepted

/-! ## Guards -/

/-- Raise a `ControllerError`. -/
def controllerError (message : String) : Exn := .of .ControllerError message

/-- `_require_state`. -/
def requireState (allowed : List RunState) : Py (ScenarioController W) Unit :=
  Raising.require (fun c => c.state ∈ allowed) fun c => controllerError
    ("operation requires state " ++ ", ".intercalate (allowed.map RunState.value) ++
      "; current state is " ++ c.state.value)

/-- The states in which staff can work on items. -/
def playable : List RunState := [.ready, .running, .paused]

/-- `_definition`. -/
def find (item_id : String) : Except Exn ScenarioItem :=
  match env.definition.items.find? fun item => item.item_id == item_id with
  | some item => .ok item
  | none => .error (controllerError s!"unknown MSEL item: {item_id}")

/-! ## The stop, and handlers that call it -/

/-- `fail_safe_stop`. -/
def failSafeStop (reason : String) : Py (ScenarioController W) Unit := do
  requireState playable
  Raising.require (fun _ => ¬ Blank reason) fun _ => controllerError "stop reason is required"
  Raising.modify (setState .stopped)
  env.emit "scenario.run.stopped" "scenario.stop" s!"Fail-safe stop: {strip reason}" "cancelled"
    none "controller" [("reason", .str (strip reason))]

/-- The execution of a handler. -/
def runHandler : HandlerCode W → Py (ScenarioController W) HandlerReturn
  | .finish result => pure result
  | .raise e => Raising.raise e
  | .act effect next => do
      let w ← Raising.step fun c => (effect c.world, { c with world := effect c.world })
      runHandler (next w)
  | .inspect next => do
      let view ← Raising.gets ScenarioController.view
      runHandler (next view)
  | .fail_safe_stop reason next => do
      let outcome ← Raising.attempt (env.failSafeStop reason)
      runHandler (next outcome)

/-! ## Delivery -/

/-- `_fail_item`. -/
def failItem (item : ScenarioItem) (reason : String) (data : List (String × Json)) :
    Py (ScenarioController W) Unit := do
  Raising.modify fun c => setItem item.item_id
    { c.items item.item_id with status := .failed, error := some reason } c
  env.emit "scenario.item.failed" (item.action_id.getD "scenario.deliver")
    s!"{item.item_id} failed: {reason}" "error" (some item) "controller"
    (mergeMembers [("item_kind", .str item.kind.value)] data)

/-- The successful end of `_deliver`. -/
def completeItem (item : ScenarioItem) (actor_role message : String)
    (data : List (String × Json)) : Py (ScenarioController W) Unit := do
  Raising.modify fun c => setItem item.item_id
    ⟨.delivered, some c.elapsed_seconds, none⟩ c
  env.emit "scenario.item.delivered" (item.action_id.getD "scenario.deliver") message "success"
    (some item) actor_role (mergeMembers [("item_kind", .str item.kind.value)] data)
  if item.kind = .endMarker then Raising.modify (setState .completed) else pure ()

/-- What `_deliver` makes of the outcome of a handler: the message and the data of a success, or
the reason and the data of a failure. -/
def judge : Except Exn HandlerReturn →
    Except (String × List (String × Json)) (String × List (String × Json))
  | .error e => .error (s!"handler raised {e.type.name}", [])
  | .ok .other => .error ("handler returned an invalid result", [])
  | .ok (.automation result) =>
      if result.success then .ok (result.message, result.data)
      else .error (result.message, result.data)

/-- The first part of `_deliver`: the handler of the item, if it has one. -/
def execute (item : ScenarioItem) : Py (ScenarioController W)
    (Except (String × List (String × Json)) (String × List (String × Json))) :=
  match item.action_id with
  | none => pure (.ok (item.summary, []))
  | some action_id =>
      match env.handlers action_id with
      | none => pure (.error (s!"no allowlisted handler for {action_id}", []))
      | some handler => do
          Raising.modify (note (.handlerInvoked item.item_id))
          let run_id ← Raising.gets ScenarioController.run_id
          let outcome ← Raising.attempt (env.runHandler (handler item run_id))
          return judge outcome

/-- `_deliver`. -/
def deliverItem (item : ScenarioItem) (actor_role : String) :
    Py (ScenarioController W) Unit := do
  let outcome ← env.execute item
  Raising.modify (note (.processed item actor_role))
  match outcome with
  | .ok (message, data) => env.completeItem item actor_role message data
  | .error (reason, data) => env.failItem item reason data

/-- The item becomes ready for a facilitator. -/
def readyItem (item : ScenarioItem) : Py (ScenarioController W) Unit := do
  Raising.modify fun c => setItem item.item_id { c.items item.item_id with status := .ready } c
  env.emit "scenario.item.ready" "scenario.ready"
    s!"{item.item_id} is ready for facilitator delivery" "pending" (some item) "controller"
    [("item_kind", .str item.kind.value)]

/-- `_make_due`. -/
def makeDue (item : ScenarioItem) : Py (ScenarioController W) Unit := do
  let status ← Raising.gets fun c => (c.items item.item_id).status
  if status ≠ .pending then pure ()
  else if item.Waits then env.readyItem item
  else env.deliverItem item "controller"

/-! ## Time -/

/-- The items in the order of a key; equal keys keep their order. -/
def sortItems (le : ScenarioItem → ScenarioItem → Bool) (items : List ScenarioItem) :
    List ScenarioItem :=
  items.insertionSort fun a b => le a b

/-- `item.trigger.seconds` of an elapsed trigger. -/
def seconds (item : ScenarioItem) : Option Int :=
  match item.trigger.trigger_type with
  | .elapsed seconds => some seconds
  | _ => none

/-- `_advance_clock`. -/
def advanceClock (elapsed_seconds : Int) : Py (ScenarioController W) Unit := do
  Raising.modify fun c => { c with elapsed_seconds := elapsed_seconds }
  Raising.forEach (fun observer => do
    let outcome ← Raising.step fun c =>
      ((observer elapsed_seconds c.world).1, { c with world := (observer elapsed_seconds c.world).2 })
    Raising.ofExcept outcome) env.time_observers

/-- The items that `prepare` processes. -/
def preExercise : List ScenarioItem :=
  sortItems (fun a b => a.trigger.order ≤ b.trigger.order)
    (env.definition.items.filter fun item => item.trigger.trigger_type = .pre_exercise)

/-- `prepare`. -/
def prepare : Py (ScenarioController W) Unit := do
  requireState [.ready]
  Raising.forEach env.makeDue env.preExercise

/-- The items that `advance_to` processes. -/
def due (elapsed_seconds : Int) (c : ScenarioController W) : List ScenarioItem :=
  sortItems (fun a b => (seconds a).getD 0 < (seconds b).getD 0 ∨
      (seconds a).getD 0 = (seconds b).getD 0 ∧ a.trigger.order ≤ b.trigger.order)
    (env.definition.items.filter fun item =>
      (match seconds item with
        | some seconds => decide (seconds ≤ elapsed_seconds)
        | none => false) && decide ((c.items item.item_id).status = .pending))

/-- One due item of `advance_to`. -/
def advanceItem (item : ScenarioItem) : Py (ScenarioController W) Unit := do
  env.advanceClock ((seconds item).getD 0)
  env.makeDue item

/-- `advance_to`; an argument that is no integer is left out. -/
def advanceTo (elapsed_seconds : Int) : Py (ScenarioController W) Unit := do
  requireState [.running]
  Raising.require (fun c => c.elapsed_seconds ≤ elapsed_seconds) fun _ =>
    controllerError "elapsed time must be a non-decreasing integer"
  let due ← Raising.gets (env.due elapsed_seconds)
  Raising.forEach env.advanceItem due
  env.advanceClock elapsed_seconds

/-- Leave the state `before` for the state `after` and say so. -/
def changeState (before after : RunState) (event_type action message : String) :
    Py (ScenarioController W) Unit := do
  requireState [before]
  Raising.modify (setState after)
  env.emit event_type action message "success" none "controller" []

/-- The first part of `start`. -/
def beginPlay : Py (ScenarioController W) Unit :=
  env.changeState .ready .running "scenario.run.started" "scenario.start"
    s!"Started {env.definition.name}"

/-- `start`. -/
def start : Py (ScenarioController W) Unit := do
  env.beginPlay
  env.advanceTo 0

/-- `pause`. -/
def pause : Py (ScenarioController W) Unit :=
  env.changeState .running .paused "scenario.run.paused" "scenario.pause"
    "Scenario timing paused by facilitator"

/-- `resume`. -/
def resume : Py (ScenarioController W) Unit :=
  env.changeState .paused .running "scenario.run.resumed" "scenario.resume"
    "Scenario timing resumed by facilitator"

/-! ## Staff actions -/

/-- `deliver`. -/
def deliver (item_id : String) : Py (ScenarioController W) Unit := do
  requireState playable
  let item ← Raising.ofExcept (env.find item_id)
  Raising.require (fun c => (c.items item_id).status.Open) fun c => controllerError
    s!"{item_id} cannot be delivered from {(c.items item_id).status.value}"
  env.deliverItem item "facilitator"

/-- `skip`. -/
def skip (item_id reason : String) : Py (ScenarioController W) Unit := do
  requireState playable
  Raising.require (fun _ => ¬ Blank reason) fun _ => controllerError "skip reason is required"
  let item ← Raising.ofExcept (env.find item_id)
  Raising.require (fun c => (c.items item_id).status.Open) fun c => controllerError
    s!"{item_id} cannot be skipped from {(c.items item_id).status.value}"
  Raising.modify fun c => setItem item_id
    { c.items item_id with status := .skipped, error := some (strip reason) } c
  env.emit "scenario.item.skipped" "scenario.skip" s!"{item_id} skipped: {strip reason}" "skipped"
    (some item) "facilitator" [("item_kind", .str item.kind.value), ("reason", .str (strip reason))]

/-! ## Checkpoints -/

/-- The result that `passed` stands for. -/
def resultOf (passed : Bool) : CheckpointOutcome := if passed then .pass else .miss

/-- `checks` is missing or maps names to Booleans. -/
def ChecksValid : Option Json → Prop
  | none => True
  | some (.obj members) => ∀ m ∈ members, JsonType.boolean.admits m.2 = true
  | some _ => False

instance : DecidablePred ChecksValid := fun checks => by
  unfold ChecksValid
  split <;> infer_instance

/-- The branches of a checkpoint in trigger order. -/
def branches (checkpoint_id : String) : List ScenarioItem :=
  sortItems (fun a b => a.trigger.order ≤ b.trigger.order)
    (env.definition.items.filter fun item => item.isBranchOf checkpoint_id)

/-- One branch of the loop in `resolve_checkpoint`. Nothing leaves the stopped state inside the
loop, so to break out of it is to pass over the branches that are left. -/
def resolveBranch (checkpoint_id : String) (result : CheckpointOutcome) (branch : ScenarioItem) :
    Py (ScenarioController W) Unit := do
  let state ← Raising.gets ScenarioController.state
  if state = .stopped then pure ()
  else if branch.branchOutcome = some result then env.makeDue branch
  else env.skip branch.item_id s!"opposite {checkpoint_id} branch selected"

/-- The checks of `resolve_checkpoint`, which return the checkpoint item. -/
def checkResolution (checkpoint_id : String) (reason : String) (checks : Option Json) :
    Py (ScenarioController W) ScenarioItem := do
  requireState [.running, .paused]
  let item ← Raising.ofExcept (env.find checkpoint_id)
  Raising.require (fun _ => item.kind = .checkpoint) fun _ =>
    controllerError s!"{checkpoint_id} is not a checkpoint"
  Raising.require (fun c => (c.items checkpoint_id).status.Open) fun c => controllerError
    s!"{checkpoint_id} cannot be resolved from {(c.items checkpoint_id).status.value}"
  Raising.require (fun _ => ¬ Blank reason) fun _ => controllerError "checkpoint reason is required"
  Raising.require (fun _ => ChecksValid checks) fun _ =>
    controllerError "checkpoint checks must map names to boolean observations"
  return item

/-- Record a result. -/
def recordResult (checkpoint_id : String) (result : CheckpointOutcome)
    (c : ScenarioController W) : ScenarioController W :=
  let c := setItem checkpoint_id { c.items checkpoint_id with
    status := .delivered, delivered_at_seconds := some c.elapsed_seconds } c
  { c with checkpoint_results := Function.update c.checkpoint_results checkpoint_id (some result) }

/-- Emit the resolution event. -/
def emitResolution (item : ScenarioItem) (checkpoint_id : String) (passed : Bool)
    (evidence_ids : List String) (reason : String) (checks : Option Json) :
    Py (ScenarioController W) Unit :=
  env.emit "scenario.checkpoint.resolved" "scenario.checkpoint.evaluate"
    s!"{checkpoint_id} result: {(resultOf passed).value} — {strip reason}"
    (if passed then "success" else "failure") (some item) "facilitator"
    ([("result", .str (resultOf passed).value), ("reason", .str (strip reason)),
      ("evidence_ids", Json.strs (firstOccurrences evidence_ids))] ++
      optionalMember "verifier_checks" checks)

/-- `resolve_checkpoint`. -/
def resolveCheckpoint (checkpoint_id : String) (passed : Bool) (evidence_ids : List String)
    (reason : String) (checks : Option Json) : Py (ScenarioController W) Unit := do
  let item ← env.checkResolution checkpoint_id reason checks
  Raising.modify (recordResult checkpoint_id (resultOf passed))
  env.emitResolution item checkpoint_id passed evidence_ids reason checks
  Raising.forEach (env.resolveBranch checkpoint_id (resultOf passed)) (env.branches checkpoint_id)

/-! ## Reset -/

/-- `reset`; the journal starts anew with the run. -/
def reset (new_run_id : Option String) : Py (ScenarioController W) Unit := do
  requireState [.stopped, .completed]
  let previous_run_id ← Raising.gets ScenarioController.run_id
  let run_id ← Raising.step fun c =>
    match truthy new_run_id with
    | some run_id => (run_id, c)
    | none => ((env.uuid4 c.world).1, { c with world := (env.uuid4 c.world).2 })
  Raising.modify fun c => env.init run_id c.world
  env.emit "scenario.run.reset" "scenario.reset" "Controller state reset for a new run" "success"
    none "controller" [("previous_run_id", .str previous_run_id)]

/-! ## Operations -/

/-- The operations of the controller. -/
inductive Operation where
  | prepare
  | start
  | pause
  | resume
  | advance_to (elapsed_seconds : Int)
  | deliver (item_id : String)
  | skip (item_id reason : String)
  | resolve_checkpoint (checkpoint_id : String) (passed : Bool) (evidence_ids : List String)
      (reason : String) (checks : Option Json)
  | fail_safe_stop (reason : String)
  | reset (new_run_id : Option String)

/-- The call that an operation makes. -/
def call : Operation → Py (ScenarioController W) Unit
  | .prepare => env.prepare
  | .start => env.start
  | .pause => env.pause
  | .resume => env.resume
  | .advance_to elapsed_seconds => env.advanceTo elapsed_seconds
  | .deliver item_id => env.deliver item_id
  | .skip item_id reason => env.skip item_id reason
  | .resolve_checkpoint checkpoint_id passed evidence_ids reason checks =>
      env.resolveCheckpoint checkpoint_id passed evidence_ids reason checks
  | .fail_safe_stop reason => env.failSafeStop reason
  | .reset new_run_id => env.reset new_run_id

/-- The state after an operation, whether it returned or raised. -/
def perform (op : Operation) (c : ScenarioController W) : ScenarioController W := (env.call op c).2

/-- The small scenario under a sink that accepts everything, without handlers and observers. -/
def sample (endDelivery : DeliveryMode) : Controller Unit where
  definition := sampleScenario endDelivery
  event_sink := fun _ w => (.ok (), w)
  handlers := fun _ => none
  producer_version := "1.0.0"
  sources := ⟨none, fun w => (⟨true, 0⟩, w), fun w => ("6f1c0e0a-0000-4000-8000-000000000001", w)⟩
  time_observers := []
  uuid4 := fun w => ("6f1c0e0a-0000-4000-8000-000000000002", w)
  formats := FormatChecker.lenient

end Controller

end NetStrike.Orchestrator
