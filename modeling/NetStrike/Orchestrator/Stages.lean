import NetStrike.Orchestrator.SmallSteps
import NetStrike.Shared.SimulatedActions

/-!
# Stages of a run

A stage is a part of a run that some handlers of the controller change and nothing else of the
controller does. `Surroundings C O` is a run without its stage: the collaborators, which act on the
state `O`, and the other handlers, which may read the state `C` of the stage when they start.
`Surroundings.controller` is the run with its stage, whose handlers see the controller and act on
both states.
-/

set_option autoImplicit false

namespace NetStrike.Orchestrator

open NetStrike.Foundation NetStrike.Shared

/-! ## Handlers -/

namespace HandlerCode

variable {W : Type}

/-- Run a step and go on with its result. -/
def step {β : Type} (f : W → β × W) (next : β → HandlerCode W) : HandlerCode W :=
  .act id fun w => .act (fun _ => (f w).2) fun _ => next (f w).1

/-- A handler that is given the controller and then runs a computation on the world. -/
def ofPy (m : ControllerView → Py W HandlerReturn) : HandlerCode W :=
  .inspect fun view => .step (m view) fun outcome =>
    match outcome with
    | .ok result => .finish result
    | .error e => .raise e

/-- The handler beside a stage that it does not touch. -/
def aside (C : Type) : HandlerCode W → HandlerCode (C × W)
  | .finish result => .finish result
  | .raise e => .raise e
  | .act effect next => .act (fun w => (w.1, effect w.2)) fun w => aside C (next w.2)
  | .inspect next => .inspect fun view => aside C (next view)
  | .fail_safe_stop reason next => .fail_safe_stop reason fun outcome => aside C (next outcome)

/-- Every effect of the handler relates the world before to the world after by `Q`. -/
def Keeps (Q : W → W → Prop) : HandlerCode W → Prop
  | .finish _ => True
  | .raise _ => True
  | .act effect next => ∀ w, Q w (effect w) ∧ (next (effect w)).Keeps Q
  | .inspect next => ∀ view, (next view).Keeps Q
  | .fail_safe_stop _ next => ∀ outcome, (next outcome).Keeps Q

theorem keeps_aside (C : Type) (code : HandlerCode W) :
    (code.aside C).Keeps (Raising.Same Prod.fst) := by
  induction code with
  | finish result => trivial
  | raise e => trivial
  | act effect next ih => exact fun w => ⟨rfl, ih _⟩
  | inspect next ih => exact fun view => ih view
  | fail_safe_stop reason next ih => exact fun outcome => ih outcome

end HandlerCode

namespace Controller

variable {W : Type} (env : Controller W)

/-- A handler changes the world as its effects and the collaborators do. -/
theorem runHandler_world {Q : W → W → Prop} [Std.Refl Q] [IsTrans W Q] (hQ : env.Collaborates Q)
    {code : HandlerCode W} (hcode : code.Keeps Q) :
    ∀ c : ScenarioController W, Q c.world (env.runHandler code c).2.world := by
  induction code with
  | finish result => exact fun c => Std.Refl.refl c.world
  | raise e => exact fun c => Std.Refl.refl c.world
  | act effect next ih =>
      intro c
      obtain ⟨heffect, hnext⟩ := hcode c.world
      exact Trans.trans heffect (ih (effect c.world) hnext { c with world := effect c.world })
  | inspect next ih => exact fun c => ih c.view (hcode c.view) c
  | fail_safe_stop reason next ih =>
      intro c
      exact Trans.trans (env.failSafeStop_world hQ reason c)
        (ih (env.failSafeStop reason c).1 (hcode _) (env.failSafeStop reason c).2)

theorem runHandler_ofPy (m : ControllerView → Py W HandlerReturn) (c : ScenarioController W) :
    env.runHandler (.ofPy m) c =
      ((m c.view c.world).1, { c with world := (m c.view c.world).2 }) := by
  have hrun : env.runHandler (.ofPy m) c = env.runHandler (match (m c.view c.world).1 with
      | .ok result => .finish result
      | .error e => .raise e) { c with world := (m c.view c.world).2 } := rfl
  rw [hrun]
  cases (m c.view c.world).1 <;> rfl

end Controller

/-! ## Surroundings -/

/-- A run without one of its stages. -/
structure Surroundings (C O : Type) where
  definition : ScenarioDefinition
  event_sink : Event → O → Except Exn Unit × O
  handlers : String → Option (ScenarioItem → String → C → HandlerCode O)
  producer_version : String
  sources : EventSources O
  mfa_advance : Int → O → Except Exn Unit × O
  uuid4 : O → String × O
  monotonic : O → Rat × O
  formats : FormatChecker
  sha256 : String → String
  float_repr : Rat → String

/-- Run a step beside a stage that it does not touch. -/
def aside {C O α : Type} (f : O → α × O) (w : C × O) : α × (C × O) :=
  ((f w.2).1, (w.1, (f w.2).2))

namespace Surroundings

variable {C O : Type} (env : Surroundings C O)

/-- The run with its stage, given by the handlers of the stage. -/
def controller (stage : String → Option
    (ScenarioItem → String → ControllerView → Py (C × O) HandlerReturn)) : Controller (C × O) where
  definition := env.definition
  event_sink := fun event => aside (env.event_sink event)
  handlers := fun action_id =>
    match stage action_id with
    | some handle => some fun item run_id => .ofPy (handle item run_id)
    | none => (env.handlers action_id).map fun handler item run_id =>
        .act id fun w => (handler item run_id w.1).aside C
  producer_version := env.producer_version
  sources := ⟨env.sources.sequence_factory.map fun factory => aside factory,
    aside env.sources.clock, aside env.sources.event_id_factory⟩
  time_observers := [fun t => aside (env.mfa_advance t)]
  uuid4 := aside env.uuid4
  formats := env.formats

/-- The adapter of a simulated system of the run. No collaborator calls it back, so the depth of
such calls is nought. -/
def adapter {S : Type} (component run_id : String) (registry : ActionRegistry O S)
    (view : ControllerView) : Adapter O S where
  context := ⟨env.definition.exercise_id, run_id, "action_adapter", component, "1.0.0", none⟩
  registry := registry
  run_state := fun _ _ => .finish (.ok view.state.value)
  event_sink := fun event => .ofPy (env.event_sink event)
  monotonic := .step env.monotonic .finish
  sources := env.sources
  uuid4 := env.uuid4
  formats := env.formats
  sha256 := env.sha256
  float_repr := env.float_repr
  depth := 0

variable (stage : String → Option
  (ScenarioItem → String → ControllerView → Py (C × O) HandlerReturn))

/-- The collaborators leave the stage alone. -/
theorem collaborates : (env.controller stage).Collaborates (Raising.Same Prod.fst) where
  sink := fun _ _ => rfl
  sequence := by
    intro b w
    unfold EventBuilder.nextSequence controller
    cases env.sources.sequence_factory <;> rfl
  event_id := by
    intro call w
    unfold EventBuilder.eventId controller
    cases truthy call.event_id <;> rfl
  clock := by
    intro call w
    unfold EventBuilder.now controller
    cases call.timestamp <;> rfl
  observers := by
    intro observer hobserver t w
    rw [List.mem_singleton.mp hobserver]
    rfl

variable {stage}

/-- The delivery of an item of the stage runs the handler of the stage. -/
theorem execute_stage {item : ScenarioItem} {action_id : String}
    {handle : ScenarioItem → String → ControllerView → Py (C × O) HandlerReturn}
    (haction : item.action_id = some action_id) (hstage : stage action_id = some handle)
    (c : ScenarioController (C × O)) :
    (env.controller stage).execute item c =
      (.ok (Controller.judge (handle item c.run_id c.view c.world).1),
        { Controller.note (.handlerInvoked item.item_id) c with
          world := (handle item c.run_id c.view c.world).2 }) := by
  have hhandler : (env.controller stage).handlers action_id =
      some fun item run_id => .ofPy (handle item run_id) := by
    simp only [controller, hstage]
  have hrun := (env.controller stage).runHandler_ofPy (handle item c.run_id)
    (Controller.note (.handlerInvoked item.item_id) c)
  unfold Controller.execute
  simp only [haction, hhandler]
  rw [Raising.modify_bind_apply, Raising.gets_bind_apply, Raising.attempt_bind_apply]
  show (Except.ok (Controller.judge ((env.controller stage).runHandler
    (.ofPy (handle item c.run_id)) (Controller.note (.handlerInvoked item.item_id) c)).1),
    ((env.controller stage).runHandler (.ofPy (handle item c.run_id))
      (Controller.note (.handlerInvoked item.item_id) c)).2) = _
  rw [hrun]
  rfl

/-- The delivery of any other item leaves the stage alone. -/
theorem execute_other {item : ScenarioItem}
    (h : ∀ action_id, item.action_id = some action_id → stage action_id = none)
    (c : ScenarioController (C × O)) :
    ((env.controller stage).execute item c).2.world.1 = c.world.1 := by
  unfold Controller.execute
  cases haction : item.action_id with
  | none => rfl
  | some action_id =>
      have hnone := h action_id haction
      cases hhandler : env.handlers action_id with
      | none =>
          have hh : (env.controller stage).handlers action_id = none := by
            simp only [controller, hnone, hhandler, Option.map_none]
          simp only [hh]
          rfl
      | some handler =>
          have hh : (env.controller stage).handlers action_id = some fun item run_id =>
              .act id fun w => (handler item run_id w.1).aside C := by
            simp only [controller, hnone, hhandler, Option.map_some]
          simp only [hh]
          have haside : HandlerCode.Keeps (Raising.Same Prod.fst)
              (.act id fun w => (handler item c.run_id w.1).aside C) :=
            fun w => ⟨rfl, HandlerCode.keeps_aside C _⟩
          exact (env.controller stage).runHandler_world (env.collaborates stage) haside
            (Controller.note (.handlerInvoked item.item_id) c)

end Surroundings

end NetStrike.Orchestrator
