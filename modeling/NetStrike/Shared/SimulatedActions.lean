import NetStrike.Shared.Effects
import NetStrike.Shared.Numbering

/-!
# Actions on a simulated system

`make_action_request` of `shared/actions.py`, and the handlers of the simulated systems: a handler
checks its control and then runs a body that sees the simulation alone. Such a call of `execute`
changes the simulation as one run of the body of the registered action does, or not at all
(`execute_keeps`).
-/

set_option autoImplicit false

namespace NetStrike.Shared

open NetStrike.Foundation

/-! ## Requests -/

/-- The keyword arguments of `make_action_request`. -/
structure ActionCall where
  exercise_id : String
  run_id : String
  actor : JsonObject
  action_id : String
  target : JsonObject
  idempotency_key : String
  parameters : Option JsonObject := none
  dry_run : Bool := true
  timeout_seconds : Int := 30
  request_id : Option String := none

/-- The request that a call describes. -/
def ActionCall.request (call : ActionCall) (request_id timestamp : String) : JsonObject :=
  [("schema_version", .str "1.0.0"), ("record_type", .str "request"),
    ("request_id", .str request_id), ("idempotency_key", .str call.idempotency_key),
    ("timestamp", .str timestamp), ("exercise_id", .str call.exercise_id),
    ("run_id", .str call.run_id), ("actor", .obj call.actor), ("action_id", .str call.action_id),
    ("target", .obj call.target), ("parameters", .obj (redactMembers (call.parameters.getD []))),
    ("dry_run", .bool call.dry_run), ("timeout_seconds", .int call.timeout_seconds)]

/-- `make_action_request`. -/
def makeActionRequest {W : Type} (formats : FormatChecker) (clock : W → DateTime × W)
    (uuid4 : W → String × W) (call : ActionCall) : Py W JsonObject := do
  let request_id ← Raising.step fun w =>
    match truthy call.request_id with
    | some request_id => (request_id, w)
    | none => uuid4 w
  let now ← Raising.step clock
  let timestamp ← Raising.ofExcept (Adapter.timestamp now)
  Raising.ofExcept (ActionValidator.validate formats (call.request request_id timestamp))
  return call.request request_id timestamp

/-- A returned request is the one that the call describes. -/
theorem makeActionRequest_eq_ok {W : Type} {formats : FormatChecker} {clock : W → DateTime × W}
    {uuid4 : W → String × W} {call : ActionCall} {w w' : W} {request : JsonObject}
    (h : makeActionRequest formats clock uuid4 call w = (.ok request, w')) :
    ∃ request_id timestamp, request = call.request request_id timestamp := by
  unfold makeActionRequest at h
  rw [Raising.step_bind_apply] at h
  obtain ⟨now, w₁, -, h⟩ := Raising.bind_eq_ok h
  obtain ⟨timestamp, w₂, -, h⟩ := Raising.bind_eq_ok h
  obtain ⟨u, w₃, -, h⟩ := Raising.bind_eq_ok h
  rw [Raising.pure_apply] at h
  injection h with h _
  injection h with h
  exact ⟨_, timestamp, h.symm⟩

/-- Redaction keeps the name of the requested action. -/
theorem ActionCall.redacted_action_id (call : ActionCall) (request_id timestamp : String) :
    JsonObject.text (Adapter.redacted (call.request request_id timestamp)) "action_id" =
      call.action_id := by
  have hkey : sensitiveKeys.contains (normalizedKey "action_id") = false := by decide
  refine JsonObject.lookup_text ?_
  rw [Adapter.redacted, lookup_redactMembers, hkey]
  rfl

/-! ## Handlers -/

/-- Run a computation as the code of a collaborator. -/
def Callback.ofPy {V α : Type} (m : Py V α) : Callback V (Except Exn α) := .step m .finish

/-- A handler that checks its control and then runs `body` on the simulation. -/
def simulationHandler {W S : Type} (monotonic : W → Rat × W)
    (body : JsonObject → JsonObject → Py S ActionEffect) (parameters target : JsonObject)
    (control : ExecutionControl) : Callback (W × S) (Except Exn ActionEffect) :=
  .is_set control.request_id fun cancelled =>
    if cancelled then
      .finish (.error (.of .ActionCancelled "action cancelled by fail-safe stop"))
    else
      .step (fun v => ((monotonic v.1).1, ((monotonic v.1).2, v.2))) fun now =>
        if now ≤ control.deadline then
          .ofPy (Raising.focus Prod.snd (fun s v => (v.1, s)) (body parameters target))
        else .finish (.error (.of .TimeoutError "action deadline exceeded"))

/-- A rollback that checks its deadline and then runs `body` on the simulation. -/
def simulationRollback {W S : Type} (monotonic : W → Rat × W)
    (body : String → Py S (List String)) (token : String) (deadline : Rat) :
    Callback (W × S) (Except Exn (List String)) :=
  .step (fun v => ((monotonic v.1).1, ((monotonic v.1).2, v.2))) fun now =>
    if now ≤ deadline then .ofPy (Raising.focus Prod.snd (fun s v => (v.1, s)) (body token))
    else .finish (.error (.of .TimeoutError "action deadline exceeded"))

namespace Adapter

variable {W S : Type} (env : Adapter W S)

theorem onSimulation_step {α β : Type} (nested : Nested W S) (f : W × S → β × (W × S))
    (next : β → Callback (W × S) α) (a : SafeActionAdapter W S) :
    onSimulation nested (.step f next) a =
      onSimulation nested (next (f (a.world, a.simulation)).1)
        { a with
          world := (f (a.world, a.simulation)).2.1
          simulation := (f (a.world, a.simulation)).2.2 } := rfl

/-- A handler that runs a body changes the simulation as the body does, or not at all. -/
theorem onSimulation_simulationHandler (nested : Nested W S) (monotonic : W → Rat × W)
    (body : JsonObject → JsonObject → Py S ActionEffect) (parameters target : JsonObject)
    (control : ExecutionControl) (a : SafeActionAdapter W S) :
    let after :=
      (onSimulation nested (simulationHandler monotonic body parameters target control) a).2
    after.simulation = a.simulation ∨
      after.simulation = (body parameters target a.simulation).2 := by
  intro after
  have hafter : after =
      (onSimulation nested (if isSet control.request_id a then _ else _) a).2 := rfl
  rw [hafter]
  split
  · exact Or.inl rfl
  · rw [onSimulation_step]
    dsimp only
    split
    · exact Or.inr rfl
    · exact Or.inl rfl

/-- The handler of the definition runs `body`. -/
def RunsBody (definition : ActionDefinition W S)
    (body : JsonObject → JsonObject → Py S ActionEffect) : Prop :=
  ∃ monotonic, definition.handler = simulationHandler monotonic body

/-- A call relates the simulations before and after it as the body of the registered action does. -/
theorem execute_keeps {R : S → S → Prop} [Std.Refl R] {request : JsonObject}
    (hbody : ∀ definition, env.registry.get (JsonObject.text (redacted request) "action_id") =
      some definition → ∃ body, RunsBody definition body ∧ ∀ parameters target,
        (body parameters target).Keeps R)
    (a : SafeActionAdapter W S) : R a.simulation (env.execute request a).2.simulation := by
  by_cases hstart : ∃ definition started_at control a₁ a₂ a₃,
      env.Started (redacted request) definition started_at control a a₁ a₂ a₃
  · obtain ⟨definition, started_at, control, a₁, a₂, a₃, hstart⟩ := hstart
    obtain ⟨-, hregistered, -, -, -, -, hat⟩ := hstart.atHandler
    obtain ⟨body, ⟨monotonic, hhandler⟩, hR⟩ := hbody definition hregistered
    have hsimulation : (env.execute request a).2.simulation =
        (onSimulation env.nested (definition.handler
          (JsonObject.object (redacted request) "parameters")
          (JsonObject.object (redacted request) "target") control)
          (invoked (redacted request) control a₃)).2.simulation := by
      have hcomplete := env.completeAction_simulation definition (redacted request) started_at
        control a₃
      rw [← env.executeRedacted_of_started hstart] at hcomplete
      exact hcomplete
    rw [hsimulation, hhandler]
    have hstate : (invoked (redacted request) control a₃).simulation = a.simulation :=
      hat.simulation
    rcases onSimulation_simulationHandler env.nested monotonic body
      (JsonObject.object (redacted request) "parameters")
      (JsonObject.object (redacted request) "target") control
      (invoked (redacted request) control a₃) with hsame | hran
    · rw [hsame, hstate]
      exact Std.Refl.refl _
    · rw [hran, hstate]
      exact hR _ _ a.simulation
  · push Not at hstart
    have hsame : (env.execute request a).2.simulation = a.simulation :=
      (env.executeRedacted_of_not_started hstart).simulation
    rw [hsame]
    exact Std.Refl.refl _

/-- A stop leaves the simulation as it is. -/
theorem activateFailSafe_simulation (run_id : String) (operator : JsonObject) (reason : String)
    (a : SafeActionAdapter W S) :
    (env.activateFailSafe run_id operator reason a).2.simulation = a.simulation :=
  (env.beside_activateWith env.beside_nested run_id operator reason a).simulation

end Adapter

end NetStrike.Shared
