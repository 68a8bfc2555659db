import NetStrike.Foundation.Undo
import NetStrike.Shared.SimulatedActions

/-!
# Rollback of executed actions

`SafeActionAdapter.rollback` of `shared/actions.py`. `Undoable` says what a simulated system shows
and what it has saved under tokens; `Undoes` says of a registered action that it saves what it
overwrites, and of its rollback that it puts this back. An adapter over such actions is an undo
ledger: executions are recorded changes (`records_of_executes`), and a rollback is an undo
(`ledger_rollback`). `_executions` is kept by the request id, so a request id that is used again
gives up the token of its first action.
-/

set_option autoImplicit false

namespace NetStrike.Shared

open NetStrike.Foundation

/-! ## Simulated systems that save what they overwrite -/

/-- What the state of a simulated system shows, and how to put back what is saved under a token. The
tokens of a valid state were all made by its counter. -/
structure Undoable (S ν : Type) where
  view : S → ν
  saved : S → String → Option (ν → ν)
  valid : S → Prop

namespace Undoable

variable {S ν : Type} (U : Undoable S ν)

/-- A body that returns saves what it has overwritten under a new token, or changes nothing. -/
structure Saves (body : Py S ActionEffect) : Prop where
  keeps : body.Keeps (Raising.Onward U.valid)
  unsaved : ∀ s effect s', body s = (.ok effect, s') → truthy effect.rollback_token = none →
    U.view s' = U.view s ∧ U.saved s' = U.saved s
  saves : ∀ s effect s' token, U.valid s → body s = (.ok effect, s') →
    truthy effect.rollback_token = some token → U.saved s token = none ∧
      ∃ restore, restore (U.view s') = U.view s ∧
        U.saved s' = Function.update (U.saved s) token (some restore)

/-- A rollback puts back what is saved under its token and drops the token; without a token it raises
and changes nothing. -/
structure Restores (body : String → Py S (List String)) : Prop where
  keeps : ∀ token, (body token).Keeps (Raising.Onward U.valid)
  unknown : ∀ token s, U.saved s token = none → ∃ e, body token s = (.error e, s)
  known : ∀ token s restore, U.saved s token = some restore →
    ∃ changes s', body token s = (.ok changes, s') ∧ U.view s' = restore (U.view s) ∧
      U.saved s' = Function.update (U.saved s) token none

end Undoable

namespace Adapter

variable {W S ν : Type} (env : Adapter W S)

/-! ## `rollback` -/

/-- The part of `rollback` after the handler: the check of the control and the audit. -/
def confirmRollback (definition : ActionDefinition W S) (request operator : JsonObject)
    (deadline : Rat) (changes : List String) : Py (SafeActionAdapter W S) (List String) := do
  let now ← onWorld env.nested env.monotonic
  Raising.require (fun _ => now ≤ deadline) fun _ => .of .TimeoutError "action deadline exceeded"
  env.emit (setEntry "actor" (.obj operator) request) "action.rollback.completed" "success"
    "Action rollback completed" definition.phase true
    [("effects", Json.strs changes), ("method", .str definition.rollback_method)]
  return changes

/-- The part of `rollback` after its checks. -/
def undoAction (definition : ActionDefinition W S) (request operator : JsonObject)
    (token : String) : Py (SafeActionAdapter W S) (List String) := do
  let now ← onWorld env.nested env.monotonic
  let answer ← onSimulation env.nested
    (definition.rollback_handler token (now + definition.max_timeout_seconds))
  let changes ← Raising.ofExcept answer
  env.confirmRollback definition request operator (now + definition.max_timeout_seconds) changes

/-- `rollback`. -/
def rollback (request_id : String) (operator : JsonObject) :
    Py (SafeActionAdapter W S) (List String) := do
  let execution ← Raising.gets fun a => a.executions request_id
  match execution with
  | none => Raising.raise (.of .ActionContractError "no rollback-capable execution found")
  | some (definition, request, effect) => do
      Raising.require (fun _ => operator.text "role" ∈ controlRoles) fun _ =>
        .of .ActionContractError "rollback requires an exercise-control role"
      match truthy effect.rollback_token with
      | none =>
          Raising.raise (.of .ActionContractError "execution did not return a rollback token")
      | some token => env.undoAction definition request operator token

/-- The rollback is not late. -/
def rollbackInTime (request_id : String) (operator : JsonObject) (a : SafeActionAdapter W S) :
    Bool :=
  match (env.rollback request_id operator a).1 with
  | .ok _ => true
  | .error e => e.type != .TimeoutError

theorem type_of_rollbackInTime {request_id : String} {operator : JsonObject}
    {a : SafeActionAdapter W S} {e : Exn} (h : env.rollbackInTime request_id operator a = true)
    (he : (env.rollback request_id operator a).1 = .error e) : e.type ≠ .TimeoutError := by
  unfold rollbackInTime at h
  rw [he] at h
  exact bne_iff_ne.mp h

/-! ## Successful executions -/

/-- The call stores a new result that says that the action was executed. -/
def Executes (request : JsonObject) (a : SafeActionAdapter W S) : Prop :=
  a.results (key (redacted request)) = none ∧
    ∃ result, (env.execute request a).2.results (key (redacted request)) = some result ∧
      result.status = .executed

/-- `Executes`, as a test. -/
def Succeeds (request : JsonObject) (a : SafeActionAdapter W S) : Prop :=
  (a.results (key (redacted request))).isNone = true ∧
    ((env.execute request a).2.results (key (redacted request))).map (fun result => result.status) =
      some .executed

instance (request : JsonObject) (a : SafeActionAdapter W S) :
    Decidable (env.Succeeds request a) :=
  inferInstanceAs (Decidable (_ ∧ _))

theorem Succeeds.executes {env : Adapter W S} {request : JsonObject} {a : SafeActionAdapter W S}
    (h : env.Succeeds request a) : env.Executes request a := by
  obtain ⟨hnew, hstatus⟩ := h
  obtain ⟨result, hresult, hexecuted⟩ := Option.map_eq_some_iff.mp hstatus
  exact ⟨Option.isNone_iff_eq_none.mp hnew, result, hresult, hexecuted⟩

/-- What an executed call did: its handler returned, nothing touched the simulation afterwards, and
the execution is remembered under the request id. -/
structure ExecutedAs (request : JsonObject) (a : SafeActionAdapter W S)
    (definition : ActionDefinition W S) (control : ExecutionControl) (effect : ActionEffect)
    (a₃ b a' : SafeActionAdapter W S) : Prop where
  registered : env.registry.get (request.text "action_id") = some definition
  simulation : (invoked request control a₃).simulation = a.simulation
  returned : env.callHandler definition request control (invoked request control a₃) =
    (.ok effect, b)
  kept : a'.simulation = b.simulation
  remembered : a'.executions = Function.update a.executions (request.text "request_id")
    (some (definition, request, effect))

/-- A returned action is the outcome of its handler, and the check after it leaves the simulation
alone. -/
theorem callHandler_of_runAction {definition : ActionDefinition W S} {request : JsonObject}
    {control : ExecutionControl} {a b : SafeActionAdapter W S} {effect : ActionEffect}
    (h : env.runAction definition request control a = (.ok effect, b)) :
    ∃ b', env.callHandler definition request control (invoked request control a) =
      (.ok effect, b') ∧ b.simulation = b'.simulation := by
  cases hcall : env.callHandler definition request control (invoked request control a) with
  | mk r b' =>
      cases r with
      | error e =>
          rw [env.runAction_of_error hcall] at h
          cases h
      | ok effect' =>
          rw [env.runAction_of_ok hcall] at h
          have hvalue : ((env.checkpoint control >>= fun _ => pure effect') b').1 = .ok effect := by
            rw [h]
          have hstate := Raising.bind_pure_state (env.checkpoint control) effect' b'
          rw [h] at hstate
          refine ⟨b', by rw [Raising.bind_pure_value hvalue], ?_⟩
          rw [show b = (env.checkpoint control b').2 from hstate]
          exact (env.beside_checkpoint control b').simulation

/-- An executed call went through its handler and was remembered. -/
theorem executedAs_of_executes {request : JsonObject} {a : SafeActionAdapter W S}
    (h : env.Executes request a) : ∃ definition control effect a₃ b,
      env.ExecutedAs (redacted request) a definition control effect a₃ b
        (env.execute request a).2 := by
  obtain ⟨hnew, result, hstored, hexecuted⟩ := h
  by_cases hstart : ∃ definition started_at control a₁ a₂ a₃,
      env.Started (redacted request) definition started_at control a a₁ a₂ a₃
  · obtain ⟨definition, started_at, control, a₁, a₂, a₃, hstart⟩ := hstart
    obtain ⟨-, hregistered, -, -, -, -, hat⟩ := hstart.atHandler
    have hcomplete : env.execute request a =
        env.completeAction definition (redacted request) started_at control a₃ :=
      env.executeRedacted_of_started hstart
    rw [hcomplete] at hstored ⊢
    obtain ⟨es, houtside⟩ := env.outside_runAction definition (redacted request) control a₃
    cases hrun : env.runAction definition (redacted request) control a₃ with
    | mk outcome b =>
        rw [hrun] at houtside
        cases hconclude : env.conclude definition (redacted request) started_at outcome b with
        | mk r c =>
            obtain ⟨w, executions, hframe⟩ :=
              env.conclude_frame definition (redacted request) started_at outcome b
            rw [hconclude] at hframe
            dsimp only at hframe
            cases r with
            | error e =>
                -- A handler that is not concluded stores no result.
                rw [env.completeAction_of_error hrun hconclude, hframe] at hstored
                have hresults : b.results (key (redacted request)) = some result := hstored
                rw [houtside.results] at hresults
                have hsame : (invoked (redacted request) control a₃).results = a.results :=
                  hat.results
                rw [hsame, hnew] at hresults
                cases hresults
            | ok concluded =>
                obtain ⟨⟨⟨fs, hbeside⟩, hsimulation⟩, -⟩ :=
                  env.completeAction_of_ok hrun hconclude
                have hresult : (env.completeAction definition (redacted request) started_at control
                    a₃).2.results (key (redacted request)) = some concluded.1 :=
                  (congrFun hbeside.results _).trans (Function.update_self _ _ _)
                rw [hresult] at hstored
                cases hstored
                cases outcome with
                | error e =>
                    rcases env.conclude_error definition (redacted request) started_at e b with
                      ⟨failed, w', heq, -, hstatus⟩ | ⟨e', w', heq⟩
                    · rw [heq] at hconclude
                      cases hconclude
                      rw [hexecuted] at hstatus
                      exact absurd hstatus (by decide)
                    · rw [heq] at hconclude
                      cases hconclude
                | ok effect =>
                    by_cases haccepted : env.ExecutedAccepted definition (redacted request)
                        started_at effect b
                    · rw [env.conclude_accepted haccepted] at hconclude
                      cases hconclude
                      obtain ⟨b', hcall, hkept⟩ := env.callHandler_of_runAction hrun
                      refine ⟨definition, control, effect, a₃, b', hregistered, hat.simulation,
                        hcall, hsimulation.trans hkept, ?_⟩
                      have hbefore : b.executions = a.executions :=
                        houtside.executions.trans hat.executions
                      rw [hbeside.executions, ← hbefore]
                      rfl
                    · obtain ⟨e, w', heq⟩ := env.conclude_not_accepted haccepted
                      rw [heq] at hconclude
                      cases hconclude
  · push Not at hstart
    have hunstarted := env.executeRedacted_of_not_started hstart
    rcases hunstarted.ledger with ⟨hresults, -, -⟩ | ⟨dry, -, -, hdry, -, -, -, hresults, -, -⟩
    · have hsame : (env.execute request a).2.results (key (redacted request)) =
          a.results (key (redacted request)) := congrFun hresults _
      rw [hsame, hnew] at hstored
      cases hstored
    · have hsame : (env.execute request a).2.results (key (redacted request)) = some dry :=
        (congrFun hresults _).trans (Function.update_self _ _ _)
      rw [hsame] at hstored
      cases hstored
      rw [hdry] at hexecuted
      cases hexecuted

/-! ## Adapters as undo ledgers -/

/-- An execution that has no token, or whose rollback restores. -/
def Revertible (U : Undoable S ν) (execution : ActionDefinition W S × JsonObject × ActionEffect) :
    Prop :=
  truthy execution.2.2.rollback_token = none ∨
    ∃ monotonic body, execution.1.rollback_handler = simulationRollback monotonic body ∧
      U.Restores body

/-- The action saves what it overwrites, and its executions are revertible. -/
def Undoes (U : Undoable S ν) (definition : ActionDefinition W S) : Prop :=
  ∃ monotonic body, definition.handler = simulationHandler monotonic body ∧
    ∀ parameters target, U.Saves (body parameters target) ∧
      ∀ s effect s' request, body parameters target s = (.ok effect, s') →
        Revertible U (definition, request, effect)

/-- The adapter as an undo ledger; its clients are the request ids. -/
def ledger (U : Undoable S ν) (a : SafeActionAdapter W S) : UndoLedger String String ν where
  view := U.view a.simulation
  saved := U.saved a.simulation
  owned := fun request_id => (a.executions request_id).map fun execution =>
    truthy execution.2.2.rollback_token

/-- A handler in every case: it is cancelled, runs its body, or is late. -/
theorem onSimulation_handler (nested : Nested W S) (monotonic : W → Rat × W)
    (body : JsonObject → JsonObject → Py S ActionEffect) (parameters target : JsonObject)
    (control : ExecutionControl) (a : SafeActionAdapter W S) :
    onSimulation nested (simulationHandler monotonic body parameters target control) a =
      if isSet control.request_id a then
        (.ok (.error (.of .ActionCancelled "action cancelled by fail-safe stop")), a)
      else if (monotonic a.world).1 ≤ control.deadline then
        (.ok (body parameters target a.simulation).1, { a with
          world := (monotonic a.world).2
          simulation := (body parameters target a.simulation).2 })
      else (.ok (.error (.of .TimeoutError "action deadline exceeded")),
        { a with world := (monotonic a.world).2 }) := by
  have hstart : onSimulation nested (simulationHandler monotonic body parameters target control) a =
      onSimulation nested (if isSet control.request_id a then _ else _) a := rfl
  rw [hstart]
  split
  · rfl
  · rw [onSimulation_step]
    dsimp only
    split <;> rfl

/-- A rollback in every case: it runs its body or is late. -/
theorem onSimulation_rollback (nested : Nested W S) (monotonic : W → Rat × W)
    (body : String → Py S (List String)) (token : String) (deadline : Rat)
    (a : SafeActionAdapter W S) :
    onSimulation nested (simulationRollback monotonic body token deadline) a =
      if (monotonic a.world).1 ≤ deadline then
        (.ok (body token a.simulation).1, { a with
          world := (monotonic a.world).2
          simulation := (body token a.simulation).2 })
      else (.ok (.error (.of .TimeoutError "action deadline exceeded")),
        { a with world := (monotonic a.world).2 }) := by
  unfold simulationRollback
  rw [onSimulation_step]
  dsimp only
  split <;> rfl

/-- A handler that returned has run its body. -/
theorem body_of_callHandler {definition : ActionDefinition W S} {request : JsonObject}
    {control : ExecutionControl} {a b : SafeActionAdapter W S} {effect : ActionEffect}
    {monotonic : W → Rat × W} {body : JsonObject → JsonObject → Py S ActionEffect}
    (hhandler : definition.handler = simulationHandler monotonic body)
    (h : env.callHandler definition request control a = (.ok effect, b)) :
    body (request.object "parameters") (request.object "target") a.simulation =
      (.ok effect, b.simulation) := by
  obtain ⟨answer, a', hcall, hanswer⟩ := Raising.bind_eq_ok h
  rw [hhandler, onSimulation_handler] at hcall
  split at hcall
  · cases hcall
    cases hanswer
  · split at hcall
    · injection hcall with hanswer' hstate
      injection hanswer' with hanswer'
      rw [Raising.ofExcept_apply] at hanswer
      injection hanswer with hresult hstate'
      rw [← hstate', ← hstate]
      exact Prod.ext (hanswer'.trans hresult) rfl
    · cases hcall
      cases hanswer

/-- An executed call is a recorded change of its request id. -/
theorem records_of_executes {U : Undoable S ν}
    (hregistry : ∀ definition ∈ env.registry.definitions, Undoes U definition)
    {request : JsonObject} {a : SafeActionAdapter W S} (hvalid : U.valid a.simulation)
    (h : env.Executes request a) :
    UndoLedger.Records (JsonObject.text (redacted request) "request_id") (ledger U a)
        (ledger U (env.execute request a).2) ∧
      U.valid (env.execute request a).2.simulation ∧
      ∃ execution, Revertible U execution ∧ (env.execute request a).2.executions =
        Function.update a.executions (JsonObject.text (redacted request) "request_id")
          (some execution) := by
  obtain ⟨definition, control, effect, a₃, b, hexecuted⟩ := env.executedAs_of_executes h
  obtain ⟨monotonic, body, hhandler, hbody⟩ :=
    hregistry definition (mem_of_get hexecuted.registered)
  obtain ⟨hsaves, hrevertible⟩ := hbody
    (JsonObject.object (redacted request) "parameters") (JsonObject.object (redacted request) "target")
  have hran := env.body_of_callHandler hhandler hexecuted.returned
  rw [hexecuted.simulation, ← hexecuted.kept] at hran
  have howned : (ledger U (env.execute request a).2).owned =
      Function.update (ledger U a).owned (JsonObject.text (redacted request) "request_id")
        (some (truthy effect.rollback_token)) := by
    funext request_id
    unfold ledger
    dsimp only
    rw [hexecuted.remembered]
    by_cases hid : request_id = JsonObject.text (redacted request) "request_id"
    · rw [hid, Function.update_self, Function.update_self]
      rfl
    · rw [Function.update_of_ne hid, Function.update_of_ne hid]
  refine ⟨?_, ?_, _, hrevertible _ _ _ (redacted request) hran, hexecuted.remembered⟩
  · cases htoken : truthy effect.rollback_token with
    | none =>
        rw [htoken] at howned
        obtain ⟨hview, hsaved⟩ := hsaves.unsaved _ _ _ hran htoken
        exact Or.inl ⟨hview, hsaved, howned⟩
    | some token =>
        rw [htoken] at howned
        obtain ⟨hfresh, restore, hrestore, hsaved⟩ := hsaves.saves _ _ _ _ hvalid hran htoken
        exact Or.inr ⟨token, restore, hfresh, hrestore, hsaved, howned⟩
  · have hkeeps := hsaves.keeps a.simulation hvalid
    rwa [hran] at hkeeps

theorem beside_confirmRollback (definition : ActionDefinition W S) (request operator : JsonObject)
    (deadline : Rat) (changes : List String) :
    (env.confirmRollback definition request operator deadline changes).Keeps Beside := by
  refine Raising.Keeps.bind (beside_onWorld env.beside_nested _) fun now => ?_
  refine Raising.Keeps.bind (Raising.Keeps.require _ _) fun _ => ?_
  exact Raising.Keeps.bind (env.beside_emit _ _ _ _ _ _ _) fun _ => Raising.Keeps.pure _

/-- A rollback after its checks is late, or runs its body, and leaves the rest alone. -/
theorem undoAction_cases {definition : ActionDefinition W S} {monotonic : W → Rat × W}
    {body : String → Py S (List String)}
    (hhandler : definition.rollback_handler = simulationRollback monotonic body)
    (request operator : JsonObject) (token : String) (a : SafeActionAdapter W S) :
    (∃ e a', env.undoAction definition request operator token a = (.error e, a') ∧
        e.type = .TimeoutError ∧ Beside a a') ∨
      ∃ a', Beside a a' ∧
        ((∃ e, (body token a.simulation).1 = .error e ∧
            env.undoAction definition request operator token a =
              (.error e, { a' with simulation := (body token a.simulation).2 })) ∨
          ∃ changes, (body token a.simulation).1 = .ok changes ∧
            Beside { a' with simulation := (body token a.simulation).2 }
              (env.undoAction definition request operator token a).2) := by
  have hbeside := beside_onWorld env.beside_nested env.monotonic a
  unfold undoAction
  cases hnow : onWorld env.nested env.monotonic a with
  | mk r b =>
      rw [hnow] at hbeside
      have hsimulation : b.simulation = a.simulation := hbeside.simulation
      cases r with
      | error e => cases hnow
      | ok now =>
          have hcall := onSimulation_rollback env.nested monotonic body token
            (now + definition.max_timeout_seconds) b
          rw [← hhandler, hsimulation] at hcall
          have hworld : Beside a { b with world := (monotonic b.world).2 } :=
            hbeside.trans (beside_of_world _ b)
          rw [Raising.bind_of_ok hnow]
          split at hcall
          · refine Or.inr ⟨_, hworld, ?_⟩
            rw [Raising.bind_of_ok hcall, Raising.ofExcept_bind_apply]
            cases hbody : (body token a.simulation).1 with
            | error e => exact Or.inl ⟨e, rfl, rfl⟩
            | ok changes =>
                exact Or.inr ⟨changes, rfl, env.beside_confirmRollback _ _ _ _ _ _⟩
          · refine Or.inl ⟨.of .TimeoutError "action deadline exceeded", _, ?_, rfl, hworld⟩
            rw [Raising.bind_of_ok hcall, Raising.ofExcept_bind_apply, hsimulation]

/-- A rollback in every case. -/
theorem rollback_apply (request_id : String) (operator : JsonObject)
    (a : SafeActionAdapter W S) :
    env.rollback request_id operator a =
      match a.executions request_id with
      | none => (.error (.of .ActionContractError "no rollback-capable execution found"), a)
      | some (definition, request, effect) =>
          if operator.text "role" ∈ controlRoles then
            match truthy effect.rollback_token with
            | none => (.error (.of .ActionContractError
                "execution did not return a rollback token"), a)
            | some token => env.undoAction definition request operator token a
          else (.error (.of .ActionContractError
            "rollback requires an exercise-control role"), a) := by
  unfold rollback
  rw [Raising.gets_bind_apply]
  cases a.executions request_id with
  | none => rfl
  | some execution =>
      obtain ⟨definition, request, effect⟩ := execution
      dsimp only
      rw [Raising.require_bind_apply]
      cases truthy effect.rollback_token <;> rfl

/-- The ledger sees of an adapter what is beside its collaborators. -/
theorem ledger_beside (U : Undoable S ν) {a a' : SafeActionAdapter W S} (h : Beside a a') :
    ledger U a' = ledger U a ∧ a'.executions = a.executions := by
  obtain ⟨⟨es, hes⟩, hsimulation⟩ := h
  unfold ledger
  rw [hsimulation, hes.executions]
  exact ⟨rfl, rfl⟩

/-- What a rollback may do: the ledger is undone or stays, and the executions stay. -/
structure RollsBack (U : Undoable S ν) (request_id : String) (a a' : SafeActionAdapter W S) :
    Prop where
  ledger : ledger U a' = (Adapter.ledger U a).undo request_id
  executions : a'.executions = a.executions
  valid : U.valid a.simulation → U.valid a'.simulation

/-- A rollback that changes nothing, where there is nothing to undo. -/
theorem rollsBack_of_spent {U : Undoable S ν} {request_id : String} {a a' : SafeActionAdapter W S}
    (hspent : (ledger U a).Spent request_id) (h : Beside a a') :
    RollsBack U request_id a a' := by
  obtain ⟨hledger, hexecutions⟩ := ledger_beside U h
  refine ⟨?_, hexecutions, fun hvalid => h.simulation ▸ hvalid⟩
  rw [UndoLedger.undo_of_spent hspent, hledger]

/-- A client without a token has nothing to undo. -/
theorem spent_of_tokenless {U : Undoable S ν} {request_id : String} {a : SafeActionAdapter W S}
    (h : ∀ execution, a.executions request_id = some execution →
      truthy execution.2.2.rollback_token = none) : (ledger U a).Spent request_id := by
  intro token howned
  unfold ledger at howned
  obtain ⟨execution, hexecution, htoken⟩ := Option.map_eq_some_iff.mp howned
  rw [h execution hexecution] at htoken
  cases htoken

/-- A rollback that is not late undoes the last execution of its request id. -/
theorem rollsBack_rollback {U : Undoable S ν} {request_id : String} {operator : JsonObject}
    {a : SafeActionAdapter W S}
    (hrevertible : ∀ execution, a.executions request_id = some execution → Revertible U execution)
    (hrole : operator.text "role" ∈ controlRoles)
    (hintime : env.rollbackInTime request_id operator a = true) :
    RollsBack U request_id a (env.rollback request_id operator a).2 := by
  have htime : ∀ e, (env.rollback request_id operator a).1 = .error e → e.type ≠ .TimeoutError :=
    fun e he => env.type_of_rollbackInTime hintime he
  rw [rollback_apply] at htime ⊢
  cases hexecution : a.executions request_id with
  | none =>
      exact rollsBack_of_spent (spent_of_tokenless fun _ h => by rw [hexecution] at h; cases h)
        (Std.Refl.refl a)
  | some execution =>
      obtain ⟨definition, request, effect⟩ := execution
      rw [hexecution] at htime
      dsimp only at htime ⊢
      rw [if_pos hrole] at htime ⊢
      cases htoken : truthy effect.rollback_token with
      | none =>
          refine rollsBack_of_spent (spent_of_tokenless fun execution h => ?_) (Std.Refl.refl a)
          rw [hexecution] at h
          cases h
          exact htoken
      | some token =>
          rw [htoken] at htime
          dsimp only at htime ⊢
          have howned : (ledger U a).owned request_id = some (some token) := by
            unfold ledger
            dsimp only
            rw [hexecution, Option.map_some, htoken]
          rcases hrevertible _ hexecution with hnone | ⟨monotonic, body, hhandler, hrestores⟩
          · rw [hnone] at htoken
            cases htoken
          rcases env.undoAction_cases hhandler request operator token a with
            ⟨e, a', hundo, hlate, -⟩ | ⟨a', hbeside, hran⟩
          · rw [hundo] at htime
            exact absurd hlate (htime e rfl)
          · cases hsaved : U.saved a.simulation token with
            | none =>
                obtain ⟨e, hbody⟩ := hrestores.unknown token a.simulation hsaved
                rw [hbody] at hran
                rcases hran with ⟨e', -, hundo⟩ | ⟨changes, hok, -⟩
                · rw [hundo]
                  refine rollsBack_of_spent (fun token' h => ?_) ?_
                  · rw [howned] at h
                    cases h
                    exact hsaved
                  · dsimp only
                    rw [← hbeside.simulation]
                    exact hbeside
                · cases hok
            | some restore =>
                obtain ⟨changes, s', hbody, hview, hdropped⟩ :=
                  hrestores.known token a.simulation restore hsaved
                have hkeeps := hrestores.keeps token a.simulation
                rw [hbody] at hran hkeeps
                rcases hran with ⟨e', herror, -⟩ | ⟨changes', -, hafter⟩
                · cases herror
                · obtain ⟨hledger, hexecutions⟩ := ledger_beside U hafter
                  have hsame : a'.executions = a.executions := (ledger_beside U hbeside).2
                  refine ⟨?_, hexecutions.trans hsame, fun hvalid => ?_⟩
                  · rw [hledger, UndoLedger.undo_of_saved howned hsaved]
                    unfold ledger
                    dsimp only
                    rw [hview, hdropped, hsame]
                  · rw [hafter.simulation]
                    exact hkeeps hvalid

/-- Once there is nothing to undo, a rollback raises and changes nothing. -/
theorem rollback_of_spent {U : Undoable S ν} {request_id : String} {a : SafeActionAdapter W S}
    (hrevertible : ∀ execution, a.executions request_id = some execution → Revertible U execution)
    (hspent : (ledger U a).Spent request_id) (operator : JsonObject) :
    ∃ e a', env.rollback request_id operator a = (.error e, a') ∧
      a'.simulation = a.simulation := by
  rw [rollback_apply]
  cases hexecution : a.executions request_id with
  | none => exact ⟨_, a, rfl, rfl⟩
  | some execution =>
      obtain ⟨definition, request, effect⟩ := execution
      dsimp only
      split
      · cases htoken : truthy effect.rollback_token with
        | none => exact ⟨_, a, rfl, rfl⟩
        | some token =>
            have howned : (ledger U a).owned request_id = some (some token) := by
              unfold ledger
              dsimp only
              rw [hexecution, Option.map_some, htoken]
            rcases hrevertible _ hexecution with hnone | ⟨monotonic, body, hhandler, hrestores⟩
            · rw [hnone] at htoken
              cases htoken
            dsimp only
            rcases env.undoAction_cases hhandler request operator token a with
              ⟨e, a', hundo, -, hbeside⟩ | ⟨a', hbeside, hran⟩
            · exact ⟨e, a', hundo, hbeside.simulation⟩
            · obtain ⟨e, hbody⟩ := hrestores.unknown token a.simulation (hspent token howned)
              rw [hbody] at hran
              rcases hran with ⟨e', -, hundo⟩ | ⟨changes, hok, -⟩
              · exact ⟨e', _, hundo, rfl⟩
              · cases hok
      · exact ⟨_, a, rfl, rfl⟩

/-! ## Sequences of actions and their rollbacks -/

/-- The recorded change of an executed call. -/
def change (view : S → ν) (request : JsonObject) (a : SafeActionAdapter W S) :
    RecordedChange String ν :=
  ⟨JsonObject.text (redacted request) "request_id", view a.simulation,
    view (env.execute request a).2.simulation⟩

/-- Actions executed one after the other. In between, whatever leaves the simulation and the
executions alone may happen: time passes, the run changes its state, calls are refused. -/
inductive Executed (view : S → ν) : SafeActionAdapter W S → List (RecordedChange String ν) →
    SafeActionAdapter W S → Prop where
  | start (a : SafeActionAdapter W S) : Executed view a [] a
  | execute {a b : SafeActionAdapter W S} {log : List (RecordedChange String ν)}
      (request : JsonObject) (h : Executed view a log b) (hexecutes : env.Executes request b) :
      Executed view a (log ++ [env.change view request b]) (env.execute request b).2
  | meanwhile {a b c : SafeActionAdapter W S} {log : List (RecordedChange String ν)}
      (h : Executed view a log b) (hsimulation : c.simulation = b.simulation)
      (hexecutions : c.executions = b.executions) : Executed view a log c

/-- The actions of the log rolled back in reverse order by operators with a control role, none of
them late. -/
inductive RolledBack : List (RecordedChange String ν) → SafeActionAdapter W S →
    SafeActionAdapter W S → Prop where
  | start (b : SafeActionAdapter W S) : RolledBack [] b b
  | rollback {b c : SafeActionAdapter W S} {log : List (RecordedChange String ν)}
      (change : RecordedChange String ν) (operator : JsonObject) (h : RolledBack log b c)
      (hrole : operator.text "role" ∈ controlRoles)
      (hintime : env.rollbackInTime change.client operator c = true) :
      RolledBack (change :: log) b (env.rollback change.client operator c).2
  | meanwhile {b c d : SafeActionAdapter W S} {log : List (RecordedChange String ν)}
      (h : RolledBack log b c) (hsimulation : d.simulation = c.simulation)
      (hexecutions : d.executions = c.executions) : RolledBack log b d

theorem ledger_congr (U : Undoable S ν) {a b : SafeActionAdapter W S}
    (hsimulation : b.simulation = a.simulation) (hexecutions : b.executions = a.executions) :
    ledger U b = ledger U a := by
  unfold ledger
  rw [hsimulation, hexecutions]

/-- Executed actions are recorded in the ledger, and each of them can be rolled back. -/
theorem Executed.recorded {env : Adapter W S} {U : Undoable S ν}
    (hregistry : ∀ definition ∈ env.registry.definitions, Undoes U definition)
    {a b : SafeActionAdapter W S} {log : List (RecordedChange String ν)}
    (h : env.Executed U.view a log b) (hvalid : U.valid a.simulation) :
    UndoLedger.Recorded (ledger U a) log (ledger U b) ∧ U.valid b.simulation ∧
      ∀ change ∈ log, ∃ execution, b.executions change.client = some execution ∧
        Revertible U execution := by
  induction h with
  | start => exact ⟨.nil _, hvalid, fun change hchange => nomatch hchange⟩
  | @execute b log request h hexecutes ih =>
      obtain ⟨hrecorded, hvalid', hall⟩ := ih
      obtain ⟨hrecords, hafter, execution, hrevertible, hremembered⟩ :=
        env.records_of_executes hregistry hvalid' hexecutes
      refine ⟨hrecorded.snoc hrecords, hafter, fun change hchange => ?_⟩
      rw [hremembered]
      by_cases hclient : change.client = JsonObject.text (redacted request) "request_id"
      · exact ⟨execution, by rw [hclient, Function.update_self], hrevertible⟩
      · rcases List.mem_append.mp hchange with hold | hnew
        · rw [Function.update_of_ne hclient]
          exact hall change hold
        · rw [List.mem_singleton.mp hnew] at hclient
          exact absurd rfl hclient
  | meanwhile h hsimulation hexecutions ih =>
      obtain ⟨hrecorded, hvalid', hall⟩ := ih
      rw [ledger_congr U hsimulation hexecutions, hsimulation, hexecutions]
      exact ⟨hrecorded, hvalid', hall⟩

/-- Rolling back is undoing. -/
theorem RolledBack.undone {env : Adapter W S} {U : Undoable S ν} {b c : SafeActionAdapter W S}
    {log : List (RecordedChange String ν)} (h : env.RolledBack log b c)
    (hall : ∀ change ∈ log, ∀ execution, b.executions change.client = some execution →
      Revertible U execution) :
    ledger U c = (ledger U b).undoAll log ∧ c.executions = b.executions := by
  induction h with
  | start b => exact ⟨rfl, rfl⟩
  | @rollback b c log change operator h hrole hintime ih =>
      obtain ⟨hledger, hexecutions⟩ := ih fun other hother =>
        hall other (List.mem_cons_of_mem _ hother)
      have hback : RollsBack U change.client c _ := env.rollsBack_rollback
        (fun execution hexecution =>
          hall change List.mem_cons_self execution (hexecutions ▸ hexecution)) hrole hintime
      refine ⟨?_, hback.executions.trans hexecutions⟩
      rw [hback.ledger, hledger]
      rfl
  | meanwhile h hsimulation hexecutions ih =>
      obtain ⟨hledger, hsame⟩ := ih hall
      rw [ledger_congr U hsimulation hexecutions, hexecutions]
      exact ⟨hledger, hsame⟩

/-- Rollbacks undo in reverse order: after each of them the system shows what it showed before the
action, after all of them what it showed at the start, and a second rollback raises and changes
nothing. This holds of every sequence of executed actions in which no action that changed something
shares its request id with a later one. -/
def UndoesInOrder (U : Undoable S ν) : Prop :=
  ∀ a log b, U.valid a.simulation → env.Executed U.view a log b → UndoLedger.Revocable log →
    (∀ c, env.RolledBack log b c → U.view c.simulation = U.view a.simulation) ∧
      ∀ first change second c, log = first ++ change :: second →
        env.RolledBack (change :: second) b c → U.view c.simulation = change.before ∧
          ∀ again ∈ change :: second, ∀ operator, ∃ e c',
            env.rollback again.client operator c = (.error e, c') ∧ c'.simulation = c.simulation

theorem undoesInOrder {U : Undoable S ν}
    (hregistry : ∀ definition ∈ env.registry.definitions, Undoes U definition) :
    env.UndoesInOrder U := by
  intro a log b hvalid hexecuted hrevocable
  obtain ⟨hrecorded, -, hall⟩ := hexecuted.recorded hregistry hvalid
  have hrevertible : ∀ change ∈ log, ∀ execution, b.executions change.client = some execution →
      Revertible U execution := by
    intro change hchange execution hexecution
    obtain ⟨execution', hexecution', hrevertible⟩ := hall change hchange
    rw [hexecution] at hexecution'
    cases hexecution'
    exact hrevertible
  constructor
  · intro c hback
    obtain ⟨hledger, -⟩ := hback.undone hrevertible
    have hview := (UndoLedger.undoAll_of_recorded hrecorded hrevocable).1
    rw [← hledger] at hview
    exact hview
  · rintro first change second c rfl hback
    have hpart : ∀ other ∈ change :: second, ∀ execution,
        b.executions other.client = some execution → Revertible U execution :=
      fun other hother => hrevertible other (List.mem_append_right first hother)
    obtain ⟨hledger, hexecutions⟩ := hback.undone hpart
    obtain ⟨m, -, hsecond⟩ := hrecorded.split
    have hview := (UndoLedger.undoAll_of_recorded hsecond hrevocable.right).1
    rw [← hledger] at hview
    refine ⟨?_, fun again hagain operator => ?_⟩
    · cases hsecond with
      | cons hfirst hrest => exact hview
    · have hspent : (ledger U c).Spent again.client := by
        rw [hledger]
        exact UndoLedger.spent_undoAll _ _ again hagain
      exact env.rollback_of_spent (fun execution hexecution =>
        hpart again hagain execution (hexecutions ▸ hexecution)) hspent operator

/-- The state after two actions and their rollbacks in reverse order. -/
def undoneTwice (first second operator : JsonObject) (a : SafeActionAdapter W S) :
    SafeActionAdapter W S :=
  (env.rollback ((redacted first).text "request_id") operator
    (env.rollback ((redacted second).text "request_id") operator
      (env.execute second (env.execute first a).2).2).2).2

/-- Two executed actions that their rollbacks do not undo. -/
def NotUndone (U : Undoable S ν) (first second operator : JsonObject)
    (a : SafeActionAdapter W S) : Prop :=
  env.Succeeds first a ∧ env.Succeeds second (env.execute first a).2 ∧
    env.rollbackInTime ((redacted second).text "request_id") operator
      (env.execute second (env.execute first a).2).2 = true ∧
    env.rollbackInTime ((redacted first).text "request_id") operator
      (env.rollback ((redacted second).text "request_id") operator
        (env.execute second (env.execute first a).2).2).2 = true ∧
    U.view (env.undoneTwice first second operator a).simulation ≠ U.view a.simulation

theorem not_undone (U : Undoable S ν) (first second operator : JsonObject)
    (a : SafeActionAdapter W S) (hvalid : U.valid a.simulation)
    (hrole : operator.text "role" ∈ controlRoles)
    (h : env.NotUndone U first second operator a) :
    ¬ ∀ a log b c, U.valid a.simulation → env.Executed U.view a log b →
      env.RolledBack log b c → U.view c.simulation = U.view a.simulation := by
  obtain ⟨hfirst, hsecond, hintime, hintime', hchanged⟩ := h
  intro hundone
  have hexecuted : env.Executed U.view a _ _ :=
    .execute second (.execute first (.start a) hfirst.executes) hsecond.executes
  exact hchanged (hundone a _ _ _ hvalid hexecuted (.rollback _ operator
    (.rollback _ operator (.start _) hrole hintime) hrole hintime'))

end Adapter

end NetStrike.Shared
