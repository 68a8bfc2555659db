import NetStrike.Shared.ActionPaths

/-!
# Effects and what is reported of them

`EffectAccounted` says of one call of `execute` that an unsuccessful result means an unchanged
simulation, and that a changed simulation is reported as executed and remembered for rollback. For
atomic handlers this fails in one way only: the handler returns, having changed the simulation, and
what follows it does not end in an executed result. `CheckedAfterEffect` excludes that, and
`effectAccounted_iff` says that it is exact.
-/

set_option autoImplicit false

namespace NetStrike.Shared.Adapter

open NetStrike.Foundation

variable {W S : Type} (env : Adapter W S)

/-- A handler that raises has not changed the simulation. -/
def AtomicHandlers : Prop :=
  ∀ definition ∈ env.registry.definitions, ∀ request control a e,
    (env.callHandler definition request control a).1 = .error e →
      (env.callHandler definition request control a).2.simulation = a.simulation

/-- The action of the request is stored as executed and remembered with its rollback token. -/
def ReportedExecuted (request : JsonObject) (a : SafeActionAdapter W S) : Prop :=
  ∃ definition effect result,
    a.executions (request.text "request_id") = some (definition, request, effect) ∧
      a.results (key request) = some result ∧ result.status = .executed ∧
      result.successful = true ∧ result.effects = effect.effects ∧
      result.rollback.token = truthy effect.rollback_token

/-- An unsuccessful result means no effect, and an effect is reported as executed. -/
def EffectAccounted (request : JsonObject) (a : SafeActionAdapter W S) : Prop :=
  (∀ result, (env.execute request a).1 = .ok result → result.successful = false →
      (env.execute request a).2.simulation = a.simulation) ∧
    ((env.execute request a).2.simulation ≠ a.simulation →
      ReportedExecuted (redacted request) (env.execute request a).2)

/-- The reading of the monotonic clock. -/
def now (a : SafeActionAdapter W S) : Rat :=
  (runCallback SafeActionAdapter.world (fun w a => { a with world := w }) env.nested env.monotonic
    a).1

/-- The cancel event is clear and the deadline has not passed. -/
def InTime (control : ExecutionControl) (a : SafeActionAdapter W S) : Prop :=
  isSet control.request_id a = false ∧ env.now a ≤ control.deadline

/-- If the handler of the call returns and has changed the simulation, then it is in time and its
executed result satisfies the result schema. -/
def CheckedAfterEffect (request : JsonObject) (a : SafeActionAdapter W S) : Prop :=
  ∀ definition started_at control a₁ a₂ a₃ effect b,
    env.Started (redacted request) definition started_at control a a₁ a₂ a₃ →
    env.callHandler definition (redacted request) control
      (invoked (redacted request) control a₃) = (.ok effect, b) →
    b.simulation ≠ a.simulation →
      env.InTime control b ∧ env.ExecutedAccepted definition (redacted request) started_at effect
        (env.checkpoint control b).2

/-! ## The check after the handler -/

theorem checkpoint_of_inTime {control : ExecutionControl} {a : SafeActionAdapter W S}
    (h : env.InTime control a) : (env.checkpoint control a).1 = .ok () := by
  have hnow : env.now a ≤ control.deadline := h.2
  unfold now at hnow
  unfold checkpoint onWorld
  rw [Raising.require_bind_apply, if_pos h.1, Raising.step_bind_apply, Raising.require_apply,
    if_pos hnow]

theorem checkpoint_of_not_inTime {control : ExecutionControl} {a : SafeActionAdapter W S}
    (h : ¬ env.InTime control a) : ∃ e, (env.checkpoint control a).1 = .error e := by
  unfold checkpoint onWorld
  rw [Raising.require_bind_apply]
  by_cases hset : isSet control.request_id a = false
  · have hnow : ¬ env.now a ≤ control.deadline := fun hnow => h ⟨hset, hnow⟩
    unfold now at hnow
    rw [if_pos hset, Raising.step_bind_apply, Raising.require_apply, if_neg hnow]
    exact ⟨_, rfl⟩
  · rw [if_neg hset]
    exact ⟨_, rfl⟩

/-- A handler that raises ends the `try`. -/
theorem runAction_of_error {definition : ActionDefinition W S} {request : JsonObject}
    {control : ExecutionControl} {a b : SafeActionAdapter W S} {e : Exn}
    (h : env.callHandler definition request control (invoked request control a) = (.error e, b)) :
    env.runAction definition request control a = (.error e, b) :=
  Raising.bind_of_error (m := env.invoke definition request control) h

/-- A handler that returns is followed by the check. -/
theorem runAction_of_ok {definition : ActionDefinition W S} {request : JsonObject}
    {control : ExecutionControl} {a b : SafeActionAdapter W S} {effect : ActionEffect}
    (h : env.callHandler definition request control (invoked request control a) = (.ok effect, b)) :
    env.runAction definition request control a =
      (env.checkpoint control >>= fun _ => pure effect) b :=
  Raising.bind_of_ok (m := env.invoke definition request control) h

/-- After the handler nothing touches the simulation. -/
theorem completeAction_simulation (definition : ActionDefinition W S) (request : JsonObject)
    (started_at : DateTime) (control : ExecutionControl) (a : SafeActionAdapter W S) :
    (env.completeAction definition request started_at control a).2.simulation =
      (env.callHandler definition request control (invoked request control a)).2.simulation := by
  have hrunSimulation : (env.runAction definition request control a).2.simulation =
      (env.callHandler definition request control (invoked request control a)).2.simulation := by
    cases hcall : env.callHandler definition request control (invoked request control a) with
    | mk r b =>
        cases r with
        | error e => rw [env.runAction_of_error hcall]
        | ok effect =>
            rw [env.runAction_of_ok hcall, Raising.bind_pure_state]
            exact (env.beside_checkpoint control b).simulation
  rw [← hrunSimulation]
  cases hrun : env.runAction definition request control a with
  | mk outcome b =>
      obtain ⟨w, executions, hframe⟩ := env.conclude_frame definition request started_at outcome b
      cases hconclude : env.conclude definition request started_at outcome b with
      | mk r c =>
          rw [hconclude] at hframe
          dsimp only at hframe
          cases r with
          | error e => rw [env.completeAction_of_error hrun hconclude, hframe]; rfl
          | ok concluded =>
              obtain ⟨hbeside, -⟩ := env.completeAction_of_ok hrun hconclude
              rw [hbeside.simulation, hframe]
              rfl

/-! ## One call -/

/-- A call that changes nothing has nothing to account for. -/
theorem effectAccounted_of_same {request : JsonObject} {a : SafeActionAdapter W S}
    (h : (env.execute request a).2.simulation = a.simulation) : env.EffectAccounted request a :=
  ⟨fun _ _ _ => h, fun hchanged => absurd h hchanged⟩

/-- An effect that is followed by an executed result is reported. -/
theorem reported_of_checked {request : JsonObject} {definition : ActionDefinition W S}
    {started_at : DateTime} {control : ExecutionControl} {a b : SafeActionAdapter W S}
    {effect : ActionEffect}
    (hcall : env.callHandler definition request control (invoked request control a) =
      (.ok effect, b)) (hintime : env.InTime control b)
    (haccepted : env.ExecutedAccepted definition request started_at effect
      (env.checkpoint control b).2) :
    ReportedExecuted request (env.completeAction definition request started_at control a).2 ∧
      ∀ result, (env.completeAction definition request started_at control a).1 = .ok result →
        result.successful = true := by
  have hrun : env.runAction definition request control a =
      (.ok effect, (env.checkpoint control b).2) := by
    rw [env.runAction_of_ok hcall]
    exact Raising.bind_of_ok (Prod.ext (env.checkpoint_of_inTime hintime) rfl)
  obtain ⟨⟨⟨es, hes⟩, -⟩, hvalue⟩ :=
    env.completeAction_of_ok hrun (env.conclude_accepted haccepted)
  refine ⟨⟨definition, effect, env.executedRecord definition request started_at effect
    (env.checkpoint control b).2, ?_, ?_, rfl, rfl, rfl, rfl⟩, fun result hresult => ?_⟩
  · rw [hes.executions]
    exact Function.update_self ..
  · rw [hes.results]
    exact Function.update_self ..
  · rw [hvalue result hresult]
    rfl

/-- An effect that is not followed by an executed result is not reported. -/
theorem not_reported_of_unchecked {request : JsonObject} {definition : ActionDefinition W S}
    {started_at : DateTime} {control : ExecutionControl} {a b : SafeActionAdapter W S}
    {effect : ActionEffect} (hfresh : a.results (key request) = none)
    (hcall : env.callHandler definition request control (invoked request control a) =
      (.ok effect, b))
    (h : ¬ (env.InTime control b ∧ env.ExecutedAccepted definition request started_at effect
      (env.checkpoint control b).2)) :
    ¬ ReportedExecuted request (env.completeAction definition request started_at control a).2 := by
  have hrun := env.runAction_of_ok hcall
  obtain ⟨es, hes⟩ := env.outside_runAction definition request control a
  have hunstored : (env.runAction definition request control a).2.results (key request) = none := by
    rw [hes.results]
    exact hfresh
  rintro ⟨definition', effect', result, -, hresult, hexecuted, -, -, -⟩
  by_cases hintime : env.InTime control b
  · -- In time, but the executed result is refused.
    have haccepted := fun hacc => h ⟨hintime, hacc⟩
    rw [Raising.bind_of_ok (Prod.ext (env.checkpoint_of_inTime hintime) rfl),
      Raising.pure_apply] at hrun
    obtain ⟨e, w, hconclude⟩ := env.conclude_not_accepted haccepted
    rw [env.completeAction_of_error hrun hconclude] at hresult
    rw [hrun] at hunstored
    rw [show (removeRunning request { (env.checkpoint control b).2 with world := w }).results =
      (env.checkpoint control b).2.results from rfl, hunstored] at hresult
    cases hresult
  · -- Too late: whatever is stored is no executed result.
    obtain ⟨e, he⟩ := env.checkpoint_of_not_inTime hintime
    rw [Raising.bind_of_error (Prod.ext he rfl)] at hrun
    rw [hrun] at hunstored
    rcases env.conclude_error definition request started_at e (env.checkpoint control b).2 with
      ⟨failed, w, hconclude, -, hstatus⟩ | ⟨e', w, hconclude⟩
    · obtain ⟨⟨⟨fs, hfs⟩, -⟩, -⟩ := env.completeAction_of_ok hrun hconclude
      rw [hfs.results] at hresult
      have hstored : (env.store request failed (removeRunning request
          { (env.checkpoint control b).2 with world := w })).results (key request) =
          some failed := Function.update_self ..
      rw [hstored] at hresult
      injection hresult with hresult
      rw [hresult, hexecuted] at hstatus
      exact absurd hstatus (by decide)
    · rw [env.completeAction_of_error hrun hconclude] at hresult
      rw [show (removeRunning request { (env.checkpoint control b).2 with world := w }).results =
        (env.checkpoint control b).2.results from rfl, hunstored] at hresult
      cases hresult

/-- For atomic handlers, a call accounts for its effect exactly when a handler that returns with a
changed simulation is in time and has an acceptable result. The stops may come at any moment, from
any collaborator or from the handler. -/
theorem effectAccounted_iff (hatomic : env.AtomicHandlers) (request : JsonObject)
    (a : SafeActionAdapter W S) :
    env.EffectAccounted request a ↔ env.CheckedAfterEffect request a := by
  by_cases hstart : ∃ definition started_at control a₁ a₂ a₃,
      env.Started (redacted request) definition started_at control a a₁ a₂ a₃
  · obtain ⟨definition, started_at, control, a₁, a₂, a₃, hstart⟩ := hstart
    obtain ⟨-, hregistered, -, -, -, hfresh, hat⟩ := hstart.atHandler
    have hexecute : env.execute request a =
        env.completeAction definition (redacted request) started_at control a₃ :=
      env.executeRedacted_of_started hstart
    have hsimulation := env.completeAction_simulation definition (redacted request) started_at
      control a₃
    rw [← hexecute] at hsimulation
    have hmem : definition ∈ env.registry.definitions := List.mem_of_find?_eq_some hregistered
    cases hcall : env.callHandler definition (redacted request) control
        (invoked (redacted request) control a₃) with
    | mk r b =>
        rw [hcall] at hsimulation
        have hunique : ∀ {definition' started_at' control' a₁' a₂' a₃' effect' b'},
            env.Started (redacted request) definition' started_at' control' a a₁' a₂' a₃' →
            env.callHandler definition' (redacted request) control'
              (invoked (redacted request) control' a₃') = (.ok effect', b') →
            definition' = definition ∧ started_at' = started_at ∧ control' = control ∧
              r = .ok effect' ∧ b' = b := by
          intro definition' started_at' control' a₁' a₂' a₃' effect' b' hstart' hcall'
          obtain ⟨rfl, rfl, rfl, rfl, rfl, rfl⟩ := hstart.unique hstart'
          have heq := hcall.symm.trans hcall'
          injection heq with hr hb
          exact ⟨rfl, rfl, rfl, hr, hb.symm⟩
        by_cases hchanged : b.simulation = a.simulation
        · refine ⟨fun _ => ?_, fun _ => env.effectAccounted_of_same (hsimulation.trans hchanged)⟩
          intro definition' started_at' control' a₁' a₂' a₃' effect' b' hstart' hcall' hne
          obtain ⟨-, -, -, -, rfl⟩ := hunique hstart' hcall'
          exact absurd hchanged hne
        · cases r with
          | error e =>
              have hsame := hatomic definition hmem (redacted request) control
                (invoked (redacted request) control a₃) e (by rw [hcall])
              rw [hcall] at hsame
              exact absurd (hsame.trans hat.simulation) hchanged
          | ok effect =>
              constructor
              · rintro ⟨-, hreported⟩ definition' started_at' control' a₁' a₂' a₃' effect' b'
                  hstart' hcall' -
                obtain ⟨rfl, rfl, rfl, heffect, rfl⟩ := hunique hstart' hcall'
                injection heffect with heffect
                subst heffect
                by_contra hunchecked
                have hnone : a₃.results (key (redacted request)) = none := by
                  rw [hat.results]
                  exact hfresh
                have hreport := hreported (by rw [hsimulation]; exact hchanged)
                rw [hexecute] at hreport
                exact env.not_reported_of_unchecked hnone hcall hunchecked hreport
              · intro hchecked
                obtain ⟨hintime, haccepted⟩ := hchecked definition started_at control a₁ a₂ a₃
                  effect b hstart hcall hchanged
                obtain ⟨hreport, hsuccess⟩ := env.reported_of_checked hcall hintime haccepted
                rw [← hexecute] at hreport hsuccess
                refine ⟨fun result hresult hfalse => ?_, fun _ => hreport⟩
                rw [hsuccess result hresult] at hfalse
                cases hfalse
  · push Not at hstart
    refine ⟨fun _ definition started_at control a₁ a₂ a₃ effect b hstart' => ?_, fun _ => ?_⟩
    · exact absurd hstart' (hstart definition started_at control a₁ a₂ a₃)
    · exact env.effectAccounted_of_same (env.executeRedacted_of_not_started hstart).simulation

/-! ## A late handler -/

/-- Handlers that never raise are atomic. -/
theorem sample_atomic (event_sink : Event → Callback Nat (Except Exn Unit)) (seconds : Nat) :
    (sample event_sink (isolateIn seconds)).AtomicHandlers := by
  intro definition hdefinition request control a e herror
  rw [List.mem_singleton.mp hdefinition] at herror
  cases herror

/-- The condition decides for the handler that takes 31 seconds. -/
theorem effectAccounted_iff_sample :
    (sample acceptAll (isolateIn 31)).EffectAccounted (sampleRequest "REQ-1" "EX-1")
        ((sample acceptAll (isolateIn 31)).init 0 false) ↔
      (sample acceptAll (isolateIn 31)).CheckedAfterEffect (sampleRequest "REQ-1" "EX-1")
        ((sample acceptAll (isolateIn 31)).init 0 false) :=
  effectAccounted_iff _ (sample_atomic acceptAll 31) _ _

/-- An unsuccessful result with a changed simulation is not accounted for. -/
theorem not_effectAccounted {request : JsonObject} {a : SafeActionAdapter W S}
    (hresult : (env.execute request a).1.toOption.map ActionResult.successful = some false)
    (hchanged : (env.execute request a).2.simulation ≠ a.simulation) :
    ¬ env.EffectAccounted request a := by
  rintro ⟨hunsuccessful, -⟩
  cases h : (env.execute request a).1 with
  | error e =>
      rw [h] at hresult
      cases hresult
  | ok result =>
      rw [h] at hresult
      injection hresult with hresult
      exact hchanged (hunsuccessful result h hresult)

/-- With a timeout of 30 seconds, a handler that isolates the host in 31 is reported as timed out. -/
theorem late_isolation_reported_timed_out :
    ¬ (sample acceptAll (isolateIn 31)).EffectAccounted
      (sampleRequest "6f1c0e0a-0000-4000-8000-000000000003" "EX-1")
      ((sample acceptAll (isolateIn 31)).init 0 false) := by
  -- The call is evaluated once for both facts.
  obtain ⟨hresult, hchanged⟩ : ((((sample acceptAll (isolateIn 31)).execute
      (sampleRequest "6f1c0e0a-0000-4000-8000-000000000003" "EX-1")
      ((sample acceptAll (isolateIn 31)).init 0 false)).1.toOption.map ActionResult.successful) =
        some false) ∧
      ((sample acceptAll (isolateIn 31)).execute
        (sampleRequest "6f1c0e0a-0000-4000-8000-000000000003" "EX-1")
        ((sample acceptAll (isolateIn 31)).init 0 false)).2.simulation ≠
          ((sample acceptAll (isolateIn 31)).init 0 false).simulation := by
    decide +kernel
  exact not_effectAccounted _ hresult hchanged

end NetStrike.Shared.Adapter
