import NetStrike.Modules.IdentityState

/-!
# Actions on the synthetic identity state

The registrations of `modules/04-mfa-fatigue-sim/identity_actions.py`.
-/

set_option autoImplicit false

namespace NetStrike.Modules

open NetStrike.Foundation NetStrike.Shared

/-- `_no_parameters`. -/
def noParameters {W : Type} (parameters : JsonObject) : Callback W (Except Exn Unit) :=
  .finish (if parameters = [] then .ok ()
    else .error (.of .ValueError "this action accepts no parameters"))

namespace IdentityActions

/-! ## Bodies -/

/-- A body that makes a change and returns its token. -/
def changing (effect : String) (change : Py SyntheticIdentityState String) :
    Py SyntheticIdentityState ActionEffect := do
  let token ← change
  return ⟨[effect], some token, []⟩

/-- `revoke_session`. -/
def revokeSession (_parameters target : JsonObject) : Py SyntheticIdentityState ActionEffect :=
  changing ("revoked session " ++ target.text "id")
    (SyntheticIdentityState.setSession (target.text "id") false)

/-- `remove_factor`. -/
def removeFactor (_parameters target : JsonObject) : Py SyntheticIdentityState ActionEffect :=
  changing ("removed factor " ++ target.text "id")
    (SyntheticIdentityState.setFactor (target.text "id") false)

/-- `disable_account`. -/
def disableAccount (_parameters target : JsonObject) : Py SyntheticIdentityState ActionEffect :=
  changing ("disabled identity " ++ target.text "id")
    (SyntheticIdentityState.setEnabled (target.text "id") false)

/-- `reset_credential`. -/
def resetCredential (_parameters target : JsonObject) : Py SyntheticIdentityState ActionEffect :=
  changing ("rotated synthetic credential " ++ target.text "id")
    (SyntheticIdentityState.resetCredential (target.text "id"))

/-- `record_push`; the decision it reads back is the one it has just set. -/
def recordPush (_parameters target : JsonObject) : Py SyntheticIdentityState ActionEffect :=
  changing ("recorded MFA challenge outcome " ++ MfaDecision.pending.value)
    (SyntheticIdentityState.recordPush (target.text "id"))

/-- The parameter `approved`. -/
def approvedOf (parameters : JsonObject) : Bool :=
  decide (parameters.lookup "approved" = some (.bool true))

/-- `record_decision`; the decision it reads back is the one it has just set. -/
def recordDecision (parameters target : JsonObject) : Py SyntheticIdentityState ActionEffect :=
  changing ("recorded simulated-user decision " ++
      (if approvedOf parameters then MfaDecision.approved else .denied).value)
    (SyntheticIdentityState.recordDecision (target.text "id") (approvedOf parameters))

/-- `reset_identity`. -/
def resetIdentity (_parameters _target : JsonObject) : Py SyntheticIdentityState ActionEffect :=
  changing "restored deterministic identity baseline" SyntheticIdentityState.resetToBaseline

/-- `validate_readiness`. -/
def validateReadiness (_parameters _target : JsonObject) :
    Py SyntheticIdentityState ActionEffect := do
  let mismatches ← Raising.gets SyntheticIdentityState.readinessMismatches
  Raising.require (fun _ => mismatches = []) fun _ => ⟨.ActionExecutionError,
    "Identity baseline differs in: " ++ ", ".intercalate mismatches, some "baseline_mismatch"⟩
  return ⟨["validated deterministic identity baseline"], none, []⟩

/-! ## Registration -/

/-- `_decision_parameters`. -/
def decisionParameters {W : Type} (parameters : JsonObject) : Callback W (Except Exn Unit) :=
  .finish (match parameters with
    | [("approved", .bool _)] => .ok ()
    | _ => .error (.of .ValueError "approved must be the only parameter and must be boolean"))

section Register

variable {W : Type} (monotonic : W → Rat × W)

/-- A registration: everything that the registrations of the module differ in. -/
def identityAction (action_id phase role other_role target effect rollback_method : String)
    (states : List String) (timeout : Int)
    (body : JsonObject → JsonObject → Py SyntheticIdentityState ActionEffect)
    (rollback_handler : String → Rat →
      Callback (W × SyntheticIdentityState) (Except Exn (List String)))
    (validator : JsonObject → Callback W (Except Exn Unit)) (method_given : rollback_method ≠ "")
    (timeout_positive : 1 ≤ timeout) : ActionDefinition W SyntheticIdentityState where
  action_id := action_id
  phase := phase
  allowed_roles := [role, other_role]
  allowed_targets := [target]
  allowed_run_states := states
  max_timeout_seconds := timeout
  expected_effects := [effect]
  rollback_method := rollback_method
  handler := simulationHandler monotonic body
  rollback_handler := rollback_handler
  parameter_validator := some validator
  roles_given := two_given _ _
  targets_given := one_given _
  effects_given := one_given _
  method_given := method_given
  timeout_positive := timeout_positive

/-- `state.rollback`. -/
def rollbackHandler : String → Rat →
    Callback (W × SyntheticIdentityState) (Except Exn (List String)) :=
  simulationRollback monotonic SyntheticIdentityState.rollback

/-- A registration of the loop. -/
def containmentAction (action_id target rollback_method : String)
    (body : JsonObject → JsonObject → Py SyntheticIdentityState ActionEffect)
    (method_given : rollback_method ≠ "") : ActionDefinition W SyntheticIdentityState :=
  identityAction monotonic action_id "identity" "identity_responder" "facilitator" target action_id
    rollback_method ["running"] 15 body (rollbackHandler monotonic) noParameters method_given
    (by decide)

/-- The registry that `register_identity_actions` fills. -/
def registry (run_id : String) : ActionRegistry W SyntheticIdentityState where
  definitions :=
    [containmentAction monotonic "identity.session.revoke" "session:sess-red-01"
      "mark session active" revokeSession (by decide),
    containmentAction monotonic "identity.factor.remove" "mfa_factor:factor-red-01"
      "restore factor state" removeFactor (by decide),
    containmentAction monotonic "identity.account.disable" "identity:sarah"
      "restore account enabled state" disableAccount (by decide),
    containmentAction monotonic "identity.credential.reset" "identity:sarah"
      "restore credential version" resetCredential (by decide),
    identityAction monotonic "identity.mfa.challenge.record" "identity" "scenario_engine"
      "facilitator" "identity:sarah" "record synthetic MFA challenge"
      "restore prior MFA challenge state" ["running"] 15 recordPush (rollbackHandler monotonic)
      noParameters (by decide) (by decide),
    identityAction monotonic "identity.mfa.decision.record" "identity" "simulated_user"
      "facilitator" "identity:sarah" "record simulated-user MFA decision"
      "restore prior MFA decision" ["running"] 15 recordDecision (rollbackHandler monotonic)
      decisionParameters (by decide) (by decide),
    identityAction monotonic "exercise.identity.reset" "post_exercise" "technical_operator"
      "facilitator" ("exercise_run:" ++ run_id) "restore deterministic identity baseline"
      "restore captured pre-reset identity state" ["stopped", "resetting"] 30 resetIdentity
      (rollbackHandler monotonic) noParameters (by decide) thirty_positive,
    identityAction monotonic "exercise.identity.readiness.validate" "setup" "technical_operator"
      "facilitator" ("exercise_run:" ++ run_id) "validate deterministic identity baseline"
      "not required for read-only validation" ["setup", "stopped", "resetting", "ready"] 15
      validateReadiness (fun _ _ => .finish (.ok [])) noParameters (by decide) (by decide)]
  ids_unique := by
    show List.Nodup ["identity.session.revoke", "identity.factor.remove",
      "identity.account.disable", "identity.credential.reset", "identity.mfa.challenge.record",
      "identity.mfa.decision.record", "exercise.identity.reset",
      "exercise.identity.readiness.validate"]
    decide

end Register

end IdentityActions

end NetStrike.Modules
