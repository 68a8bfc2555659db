import NetStrike.Foundation.Runs
import NetStrike.Modules.IdentityState
import NetStrike.Orchestrator.Controller

/-!
# Scheduled challenges

`ScheduledMfa` of `orchestrator/mfa.py`. `Mfa W` holds what never changes: the configuration, the
readings of the run and the collaborators, which act on a world `W`. `ScheduledMfa W` is the state:
the history, the pending challenge, the synthetic identity state that the challenges share with other
components, the builder and the world. In the source the pending challenge is the same object as its
entry of the history, so it is a position of the history here.

`MfaFault` says where an exception comes from. The `journal` is a ghost field: the audited outcomes.
-/

set_option autoImplicit false

namespace NetStrike.Orchestrator

open NetStrike.Foundation NetStrike.Shared NetStrike.Modules

/-! ## Configuration -/

/-- A reviewed configuration. -/
structure MfaConfiguration where
  seed : String
  identity_id : String
  session_id : String
  factor_id : String
  timeout_seconds : Int
  timeout_reviewed : 1 ≤ timeout_seconds ∧ timeout_seconds ≤ 300

namespace MfaConfiguration

/-- The names of the identifiers. -/
def identifiers : List String := ["seed", "identity_id", "session_id", "factor_id"]

/-- The value of an identifier. -/
def identifier (members : JsonObject) (name : String) : Option String :=
  match members.lookup name with
  | some (.str value) => if Blank value then none else some value
  | _ => none

/-- The value of the timeout. -/
def timeout (members : JsonObject) : Option { seconds : Int // 1 ≤ seconds ∧ seconds ≤ 300 } :=
  match members.lookup "timeout_seconds" with
  | some (.int seconds) => if h : 1 ≤ seconds ∧ seconds ≤ 300 then some ⟨seconds, h⟩ else none
  | _ => none

/-- The members are the required ones. -/
def Required (members : JsonObject) : Prop :=
  (∀ m ∈ members, m.1 ∈ "timeout_seconds" :: identifiers) ∧
    ∀ name ∈ "timeout_seconds" :: identifiers, (members.lookup name).isSome = true

instance (members : JsonObject) : Decidable (Required members) :=
  inferInstanceAs (Decidable (_ ∧ _))

/-- A `ValueError`. -/
def invalid (message : String) : Exn := .of .ValueError message

/-- The configuration refers to a synthetic identity of the state, and to its session and factor. -/
def check (config : MfaConfiguration) (state : IdentitySections) : Except Exn MfaConfiguration :=
  if (state.identities.lookup config.identity_id).any Identity.synthetic = false then
    .error (invalid "scheduled MFA requires a baseline synthetic identity")
  else if (state.sessions.lookup config.session_id).map IdentitySession.identity_id =
        some config.identity_id ∧
      (state.factors.lookup config.factor_id).map Factor.identity_id =
        some config.identity_id then .ok config
  else .error (invalid "scheduled MFA references must belong to its identity")

/-- `validate_mfa_configuration`. -/
def validate (configuration : Json) (state : IdentitySections) : Except Exn MfaConfiguration :=
  match configuration with
  | .obj members =>
      if ¬ Required members then .error (invalid "scheduled MFA configuration fields are invalid")
      else
        match identifier members "seed", identifier members "identity_id",
            identifier members "session_id", identifier members "factor_id" with
        | some seed, some identity_id, some session_id, some factor_id =>
            match timeout members with
            | some seconds =>
                check ⟨seed, identity_id, session_id, factor_id, seconds.1, seconds.2⟩ state
            | none => .error (invalid "scheduled MFA timeout must be between 1 and 300 seconds")
        | _, _, _, _ => .error (invalid "scheduled MFA identifiers must be non-empty strings")
  | _ => .error (invalid "scheduled MFA configuration fields are invalid")

end MfaConfiguration

/-! ## State -/

/-- The outcomes of a challenge. -/
inductive MfaOutcome where
  | delivered
  | approved
  | denied
  | expired
  | blocked
  | cancelled
deriving DecidableEq

namespace MfaOutcome

/-- The name of the outcome. -/
def value : MfaOutcome → String
  | delivered => "delivered"
  | approved => "approved"
  | denied => "denied"
  | expired => "expired"
  | blocked => "blocked"
  | cancelled => "cancelled"

/-- The status of the event. -/
def status : MfaOutcome → String
  | delivered => "pending"
  | approved => "success"
  | denied => "denied"
  | expired => "denied"
  | blocked => "blocked"
  | cancelled => "cancelled"

/-- The decision that the identity state records. -/
def decision : MfaOutcome → MfaDecision
  | delivered => .pending
  | approved => .approved
  | denied => .denied
  | expired => .expired
  | blocked => .blocked
  | cancelled => .cancelled

end MfaOutcome

/-- The members that an audited outcome adds to a challenge. -/
structure MfaSettlement where
  outcome : MfaOutcome
  reason : String
  evidence_id : String
deriving DecidableEq

/-- An entry of `history`. -/
structure MfaChallenge where
  id : String
  msel_id : String
  delivered_at_seconds : Int
  expires_at_seconds : Int
  settlement : Option MfaSettlement
deriving DecidableEq

/-- An audited outcome: the position of the challenge, its expiry, the exercise clock, and whether
containment was in force. -/
structure MfaMark where
  index : Nat
  outcome : MfaOutcome
  expires_at_seconds : Int
  elapsed_seconds : Int
  contained : Bool
deriving DecidableEq

/-- The state of a `ScheduledMfa`, its world and its journal. -/
structure ScheduledMfa (W : Type) where
  history : List MfaChallenge
  pending : Option Nat
  identity : SyntheticIdentityState
  events : EventBuilder
  world : W
  journal : List MfaMark
deriving DecidableEq

/-- Where an exception comes from. -/
inductive MfaFault where
  | audit (e : Exn)
  | controller (message : String)
  | key (name : String)
  | type (message : String)
deriving DecidableEq

/-- The exception of a fault. -/
def MfaFault.exn : MfaFault → Exn
  | audit e => e
  | controller message => .of .ControllerError message
  | key name => .of .KeyError name
  | type message => .of .TypeError message

/-- The fixed fields of a `ScheduledMfa`. -/
structure Mfa (W : Type) where
  run_id : String
  config : MfaConfiguration
  credential_version : Int
  run_state : W → String
  elapsed : W → Int
  event_sink : Event → W → Except Exn Unit × W
  sources : EventSources W
  uuid5 : String → String
  formats : FormatChecker

namespace Mfa

variable {W : Type} (env : Mfa W)

/-- The steps of the challenges. -/
abbrev Step (W α : Type) := Raising MfaFault (ScheduledMfa W) α

/-- The state that `__init__` leaves. -/
def init (exercise_id : String) (identity : SyntheticIdentityState) (world : W) :
    ScheduledMfa W where
  history := []
  pending := none
  identity := identity
  events := ⟨⟨exercise_id, env.run_id, "module", "scheduled-mfa", "1.0.0", none⟩, 0⟩
  world := world
  journal := []

/-! ## Parts -/

/-- `_blocked_reason`. -/
def blockedReason (state : IdentitySections) : Except MfaFault (Option String) :=
  match state.identities.lookup env.config.identity_id with
  | none => .error (.key env.config.identity_id)
  | some identity =>
      if identity.enabled = false then .ok (some "account_disabled")
      else
        match state.sessions.lookup env.config.session_id with
        | none => .error (.key env.config.session_id)
        | some session =>
            if session.active = false then .ok (some "session_revoked")
            else
              match state.factors.lookup env.config.factor_id with
              | none => .error (.key env.config.factor_id)
              | some factor =>
                  if factor.active = false then .ok (some "factor_removed")
                  else if identity.credential_version ≠ env.credential_version then
                    .ok (some "credential_rotated")
                  else .ok none

/-- The pending challenge and its position. -/
def pendingEntry (s : ScheduledMfa W) : Option (Nat × MfaChallenge) :=
  s.pending.bind fun index => s.history[index]?.map fun challenge => (index, challenge)

/-- The arguments that `_record` passes to the builder. -/
def recordCall (challenge : MfaChallenge) (outcome : MfaOutcome) (reason : String)
    (actor : JsonObject) (elapsed_seconds : Int) : EventCall where
  event_type := "identity.mfa.challenge." ++ outcome.value
  phase := "identity"
  actor := match actor with
    | [] => entity "system" "scenario-engine" none (some "scenario_engine")
    | _ => actor
  action := "identity.mfa.challenge." ++ outcome.value
  target := some (entity "identity" env.config.identity_id none none)
  outcome_status := outcome.status
  outcome_reason := some reason
  message := "Synthetic MFA challenge " ++ outcome.value
  visibility := "participant"
  objective_ids := ["LO1", "LO2"]
  correlation_ids := [challenge.id, env.config.session_id]
  safety_controls := ["synthetic-only", "no-network", "explicit-human-decision", "exercise-clock",
    "containment-gated"]
  data := some [("challenge_id", .str challenge.id), ("msel_id", .str challenge.msel_id),
    ("identity_id", .str env.config.identity_id), ("session_id", .str env.config.session_id),
    ("factor_id", .str env.config.factor_id), ("elapsed_seconds", .int elapsed_seconds),
    ("reason", .str reason), ("delivered_at_seconds", .int challenge.delivered_at_seconds),
    ("expires_at_seconds", .int challenge.expires_at_seconds)]

/-- The builder and the world. -/
def buildState (s : ScheduledMfa W) : EventBuilder × W := (s.events, s.world)

/-- Write back the builder and the world. -/
def withBuildState (t : EventBuilder × W) (s : ScheduledMfa W) : ScheduledMfa W :=
  { s with events := t.1, world := t.2 }

/-- Build an event and send it. -/
def emit (call : EventCall) : Py (EventBuilder × W) Event := do
  let event ← EventBuilder.build env.formats env.sources call
  let accepted ← Raising.step fun t =>
    ((env.event_sink event t.2).1, (t.1, (env.event_sink event t.2).2))
  Raising.ofExcept accepted
  return event

/-- Whether containment is in force. -/
def contained (state : IdentitySections) : Bool :=
  match env.blockedReason state with
  | .ok reason => reason.isSome
  | .error _ => true

/-- The audited outcome of the challenge. -/
def settle (index : Nat) (challenge : MfaChallenge) (settlement : MfaSettlement)
    (s : ScheduledMfa W) : ScheduledMfa W :=
  { s with
    history := s.history.set index { challenge with settlement := some settlement }
    journal := s.journal ++ [⟨index, settlement.outcome, challenge.expires_at_seconds,
      env.elapsed s.world, env.contained s.identity.toIdentitySections⟩] }

/-- Change the challenge record of the identity. -/
def updateRecord (f : MfaRecord → MfaRecord) : Step W Unit := do
  let found ← Raising.gets fun s => s.identity.mfa.lookup env.config.identity_id
  match found with
  | none => Raising.raise (.key env.config.identity_id)
  | some record => Raising.modify fun s => { s with identity := { s.identity with
      mfa := setEntry env.config.identity_id (f record) s.identity.mfa } }

/-- `_record`. -/
def record (index : Nat) (challenge : MfaChallenge) (outcome : MfaOutcome) (reason : String)
    (actor : JsonObject) (occurred_at_seconds : Option Int) : Step W Unit := do
  let call ← Raising.gets fun s => env.recordCall challenge outcome reason actor
    (occurred_at_seconds.getD (env.elapsed s.world))
  let event ← Raising.mapError .audit (Raising.focus buildState withBuildState (env.emit call))
  Raising.modify (env.settle index challenge ⟨outcome, reason, event.event_id⟩)
  env.updateRecord fun record => { record with decision := outcome.decision }

/-- No challenge is pending. -/
def clear (s : ScheduledMfa W) : ScheduledMfa W := { s with pending := none }

/-! ## Operations -/

/-- The reason of `_blocked_reason` in the current state. -/
def reasonNow : Step W (Option String) := do
  let state ← Raising.gets fun s => s.identity.toIdentitySections
  Raising.ofExcept (env.blockedReason state)

/-- `advance`. -/
def advance : Step W Unit := do
  let found ← Raising.gets pendingEntry
  match found with
  | none => return ()
  | some (index, challenge) => do
      let blocked ← env.reasonNow
      let elapsed ← Raising.gets fun s => env.elapsed s.world
      match blocked with
      | some reason => do
          env.record index challenge .cancelled reason [] (some elapsed)
          Raising.modify clear
      | none =>
          if challenge.expires_at_seconds ≤ elapsed then do
            env.record index challenge .expired "exercise_timeout" []
              (some challenge.expires_at_seconds)
            Raising.modify clear
          else return ()

/-- The challenge of an item. -/
def newChallenge (item : ScenarioItem) (elapsed_seconds : Int) : MfaChallenge where
  id := "mfa-" ++ env.uuid5 s!"{env.run_id}:{env.config.seed}:{item.item_id}"
  msel_id := item.item_id
  delivered_at_seconds := elapsed_seconds
  expires_at_seconds := elapsed_seconds + env.config.timeout_seconds
  settlement := none

/-- Append to the history. -/
def append (challenge : MfaChallenge) (s : ScheduledMfa W) : ScheduledMfa W :=
  { s with history := s.history ++ [challenge] }

/-- The answer of a delivery with the given outcome. -/
def processed (challenge : MfaChallenge) (outcome : MfaOutcome) : AutomationResult :=
  ⟨true, "Synthetic MFA attempt processed",
    [("challenge_id", .str challenge.id), ("outcome", .str outcome.value)]⟩

/-- The new challenge is pending. -/
def publish (index : Nat) (s : ScheduledMfa W) : ScheduledMfa W := { s with pending := some index }

/-- The end of `deliver`, for a new entry of the history. -/
def issue (index : Nat) (challenge : MfaChallenge) : Step W AutomationResult := do
  let blocked ← env.reasonNow
  match blocked with
  | some reason => do
      env.record index challenge .blocked reason [] none
      return processed challenge .blocked
  | none => do
      env.record index challenge .delivered "awaiting_human_decision" [] none
      env.updateRecord fun record => { record with push_count := record.push_count + 1 }
      Raising.modify (publish index)
      return processed challenge .delivered

/-- `deliver`. -/
def deliver (item : ScenarioItem) (run_id : String) : Step W AutomationResult := do
  let state ← Raising.gets fun s => env.run_state s.world
  if run_id ≠ env.run_id ∨ state ≠ "running" then
    return ⟨false, "MFA delivery requires the current running exercise", []⟩
  else do
    env.advance
    let pending ← Raising.gets ScheduledMfa.pending
    if pending.isSome = true then return ⟨false, "A synthetic challenge is already pending", []⟩
    else do
      let challenge ← Raising.gets fun s => env.newChallenge item (env.elapsed s.world)
      let index ← Raising.gets fun s => s.history.length
      Raising.modify (append challenge)
      env.issue index challenge

/-- The decision of an accepted request, and the role that may take it. -/
def outcomeOf : Json → Option MfaOutcome
  | .str "approve" => some .approved
  | .str "deny" => some .denied
  | _ => none

/-- The role of the actor may decide. -/
def checkRole (actor : JsonObject) : Except MfaFault Unit :=
  match actor.lookup "role" with
  | some (.str role) =>
      if role ∈ ["facilitator", "simulated_user"] then .ok ()
      else .error (.controller "MFA decisions require facilitator or simulated_user role")
  | some (.arr _) => .error (.type "unhashable type: 'list'")
  | some (.obj _) => .error (.type "unhashable type: 'dict'")
  | _ => .error (.controller "MFA decisions require facilitator or simulated_user role")

/-- `decide`. -/
def decide (challenge_id decision : Json) (actor : JsonObject) : Step W Unit := do
  Raising.ofExcept (checkRole actor)
  Raising.require (fun s => env.run_state s.world = "running") fun _ =>
    .controller "MFA decisions require a running exercise"
  match challenge_id, outcomeOf decision with
  | .str id, some outcome => do
      env.advance
      let found ← Raising.gets pendingEntry
      match found with
      | none => Raising.raise (.controller "No matching pending challenge in this run")
      | some (index, challenge) =>
          if challenge.id ≠ id then
            Raising.raise (.controller "No matching pending challenge in this run")
          else do
            env.record index challenge outcome "human_decision" actor none
            Raising.modify clear
  | _, _ => Raising.raise (.controller "MFA decision fields are invalid")

/-- `stop`. -/
def stop : Step W Unit := do
  let found ← Raising.gets pendingEntry
  match found with
  | none => return ()
  | some (index, challenge) =>
      Raising.ensure (env.record index challenge .cancelled "fail_safe_stop" [] none) clear

end Mfa

end NetStrike.Orchestrator
