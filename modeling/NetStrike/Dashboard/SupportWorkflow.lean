import NetStrike.Orchestrator.Controller
import NetStrike.Orchestrator.SupportIndex

/-!
# The support workflow

`SupportWorkflow` of `dashboard/support.py` with `append_event` and `events` of
`dashboard/store.py`. A `Portal` holds what the workflow reads and writes: the `events` table, the
sequencer of the run, and the exercise, run, state and time of the controller. The emergency stop
of the run, the clock and the id factory belong to the environment `SupportDesk`.

Every call runs under the lock of the run, so a call is one step.
-/

set_option autoImplicit false

namespace NetStrike.Dashboard

open NetStrike.Foundation NetStrike.Shared NetStrike.Orchestrator

/-! ## The store -/

/-- The event with every sensitive member redacted. -/
def sanitized (event : Event) : Event :=
  { event with
    source := redactSensitive event.source
    actor := redactSensitive event.actor
    target := redactSensitive event.target
    outcome := redactSensitive event.outcome
    safety := redactSensitive event.safety
    provenance := redactSensitive event.provenance
    data := redactSensitive event.data
    extensions := redactSensitive event.extensions
    attack := event.attack.map redactSensitive }

/-- Two rows that the constraints of the `events` table do not admit together. -/
def Clash (a b : Event) : Prop :=
  a.event_id = b.event_id ∨
    a.exercise_id = b.exercise_id ∧ a.run_id = b.run_id ∧ a.sequence = b.sequence

instance (a b : Event) : Decidable (Clash a b) := inferInstanceAs (Decidable (_ ∨ _))

/-- `PortalStore.append_event` on the rows of the `events` table, newest first. -/
def appendEvent (formats : FormatChecker) (event : Event) (rows : List Event) :
    Except Exn (List Event) := do
  EventValidator.validate formats (sanitized event).toJson
  if ∃ row ∈ rows, Clash row event then
    throw (.of .sqlite3Error "UNIQUE constraint failed")
  return sanitized event :: rows

/-- `PortalStore.events`. -/
def storedEvents (exercise_id run_id : String) (rows : List Event) : List Event :=
  (rows.filter fun e => e.exercise_id = exercise_id ∧ e.run_id = run_id).insertionSort
    fun a b => a.sequence ≤ b.sequence

/-! ## The portal -/

/-- `PortalPrincipal`. -/
structure PortalPrincipal where
  actor_id : String
  role : String
deriving DecidableEq

/-- What the workflow reads and writes of the service. -/
structure Portal (W : Type) where
  rows : List Event
  exercise_id : String
  run_id : String
  sequencer : EventSequencer
  state : RunState
  elapsed_seconds : Int
  world : W

/-- The ledger of the current run. -/
def Portal.ledger {W : Type} (p : Portal W) : List Event :=
  storedEvents p.exercise_id p.run_id p.rows

/-- One step of the rest of the service: another producer appends an event, time passes and the
state and the sequencer change, or a reset enters an unused run id. -/
inductive OtherStep {W : Type} (formats : FormatChecker) : Portal W → Portal W → Prop
  | produced {p : Portal W} {event : Event} {rows : List Event} (hevent : Support.Foreign event)
      (hrows : appendEvent formats event p.rows = .ok rows) :
      OtherStep formats p { p with rows := rows }
  | moved {p : Portal W} (sequencer : EventSequencer) (state : RunState) {elapsed_seconds : Int}
      (world : W) (htime : p.elapsed_seconds ≤ elapsed_seconds) :
      OtherStep formats p { p with
        sequencer := sequencer, state := state, elapsed_seconds := elapsed_seconds,
        world := world }
  | reset {p : Portal W} {run_id : String}
      (hunused : storedEvents p.exercise_id run_id p.rows = []) :
      OtherStep formats p { p with run_id := run_id, state := .ready, elapsed_seconds := 0 }

/-- The collaborators of the workflow; the emergency stop of the run works by steps of the rest of
the service. -/
structure SupportDesk (W : Type) where
  formats : FormatChecker
  clock : W → DateTime × W
  event_id_factory : W → String × W
  fail_safe_stop : String → List (String × Json) → Py (Portal W) Unit
  stop_steps : ∀ reason operator p,
    Relation.ReflTransGen (OtherStep formats) p (fail_safe_stop reason operator p).2

/-- A receipt. -/
structure Receipt where
  run_id : String
  event_id : String
  request_id : Json
  status : String
  replayed : Bool
deriving DecidableEq

namespace SupportDesk

open Support

variable {W : Type} (desk : SupportDesk W)

/-- The collaborators of an event builder of the run. -/
def sources : EventSources (Portal W) where
  sequence_factory := some fun p => (p.sequencer.next.1, { p with sequencer := p.sequencer.next.2 })
  clock := fun p => ((desk.clock p.world).1, { p with world := (desk.clock p.world).2 })
  event_id_factory := fun p =>
    ((desk.event_id_factory p.world).1, { p with world := (desk.event_id_factory p.world).2 })

/-- `EventBuilder(context, …).build(…)`. -/
def build (context : EventContext) (call : EventCall) : Py (Portal W) Event :=
  Raising.focus (fun p => ((⟨context, 0⟩ : EventBuilder), p)) (fun s _ => s.2)
    (EventBuilder.build desk.formats desk.sources call)

/-- `self.service.store.append_event`. -/
def store (event : Event) : Py (Portal W) Unit := fun p =>
  match appendEvent desk.formats event p.rows with
  | .ok rows => (.ok (), { p with rows := rows })
  | .error e => (.error e, p)

/-- `SupportEvidenceError`, a class under `ControllerError`. -/
def evidenceError (message : String) : Exn := .of (.other "SupportEvidenceError") message

/-- `_scope`. -/
def scope (principal : PortalPrincipal) (run_id : String) (roles : List String) :
    Py (Portal W) Unit := do
  Raising.require (fun _ => principal.role ∈ roles) fun _ =>
    .of .ControllerError "role cannot perform this support operation"
  Raising.require (fun p => run_id = p.run_id) fun _ =>
    .of .ValueError "run changed; refresh before requesting or replying"

/-- `_receipt`. -/
def receipt (event : Event) (replayed : Bool) : Receipt where
  run_id := event.run_id
  event_id := event.event_id
  request_id :=
    if event.event_type = requestType then .str event.event_id
    else (event.data.get? "request_id").getD .null
  status := if event.event_type = requestType then "requested" else "answered"
  replayed := replayed

/-- `_retry_request` and `_retry_response`: the earlier event of the actor under the key. -/
def retry (event_type key_field : String) (events : List Event) (actor_id key : String)
    (expected : List (String × Json)) (objective_ids : List String) :
    Except Exn (Option Receipt) :=
  match events.find? fun e => e.event_type = event_type ∧ actorId e = actor_id ∧
      e.data.get? key_field = some (.str key) with
  | some event =>
      if (∀ m ∈ expected, event.data.get? m.1 = some m.2) ∧
          event.objective_ids = objective_ids then
        .ok (some (receipt event true))
      else .error (.of .ValueError "support retry key conflicts with a previous payload")
  | none => .ok none

/-- The context of the events of the workflow. -/
def context (p : Portal W) (actor_type : String) : EventContext :=
  ⟨p.exercise_id, p.run_id, actor_type, component, "1.0.0", none⟩

/-- The arguments of `builder.build` in `_append` for a request. -/
def requestCall (principal : PortalPrincipal) (data : List (String × Json))
    (scope_ids : List String) (p : Portal W) : EventCall where
  event_type := requestType
  phase := "control"
  actor := entity "participant" principal.actor_id none (some principal.role)
  action := "exercise.support.request"
  target := some (entity "support_queue" p.run_id none none)
  outcome_status := "success"
  visibility := "facilitator"
  message := "Participant help requested"
  objective_ids := scope_ids
  safety_controls := ["human-authored", "run-scoped", "append-only", "no-auto-grading"]
  data := some (data ++ [("elapsed_seconds", .int p.elapsed_seconds),
    ("run_state", .str p.state.value)])

/-- The arguments of `builder.build` in `_append` for a reply. -/
def responseCall (principal : PortalPrincipal) (request_id : String)
    (data : List (String × Json)) (scope_ids : List String) (p : Portal W) : EventCall where
  event_type := responseType
  phase := "control"
  actor := entity "facilitator" principal.actor_id none (some principal.role)
  action := "exercise.support.respond"
  target := some (entity "support_request" request_id none none)
  outcome_status := "success"
  visibility := "facilitator"
  message := "Exercise staff reply recorded"
  objective_ids := scope_ids
  correlation_ids := [request_id]
  safety_controls := ["human-authored", "run-scoped", "append-only", "no-auto-grading"]
  data := some (data ++ [("elapsed_seconds", .int p.elapsed_seconds),
    ("run_state", .str p.state.value)])

/-- The ledger is numbered `1, …, n` and the sequencer stands at `n`. -/
def Consistent (events : List Event) (p : Portal W) : Prop :=
  events.map Event.sequence = (List.range events.length).map (fun i : Nat => (i : Int) + 1) ∧
    p.sequencer.sequence = events.length

instance (events : List Event) (p : Portal W) : Decidable (Consistent events p) :=
  inferInstanceAs (Decidable (_ ∧ _))

/-- `_append`; `actor_type` and `call` are what the event type decides. -/
def append (actor_type : String) (call : Portal W → EventCall) (events : List Event) :
    Py (Portal W) Receipt := do
  Raising.require (Consistent events) fun _ =>
    .of .ControllerError "support audit ledger inconsistent; preserve evidence"
  let portal ← Raising.gets id
  let outcome ← Raising.attempt do
    let event ← desk.build (context portal actor_type) (call portal)
    desk.store event
    return event
  match outcome with
  | .ok event => return receipt event false
  | .error _ =>
      let stopped ← Raising.attempt (desk.fail_safe_stop "support evidence persistence unavailable"
        (entity "system" "exercise-support" none (some "technical_operator")))
      match stopped with
      | .ok _ =>
          Raising.raise
            (evidenceError "support evidence unavailable; preserve evidence before reset")
      | .error e =>
          if e.type.isA .ControllerError then
            Raising.raise (evidenceError
              "support evidence unavailable; safety audit incomplete; preserve evidence")
          else Raising.raise e

/-- `value not in names` for a set of names; a list or an object has no hash. -/
def memberOf (value : Json) (names : List String) (message : String) : Except Exn String :=
  match value with
  | .str s => if s ∈ names then .ok s else .error (.of .ValueError message)
  | .arr _ => .error (.of .TypeError "unhashable type: 'list'")
  | .obj _ => .error (.of .TypeError "unhashable type: 'dict'")
  | _ => .error (.of .ValueError message)

/-- The arguments of `request`. -/
structure RequestArgs where
  run_id : String
  idempotency_key : Json
  objective_id : Json
  message : Json

/-- The arguments of `respond`. -/
structure RespondArgs where
  run_id : String
  request_id : Json
  idempotency_key : Json
  kind : Json
  message : Json
  objective_ids : Json

/-- A checked request. -/
structure Question where
  key : String
  objective_id : String
  message : String
deriving DecidableEq

/-- The dictionary `expected` of a request. -/
def Question.expected (q : Question) : List (String × Json) :=
  [("request_key", .str q.key), ("objective_id", .str q.objective_id), ("text", .str q.message)]

/-- The checks of `request` on its arguments. -/
def question (args : RequestArgs) : Except Exn Question := do
  let message ← text args.message "question" 1024
  let key ← text args.idempotency_key "retry key" 128
  let objective_id ← memberOf args.objective_id objectiveIds "invalid support objective"
  return ⟨key, objective_id, message⟩

/-- `request`. -/
def request (principal : PortalPrincipal) (args : RequestArgs) : Py (Portal W) Receipt := do
  scope principal args.run_id learnerRoles
  let q ← Raising.ofExcept (question args)
  let events ← Raising.gets Portal.ledger
  let records ← Raising.ofExcept (supportIndex events)
  let replay ← Raising.ofExcept
    (retry requestType "request_key" events principal.actor_id q.key q.expected [q.objective_id])
  match replay with
  | some receipt => return receipt
  | none =>
      Raising.require (fun p => p.state = .running ∨ p.state = .paused) fun _ =>
        .of .ControllerError "new help requests require running or paused play"
      let own := records.filter fun r => r.requester_id = principal.actor_id
      Raising.require (fun _ => ∀ r ∈ own, r.response ≠ none) fun _ =>
        .of .ValueError "one pending request per participant; await the staff reply"
      Raising.require
        (fun _ => own.length < maxActorRequests ∧ records.length < maxRequests) fun _ =>
        .of .ValueError "support request limit reached"
      desk.append "participant" (requestCall principal q.expected [q.objective_id]) events

/-- A checked reply. -/
structure Answer where
  request_id : String
  key : String
  kind : String
  message : String
  scope_ids : List String
deriving DecidableEq

/-- The dictionary `expected` of a reply. -/
def Answer.expected (a : Answer) : List (String × Json) :=
  [("request_id", .str a.request_id), ("response_key", .str a.key), ("kind", .str a.kind),
    ("text", .str a.message)]

/-- The checks of `respond` on its arguments. -/
def answered (principal : PortalPrincipal) (args : RespondArgs) : Except Exn Answer := do
  let kind ← memberOf args.kind kinds "invalid support reply kind"
  if principal.role = "technical_operator" ∧ kind ≠ "platform_issue" then
    throw (.of .ControllerError "technical operators can report platform issues, not coaching")
  let message ← text args.message "reply" 1024
  let request_id ← text args.request_id "request id" 128
  let key ← text args.idempotency_key "retry key" 128
  let scope_ids ← objectives args.objective_ids
  return ⟨request_id, key, kind, message, scope_ids⟩

/-- `respond`. -/
def respond (principal : PortalPrincipal) (args : RespondArgs) : Py (Portal W) Receipt := do
  scope principal args.run_id ["facilitator", "technical_operator"]
  let a ← Raising.ofExcept (answered principal args)
  let events ← Raising.gets Portal.ledger
  let records ← Raising.ofExcept (supportIndex events)
  let replay ← Raising.ofExcept
    (retry responseType "response_key" events principal.actor_id a.key a.expected a.scope_ids)
  match replay with
  | some receipt => return receipt
  | none =>
      Raising.require (fun p => (p.state = .running ∨ p.state = .paused ∨ p.state = .stopped) ∧
          ¬ (p.state = .stopped ∧ a.kind ≠ "platform_issue")) fun _ =>
        .of .ControllerError "reply requires live play or a stopped-run platform explanation"
      let record := records.find? fun r => r.request_id = a.request_id
      Raising.require (fun _ => record ≠ none) fun _ =>
        .of .ValueError "request does not belong to the current run"
      Raising.require (fun _ => ∀ r, record = some r → r.response = none) fun _ =>
        .of .ValueError "request already answered; replies are immutable"
      desk.append "facilitator" (responseCall principal a.request_id a.expected a.scope_ids) events

end SupportDesk

end NetStrike.Dashboard
