import NetStrike.Foundation.Tracking
import NetStrike.Orchestrator.ControllerFrames

/-!
# The audit writes of the controller

Every change of the controller is an assignment followed by one `_emit` call. A `Notice` holds the
arguments of such a call, and `Written` says that its event passes the event contract and that the
sink accepts it. `AuditedStep` is the condition on one operation that all the writes it comes to
are written.

`StepMeets P D` is the same for any condition `P` on notices and any condition `D` on deliveries. An
invariant satisfies a `NoticeLaw` when each single write keeps it exactly if `P` holds of its notice,
and each delivery exactly if `D` holds; `NoticeLaw.call` lifts this to the operations, with their
loops over due items and branches.
-/

set_option autoImplicit false

namespace NetStrike.Orchestrator.Controller

open NetStrike.Foundation NetStrike.Shared

variable {W : Type}

/-! ## Notices -/

/-- The arguments of an `_emit` call. -/
structure Notice where
  event_type : String
  action : String
  message : String
  status : String
  item : Option ScenarioItem
  actor_role : String
  data : List (String × Json)

/-- The notice of a ready item. -/
def readyNotice (item : ScenarioItem) : Notice :=
  ⟨"scenario.item.ready", "scenario.ready", s!"{item.item_id} is ready for facilitator delivery",
    "pending", some item, "controller", [("item_kind", .str item.kind.value)]⟩

/-- The notice of a failed item. -/
def failedNotice (item : ScenarioItem) (reason : String) (data : List (String × Json)) : Notice :=
  ⟨"scenario.item.failed", item.action_id.getD "scenario.deliver",
    s!"{item.item_id} failed: {reason}", "error", some item, "controller",
    mergeMembers [("item_kind", .str item.kind.value)] data⟩

/-- The notice of a delivered item. -/
def deliveredNotice (item : ScenarioItem) (actor_role message : String)
    (data : List (String × Json)) : Notice :=
  ⟨"scenario.item.delivered", item.action_id.getD "scenario.deliver", message, "success",
    some item, actor_role, mergeMembers [("item_kind", .str item.kind.value)] data⟩

/-- The notice of a skipped item. -/
def skippedNotice (item : ScenarioItem) (item_id reason : String) : Notice :=
  ⟨"scenario.item.skipped", "scenario.skip", s!"{item_id} skipped: {strip reason}", "skipped",
    some item, "facilitator",
    [("item_kind", .str item.kind.value), ("reason", .str (strip reason))]⟩

/-- The notice of a resolved checkpoint. -/
def resolvedNotice (item : ScenarioItem) (checkpoint_id : String) (passed : Bool)
    (evidence_ids : List String) (reason : String) (checks : Option Json) : Notice :=
  ⟨"scenario.checkpoint.resolved", "scenario.checkpoint.evaluate",
    s!"{checkpoint_id} result: {(resultOf passed).value} — {strip reason}",
    if passed then "success" else "failure", some item, "facilitator",
    [("result", .str (resultOf passed).value), ("reason", .str (strip reason)),
      ("evidence_ids", Json.strs (firstOccurrences evidence_ids))] ++
      optionalMember "verifier_checks" checks⟩

/-- The notice of a run that changes its state. -/
def runNotice (event_type action message : String) : Notice :=
  ⟨event_type, action, message, "success", none, "controller", []⟩

/-- The notice of a stop. -/
def stoppedNotice (reason : String) : Notice :=
  ⟨"scenario.run.stopped", "scenario.stop", s!"Fail-safe stop: {strip reason}", "cancelled", none,
    "controller", [("reason", .str (strip reason))]⟩

/-- The notice of a reset. -/
def resetNotice (previous_run_id : String) : Notice :=
  ⟨"scenario.run.reset", "scenario.reset", "Controller state reset for a new run", "success", none,
    "controller", [("previous_run_id", .str previous_run_id)]⟩

variable (env : Controller W)

/-- `_emit` with the arguments of a notice. -/
def notify (n : Notice) : Py (ScenarioController W) Unit :=
  env.emit n.event_type n.action n.message n.status n.item n.actor_role n.data

/-- The build that a notice asks for. -/
def callOf (n : Notice) (c : ScenarioController W) : EventCall :=
  env.emitCall c n.event_type n.action n.message n.status n.item n.actor_role n.data

/-- The event of a notice. -/
def eventOf (n : Notice) (c : ScenarioController W) : Event :=
  (env.callOf n c).assemble c.events.context (EventBuilder.nextSequence env.sources c.events c.world).1
    (EventBuilder.eventId env.sources (env.callOf n c)
      (EventBuilder.nextSequence env.sources c.events c.world).2).1
    (EventBuilder.now env.sources (env.callOf n c)
      (EventBuilder.eventId env.sources (env.callOf n c)
        (EventBuilder.nextSequence env.sources c.events c.world).2).2).1.isoformat

/-- The world in which the event of a notice is handed to the sink. -/
def worldOf (n : Notice) (c : ScenarioController W) : W :=
  (EventBuilder.now env.sources (env.callOf n c)
    (EventBuilder.eventId env.sources (env.callOf n c)
      (EventBuilder.nextSequence env.sources c.events c.world).2).2).2

/-- The event of the notice meets the event contract, and the sink accepts it. -/
structure Written (n : Notice) (c : ScenarioController W) : Prop where
  builds : EventBuilder.Builds env.formats env.sources (env.callOf n c) c.events c.world
  accepted : (env.event_sink (env.eventOf n c) (env.worldOf n c)).1 = .ok ()

/-- A notice is built in the state `c`, and `c'` is the state in which the sink has answered. -/
structure Handed (n : Notice) (c c' : ScenarioController W) : Prop where
  run : SameRun c c'
  context : c'.events.context = c.events.context
  journal : c'.journal = c.journal ++ [.emitted (env.eventOf n c)]
  world : c'.world = (env.event_sink (env.eventOf n c) (env.worldOf n c)).2

/-- A built notice has the answer of the sink as its outcome. -/
theorem notify_of_builds {n : Notice} {c : ScenarioController W}
    (h : EventBuilder.Builds env.formats env.sources (env.callOf n c) c.events c.world) :
    ∃ c', env.notify n c = ((env.event_sink (env.eventOf n c) (env.worldOf n c)).1, c') ∧
      env.Handed n c c' := by
  have hfocus : Raising.focus buildState withBuildState
      (EventBuilder.build env.formats env.sources (env.callOf n c)) c =
        (.ok (env.eventOf n c), withBuildState ({ c.events with
          sequence := (EventBuilder.nextSequence env.sources c.events c.world).1 },
          env.worldOf n c) c) := by
    rw [Raising.focus_apply, show buildState c = (c.events, c.world) from rfl,
      EventBuilder.build_of_builds env.formats env.sources h]
    rfl
  refine ⟨{ note (.emitted (env.eventOf n c)) (withBuildState ({ c.events with
          sequence := (EventBuilder.nextSequence env.sources c.events c.world).1 },
          env.worldOf n c) c) with
    world := (env.event_sink (env.eventOf n c) (env.worldOf n c)).2 }, ?_,
    ⟨⟨rfl, rfl, rfl, rfl, rfl⟩, rfl, rfl, rfl⟩⟩
  unfold notify emit
  rw [Raising.gets_bind_apply]
  exact Raising.bind_of_ok hfocus

/-- A written notice returns. -/
theorem notify_of_written {n : Notice} {c : ScenarioController W} (h : env.Written n c) :
    ∃ c', env.notify n c = (.ok (), c') ∧ env.Handed n c c' := by
  obtain ⟨c', heq, hhanded⟩ := env.notify_of_builds h.builds
  exact ⟨c', heq.trans (by rw [h.accepted]), hhanded⟩

/-- What is left of a notice that is not written: it was not built and nothing but the sources
moved, or the sink refused it. -/
def Refused (n : Notice) (c c' : ScenarioController W) : Prop :=
  SameRun c c' ∧ c'.events.context = c.events.context ∧
    ((∃ w : Exn × W, EventBuilder.build env.formats env.sources (env.callOf n c) (c.events, c.world) =
        (.error w.1, (c.events, w.2)) ∧ c'.journal = c.journal ∧ c'.world = w.2) ∨
      env.Handed n c c' ∧ ∃ e, (env.event_sink (env.eventOf n c) (env.worldOf n c)).1 = .error e)

/-- A notice that is not written raises. -/
theorem notify_of_not_written {n : Notice} {c : ScenarioController W} (h : ¬ env.Written n c) :
    ∃ e c', env.notify n c = (.error e, c') ∧ env.Refused n c c' := by
  by_cases hbuilds : EventBuilder.Builds env.formats env.sources (env.callOf n c) c.events c.world
  · obtain ⟨c', heq, hhanded⟩ := env.notify_of_builds hbuilds
    cases hsink : (env.event_sink (env.eventOf n c) (env.worldOf n c)).1 with
    | ok _ => exact absurd ⟨hbuilds, hsink⟩ h
    | error e =>
        rw [hsink] at heq
        exact ⟨e, c', heq, hhanded.run, hhanded.context, Or.inr ⟨hhanded, e, hsink⟩⟩
  · obtain ⟨e, w', hbuild, -, -⟩ := EventBuilder.build_of_not_builds env.formats env.sources hbuilds
    refine ⟨e, withBuildState (c.events, w') c, ?_, ⟨rfl, rfl, rfl, rfl, rfl⟩, rfl,
      Or.inl ⟨(e, w'), hbuild, rfl, rfl⟩⟩
    have hfocus : Raising.focus buildState withBuildState
        (EventBuilder.build env.formats env.sources (env.callOf n c)) c =
          (.error e, withBuildState (c.events, w') c) := by
      rw [Raising.focus_apply, show buildState c = (c.events, c.world) from rfl, hbuild]
    unfold notify emit
    rw [Raising.gets_bind_apply]
    exact Raising.bind_of_error hfocus

/-- One write: the change of the controller and then its notice. -/
def write (change : ScenarioController W → ScenarioController W) (n : Notice) :
    Py (ScenarioController W) Unit := do
  Raising.modify change
  env.notify n

theorem write_of_written {change : ScenarioController W → ScenarioController W} {n : Notice}
    {c : ScenarioController W} (h : env.Written n (change c)) :
    ∃ c', env.write change n c = (.ok (), c') ∧ env.Handed n (change c) c' :=
  env.notify_of_written h

theorem write_of_not_written {change : ScenarioController W → ScenarioController W} {n : Notice}
    {c : ScenarioController W} (h : ¬ env.Written n (change c)) :
    ∃ e c', env.write change n c = (.error e, c') ∧ env.Refused n (change c) c' :=
  env.notify_of_not_written h

section Rules

variable {K I : ScenarioController W → Prop} {n : Notice}
  {change : ScenarioController W → ScenarioController W} {c : ScenarioController W}

/-- The rule of a write that is followed by one more assignment: `I` holds at the end once the
notice was accepted, and of no changed state whose notice was refused. -/
theorem tracksAt_write_then (after : ScenarioController W → ScenarioController W)
    (hwritten : ∀ c', env.Written n (change c) → env.Handed n (change c) c' →
      K (after c') ∧ I (after c'))
    (hrefused : ∀ c', env.Refused n (change c) c' → K c' ∧ ¬ I c') :
    Raising.TracksAt K I (env.write change n >>= fun _ => Raising.modify after) c
      (env.Written n (change c)) := by
  by_cases hw : env.Written n (change c)
  · obtain ⟨c', heq, hhanded⟩ := env.write_of_written hw
    obtain ⟨hK, hI⟩ := hwritten c' hw hhanded
    have hrun : (env.write change n >>= fun _ => Raising.modify after) c = (.ok (), after c') :=
      Raising.bind_of_ok heq
    refine ⟨?_, ⟨fun _ => hw, fun _ => ?_⟩, fun _ _ _ => hw⟩
    · rw [hrun]
      exact hK
    · rw [hrun]
      exact hI
  · obtain ⟨e, c', heq, href⟩ := env.write_of_not_written hw
    obtain ⟨hK, hI⟩ := hrefused c' href
    have hrun : (env.write change n >>= fun _ => Raising.modify after) c = (.error e, c') :=
      Raising.bind_of_error heq
    refine ⟨?_, ⟨fun h => ?_, fun h => absurd h hw⟩, fun _ _ hm => ?_⟩
    · rw [hrun]
      exact hK
    · rw [hrun] at h
      exact absurd h hI
    · rw [hrun] at hm
      cases hm

theorem write_then_id (c : ScenarioController W) :
    (env.write change n >>= fun _ => Raising.modify id) c = env.write change n c := by
  cases hr : env.write change n c with
  | mk r c' =>
      cases r with
      | ok _ => rw [Raising.bind_of_ok hr, Raising.modify_apply, id]
      | error e => rw [Raising.bind_of_error hr]

/-- The rule of a write. -/
theorem tracksAt_write
    (hwritten : ∀ c', env.Written n (change c) → env.Handed n (change c) c' → K c' ∧ I c')
    (hrefused : ∀ c', env.Refused n (change c) c' → K c' ∧ ¬ I c') :
    Raising.TracksAt K I (env.write change n) c (env.Written n (change c)) :=
  (env.tracksAt_write_then id hwritten hrefused).of_eq (env.write_then_id c).symm

end Rules

/-! ## The writes of the operations -/

/-- The change of an item that becomes ready. -/
def makeReady (item : ScenarioItem) (c : ScenarioController W) : ScenarioController W :=
  setItem item.item_id { c.items item.item_id with status := .ready } c

/-- The change of an item that failed. -/
def makeFailed (item : ScenarioItem) (reason : String) (c : ScenarioController W) :
    ScenarioController W :=
  setItem item.item_id { c.items item.item_id with status := .failed, error := some reason } c

/-- The change of an item that was delivered. -/
def makeDelivered (item : ScenarioItem) (c : ScenarioController W) : ScenarioController W :=
  setItem item.item_id ⟨.delivered, some c.elapsed_seconds, none⟩ c

/-- The change of a skipped item. -/
def makeSkipped (item_id reason : String) (c : ScenarioController W) : ScenarioController W :=
  setItem item_id { c.items item_id with status := .skipped, error := some (strip reason) } c

theorem readyItem_eq (item : ScenarioItem) :
    env.readyItem item = env.write (makeReady item) (readyNotice item) := rfl

theorem failItem_eq (item : ScenarioItem) (reason : String) (data : List (String × Json)) :
    env.failItem item reason data =
      env.write (makeFailed item reason) (failedNotice item reason data) := rfl

/-- The last assignment of a delivery, which completes the run of an end item. -/
def settle (item : ScenarioItem) (c : ScenarioController W) : ScenarioController W :=
  if item.kind = .endMarker then setState .completed c else c

theorem completeItem_eq (item : ScenarioItem) (actor_role message : String)
    (data : List (String × Json)) :
    env.completeItem item actor_role message data =
      (env.write (makeDelivered item) (deliveredNotice item actor_role message data) >>= fun _ =>
        Raising.modify (settle item)) := by
  funext c
  by_cases hend : item.kind = .endMarker
  · have hsettle : (settle item : ScenarioController W → _) = setState .completed := by
      funext c
      exact if_pos hend
    rw [hsettle]
    unfold completeItem
    rw [if_pos hend]
    rfl
  · have hsettle : (settle item : ScenarioController W → _) = id := by
      funext c
      exact if_neg hend
    rw [hsettle, write_then_id]
    unfold completeItem
    rw [if_neg hend]
    show (env.write (makeDelivered item) (deliveredNotice item actor_role message data) >>= fun _ =>
      Raising.modify id) c = _
    exact env.write_then_id c

/-! ## The notices of the operations -/

section Meets

variable (P : Notice → ScenarioController W → Prop)

/-- `P` holds of the notice that ends a delivery, for what the handler made of it. -/
def OutcomeMeets (item : ScenarioItem) (actor_role : String) (c : ScenarioController W) :
    Except (String × List (String × Json)) (String × List (String × Json)) → Prop
  | .ok (message, data) =>
      P (deliveredNotice item actor_role message data) (makeDelivered item c)
  | .error (reason, data) => P (failedNotice item reason data) (makeFailed item reason c)

/-- `P` holds of the notice of a delivery. -/
def DeliveryMeets (item : ScenarioItem) (actor_role : String) (c : ScenarioController W) : Prop :=
  ∀ outcome c', env.execute item c = (.ok outcome, c') →
    OutcomeMeets P item actor_role (note (.processed item actor_role) c') outcome

theorem deliveryMeets_iff {item : ScenarioItem} {c c' : ScenarioController W}
    {outcome : Except (String × List (String × Json)) (String × List (String × Json))}
    (actor_role : String) (h : env.execute item c = (.ok outcome, c')) :
    env.DeliveryMeets P item actor_role c ↔
      OutcomeMeets P item actor_role (note (.processed item actor_role) c') outcome := by
  unfold DeliveryMeets
  rw [h]
  constructor
  · exact fun haudited => haudited outcome c' rfl
  · rintro haudited outcome' c'' ⟨⟩
    exact haudited

variable (D : ScenarioItem → String → ScenarioController W → Prop)

/-- The condition on a due item. -/
def DueMeets (item : ScenarioItem) (c : ScenarioController W) : Prop :=
  (c.items item.item_id).status = .pending →
    if item.Waits then P (readyNotice item) (makeReady item c)
    else D item "controller" c

/-- `P` holds of the notices of `prepare`. -/
def PrepareMeets (c : ScenarioController W) : Prop :=
  c.state ∈ [RunState.ready] →
    Raising.LoopMeets env.makeDue (fun item _ => DueMeets P D item) env.preExercise c

/-- `P` holds of the notice of one due item of `advance_to`. -/
def TurnMeets (item : ScenarioItem) (c : ScenarioController W) : Prop :=
  ∀ c', env.advanceClock ((seconds item).getD 0) c = (.ok (), c') → DueMeets P D item c'

/-- `P` holds of the notices of `advance_to`. -/
def AdvanceMeets (elapsed_seconds : Int) (c : ScenarioController W) : Prop :=
  c.state ∈ [RunState.running] → c.elapsed_seconds ≤ elapsed_seconds →
    Raising.LoopMeets env.advanceItem (fun item _ => env.TurnMeets P D item)
      (env.due elapsed_seconds c) c

/-- `P` holds of the notice of a change of the run's state. -/
def ChangeMeets (before after : RunState) (event_type action message : String)
    (c : ScenarioController W) : Prop :=
  c.state ∈ [before] → P (runNotice event_type action message) (setState after c)

/-- `P` holds of the notices of `start`. -/
def StartMeets (c : ScenarioController W) : Prop :=
  ChangeMeets P .ready .running "scenario.run.started" "scenario.start"
      s!"Started {env.definition.name}" c ∧
    ∀ c', env.beginPlay c = (.ok (), c') → env.AdvanceMeets P D 0 c'

/-- `D` holds of the delivery that `deliver` makes. -/
def DeliverMeets (item_id : String) (c : ScenarioController W) : Prop :=
  ∀ item, c.state ∈ playable → env.find item_id = .ok item → (c.items item_id).status.Open →
    D item "facilitator" c

/-- `P` holds of the notice of `skip`. -/
def SkipMeets (item_id reason : String) (c : ScenarioController W) : Prop :=
  ∀ item, env.CanSkip item_id reason c → env.find item_id = .ok item →
    P (skippedNotice item item_id reason) (makeSkipped item_id reason c)

/-- `P` holds of the notice of one branch of a resolved checkpoint. -/
def BranchMeets (checkpoint_id : String) (result : CheckpointOutcome) (branch : ScenarioItem)
    (c : ScenarioController W) : Prop :=
  c.state ≠ .stopped →
    if branch.branchOutcome = some result then DueMeets P D branch c
    else env.SkipMeets P branch.item_id s!"opposite {checkpoint_id} branch selected" c

/-- The first part of `resolve_checkpoint` after its checks: the result and its event. -/
def recordResolution (item : ScenarioItem) (checkpoint_id : String) (passed : Bool)
    (evidence_ids : List String) (reason : String) (checks : Option Json) :
    Py (ScenarioController W) Unit :=
  env.write (recordResult checkpoint_id (resultOf passed))
    (resolvedNotice item checkpoint_id passed evidence_ids reason checks)

/-- `P` holds of the notices of `resolve_checkpoint`. -/
def ResolveMeets (checkpoint_id : String) (passed : Bool) (evidence_ids : List String)
    (reason : String) (checks : Option Json) (c : ScenarioController W) : Prop :=
  ∀ item, env.CanResolve checkpoint_id reason checks item c →
    P (resolvedNotice item checkpoint_id passed evidence_ids reason checks)
        (recordResult checkpoint_id (resultOf passed) c) ∧
      ∀ u c', env.recordResolution item checkpoint_id passed evidence_ids reason checks c =
          (.ok u, c') →
        Raising.LoopMeets (env.resolveBranch checkpoint_id (resultOf passed))
          (fun branch _ => env.BranchMeets P D checkpoint_id (resultOf passed) branch)
          (env.branches checkpoint_id) c'

/-- `P` holds of the notice of `fail_safe_stop`. -/
def StopMeets (reason : String) (c : ScenarioController W) : Prop :=
  c.state ∈ playable ∧ ¬ Blank reason → P (stoppedNotice reason) (setState .stopped c)

/-- The id that `reset` gives the new run, and the world after it was drawn. -/
def newRun (new_run_id : Option String) (c : ScenarioController W) : String × W :=
  match truthy new_run_id with
  | some run_id => (run_id, c.world)
  | none => env.uuid4 c.world

/-- The change that `reset` makes. -/
def renew (new_run_id : Option String) (c : ScenarioController W) : ScenarioController W :=
  env.init (env.newRun new_run_id c).1 (env.newRun new_run_id c).2

/-- A reset of a finished run is one write. -/
theorem reset_eq_write (new_run_id : Option String) {c : ScenarioController W}
    (h : c.state ∈ [RunState.stopped, .completed]) :
    env.reset new_run_id c = env.write (env.renew new_run_id) (resetNotice c.run_id) c := by
  unfold reset write renew newRun
  rw [requireState_bind, if_pos h, Raising.gets_bind_apply, Raising.step_bind_apply]
  cases truthy new_run_id <;> rfl

/-- `P` holds of the notice of `reset`. -/
def ResetMeets (new_run_id : Option String) (c : ScenarioController W) : Prop :=
  c.state ∈ [RunState.stopped, .completed] →
    P (resetNotice c.run_id) (env.renew new_run_id c)

/-- `P` holds of every notice that the operation comes to, and `D` of every delivery. -/
def StepMeets (op : Operation) (c : ScenarioController W) : Prop :=
  match op with
  | .prepare => env.PrepareMeets P D c
  | .start => env.StartMeets P D c
  | .pause => ChangeMeets P .running .paused "scenario.run.paused" "scenario.pause"
      "Scenario timing paused by facilitator" c
  | .resume => ChangeMeets P .paused .running "scenario.run.resumed" "scenario.resume"
      "Scenario timing resumed by facilitator" c
  | .advance_to elapsed_seconds => env.AdvanceMeets P D elapsed_seconds c
  | .deliver item_id => env.DeliverMeets D item_id c
  | .skip item_id reason => env.SkipMeets P item_id reason c
  | .resolve_checkpoint checkpoint_id passed evidence_ids reason checks =>
      env.ResolveMeets P D checkpoint_id passed evidence_ids reason checks c
  | .fail_safe_stop reason => StopMeets P reason c
  | .reset new_run_id => env.ResetMeets P new_run_id c

end Meets

/-- Every write that the operation comes to is written. -/
def AuditedStep (op : Operation) (c : ScenarioController W) : Prop :=
  env.StepMeets env.Written (env.DeliveryMeets env.Written) op c

/-! ## From single writes to operations -/

/-- The changes of the run's state that staff make, with the types of their events. -/
def runChanges : List (RunState × RunState × String) :=
  [(.ready, .running, "scenario.run.started"), (.running, .paused, "scenario.run.paused"),
    (.paused, .running, "scenario.run.resumed")]

/-- `I` is kept by the silent parts, by each write exactly when `P` holds of its notice, and by each
delivery exactly when `D` holds. -/
structure NoticeLaw (P : Notice → ScenarioController W → Prop)
    (D : ScenarioItem → String → ScenarioController W → Prop)
    (K I : ScenarioController W → Prop) : Prop where
  clock : ∀ t c, K c → I c → K (env.advanceClock t c).2 ∧ I (env.advanceClock t c).2
  ready : ∀ item ∈ env.definition.items, ∀ c, K c → I c →
    (c.items item.item_id).status = .pending →
      Raising.TracksAt K I (env.readyItem item) c (P (readyNotice item) (makeReady item c))
  delivery : ∀ item ∈ env.definition.items, ∀ actor_role c, K c → I c →
    (c.items item.item_id).status.Open →
      Raising.TracksAt K I (env.deliverItem item actor_role) c
        (D item actor_role c)
  skip : ∀ item_id reason item c, K c → I c → env.CanSkip item_id reason c →
    env.find item_id = .ok item →
      Raising.TracksAt K I (env.write (makeSkipped item_id reason)
        (skippedNotice item item_id reason)) c
        (P (skippedNotice item item_id reason) (makeSkipped item_id reason c))
  record : ∀ checkpoint_id passed evidence_ids reason checks item c, K c → I c →
    env.CanResolve checkpoint_id reason checks item c →
      Raising.TracksAt K I
        (env.recordResolution item checkpoint_id passed evidence_ids reason checks) c
        (P (resolvedNotice item checkpoint_id passed evidence_ids reason checks)
          (recordResult checkpoint_id (resultOf passed) c))
  change : ∀ before after event_type action message c, K c → I c → c.state = before →
    (before, after, event_type) ∈ runChanges →
      Raising.TracksAt K I (env.write (setState after) (runNotice event_type action message)) c
        (P (runNotice event_type action message) (setState after c))
  reset : ∀ new_run_id c, K c → I c → c.state ∈ [RunState.stopped, .completed] →
    Raising.TracksAt K I (env.reset new_run_id) c
      (P (resetNotice c.run_id) (env.renew new_run_id c))

namespace NoticeLaw

variable {env} {P : Notice → ScenarioController W → Prop}
  {D : ScenarioItem → String → ScenarioController W → Prop} {K I : ScenarioController W → Prop}
  (law : env.NoticeLaw P D K I)
include law

theorem makeDue {item : ScenarioItem} (hitem : item ∈ env.definition.items)
    {c : ScenarioController W} (hK : K c) (hI : I c) :
    Raising.TracksAt K I (env.makeDue item) c (DueMeets P D item c) := by
  unfold DueMeets
  by_cases hpending : (c.items item.item_id).status = .pending
  · by_cases hw : item.Waits
    · have hready := law.ready item hitem c hK hI hpending
      rw [if_pos hw]
      exact (hready.congr (by simp [hpending])).of_eq (env.makeDue_of_waits hpending hw)
    · have hdelivery := law.delivery item hitem "controller" c hK hI (Or.inl hpending)
      rw [if_neg hw]
      exact (hdelivery.congr (by simp [hpending])).of_eq (env.makeDue_of_automatic hpending hw)
  · have hnone := env.makeDue_of_not_pending hpending
    refine (Raising.TracksAt.unchanged hK hI ?_).congr (by simp [hpending])
    rw [hnone]

theorem prepare {c : ScenarioController W} (hK : K c) (hI : I c) :
    Raising.TracksAt K I env.prepare c (env.PrepareMeets P D c) := by
  refine Raising.TracksAt.require_bind hK hI fun _ => ?_
  exact Raising.TracksAt.forEach hK hI fun item hitem t hKt hIt =>
    law.makeDue (env.mem_items_of_preExercise hitem) hKt hIt

theorem advanceClock (t : Int) {c : ScenarioController W} (hK : K c) (hI : I c) :
    Raising.TracksAt K I (env.advanceClock t) c True :=
  Raising.TracksAt.silent (law.clock t c hK hI).1 (law.clock t c hK hI).2

theorem advanceItem {item : ScenarioItem} (hitem : item ∈ env.definition.items)
    {c : ScenarioController W} (hK : K c) (hI : I c) :
    Raising.TracksAt K I (env.advanceItem item) c (env.TurnMeets P D item c) := by
  have hseq := (law.advanceClock ((seconds item).getD 0) hK hI).bind
    (f := fun _ => env.makeDue item) (D := fun _ => DueMeets P D item)
    fun _ _ _ hK' hI' => law.makeDue hitem hK' hI'
  refine hseq.congr ?_
  rw [true_and]
  exact ⟨fun h c' hc' => h () c' hc', fun h _ c' hc' => h c' hc'⟩

theorem advanceTo (elapsed_seconds : Int) {c : ScenarioController W} (hK : K c) (hI : I c) :
    Raising.TracksAt K I (env.advanceTo elapsed_seconds) c
      (env.AdvanceMeets P D elapsed_seconds c) := by
  refine Raising.TracksAt.require_bind hK hI fun _ => ?_
  refine Raising.TracksAt.require_bind hK hI fun _ => ?_
  have hloop : Raising.TracksAt K I (Raising.forEach env.advanceItem (env.due elapsed_seconds c)) c
      (Raising.LoopMeets env.advanceItem (fun item _ => env.TurnMeets P D item)
        (env.due elapsed_seconds c) c) :=
    Raising.TracksAt.forEach hK hI fun item hitem t hKt hIt =>
      law.advanceItem (env.mem_items_of_due hitem) hKt hIt
  have hseq := hloop.bind (f := fun _ => env.advanceClock elapsed_seconds)
    (D := fun _ _ => True) fun _ _ _ hK' hI' => law.advanceClock elapsed_seconds hK' hI'
  exact (hseq.congr (by simp)).of_eq rfl

theorem changeState {before after : RunState} {event_type : String} (action message : String)
    (h : (before, after, event_type) ∈ runChanges) {c : ScenarioController W} (hK : K c)
    (hI : I c) :
    Raising.TracksAt K I (env.changeState before after event_type action message) c
      (ChangeMeets P before after event_type action message c) :=
  Raising.TracksAt.require_bind hK hI fun hbefore =>
    law.change before after event_type action message c hK hI (List.mem_singleton.mp hbefore) h

theorem start {c : ScenarioController W} (hK : K c) (hI : I c) :
    Raising.TracksAt K I env.start c (env.StartMeets P D c) := by
  have hbegin := law.changeState "scenario.start" s!"Started {env.definition.name}"
    (by decide : (RunState.ready, RunState.running, "scenario.run.started") ∈ runChanges) hK hI
  have hseq := hbegin.bind (f := fun _ => env.advanceTo 0) (D := fun _ => env.AdvanceMeets P D 0)
    fun _ _ _ hK' hI' => law.advanceTo 0 hK' hI'
  refine hseq.congr (and_congr_right fun _ => ?_)
  exact ⟨fun h c' hc' => h () c' hc', fun h _ c' hc' => h c' hc'⟩

theorem deliver (item_id : String) {c : ScenarioController W} (hK : K c) (hI : I c) :
    Raising.TracksAt K I (env.deliver item_id) c (env.DeliverMeets D item_id c) := by
  by_cases hplay : c.state ∈ playable
  · cases hf : env.find item_id with
    | error e =>
        have hrun : (env.deliver item_id c).2 = c := by
          unfold Controller.deliver
          rw [requireState_bind, if_pos hplay, Raising.ofExcept_bind_apply, hf]
        refine (Raising.TracksAt.unchanged hK hI hrun).congr ?_
        simp [DeliverMeets, hf]
    | ok item =>
        obtain ⟨hid, hitem⟩ := env.find_eq_ok hf
        by_cases hopen : (c.items item_id).status.Open
        · have hdelivery := law.delivery item hitem "facilitator" c hK hI (hid.symm ▸ hopen)
          refine (hdelivery.congr ?_).of_eq ?_
          · simp [DeliverMeets, hf, hplay, hopen]
          · unfold Controller.deliver
            rw [requireState_bind, if_pos hplay, Raising.ofExcept_bind_apply, hf]
            dsimp only
            rw [Raising.require_bind_apply, if_pos hopen]
        · have hrun : (env.deliver item_id c).2 = c := by
            unfold Controller.deliver
            rw [requireState_bind, if_pos hplay, Raising.ofExcept_bind_apply, hf]
            dsimp only
            rw [Raising.require_bind_apply, if_neg hopen]
          refine (Raising.TracksAt.unchanged hK hI hrun).congr ?_
          simp [DeliverMeets, hopen]
  · have hrun : (env.deliver item_id c).2 = c := by
      unfold Controller.deliver
      rw [requireState_bind, if_neg hplay]
    refine (Raising.TracksAt.unchanged hK hI hrun).congr ?_
    simp [DeliverMeets, hplay]

theorem skipItem (item_id reason : String) {c : ScenarioController W} (hK : K c) (hI : I c) :
    Raising.TracksAt K I (env.skip item_id reason) c (env.SkipMeets P item_id reason c) := by
  by_cases hcan : env.CanSkip item_id reason c
  · obtain ⟨item, hitem⟩ := hcan.known
    refine ((law.skip item_id reason item c hK hI hcan hitem).congr ?_).of_eq ?_
    · simp [SkipMeets, hcan, hitem]
    · unfold Controller.skip
      rw [requireState_bind, if_pos hcan.playing, Raising.require_bind_apply, if_pos hcan.reason,
        Raising.ofExcept_bind_apply, hitem]
      dsimp only
      rw [Raising.require_bind_apply, if_pos hcan.isOpen]
      rfl
  · obtain ⟨e, heq, -⟩ := env.skip_refused hcan
    refine (Raising.TracksAt.unchanged hK hI (by rw [heq])).congr ?_
    simp [SkipMeets, hcan]

theorem resolveBranch {branch : ScenarioItem} (hbranch : branch ∈ env.definition.items)
    (checkpoint_id : String) (result : CheckpointOutcome) {c : ScenarioController W} (hK : K c)
    (hI : I c) :
    Raising.TracksAt K I (env.resolveBranch checkpoint_id result branch) c
      (env.BranchMeets P D checkpoint_id result branch c) := by
  unfold BranchMeets
  by_cases hstopped : c.state = .stopped
  · have hrun : env.resolveBranch checkpoint_id result branch c = (.ok (), c) := by
      unfold Controller.resolveBranch
      rw [Raising.gets_bind_apply, if_pos hstopped]
      rfl
    refine (Raising.TracksAt.unchanged hK hI (by rw [hrun])).congr (by simp [hstopped])
  · by_cases hresult : branch.branchOutcome = some result
    · rw [if_pos hresult]
      refine ((law.makeDue hbranch hK hI).congr (by simp [hstopped])).of_eq ?_
      unfold Controller.resolveBranch
      rw [Raising.gets_bind_apply, if_neg hstopped, if_pos hresult]
    · rw [if_neg hresult]
      have hskip := law.skipItem branch.item_id s!"opposite {checkpoint_id} branch selected" hK hI
      refine (hskip.congr (by simp [hstopped])).of_eq ?_
      unfold Controller.resolveBranch
      rw [Raising.gets_bind_apply, if_neg hstopped, if_neg hresult]

theorem resolveCheckpoint (checkpoint_id : String) (passed : Bool) (evidence_ids : List String)
    (reason : String) (checks : Option Json) {c : ScenarioController W} (hK : K c) (hI : I c) :
    Raising.TracksAt K I
      (env.resolveCheckpoint checkpoint_id passed evidence_ids reason checks) c
      (env.ResolveMeets P D checkpoint_id passed evidence_ids reason checks c) := by
  by_cases hcan : ∃ item, env.CanResolve checkpoint_id reason checks item c
  · obtain ⟨item, hcan⟩ := hcan
    have hrecord := law.record checkpoint_id passed evidence_ids reason checks item c hK hI hcan
    have hseq := hrecord.bind
      (f := fun _ => Raising.forEach (env.resolveBranch checkpoint_id (resultOf passed))
        (env.branches checkpoint_id))
      (D := fun _ => Raising.LoopMeets (env.resolveBranch checkpoint_id (resultOf passed))
        (fun branch _ => env.BranchMeets P D checkpoint_id (resultOf passed) branch)
        (env.branches checkpoint_id))
      fun _ _ _ hK' hI' => Raising.TracksAt.forEach hK' hI' fun branch hbranch t hKt hIt =>
        law.resolveBranch (env.mem_branches.mp hbranch).1 checkpoint_id (resultOf passed) hKt hIt
    refine (hseq.congr ?_).of_eq (env.resolveCheckpoint_accepted hcan passed evidence_ids)
    constructor
    · intro h item' hcan'
      obtain rfl : item' = item := by
        have hsame := hcan'.found.symm.trans hcan.found
        injection hsame
      exact h
    · exact fun h => h item hcan
  · obtain ⟨e, heq, -⟩ := env.resolveCheckpoint_refused (not_exists.mp hcan) passed evidence_ids
    refine (Raising.TracksAt.unchanged hK hI (by rw [heq])).congr ?_
    simp only [ResolveMeets, true_iff]
    exact fun item hitem => absurd ⟨item, hitem⟩ hcan

theorem resetRun (new_run_id : Option String) {c : ScenarioController W} (hK : K c) (hI : I c) :
    Raising.TracksAt K I (env.reset new_run_id) c (env.ResetMeets P new_run_id c) := by
  by_cases hfinal : c.state ∈ [RunState.stopped, .completed]
  · exact (law.reset new_run_id c hK hI hfinal).congr (by simp [ResetMeets, hfinal])
  · have hrun : (env.reset new_run_id c).2 = c := by
      unfold Controller.reset
      rw [requireState_bind, if_neg hfinal]
    exact (Raising.TracksAt.unchanged hK hI hrun).congr (by simp [ResetMeets, hfinal])

/-- An operation keeps the invariant exactly when `P` holds of all its notices. The stop is left to
the user of the law. -/
theorem call (op : Operation) {c : ScenarioController W} (hK : K c) (hI : I c)
    (hstop : ∀ reason, op = .fail_safe_stop reason →
      Raising.TracksAt K I (env.failSafeStop reason) c (StopMeets P reason c)) :
    Raising.TracksAt K I (env.call op) c (env.StepMeets P D op c) := by
  cases op with
  | prepare => exact law.prepare hK hI
  | start => exact law.start hK hI
  | pause => exact law.changeState _ _ (by decide) hK hI
  | resume => exact law.changeState _ _ (by decide) hK hI
  | advance_to elapsed_seconds => exact law.advanceTo elapsed_seconds hK hI
  | deliver item_id => exact law.deliver item_id hK hI
  | skip item_id reason => exact law.skipItem item_id reason hK hI
  | resolve_checkpoint checkpoint_id passed evidence_ids reason checks =>
      exact law.resolveCheckpoint checkpoint_id passed evidence_ids reason checks hK hI
  | fail_safe_stop reason => exact hstop reason rfl
  | reset new_run_id => exact law.resetRun new_run_id hK hI

end NoticeLaw

end NetStrike.Orchestrator.Controller
