import NetStrike.Orchestrator.ControllerFrames

/-!
# The small steps of the controller

Every operation of the controller but a reset is a sequence of small steps (`moves_call`). A step
assigns the run state, the clock, one runtime or one result, and says what the code checked before;
the handler of an item and the runtime that its outcome sets are one step. All that emitting,
reading clocks and notifying observers do to the world is in a relation `Q`, and every recorded
result meets a condition `R`, both of which the caller chooses.

An invariant of the controller and of a part of the world is then proved one step at a time.
-/

set_option autoImplicit false

namespace NetStrike.Orchestrator.Controller

open NetStrike.Foundation NetStrike.Shared

variable {W : Type} (env : Controller W)

/-! ## Steps -/

/-- What the collaborators of the controller do to the world is in `Q`. -/
structure Collaborates (Q : W → W → Prop) : Prop where
  sink : ∀ event w, Q w (env.event_sink event w).2
  sequence : ∀ b w, Q w (EventBuilder.nextSequence env.sources b w).2
  event_id : ∀ call w, Q w (EventBuilder.eventId env.sources call w).2
  clock : ∀ call w, Q w (EventBuilder.now env.sources call w).2
  observers : ∀ observer ∈ env.time_observers, ∀ t w, Q w (observer t w).2

/-- The changes of state that `start`, `pause` and `resume` make. -/
inductive Turn : RunState → RunState → Prop where
  | start : Turn .ready .running
  | pause : Turn .running .paused
  | resume : Turn .paused .running

/-- What holds when a result is recorded for a checkpoint. -/
abbrev Recording (W : Type) := String → CheckpointOutcome → ScenarioController W → Prop

/-- One step of the controller. -/
inductive Move (Q : W → W → Prop) (R : Recording W) :
    ScenarioController W → ScenarioController W → Prop where
  /-- a collaborator was called, or the journal was written -/
  | outer {c c' : ScenarioController W} (run : SameRun c c') (world : Q c.world c'.world) :
      Move Q R c c'
  | turned {c : ScenarioController W} {after : RunState} (turn : Turn c.state after) :
      Move Q R c (setState after c)
  | stopped {c : ScenarioController W} (playing : c.state ∈ playable) :
      Move Q R c (setState .stopped c)
  | ticked {c : ScenarioController W} (elapsed_seconds : Int) :
      Move Q R c { c with elapsed_seconds := elapsed_seconds }
  | readied {c : ScenarioController W} {item : ScenarioItem} {runtime : ItemRuntime}
      (known : item ∈ env.definition.items) (pending : (c.items item.item_id).status = .pending)
      (ready : runtime.status = .ready) : Move Q R c (setItem item.item_id runtime c)
  | skipped {c : ScenarioController W} {item : ScenarioItem} {runtime : ItemRuntime}
      (known : item ∈ env.definition.items) (isOpen : (c.items item.item_id).status.Open)
      (skipped : runtime.status = .skipped) : Move Q R c (setItem item.item_id runtime c)
  /-- the handler of the item returned a success -/
  | delivered {c c₁ : ScenarioController W} {item : ScenarioItem} {actor_role : String}
      {m : String × List (String × Json)} (known : item ∈ env.definition.items)
      (isOpen : (c.items item.item_id).status.Open)
      (executed : env.execute item c = (.ok (.ok m), c₁)) :
      Move Q R c (setItem item.item_id ⟨.delivered, some c₁.elapsed_seconds, none⟩
        (note (.processed item actor_role) c₁))
  /-- the handler of the item raised, failed or is missing -/
  | failed {c c₁ : ScenarioController W} {item : ScenarioItem} {actor_role : String}
      {m : String × List (String × Json)} {runtime : ItemRuntime}
      (known : item ∈ env.definition.items) (isOpen : (c.items item.item_id).status.Open)
      (executed : env.execute item c = (.ok (.error m), c₁)) (failed : runtime.status = .failed) :
      Move Q R c (setItem item.item_id runtime (note (.processed item actor_role) c₁))
  | completed {c : ScenarioController W} {item : ScenarioItem} (known : item ∈ env.definition.items)
      (last : item.kind = .endMarker) (delivered : (c.items item.item_id).status = .delivered) :
      Move Q R c (setState .completed c)
  | recorded {c : ScenarioController W} {checkpoint_id : String} (result : CheckpointOutcome)
      (live : c.state = .running ∨ c.state = .paused)
      (isOpen : (c.items checkpoint_id).status.Open) (allowed : R checkpoint_id result c) :
      Move Q R c (recordResult checkpoint_id result c)

/-- Any number of steps. -/
def Moves (Q : W → W → Prop) (R : Recording W) :
    ScenarioController W → ScenarioController W → Prop :=
  Relation.ReflTransGen (env.Move Q R)

variable {Q : W → W → Prop} {R : Recording W}

instance : Std.Refl (env.Moves Q R) := ⟨fun _ => .refl⟩

instance : IsTrans (ScenarioController W) (env.Moves Q R) := ⟨fun _ _ _ h h' => .trans h h'⟩

variable {env} in
theorem Move.moves {c c' : ScenarioController W} (h : env.Move Q R c c') : env.Moves Q R c c' :=
  .single h

variable {env} in
theorem Move.then {a b c : ScenarioController W} (h : env.Move Q R a b) (h' : env.Moves Q R b c) :
    env.Moves Q R a c := .head h h'

variable {env} in
/-- An invariant that every step keeps holds after any number of steps. -/
theorem Moves.invariant {I : ScenarioController W → Prop}
    (hstep : ∀ c c', env.Move Q R c c' → I c → I c') {c c' : ScenarioController W}
    (h : env.Moves Q R c c') (hI : I c) : I c' := by
  induction h with
  | refl => exact hI
  | tail _ hlast ih => exact hstep _ _ hlast ih

/-! ## The operations -/

section Operations

variable [Std.Refl Q] [IsTrans W Q] (hQ : env.Collaborates Q)

include hQ

theorem emit_world (event_type action message status : String) (item : Option ScenarioItem)
    (actor_role : String) (data : List (String × Json)) (c : ScenarioController W) :
    Q c.world (env.emit event_type action message status item actor_role data c).2.world := by
  have hbuild : Q c.world (EventBuilder.build env.formats env.sources
      (env.emitCall c event_type action message status item actor_role data) (buildState c)).2.2 :=
    EventBuilder.build_keeps env.formats env.sources hQ.sequence hQ.event_id hQ.clock _ _ _
  unfold emit
  rw [Raising.gets_bind_apply]
  cases hx : EventBuilder.build env.formats env.sources
      (env.emitCall c event_type action message status item actor_role data) (buildState c) with
  | mk r s =>
      rw [hx] at hbuild
      have hfocus : Raising.focus buildState withBuildState
          (EventBuilder.build env.formats env.sources
            (env.emitCall c event_type action message status item actor_role data)) c =
            (r, withBuildState s c) := by
        rw [Raising.focus_apply, hx]
      cases r with
      | error e =>
          rw [Raising.bind_of_error hfocus]
          exact hbuild
      | ok event =>
          rw [Raising.bind_of_ok hfocus]
          exact Trans.trans hbuild (hQ.sink event s.2)

theorem moves_emit (event_type action message status : String) (item : Option ScenarioItem)
    (actor_role : String) (data : List (String × Json)) :
    (env.emit event_type action message status item actor_role data).Keeps (env.Moves Q R) := by
  intro c
  exact Move.moves (.outer (env.emit_frame _ _ _ _ _ _ _ c).1 (env.emit_world hQ _ _ _ _ _ _ _ c))

theorem failSafeStop_world (reason : String) (c : ScenarioController W) :
    Q c.world (env.failSafeStop reason c).2.world := by
  by_cases h : c.state ∈ playable ∧ ¬ Blank reason
  · rw [env.failSafeStop_accepted h]
    exact env.emit_world hQ _ _ _ _ _ _ _ (setState .stopped c)
  · obtain ⟨e, heq, -⟩ := env.failSafeStop_refused h
    rw [heq]
    exact Std.Refl.refl c.world

theorem moves_failSafeStop (reason : String) : (env.failSafeStop reason).Keeps (env.Moves Q R) := by
  intro c
  by_cases h : c.state ∈ playable ∧ ¬ Blank reason
  · rw [env.failSafeStop_accepted h]
    exact Move.then (.stopped h.1) (env.moves_emit hQ _ _ _ _ _ _ _ _)
  · obtain ⟨e, heq, -⟩ := env.failSafeStop_refused h
    rw [heq]
    exact Std.Refl.refl c

/-- The successful end of a delivery, after the runtime was set. -/
theorem moves_completeItem {item : ScenarioItem} (known : item ∈ env.definition.items)
    (actor_role message : String) (data : List (String × Json)) (c : ScenarioController W) :
    env.Moves Q R (setItem item.item_id ⟨.delivered, some c.elapsed_seconds, none⟩ c)
      (env.completeItem item actor_role message data c).2 := by
  have hsame := (env.emit_frame "scenario.item.delivered" (item.action_id.getD "scenario.deliver")
    message "success" (some item) actor_role
    (mergeMembers [("item_kind", .str item.kind.value)] data)
    (setItem item.item_id ⟨.delivered, some c.elapsed_seconds, none⟩ c)).1
  have hemit := env.moves_emit (R := R) hQ "scenario.item.delivered"
    (item.action_id.getD "scenario.deliver") message "success" (some item) actor_role
    (mergeMembers [("item_kind", .str item.kind.value)] data)
    (setItem item.item_id ⟨.delivered, some c.elapsed_seconds, none⟩ c)
  unfold completeItem
  rw [Raising.modify_bind_apply]
  cases hr : env.emit "scenario.item.delivered" (item.action_id.getD "scenario.deliver")
      message "success" (some item) actor_role
      (mergeMembers [("item_kind", .str item.kind.value)] data)
      (setItem item.item_id ⟨.delivered, some c.elapsed_seconds, none⟩ c) with
  | mk r c' =>
      rw [hr] at hsame hemit
      cases r with
      | error e =>
          rw [Raising.bind_of_error hr]
          exact hemit
      | ok u =>
          rw [Raising.bind_of_ok hr]
          split
          · next hlast =>
              refine Relation.ReflTransGen.tail hemit (.completed known hlast ?_)
              rw [hsame.items]
              show (Function.update c.items item.item_id _ item.item_id).status = _
              rw [Function.update_self]
          · exact hemit

/-- A delivery of an open item. -/
theorem moves_deliverItem {item : ScenarioItem} {c : ScenarioController W} (actor_role : String)
    (known : item ∈ env.definition.items) (isOpen : (c.items item.item_id).status.Open) :
    env.Moves Q R c (env.deliverItem item actor_role c).2 := by
  obtain ⟨outcome, c₁, hexec, -, -, -⟩ := env.execute_spec item c
  cases outcome with
  | error m =>
      rw [env.deliverItem_of_error actor_role hexec]
      unfold failItem
      rw [Raising.modify_bind_apply]
      exact Move.then (.failed known isOpen hexec rfl) (env.moves_emit hQ _ _ _ _ _ _ _ _)
  | ok m =>
      rw [env.deliverItem_of_ok actor_role hexec]
      have hmove : env.Move Q R c (setItem item.item_id ⟨.delivered, some c₁.elapsed_seconds, none⟩
          (note (.processed item actor_role) c₁)) := .delivered known isOpen hexec
      exact hmove.then (env.moves_completeItem hQ known actor_role m.1 m.2 _)

theorem moves_makeDue {item : ScenarioItem} (known : item ∈ env.definition.items) :
    (env.makeDue item).Keeps (env.Moves Q R) := by
  intro c
  by_cases hpending : (c.items item.item_id).status = .pending
  · by_cases hw : item.Waits
    · rw [env.makeDue_of_waits hpending hw]
      exact Move.then (.readied known hpending rfl) (env.moves_emit hQ _ _ _ _ _ _ _ _)
    · rw [env.makeDue_of_automatic hpending hw]
      exact env.moves_deliverItem hQ "controller" known (Or.inl hpending)
  · rw [env.makeDue_of_not_pending hpending]
    exact Std.Refl.refl c

omit [Std.Refl Q] [IsTrans W Q] in
theorem moves_advanceClock (t : Int) : (env.advanceClock t).Keeps (env.Moves Q R) := by
  refine Raising.Keeps.bind (Raising.Keeps.modify fun c => Move.moves (.ticked t)) fun _ => ?_
  refine Raising.Keeps.forEach fun observer hobserver => ?_
  refine Raising.Keeps.bind (Raising.Keeps.step fun c => ?_) fun r => Raising.Keeps.ofExcept r
  exact Move.moves (.outer ⟨rfl, rfl, rfl, rfl, rfl⟩ (hQ.observers observer hobserver t c.world))

theorem moves_advanceItem {item : ScenarioItem} (known : item ∈ env.definition.items) :
    (env.advanceItem item).Keeps (env.Moves Q R) :=
  Raising.Keeps.bind (env.moves_advanceClock hQ _) fun _ => env.moves_makeDue hQ known

theorem moves_advanceTo (t : Int) : (env.advanceTo t).Keeps (env.Moves Q R) := by
  intro c
  unfold advanceTo
  rw [requireState_bind]
  split
  · rw [Raising.require_bind_apply]
    split
    · rw [Raising.gets_bind_apply]
      have hloop : (Raising.forEach env.advanceItem (env.due t c)).Keeps (env.Moves Q R) :=
        Raising.Keeps.forEach fun item hitem =>
          env.moves_advanceItem hQ (env.mem_items_of_due hitem)
      exact Raising.Keeps.bind hloop (fun _ => env.moves_advanceClock hQ t) c
    · exact Std.Refl.refl c
  · exact Std.Refl.refl c

theorem moves_prepare : env.prepare.Keeps (env.Moves Q R) :=
  Raising.Keeps.bind (Raising.Keeps.require _ _) fun _ =>
    Raising.Keeps.forEach fun _ hitem => env.moves_makeDue hQ (env.mem_items_of_preExercise hitem)

theorem moves_changeState {before after : RunState} (turn : Turn before after)
    (event_type action message : String) :
    (env.changeState before after event_type action message).Keeps (env.Moves Q R) := by
  intro c
  unfold changeState
  rw [requireState_bind]
  split
  · next hstate =>
      rw [Raising.modify_bind_apply]
      rw [List.mem_singleton] at hstate
      exact Move.then (.turned (hstate ▸ turn)) (env.moves_emit hQ _ _ _ _ _ _ _ _)
  · exact Std.Refl.refl c

theorem moves_start : env.start.Keeps (env.Moves Q R) :=
  Raising.Keeps.bind (env.moves_changeState hQ .start _ _ _) fun _ => env.moves_advanceTo hQ 0

theorem moves_deliver (item_id : String) : (env.deliver item_id).Keeps (env.Moves Q R) := by
  intro c
  unfold deliver
  rw [requireState_bind]
  split
  · rw [Raising.ofExcept_bind_apply]
    cases hfind : env.find item_id with
    | error e => exact Std.Refl.refl c
    | ok item =>
        obtain ⟨hid, hknown⟩ := env.find_eq_ok hfind
        dsimp only
        rw [Raising.require_bind_apply]
        split
        · next hopen =>
            rw [← hid] at hopen
            exact env.moves_deliverItem hQ "facilitator" hknown hopen
        · exact Std.Refl.refl c
  · exact Std.Refl.refl c

theorem moves_skip (item_id reason : String) : (env.skip item_id reason).Keeps (env.Moves Q R) := by
  intro c
  by_cases hcan : env.CanSkip item_id reason c
  · obtain ⟨item, runtime, hfind, hskipped, heq⟩ := env.skip_accepted hcan
    obtain ⟨hid, hknown⟩ := env.find_eq_ok hfind
    rw [heq]
    have hmove : env.Move Q R c (setItem item_id runtime c) := by
      have hopen := hcan.isOpen
      rw [← hid] at hopen ⊢
      exact .skipped hknown hopen hskipped
    exact hmove.then (env.moves_emit hQ _ _ _ _ _ _ _ _)
  · obtain ⟨e, heq, -⟩ := env.skip_refused hcan
    rw [heq]
    exact Std.Refl.refl c

theorem moves_resolveCheckpoint (checkpoint_id : String) (passed : Bool)
    (evidence_ids : List String) (reason : String) (checks : Option Json)
    (c : ScenarioController W)
    (hR : R checkpoint_id (resultOf passed) c) :
    env.Moves Q R c
      (env.resolveCheckpoint checkpoint_id passed evidence_ids reason checks c).2 := by
  by_cases hcan : ∃ item, env.CanResolve checkpoint_id reason checks item c
  · obtain ⟨item, hcan⟩ := hcan
    rw [env.resolveCheckpoint_accepted hcan]
    have hlive : c.state = .running ∨ c.state = .paused := by simpa using hcan.playing
    refine Move.then (.recorded (resultOf passed) hlive hcan.isOpen hR) ?_
    refine Raising.Keeps.bind (env.moves_emit hQ _ _ _ _ _ _ _) (fun _ => ?_) _
    refine Raising.Keeps.forEach fun branch hbranch => ?_
    refine Raising.Keeps.bind (Raising.Keeps.gets _) fun state => ?_
    split
    · exact Raising.Keeps.pure _
    · split
      · exact env.moves_makeDue hQ (env.mem_branches.mp hbranch).1
      · exact env.moves_skip hQ _ _
  · obtain ⟨e, heq, -⟩ :=
      env.resolveCheckpoint_refused (fun item h => hcan ⟨item, h⟩) passed evidence_ids
    rw [heq]
    exact Std.Refl.refl c

/-- Every operation but a reset is a sequence of small steps, whether it returns or raises. -/
theorem moves_call {op : Operation} (hop : ∀ new_run_id, op ≠ .reset new_run_id)
    {c : ScenarioController W}
    (hR : ∀ checkpoint_id passed evidence_ids reason checks,
      op = .resolve_checkpoint checkpoint_id passed evidence_ids reason checks →
        R checkpoint_id (resultOf passed) c) :
    env.Moves Q R c (env.call op c).2 := by
  cases op with
  | prepare => exact env.moves_prepare hQ c
  | start => exact env.moves_start hQ c
  | pause => exact env.moves_changeState hQ .pause _ _ _ c
  | resume => exact env.moves_changeState hQ .resume _ _ _ c
  | advance_to t => exact env.moves_advanceTo hQ t c
  | deliver item_id => exact env.moves_deliver hQ item_id c
  | skip item_id reason => exact env.moves_skip hQ item_id reason c
  | resolve_checkpoint checkpoint_id passed evidence_ids reason checks =>
      exact env.moves_resolveCheckpoint hQ checkpoint_id passed evidence_ids reason checks c
        (hR _ _ _ _ _ rfl)
  | fail_safe_stop reason => exact env.moves_failSafeStop hQ reason c
  | reset new_run_id => exact absurd rfl (hop new_run_id)

end Operations

end NetStrike.Orchestrator.Controller
