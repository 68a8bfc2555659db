import NetStrike.Foundation.Simulation
import NetStrike.Orchestrator.Writes

/-!
# The ledger of the controller

`recorded env` is the controller `env` whose sink also remembers, in a ghost ledger, the events that
it accepted. No part of the controller reads the ledger, and forgetting it gives back the runs of
`env` (`forget_runAll`).

`ledger_of_written` and `ledger_of_refused` are all that the invariants of later modules use about
the ledger: a written notice appends its event, a refused one appends nothing.
-/

set_option autoImplicit false

namespace NetStrike.Orchestrator

open NetStrike.Foundation NetStrike.Shared

/-- A world with the events that the sink of the controller has accepted. -/
structure Recorded (W : Type) where
  world : W
  ledger : List Event

variable {W : Type}

/-- A step of the world leaves the ledger alone. -/
def Recorded.lift {α : Type} (f : W → α × W) (w : Recorded W) : α × Recorded W :=
  ((f w.world).1, { w with world := (f w.world).2 })

/-- The handler, on a world with a ledger. -/
def HandlerCode.recorded : HandlerCode W → HandlerCode (Recorded W)
  | .finish result => .finish result
  | .raise e => .raise e
  | .act effect next =>
      .act (fun w => { w with world := effect w.world }) fun w => (next w.world).recorded
  | .inspect next => .inspect fun view => (next view).recorded
  | .fail_safe_stop reason next => .fail_safe_stop reason fun outcome => (next outcome).recorded

namespace Controller

variable (env : Controller W)

/-- The sink, which notes the events that it accepts. -/
def recordedSink (event : Event) (w : Recorded W) : Except Exn Unit × Recorded W :=
  match env.event_sink event w.world with
  | (.ok (), w') => (.ok (), ⟨w', w.ledger ++ [event]⟩)
  | (.error e, w') => (.error e, ⟨w', w.ledger⟩)

/-- The sources of the builder, on a world with a ledger. -/
def recordedSources : EventSources (Recorded W) where
  sequence_factory := env.sources.sequence_factory.map Recorded.lift
  clock := Recorded.lift env.sources.clock
  event_id_factory := Recorded.lift env.sources.event_id_factory

/-- The controller with a ledger. -/
def recorded : Controller (Recorded W) where
  definition := env.definition
  event_sink := env.recordedSink
  handlers := fun action_id =>
    (env.handlers action_id).map fun handler item run_id => (handler item run_id).recorded
  producer_version := env.producer_version
  sources := env.recordedSources
  time_observers := env.time_observers.map fun observer t => Recorded.lift (observer t)
  uuid4 := Recorded.lift env.uuid4
  formats := env.formats

/-- The state without the ledger. -/
def forget (c : ScenarioController (Recorded W)) : ScenarioController W where
  run_id := c.run_id
  state := c.state
  elapsed_seconds := c.elapsed_seconds
  items := c.items
  checkpoint_results := c.checkpoint_results
  events := c.events
  journal := c.journal
  world := c.world.world

/-! ## The ledger is a ghost -/

section Forget

open Raising

theorem recordedSink_forget (event : Event) (w : Recorded W) :
    env.event_sink event w.world =
      ((env.recordedSink event w).1, (env.recordedSink event w).2.world) := by
  unfold recordedSink
  cases h : env.event_sink event w.world with
  | mk r w' => cases r <;> rfl

/-- The state of a builder without the ledger. -/
def forgetBuild (s : EventBuilder × Recorded W) : EventBuilder × W := (s.1, s.2.world)

theorem nextSequence_recorded (b : EventBuilder) (w : Recorded W) :
    EventBuilder.nextSequence env.recordedSources b w =
      Recorded.lift (EventBuilder.nextSequence env.sources b) w := by
  unfold EventBuilder.nextSequence
  cases h : env.sources.sequence_factory <;> simp only [recordedSources, h] <;> rfl

theorem eventId_recorded (call : EventCall) (w : Recorded W) :
    EventBuilder.eventId env.recordedSources call w =
      Recorded.lift (EventBuilder.eventId env.sources call) w := by
  unfold EventBuilder.eventId
  cases truthy call.event_id <;> rfl

theorem now_recorded (call : EventCall) (w : Recorded W) :
    EventBuilder.now env.recordedSources call w =
      Recorded.lift (EventBuilder.now env.sources call) w := by
  unfold EventBuilder.now
  cases call.timestamp <;> rfl

theorem build_simulates (call : EventCall) :
    Simulates forgetBuild (EventBuilder.build env.formats env.recordedSources call)
      (EventBuilder.build env.formats env.sources call) := by
  unfold EventBuilder.build
  refine Simulates.bind (Simulates.require (fun _ => Iff.rfl) fun _ => rfl) fun _ => ?_
  refine Simulates.bind (Simulates.step fun s => ?_) fun next_sequence => ?_
  · rw [nextSequence_recorded]
    rfl
  refine Simulates.bind (Simulates.require (fun _ => Iff.rfl) fun _ => rfl) fun _ => ?_
  refine Simulates.bind (Simulates.step fun s => ?_) fun event_id => ?_
  · rw [eventId_recorded]
    rfl
  refine Simulates.bind (Simulates.step fun s => ?_) fun moment => ?_
  · rw [now_recorded]
    rfl
  refine Simulates.bind (Simulates.ofExcept _) fun timestamp => ?_
  refine Simulates.bind (Simulates.gets fun _ => rfl) fun context => ?_
  refine Simulates.bind (Simulates.ofExcept _) fun _ => ?_
  exact Simulates.bind (Simulates.modify fun _ => rfl) fun _ => Simulates.pure _

theorem emit_simulates (event_type action message status : String) (item : Option ScenarioItem)
    (actor_role : String) (data : List (String × Json)) :
    Simulates forget (env.recorded.emit event_type action message status item actor_role data)
      (env.emit event_type action message status item actor_role data) := by
  refine Simulates.bind (Simulates.gets fun _ => rfl) fun call => ?_
  refine Simulates.bind (Simulates.focus (env.build_simulates call) (fun _ => rfl)
    fun _ _ => rfl) fun event => ?_
  refine Simulates.bind (Simulates.modify fun _ => rfl) fun _ => ?_
  refine Simulates.bind (Simulates.step fun c => ?_) fun r => Simulates.ofExcept r
  have hsink := env.recordedSink_forget event c.world
  show ((env.event_sink event c.world.world).1,
    { forget c with world := (env.event_sink event c.world.world).2 }) = _
  rw [hsink]
  rfl

theorem failSafeStop_simulates (reason : String) :
    Simulates forget (env.recorded.failSafeStop reason) (env.failSafeStop reason) := by
  refine Simulates.bind (Simulates.require (fun _ => Iff.rfl) fun _ => rfl) fun _ => ?_
  refine Simulates.bind (Simulates.require (fun _ => Iff.rfl) fun _ => rfl) fun _ => ?_
  exact Simulates.bind (Simulates.modify fun _ => rfl) fun _ => env.emit_simulates _ _ _ _ _ _ _

theorem runHandler_simulates (code : HandlerCode W) :
    Simulates forget (env.recorded.runHandler code.recorded) (env.runHandler code) := by
  induction code with
  | finish result => exact Simulates.pure _
  | raise e => exact Simulates.raise _
  | act effect next ih =>
      intro c
      exact ih (effect c.world.world)
        { c with world := { c.world with world := effect c.world.world } }
  | inspect next ih => exact Simulates.bind (Simulates.gets fun _ => rfl) ih
  | fail_safe_stop reason next ih =>
      exact Simulates.bind (Simulates.attempt (env.failSafeStop_simulates reason)) ih

theorem execute_simulates (item : ScenarioItem) :
    Simulates forget (env.recorded.execute item) (env.execute item) := by
  unfold execute
  cases item.action_id with
  | none => exact Simulates.pure _
  | some action_id =>
      cases hh : env.handlers action_id with
      | none =>
          simp only [recorded, hh, Option.map_none]
          exact Simulates.pure _
      | some handler =>
          simp only [recorded, hh, Option.map_some]
          refine Simulates.bind (Simulates.modify fun _ => rfl) fun _ => ?_
          refine Simulates.bind (Simulates.gets fun _ => rfl) fun run_id => ?_
          exact Simulates.bind (Simulates.attempt (env.runHandler_simulates (handler item run_id)))
            fun _ => Simulates.pure _

theorem deliverItem_simulates (item : ScenarioItem) (actor_role : String) :
    Simulates forget (env.recorded.deliverItem item actor_role)
      (env.deliverItem item actor_role) := by
  refine Simulates.bind (env.execute_simulates item) fun outcome => ?_
  refine Simulates.bind (Simulates.modify fun _ => rfl) fun _ => ?_
  match outcome with
  | .error (reason, data) =>
      exact Simulates.bind (Simulates.modify fun _ => rfl) fun _ => env.emit_simulates _ _ _ _ _ _ _
  | .ok (message, data) =>
      refine Simulates.bind (Simulates.modify fun _ => rfl) fun _ => ?_
      refine Simulates.bind (env.emit_simulates _ _ _ _ _ _ _) fun _ => ?_
      split
      · exact Simulates.modify fun _ => rfl
      · exact Simulates.pure _

theorem makeDue_simulates (item : ScenarioItem) :
    Simulates forget (env.recorded.makeDue item) (env.makeDue item) := by
  refine Simulates.bind (Simulates.gets fun _ => rfl) fun status => ?_
  split
  · exact Simulates.pure _
  · split
    · exact Simulates.bind (Simulates.modify fun _ => rfl) fun _ => env.emit_simulates _ _ _ _ _ _ _
    · exact env.deliverItem_simulates item "controller"

theorem advanceClock_simulates (elapsed_seconds : Int) :
    Simulates forget (env.recorded.advanceClock elapsed_seconds)
      (env.advanceClock elapsed_seconds) := by
  refine Simulates.bind (Simulates.modify fun _ => rfl) fun _ => ?_
  show Simulates forget (Raising.forEach _ (env.time_observers.map _)) _
  induction env.time_observers with
  | nil => exact Simulates.pure _
  | cons observer observers ih =>
      refine Simulates.bind ?_ fun _ => ih
      exact Simulates.bind (Simulates.step fun _ => rfl) fun r => Simulates.ofExcept r

theorem advanceTo_simulates (elapsed_seconds : Int) :
    Simulates forget (env.recorded.advanceTo elapsed_seconds) (env.advanceTo elapsed_seconds) := by
  refine Simulates.bind (Simulates.require (fun _ => Iff.rfl) fun _ => rfl) fun _ => ?_
  refine Simulates.bind (Simulates.require (fun _ => Iff.rfl) fun _ => rfl) fun _ => ?_
  refine Simulates.bind (Simulates.gets fun _ => rfl) fun due => ?_
  refine Simulates.bind (Simulates.forEach (fun item => ?_) due) fun _ =>
    env.advanceClock_simulates elapsed_seconds
  exact Simulates.bind (env.advanceClock_simulates _) fun _ => env.makeDue_simulates item

theorem changeState_simulates (before after : RunState) (event_type action message : String) :
    Simulates forget (env.recorded.changeState before after event_type action message)
      (env.changeState before after event_type action message) := by
  refine Simulates.bind (Simulates.require (fun _ => Iff.rfl) fun _ => rfl) fun _ => ?_
  exact Simulates.bind (Simulates.modify fun _ => rfl) fun _ => env.emit_simulates _ _ _ _ _ _ _

theorem skip_simulates (item_id reason : String) :
    Simulates forget (env.recorded.skip item_id reason) (env.skip item_id reason) := by
  refine Simulates.bind (Simulates.require (fun _ => Iff.rfl) fun _ => rfl) fun _ => ?_
  refine Simulates.bind (Simulates.require (fun _ => Iff.rfl) fun _ => rfl) fun _ => ?_
  refine Simulates.bind (Simulates.ofExcept _) fun item => ?_
  refine Simulates.bind (Simulates.require (fun _ => Iff.rfl) fun _ => rfl) fun _ => ?_
  exact Simulates.bind (Simulates.modify fun _ => rfl) fun _ => env.emit_simulates _ _ _ _ _ _ _

theorem resolveBranch_simulates (checkpoint_id : String) (result : CheckpointOutcome)
    (branch : ScenarioItem) :
    Simulates forget (env.recorded.resolveBranch checkpoint_id result branch)
      (env.resolveBranch checkpoint_id result branch) := by
  refine Simulates.bind (Simulates.gets fun _ => rfl) fun state => ?_
  split
  · exact Simulates.pure _
  · split
    · exact env.makeDue_simulates branch
    · exact env.skip_simulates _ _

theorem resolveCheckpoint_simulates (checkpoint_id : String) (passed : Bool)
    (evidence_ids : List String) (reason : String) (checks : Option Json) :
    Simulates forget
      (env.recorded.resolveCheckpoint checkpoint_id passed evidence_ids reason checks)
      (env.resolveCheckpoint checkpoint_id passed evidence_ids reason checks) := by
  refine Simulates.bind ?_ fun item => ?_
  · refine Simulates.bind (Simulates.require (fun _ => Iff.rfl) fun _ => rfl) fun _ => ?_
    refine Simulates.bind (Simulates.ofExcept _) fun item => ?_
    refine Simulates.bind (Simulates.require (fun _ => Iff.rfl) fun _ => rfl) fun _ => ?_
    refine Simulates.bind (Simulates.require (fun _ => Iff.rfl) fun _ => rfl) fun _ => ?_
    refine Simulates.bind (Simulates.require (fun _ => Iff.rfl) fun _ => rfl) fun _ => ?_
    exact Simulates.bind (Simulates.require (fun _ => Iff.rfl) fun _ => rfl) fun _ =>
      Simulates.pure _
  · refine Simulates.bind (Simulates.modify fun _ => rfl) fun _ => ?_
    refine Simulates.bind (env.emit_simulates _ _ _ _ _ _ _) fun _ => ?_
    exact Simulates.forEach (env.resolveBranch_simulates checkpoint_id _) _

theorem reset_simulates (new_run_id : Option String) :
    Simulates forget (env.recorded.reset new_run_id) (env.reset new_run_id) := by
  refine Simulates.bind (Simulates.require (fun _ => Iff.rfl) fun _ => rfl) fun _ => ?_
  refine Simulates.bind (Simulates.gets fun _ => rfl) fun _ => ?_
  refine Simulates.bind (Simulates.step fun c => ?_) fun run_id => ?_
  · cases truthy new_run_id <;> rfl
  · exact Simulates.bind (Simulates.modify fun _ => rfl) fun _ => env.emit_simulates _ _ _ _ _ _ _

theorem call_simulates (op : Operation) :
    Simulates forget (env.recorded.call op) (env.call op) := by
  cases op with
  | prepare =>
      exact Simulates.bind (Simulates.require (fun _ => Iff.rfl) fun _ => rfl) fun _ =>
        Simulates.forEach env.makeDue_simulates _
  | start =>
      exact Simulates.bind (env.changeState_simulates _ _ _ _ _) fun _ =>
        env.advanceTo_simulates 0
  | pause => exact env.changeState_simulates _ _ _ _ _
  | resume => exact env.changeState_simulates _ _ _ _ _
  | advance_to elapsed_seconds => exact env.advanceTo_simulates elapsed_seconds
  | deliver item_id =>
      refine Simulates.bind (Simulates.require (fun _ => Iff.rfl) fun _ => rfl) fun _ => ?_
      refine Simulates.bind (Simulates.ofExcept _) fun item => ?_
      refine Simulates.bind (Simulates.require (fun _ => Iff.rfl) fun _ => rfl) fun _ => ?_
      exact env.deliverItem_simulates item "facilitator"
  | skip item_id reason => exact env.skip_simulates item_id reason
  | resolve_checkpoint checkpoint_id passed evidence_ids reason checks =>
      exact env.resolveCheckpoint_simulates checkpoint_id passed evidence_ids reason checks
  | fail_safe_stop reason => exact env.failSafeStop_simulates reason
  | reset new_run_id => exact env.reset_simulates new_run_id

/-- Forgetting the ledger of a run gives the run of the controller without ledger. -/
theorem forget_runAll (ops : List Operation) (c : ScenarioController (Recorded W)) :
    forget (runAll env.recorded.perform ops c) = runAll env.perform ops (forget c) := by
  induction ops generalizing c with
  | nil => rfl
  | cons op ops ih =>
      rw [runAll_cons, runAll_cons, ih]
      exact congrArg _ ((env.call_simulates op).state c).symm

end Forget

/-! ## What the ledger holds -/

section Ledger

variable {n : Notice} {c c' : ScenarioController (Recorded W)}

theorem ledger_sources (call : EventCall) (b : EventBuilder) (w : Recorded W) :
    (EventBuilder.now env.recordedSources call
      (EventBuilder.eventId env.recordedSources call
        (EventBuilder.nextSequence env.recordedSources b w).2).2).2.ledger = w.ledger := by
  rw [now_recorded, eventId_recorded, nextSequence_recorded]
  rfl

/-- A written notice appends its event. -/
theorem ledger_of_written (h : env.recorded.Written n c) (h' : env.recorded.Handed n c c') :
    c'.world.ledger = c.world.ledger ++ [env.recorded.eventOf n c] := by
  have hledger : (env.recorded.worldOf n c).ledger = c.world.ledger :=
    env.ledger_sources (env.recorded.callOf n c) c.events c.world
  have haccepted : (env.recordedSink (env.recorded.eventOf n c) (env.recorded.worldOf n c)).1 =
      .ok () := h.accepted
  rw [h'.world, ← hledger]
  show (env.recordedSink _ _).2.ledger = _
  unfold recordedSink at haccepted ⊢
  cases hsink : env.event_sink (env.recorded.eventOf n c) (env.recorded.worldOf n c).world with
  | mk r w' =>
      rw [hsink] at haccepted
      cases r with
      | ok _ => rfl
      | error e => cases haccepted

/-- A refused notice appends nothing. -/
theorem ledger_of_refused (h : env.recorded.Refused n c c') :
    c'.world.ledger = c.world.ledger := by
  rcases h.2.2 with ⟨⟨e, w⟩, hbuild, -, hworld⟩ | ⟨hhanded, e, hsink⟩
  · have hbuilds : ¬ EventBuilder.Builds env.formats env.recordedSources (env.recorded.callOf n c)
        c.events c.world := by
      intro hb
      have hok := EventBuilder.build_of_builds env.formats env.recordedSources hb
      rw [show EventBuilder.build env.formats env.recordedSources (env.recorded.callOf n c)
        (c.events, c.world) = _ from hbuild] at hok
      cases hok
    obtain ⟨e', w', hbuild', -, hw'⟩ :=
      EventBuilder.build_of_not_builds env.formats env.recordedSources hbuilds
    rw [show EventBuilder.build env.formats env.recordedSources (env.recorded.callOf n c)
      (c.events, c.world) = _ from hbuild] at hbuild'
    injection hbuild' with _ hstate
    injection hstate with _ hw
    rw [hworld, show w = w' from hw, hw']
    split_ifs
    · exact env.ledger_sources (env.recorded.callOf n c) c.events c.world
    · rw [nextSequence_recorded]
      rfl
    · rfl
  · have hledger : (env.recorded.worldOf n c).ledger = c.world.ledger :=
      env.ledger_sources (env.recorded.callOf n c) c.events c.world
    have hrefused : (env.recordedSink (env.recorded.eventOf n c) (env.recorded.worldOf n c)).1 =
        .error e := hsink
    rw [hhanded.world, ← hledger]
    show (env.recordedSink _ _).2.ledger = _
    unfold recordedSink at hrefused ⊢
    cases hs : env.event_sink (env.recorded.eventOf n c) (env.recorded.worldOf n c).world with
    | mk r w' =>
        rw [hs] at hrefused
        cases r with
        | ok _ => cases hrefused
        | error _ => rfl

/-- The ledger is the same. -/
def SameLedger (c c' : ScenarioController (Recorded W)) : Prop :=
  c'.world.ledger = c.world.ledger

instance : Std.Refl (SameLedger (W := W)) := ⟨fun _ => rfl⟩

instance : IsTrans (ScenarioController (Recorded W)) SameLedger := ⟨fun _ _ _ h h' => h'.trans h⟩

theorem sameLedger_advanceClock (elapsed_seconds : Int) :
    (env.recorded.advanceClock elapsed_seconds).Keeps SameLedger := by
  refine Raising.Keeps.bind (Raising.Keeps.modify fun _ => rfl) fun _ => ?_
  refine Raising.Keeps.forEach fun observer hobserver => ?_
  obtain ⟨observer, -, rfl⟩ := List.mem_map.mp hobserver
  exact Raising.Keeps.bind (Raising.Keeps.step fun _ => rfl) fun r => Raising.Keeps.ofExcept r

theorem ledger_renew (new_run_id : Option String) (c : ScenarioController (Recorded W)) :
    (env.recorded.renew new_run_id c).world.ledger = c.world.ledger := by
  show (env.recorded.newRun new_run_id c).2.ledger = _
  unfold newRun
  cases truthy new_run_id <;> rfl

/-- A handler leaves the state and the ledger alone, or it stops the run and at most stop events
reach the ledger. -/
def RanBeside (c c' : ScenarioController (Recorded W)) : Prop :=
  c'.state = c.state ∧ c'.world.ledger = c.world.ledger ∨
    c'.state = .stopped ∧ ∃ es, c'.world.ledger = c.world.ledger ++ es ∧
      ∀ e ∈ es, e.event_type = "scenario.run.stopped"

instance : Std.Refl (RanBeside (W := W)) := ⟨fun _ => Or.inl ⟨rfl, rfl⟩⟩

theorem RanBeside.trans {a b c : ScenarioController (Recorded W)} (h : RanBeside a b)
    (h' : RanBeside b c) : RanBeside a c := by
  rcases h with ⟨hs, hl⟩ | ⟨hs, es, hes, hall⟩
  · rcases h' with ⟨hs', hl'⟩ | ⟨hs', fs, hfs, hall'⟩
    · exact Or.inl ⟨hs'.trans hs, hl'.trans hl⟩
    · exact Or.inr ⟨hs', fs, by rw [hfs, hl], hall'⟩
  · rcases h' with ⟨hs', hl'⟩ | ⟨hs', fs, hfs, hall'⟩
    · exact Or.inr ⟨hs'.trans hs, es, hl'.trans hes, hall⟩
    · refine Or.inr ⟨hs', es ++ fs, by rw [hfs, hes, List.append_assoc], ?_⟩
      intro e he
      rcases List.mem_append.mp he with he | he
      · exact hall e he
      · exact hall' e he

instance : IsTrans (ScenarioController (Recorded W)) RanBeside := ⟨fun _ _ _ h h' => h.trans h'⟩

theorem ranBeside_failSafeStop (reason : String) :
    (env.recorded.failSafeStop reason).Keeps RanBeside := by
  intro c
  by_cases h : c.state ∈ playable ∧ ¬ Blank reason
  · rw [env.recorded.failSafeStop_accepted h]
    show RanBeside c (env.recorded.notify (stoppedNotice reason) (setState .stopped c)).2
    by_cases hw : env.recorded.Written (stoppedNotice reason) (setState .stopped c)
    · obtain ⟨c', heq, hhanded⟩ := env.recorded.notify_of_written hw
      have hledger := env.ledger_of_written hw hhanded
      rw [heq]
      refine Or.inr ⟨hhanded.run.state, _, hledger, ?_⟩
      intro e he
      rw [List.mem_singleton.mp he]
      rfl
    · obtain ⟨e, c', heq, href⟩ := env.recorded.notify_of_not_written hw
      have hledger := env.ledger_of_refused href
      rw [heq]
      refine Or.inr ⟨href.1.state, [], ?_, fun _ he => absurd he List.not_mem_nil⟩
      rw [List.append_nil]
      exact hledger
  · obtain ⟨e, heq, -⟩ := env.recorded.failSafeStop_refused h
    rw [heq]
    exact Std.Refl.refl c

theorem ranBeside_runHandler (code : HandlerCode W) :
    (env.recorded.runHandler code.recorded).Keeps RanBeside := by
  induction code with
  | finish result => exact Raising.Keeps.pure _
  | raise e => exact Raising.Keeps.raise _
  | act effect next ih =>
      intro c
      have hact : RanBeside c { c with world := { c.world with world := effect c.world.world } } :=
        Or.inl ⟨rfl, rfl⟩
      exact hact.trans (ih (effect c.world.world) _)
  | inspect next ih => exact Raising.Keeps.bind (Raising.Keeps.gets _) ih
  | fail_safe_stop reason next ih =>
      exact Raising.Keeps.bind (Raising.Keeps.attempt (env.ranBeside_failSafeStop reason)) ih

/-- The handler part of a delivery. -/
theorem ranBeside_execute (item : ScenarioItem) : (env.recorded.execute item).Keeps RanBeside := by
  unfold execute
  cases item.action_id with
  | none => exact Raising.Keeps.pure _
  | some action_id =>
      cases hh : env.handlers action_id with
      | none =>
          simp only [recorded, hh, Option.map_none]
          exact Raising.Keeps.pure _
      | some handler =>
          simp only [recorded, hh, Option.map_some]
          refine Raising.Keeps.bind (Raising.Keeps.modify fun _ => Or.inl ⟨rfl, rfl⟩) fun _ => ?_
          refine Raising.Keeps.bind (Raising.Keeps.gets _) fun run_id => ?_
          refine Raising.Keeps.bind (Raising.Keeps.attempt ?_) fun _ => Raising.Keeps.pure _
          exact env.ranBeside_runHandler (handler item run_id)

end Ledger

end Controller

end NetStrike.Orchestrator
