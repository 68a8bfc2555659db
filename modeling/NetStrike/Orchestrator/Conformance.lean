import NetStrike.Orchestrator.Determinism

/-!
# Scenarios and the event contract

Whether the events of a loaded scenario meet `event.v1.json`. `Conforms` says of one notice that its
event meets the schema, and `ConformingStep` of one operation that all its notices do, those of a
handler that stops the run included.

The parser checks patterns and enumerations but bounds no length. `ScenarioDefinition.Fits` lists the
bounds that the schema has and the parser lacks, and `conforms_iff_fits` says that they decide:
with them and run ids of the schema's pattern every run conforms, and without one of them
some run does not.
-/

set_option autoImplicit false

namespace NetStrike.Orchestrator

open NetStrike.Foundation NetStrike.Shared

/-- The bounds that the event contract sets and the parser does not check. -/
structure ScenarioDefinition.Fits (definition : ScenarioDefinition) : Prop where
  exercise_id : definition.exercise_id.length ≤ 128
  /-- `start` says `Started` and the name. -/
  name : definition.name.length ≤ 2040
  item_id : ∀ item ∈ definition.items, item.item_id.length ≤ 256
  title : ∀ item ∈ definition.items, item.title.length ≤ 256
  action_id : ∀ item ∈ definition.items, ∀ a, item.action_id = some a → a.length ≤ 128
  summary : ∀ item ∈ definition.items, item.action_id = none → item.summary.length ≤ 2048

/-! ## Handlers -/

/-- The handler returns a success with a message of the schema's length, whatever it sees, and
gives its stops short reasons. -/
def HandlerCode.Brief {W : Type} : HandlerCode W → Prop
  | .finish result => ∃ message data, result = .automation ⟨true, message, data⟩ ∧
      1 ≤ message.length ∧ message.length ≤ 2048
  | .raise _ => False
  | .act _ next => ∀ w, (next w).Brief
  | .inspect next => ∀ view, (next view).Brief
  | .fail_safe_stop reason next => reason.length ≤ 1024 ∧ ∀ outcome, (next outcome).Brief

namespace Controller

variable {W : Type} (env : Controller W)

/-- All handlers succeed with short messages. -/
def BriefHandlers : Prop :=
  ∀ action_id handler, env.handlers action_id = some handler →
    ∀ item run_id, (handler item run_id).Brief

/-- The reasons of the operation meet the schema's bound for reasons, and a new run has one of the
given ids. -/
def Operation.Within (run_ids : String → Prop) : Operation → Prop
  | .skip _ reason => reason.length ≤ 1024
  | .resolve_checkpoint _ _ _ reason _ => reason.length ≤ 1024
  | .fail_safe_stop reason => reason.length ≤ 1024
  | .reset new_run_id => ∀ run_id, truthy new_run_id = some run_id → run_ids run_id
  | _ => True

/-- What the collaborators are documented to give: version 4 UUIDs, UTC times that the format check
knows, positive numbers, and a semantic version. -/
structure SoundSources : Prop where
  event_id : ∀ w, env.formats.uuid (env.sources.event_id_factory w).1 = true
  clock : ∀ w, env.formats.dateTime (env.sources.clock w).1.isoformat = true
  sequence : ∀ factory, env.sources.sequence_factory = some factory → ∀ w, 0 < (factory w).1
  producer_version : producerVersionPattern.search env.producer_version = true
  uuid4 : ∀ w, EventSchema.correlationId.valid (.str (env.uuid4 w).1) = true

/-! ## Conforming notices -/

/-- The event of the notice meets the schema, so its build does not fail in validation. -/
structure Conforms (n : Notice) (c : ScenarioController W) : Prop where
  valid : (eventSchema env.formats).valid (env.eventOf n c).toJson = true
  accepted : ∀ e s, EventBuilder.build env.formats env.sources (env.callOf n c)
    (c.events, c.world) = (.error e, s) → e.type ≠ .EventValidationError

/-- The events of the stops that the handler makes conform. -/
def StopsConform : HandlerCode W → ScenarioController W → Prop
  | .finish _, _ => True
  | .raise _, _ => True
  | .act effect next, c => StopsConform (next (effect c.world)) { c with world := effect c.world }
  | .inspect next, c => StopsConform (next c.view) c
  | .fail_safe_stop reason next, c =>
      StopMeets env.Conforms reason c ∧
        StopsConform (next (env.failSafeStop reason c).1) (env.failSafeStop reason c).2

/-- The events of a delivery conform, those of the handler's stops included. -/
structure DeliveryConforms (item : ScenarioItem) (actor_role : String)
    (c : ScenarioController W) : Prop where
  stops : ∀ action_id handler, item.action_id = some action_id →
    env.handlers action_id = some handler →
      env.StopsConform (handler item c.run_id) (note (.handlerInvoked item.item_id) c)
  outcome : env.DeliveryMeets env.Conforms item actor_role c

/-- Every event that the operation builds conforms. -/
def ConformingStep (op : Operation) (c : ScenarioController W) : Prop :=
  env.StepMeets env.Conforms env.DeliveryConforms op c

/-- The arguments of a notice are within the schema. -/
structure Notice.Fits (n : Notice) : Prop where
  event_type : EventSchema.eventName.valid (.str n.event_type) = true
  action : EventSchema.eventName.valid (.str n.action) = true
  status : n.status ∈ EventSchema.outcomeStatuses
  actor_role : 1 ≤ n.actor_role.length ∧ n.actor_role.length ≤ 128
  item : ∀ item, n.item = some item → item.item_id.length ≤ 256 ∧ item.title.length ≤ 256
  message : 1 ≤ n.message.length ∧ n.message.length ≤ 2048

/-- The run of the controller has valid correlation fields. -/
structure RunFits (c : ScenarioController W) : Prop where
  context : c.events.context = (env.newBuilder c.run_id).context
  exercise_id : EventSchema.correlationId.valid (.str env.definition.exercise_id) = true
  run_id : EventSchema.correlationId.valid (.str c.run_id) = true

theorem length_pos_of_ne {s : String} (h : s ≠ "") : 1 ≤ s.length := by
  rw [Nat.one_le_iff_ne_zero, Ne, String.length_eq_zero_iff]
  exact h

theorem phase_valid (phase : Phase) : phase.value ∈ EventSchema.phases := by
  cases phase <;> decide

theorem visibility_valid (visibility : Visibility) :
    visibility.value ∈ EventSchema.visibilities := by
  cases visibility <;> decide

section Notices

variable {env} {n : Notice} {c : ScenarioController W}

theorem nextSequence_pos (hsound : env.SoundSources) (b : EventBuilder) (w : W) :
    0 < (EventBuilder.nextSequence env.sources b w).1 := by
  unfold EventBuilder.nextSequence
  cases hfactory : env.sources.sequence_factory with
  | none => exact Nat.succ_pos _
  | some factory => exact hsound.sequence factory hfactory w

/-- The schema accepts the event of a notice exactly when its arguments are acceptable. -/
theorem valid_eventOf_iff (hsound : env.SoundSources) (n : Notice) (c : ScenarioController W) :
    (eventSchema env.formats).valid (env.eventOf n c).toJson = true ↔
      ∃ event_id timestamp, (env.callOf n c).Accepted env.formats c.events.context
        event_id timestamp := by
  have hseq := nextSequence_pos hsound c.events c.world
  unfold eventOf
  rw [eventSchema_valid_iff, EventCall.assemble_wellFormed_iff _ _ _ hseq]
  constructor
  · exact fun h => ⟨_, _, h⟩
  · rintro ⟨event_id, timestamp, h⟩
    exact { h with
      event_id := hsound.event_id _
      timestamp := ⟨hsound.clock _, endsWithZ_isoformat _⟩ }

theorem item_id_length_pos (item : ScenarioItem) : 1 ≤ item.item_id.length := by
  refine length_pos_of_ne fun h => ?_
  have hvalid := item.item_id_valid
  rw [h] at hvalid
  exact absurd hvalid (by decide)

theorem actor_valid {actor_role : String} (h : 1 ≤ actor_role.length ∧ actor_role.length ≤ 128) :
    EventSchema.entity.valid (.obj (entity "system" actor_role none (some actor_role))) = true := by
  rw [entity_valid]
  refine ⟨by decide, ⟨h.1, by omega⟩, fun _ hn => (nomatch hn), fun r hr => ?_⟩
  obtain ⟨heq, -⟩ := truthy_eq_some.mp hr
  injection heq with heq
  exact heq ▸ h

theorem item_target_valid {item : ScenarioItem}
    (h : item.item_id.length ≤ 256 ∧ item.title.length ≤ 256) :
    EventSchema.entity.valid
      (.obj (entity "msel_item" item.item_id (some item.title) none)) = true := by
  rw [entity_valid]
  refine ⟨by decide, ⟨item_id_length_pos item, h.1⟩, fun name hname => ?_,
    fun _ hn => (nomatch hn)⟩
  obtain ⟨heq, hne⟩ := truthy_eq_some.mp hname
  injection heq with heq
  exact ⟨length_pos_of_ne hne, heq ▸ h.2⟩

theorem run_target_valid {run_id : String}
    (h : EventSchema.correlationId.valid (.str run_id) = true) :
    EventSchema.entity.valid (.obj (entity "scenario_run" run_id none none)) = true := by
  obtain ⟨hlo, hhi, -⟩ := (EventSchema.correlationId_valid _).mp h
  rw [entity_valid]
  exact ⟨by decide, ⟨hlo, by omega⟩, fun _ hn => (nomatch hn), fun _ hn => (nomatch hn)⟩

/-- The event of a notice within the schema conforms in a run with valid fields. -/
theorem conforms_of_fits (hsound : env.SoundSources) (hrun : env.RunFits c) (hn : n.Fits) :
    env.Conforms n c := by
  have hsource : EventSchema.source.valid (.obj [("kind", .str "controller"),
      ("component", .str "scenario-controller")]) = true := by decide
  have hprovenance : (EventSchema.provenance env.formats).valid (.obj
      [("producer", .str "scenario-controller"),
        ("producer_version", .str env.producer_version)]) = true := by
    unfold EventSchema.provenance
    rw [Schema.valid_closedObject]
    simp [List.lookup_cons, Schema.valid_text, patternString_valid, hsound.producer_version]
    decide
  have hvalid : (eventSchema env.formats).valid (env.eventOf n c).toJson = true := by
    rw [valid_eventOf_iff hsound, hrun.context]
    refine ⟨_, _, {
      event_id := hsound.event_id c.world
      timestamp := ⟨hsound.clock c.world, endsWithZ_isoformat _⟩
      exercise_id := hrun.exercise_id
      run_id := hrun.run_id
      event_type := hn.event_type
      phase := ?_
      source := hsource
      actor := actor_valid hn.actor_role
      action := hn.action
      target := ?_
      outcome := (EventCall.outcome_valid _).mpr ⟨hn.status, fun _ h => (by cases h)⟩
      severity := show "info" ∈ EventSchema.severities by decide
      visibility := ?_
      safety_controls := show ∀ control ∈
        ["reviewed-msel", "allowlisted-actions", "fail-safe-stop"],
        1 ≤ control.length ∧ control.length ≤ 128 by decide
      provenance := hprovenance
      message := hn.message
      objective_ids := ?_
      checkpoint_id := ?_
      correlation_ids := fun _ h => absurd h List.not_mem_nil
      raw_data_ref := fun _ h => by cases h
      extensions := fun _ h => absurd h List.not_mem_nil
      attack := fun _ h => by cases h }⟩
    -- What depends on the item: its phase, its target, its visibility and its objectives.
    · unfold callOf emitCall
      cases n.item with
      | none =>
          show "control" ∈ EventSchema.phases
          decide
      | some item => exact phase_valid item.phase
    · unfold callOf emitCall
      cases hitem : n.item with
      | none =>
          rintro target ⟨⟩
          exact run_target_valid hrun.run_id
      | some item =>
          rintro target ⟨⟩
          exact item_target_valid (hn.item item hitem)
    · unfold callOf emitCall
      cases n.item with
      | none =>
          show "facilitator" ∈ EventSchema.visibilities
          decide
      | some item => exact visibility_valid item.visibility
    · unfold callOf emitCall
      cases n.item with
      | none => exact fun _ h => absurd h List.not_mem_nil
      | some item =>
          exact fun o ho => Pattern.search_of_accepts (item.objective_ids_valid o ho)
    · unfold callOf emitCall
      cases n.item with
      | none => exact fun _ h => by cases h
      | some item =>
          exact fun id hid => Pattern.search_of_accepts (item.checkpoint_id_valid id hid)
  exact ⟨hvalid, fun e s h => EventBuilder.build_error_of_valid env.formats env.sources hvalid h⟩

/-- A conforming event has valid correlation fields, a valid action and a valid message, and the
target of an item is within the bounds. -/
theorem fits_of_conforms (hsound : env.SoundSources) (h : env.Conforms n c) :
    EventSchema.correlationId.valid (.str c.events.context.exercise_id) = true ∧
      EventSchema.correlationId.valid (.str c.events.context.run_id) = true ∧
      EventSchema.eventName.valid (.str n.action) = true ∧ n.message.length ≤ 2048 ∧
      ∀ item, n.item = some item → item.item_id.length ≤ 256 ∧ item.title.length ≤ 256 := by
  obtain ⟨event_id, timestamp, haccepted⟩ := (valid_eventOf_iff hsound n c).mp h.valid
  refine ⟨haccepted.exercise_id, haccepted.run_id, haccepted.action, haccepted.message.2,
    fun item hitem => ?_⟩
  have htarget : (env.callOf n c).target =
      some (entity "msel_item" item.item_id (some item.title) none) := by
    unfold callOf emitCall
    rw [hitem]
  have hentity := haccepted.target _ htarget
  rw [entity_valid] at hentity
  obtain ⟨-, hid, htitle, -⟩ := hentity
  refine ⟨hid.2, ?_⟩
  by_cases hempty : item.title = ""
  · rw [hempty]
    decide
  · exact (htitle item.title (truthy_eq_some.mpr ⟨rfl, hempty⟩)).2

end Notices

/-! ## The notices of the controller -/

theorem length_readyNotice (item : ScenarioItem) :
    (readyNotice item).message.length = item.item_id.length + 34 := by
  show (item.item_id ++ " is ready for facilitator delivery").length = _
  rw [String.length_append]
  rfl

theorem length_skippedNotice (item : ScenarioItem) (item_id reason : String) :
    (skippedNotice item item_id reason).message.length =
      item_id.length + 10 + (strip reason).length := by
  show (item_id ++ " skipped: " ++ strip reason).length = _
  rw [String.length_append, String.length_append]
  rfl

theorem length_failedNotice (item : ScenarioItem) (reason : String)
    (data : List (String × Json)) :
    (failedNotice item reason data).message.length = item.item_id.length + 9 + reason.length := by
  show (item.item_id ++ " failed: " ++ reason).length = _
  rw [String.length_append, String.length_append]
  rfl

theorem length_resolvedNotice (item : ScenarioItem) (checkpoint_id : String) (passed : Bool)
    (evidence_ids : List String) (reason : String) (checks : Option Json) :
    (resolvedNotice item checkpoint_id passed evidence_ids reason checks).message.length =
      checkpoint_id.length + 16 + (strip reason).length := by
  show (checkpoint_id ++ " result: " ++ (resultOf passed).value ++ " — " ++
    strip reason).length = _
  simp only [String.length_append]
  cases passed <;> rfl

theorem length_stoppedNotice (reason : String) :
    (stoppedNotice reason).message.length = 16 + (strip reason).length := by
  show ("Fail-safe stop: " ++ strip reason).length = _
  rw [String.length_append]
  rfl

theorem length_started (name : String) : s!"Started {name}".length = 8 + name.length := by
  show ("Started " ++ name).length = _
  rw [String.length_append]
  rfl

theorem length_opposite (checkpoint_id : String) :
    s!"opposite {checkpoint_id} branch selected".length = checkpoint_id.length + 25 := by
  show ("opposite " ++ checkpoint_id ++ " branch selected").length = _
  rw [String.length_append, String.length_append, Nat.add_comm "opposite ".length, Nat.add_assoc]
  rfl

theorem length_unlisted (action_id : String) :
    s!"no allowlisted handler for {action_id}".length = 27 + action_id.length := by
  show ("no allowlisted handler for " ++ action_id).length = _
  rw [String.length_append]
  rfl

/-- The actor of a controller's notice. -/
theorem roleFits_of_mem {actor_role : String} (h : actor_role ∈ ["controller", "facilitator"]) :
    1 ≤ actor_role.length ∧ actor_role.length ≤ 128 := by
  revert actor_role
  decide

section NoticeFits

variable {item : ScenarioItem} {env}

/-- The bounds of the item behind a notice. -/
theorem itemFits (hfits : env.definition.Fits) (hitem : item ∈ env.definition.items) :
    ∀ item', some item = some item' → item'.item_id.length ≤ 256 ∧ item'.title.length ≤ 256 := by
  rintro item' ⟨⟩
  exact ⟨hfits.item_id item hitem, hfits.title item hitem⟩

/-- The action of a delivery, which is the item's own or the controller's. -/
theorem actionFits (hfits : env.definition.Fits) (hitem : item ∈ env.definition.items) :
    EventSchema.eventName.valid (.str (item.action_id.getD "scenario.deliver")) = true := by
  cases haction : item.action_id with
  | none => decide
  | some action_id =>
      have hvalid := item.action_id_valid action_id haction
      rw [Option.getD_some, EventSchema.eventName_valid]
      refine ⟨length_pos_of_ne fun h => ?_, hfits.action_id item hitem action_id haction,
        Pattern.search_of_accepts hvalid⟩
      rw [h] at hvalid
      exact absurd hvalid (by decide)

theorem fits_intro {event_type action message status actor_role : String}
    {item : Option ScenarioItem} {data : List (String × Json)}
    (htype : EventSchema.eventName.valid (.str event_type) = true)
    (haction : EventSchema.eventName.valid (.str action) = true)
    (hstatus : status ∈ EventSchema.outcomeStatuses)
    (hrole : actor_role ∈ ["controller", "facilitator"])
    (hitem : ∀ item', item = some item' → item'.item_id.length ≤ 256 ∧ item'.title.length ≤ 256)
    (hmessage : 1 ≤ message.length ∧ message.length ≤ 2048) :
    Notice.Fits ⟨event_type, action, message, status, item, actor_role, data⟩ :=
  ⟨htype, haction, hstatus, roleFits_of_mem hrole, hitem, hmessage⟩

theorem readyNotice_fits (hfits : env.definition.Fits) (hitem : item ∈ env.definition.items) :
    (readyNotice item).Fits := by
  refine fits_intro (by decide) (by decide) (by decide) (by decide) (itemFits hfits hitem) ?_
  have hid := hfits.item_id item hitem
  show 1 ≤ (readyNotice item).message.length ∧ (readyNotice item).message.length ≤ 2048
  rw [length_readyNotice]
  omega

theorem skippedNotice_fits (hfits : env.definition.Fits) (hitem : item ∈ env.definition.items)
    {reason : String} (hreason : reason.length ≤ 1024) :
    (skippedNotice item item.item_id reason).Fits := by
  refine fits_intro (by decide) (by decide) (by decide) (by decide) (itemFits hfits hitem) ?_
  have hid := hfits.item_id item hitem
  have hstrip := length_strip_le reason
  show 1 ≤ (skippedNotice item item.item_id reason).message.length ∧
    (skippedNotice item item.item_id reason).message.length ≤ 2048
  rw [length_skippedNotice]
  omega

theorem failedNotice_fits (hfits : env.definition.Fits) (hitem : item ∈ env.definition.items)
    {reason : String} (hreason : reason.length ≤ 1024) (data : List (String × Json)) :
    (failedNotice item reason data).Fits := by
  refine fits_intro (by decide) (actionFits hfits hitem) (by decide) (by decide)
    (itemFits hfits hitem) ?_
  have hid := hfits.item_id item hitem
  show 1 ≤ (failedNotice item reason data).message.length ∧
    (failedNotice item reason data).message.length ≤ 2048
  rw [length_failedNotice]
  omega

theorem deliveredNotice_fits (hfits : env.definition.Fits) (hitem : item ∈ env.definition.items)
    {actor_role message : String} (hrole : actor_role ∈ ["controller", "facilitator"])
    (hmessage : 1 ≤ message.length ∧ message.length ≤ 2048) (data : List (String × Json)) :
    (deliveredNotice item actor_role message data).Fits :=
  fits_intro (by decide) (actionFits hfits hitem) (by decide) hrole (itemFits hfits hitem) hmessage

theorem resolvedNotice_fits (hfits : env.definition.Fits) (hitem : item ∈ env.definition.items)
    (passed : Bool) (evidence_ids : List String) {reason : String}
    (hreason : reason.length ≤ 1024) (checks : Option Json) :
    (resolvedNotice item item.item_id passed evidence_ids reason checks).Fits := by
  refine fits_intro (by decide) (by decide) (by cases passed <;> decide) (by decide)
    (itemFits hfits hitem) ?_
  have hid := hfits.item_id item hitem
  have hstrip := length_strip_le reason
  show 1 ≤ (resolvedNotice item item.item_id passed evidence_ids reason checks).message.length ∧
    (resolvedNotice item item.item_id passed evidence_ids reason checks).message.length ≤ 2048
  rw [length_resolvedNotice]
  omega

theorem stoppedNotice_fits {reason : String} (hreason : reason.length ≤ 1024) :
    (stoppedNotice reason).Fits := by
  refine fits_intro (by decide) (by decide) (by decide) (by decide) (fun _ h => nomatch h) ?_
  have hstrip := length_strip_le reason
  show 1 ≤ (stoppedNotice reason).message.length ∧
    (stoppedNotice reason).message.length ≤ 2048
  rw [length_stoppedNotice]
  omega

theorem resetNotice_fits (previous_run_id : String) : (resetNotice previous_run_id).Fits :=
  fits_intro (by decide) (by decide) (by decide) (by decide) (fun _ h => nomatch h) (by decide)

theorem runNotice_fits {event_type action message : String}
    (htype : EventSchema.eventName.valid (.str event_type) = true)
    (haction : EventSchema.eventName.valid (.str action) = true)
    (hmessage : 1 ≤ message.length ∧ message.length ≤ 2048) :
    (runNotice event_type action message).Fits :=
  fits_intro htype haction (by decide) (by decide) (fun _ h => nomatch h) hmessage

end NoticeFits

/-! ## The source of the events -/

/-- The id of the run and the context of its builder stay. -/
structure SameSource (c c' : ScenarioController W) : Prop where
  run_id : c'.run_id = c.run_id
  context : c'.events.context = c.events.context

instance : Std.Refl (SameSource (W := W)) := ⟨fun _ => ⟨rfl, rfl⟩⟩

instance : IsTrans (ScenarioController W) SameSource :=
  ⟨fun _ _ _ h h' => ⟨h'.run_id.trans h.run_id, h'.context.trans h.context⟩⟩

theorem RunFits.of_sameSource {env : Controller W} {c c' : ScenarioController W}
    (h : env.RunFits c) (hsame : SameSource c c') : env.RunFits c' := by
  refine ⟨?_, h.exercise_id, ?_⟩
  · rw [hsame.context, hsame.run_id]
    exact h.context
  · rw [hsame.run_id]
    exact h.run_id

theorem sameSource_notify (n : Notice) : (env.notify n).Keeps SameSource := by
  intro c
  by_cases h : env.Written n c
  · obtain ⟨c', heq, hhanded⟩ := env.notify_of_written h
    rw [heq]
    exact ⟨hhanded.run.run_id, hhanded.context⟩
  · obtain ⟨e, c', heq, hsame, hcontext, -⟩ := env.notify_of_not_written h
    rw [heq]
    exact ⟨hsame.run_id, hcontext⟩

theorem sameSource_write (change : ScenarioController W → ScenarioController W) (n : Notice)
    (h : ∀ c, SameSource c (change c)) : (env.write change n).Keeps SameSource :=
  Raising.Keeps.bind (Raising.Keeps.modify h) fun _ => env.sameSource_notify n

theorem sameSource_requireState (allowed : List RunState) :
    (requireState allowed : Py (ScenarioController W) Unit).Keeps SameSource :=
  Raising.Keeps.require _ _

theorem sameSource_failSafeStop (reason : String) :
    (env.failSafeStop reason).Keeps SameSource := by
  refine Raising.Keeps.bind (sameSource_requireState _) fun _ => ?_
  refine Raising.Keeps.bind (Raising.Keeps.require _ _) fun _ => ?_
  exact env.sameSource_write (setState .stopped) (stoppedNotice reason) fun _ => ⟨rfl, rfl⟩

theorem sameSource_runHandler (code : HandlerCode W) :
    (env.runHandler code).Keeps SameSource := by
  induction code with
  | finish result => exact Raising.Keeps.pure _
  | raise e => exact Raising.Keeps.raise e
  | act effect next ih =>
      exact Raising.Keeps.bind (Raising.Keeps.step fun _ => ⟨rfl, rfl⟩) ih
  | inspect next ih => exact Raising.Keeps.bind (Raising.Keeps.gets _) ih
  | fail_safe_stop reason next ih =>
      exact Raising.Keeps.bind (Raising.Keeps.attempt (env.sameSource_failSafeStop reason)) ih

theorem sameSource_execute (item : ScenarioItem) : (env.execute item).Keeps SameSource := by
  unfold execute
  cases item.action_id with
  | none => exact Raising.Keeps.pure _
  | some action_id =>
      dsimp only
      cases env.handlers action_id with
      | none => exact Raising.Keeps.pure _
      | some handler =>
          refine Raising.Keeps.bind (Raising.Keeps.modify fun _ => ⟨rfl, rfl⟩) fun _ => ?_
          refine Raising.Keeps.bind (Raising.Keeps.gets _) fun run_id => ?_
          refine Raising.Keeps.bind (Raising.Keeps.attempt ?_) fun _ => Raising.Keeps.pure _
          exact env.sameSource_runHandler (handler item run_id)

theorem sameSource_deliverItem (item : ScenarioItem) (actor_role : String) :
    (env.deliverItem item actor_role).Keeps SameSource := by
  refine Raising.Keeps.bind (env.sameSource_execute item) fun outcome => ?_
  refine Raising.Keeps.bind (Raising.Keeps.modify fun _ => ⟨rfl, rfl⟩) fun _ => ?_
  match outcome with
  | .ok (message, data) =>
      dsimp only
      rw [completeItem_eq]
      refine Raising.Keeps.bind (env.sameSource_write _ _ fun _ => ⟨rfl, rfl⟩) fun _ => ?_
      refine Raising.Keeps.modify fun c => ?_
      unfold settle
      split_ifs <;> exact ⟨rfl, rfl⟩
  | .error (reason, data) =>
      dsimp only
      rw [failItem_eq]
      exact env.sameSource_write _ _ fun _ => ⟨rfl, rfl⟩

theorem sameSource_makeDue (item : ScenarioItem) : (env.makeDue item).Keeps SameSource := by
  refine Raising.Keeps.bind (Raising.Keeps.gets _) fun status => ?_
  split_ifs
  · exact Raising.Keeps.pure _
  · rw [readyItem_eq]
    exact env.sameSource_write _ _ fun _ => ⟨rfl, rfl⟩
  · exact env.sameSource_deliverItem item "controller"

theorem sameSource_advanceClock (elapsed_seconds : Int) :
    (env.advanceClock elapsed_seconds).Keeps SameSource := by
  refine Raising.Keeps.bind (Raising.Keeps.modify fun _ => ⟨rfl, rfl⟩) fun _ => ?_
  refine Raising.Keeps.forEach fun observer _ => ?_
  exact Raising.Keeps.bind (Raising.Keeps.step fun _ => ⟨rfl, rfl⟩) fun r =>
    Raising.Keeps.ofExcept r

theorem sameSource_advanceItem (item : ScenarioItem) : (env.advanceItem item).Keeps SameSource :=
  Raising.Keeps.bind (env.sameSource_advanceClock _) fun _ => env.sameSource_makeDue item

theorem sameSource_advanceTo (elapsed_seconds : Int) :
    (env.advanceTo elapsed_seconds).Keeps SameSource := by
  refine Raising.Keeps.bind (sameSource_requireState _) fun _ => ?_
  refine Raising.Keeps.bind (Raising.Keeps.require _ _) fun _ => ?_
  refine Raising.Keeps.bind (Raising.Keeps.gets _) fun due => ?_
  refine Raising.Keeps.bind (Raising.Keeps.forEach fun item _ => ?_) fun _ => ?_
  · exact env.sameSource_advanceItem item
  · exact env.sameSource_advanceClock elapsed_seconds

theorem sameSource_changeState (before after : RunState) (event_type action message : String) :
    (env.changeState before after event_type action message).Keeps SameSource :=
  Raising.Keeps.bind (sameSource_requireState _) fun _ =>
    env.sameSource_write (setState after) (runNotice event_type action message) fun _ => ⟨rfl, rfl⟩

theorem sameSource_deliver (item_id : String) : (env.deliver item_id).Keeps SameSource := by
  refine Raising.Keeps.bind (sameSource_requireState _) fun _ => ?_
  refine Raising.Keeps.bind (Raising.Keeps.ofExcept _) fun item => ?_
  refine Raising.Keeps.bind (Raising.Keeps.require _ _) fun _ => ?_
  exact env.sameSource_deliverItem item "facilitator"

theorem sameSource_skip (item_id reason : String) : (env.skip item_id reason).Keeps SameSource := by
  refine Raising.Keeps.bind (sameSource_requireState _) fun _ => ?_
  refine Raising.Keeps.bind (Raising.Keeps.require _ _) fun _ => ?_
  refine Raising.Keeps.bind (Raising.Keeps.ofExcept _) fun item => ?_
  refine Raising.Keeps.bind (Raising.Keeps.require _ _) fun _ => ?_
  exact env.sameSource_write (makeSkipped item_id reason) (skippedNotice item item_id reason)
    fun _ => ⟨rfl, rfl⟩

theorem sameSource_resolveBranch (checkpoint_id : String) (result : CheckpointOutcome)
    (branch : ScenarioItem) : (env.resolveBranch checkpoint_id result branch).Keeps SameSource := by
  refine Raising.Keeps.bind (Raising.Keeps.gets _) fun state => ?_
  split_ifs
  · exact Raising.Keeps.pure _
  · exact env.sameSource_makeDue branch
  · exact env.sameSource_skip branch.item_id _

theorem sameSource_recordResolution (item : ScenarioItem) (checkpoint_id : String) (passed : Bool)
    (evidence_ids : List String) (reason : String) (checks : Option Json) :
    (env.recordResolution item checkpoint_id passed evidence_ids reason checks).Keeps SameSource :=
  env.sameSource_write _ _ fun _ => ⟨rfl, rfl⟩

theorem sameSource_resolveCheckpoint (checkpoint_id : String) (passed : Bool)
    (evidence_ids : List String) (reason : String) (checks : Option Json) :
    (env.resolveCheckpoint checkpoint_id passed evidence_ids reason checks).Keeps SameSource := by
  intro c
  by_cases hcan : ∃ item, env.CanResolve checkpoint_id reason checks item c
  · obtain ⟨item, hcan⟩ := hcan
    rw [env.resolveCheckpoint_accepted hcan passed evidence_ids]
    have hloop : (Raising.forEach (env.resolveBranch checkpoint_id (resultOf passed))
        (env.branches checkpoint_id)).Keeps SameSource :=
      Raising.Keeps.forEach fun branch _ =>
        env.sameSource_resolveBranch checkpoint_id (resultOf passed) branch
    have hrecord :=
      env.sameSource_recordResolution item checkpoint_id passed evidence_ids reason checks
    exact Raising.Keeps.bind hrecord (fun _ => hloop) c
  · obtain ⟨e, heq, -⟩ := env.resolveCheckpoint_refused (not_exists.mp hcan) passed evidence_ids
    rw [heq]
    exact ⟨rfl, rfl⟩

/-- Every operation but a reset keeps the source of the events. -/
theorem sameSource_call (op : Operation) (h : ∀ new_run_id, op ≠ .reset new_run_id) :
    (env.call op).Keeps SameSource := by
  cases op with
  | prepare =>
      exact Raising.Keeps.bind (sameSource_requireState _) fun _ =>
        Raising.Keeps.forEach fun item _ => env.sameSource_makeDue item
  | start =>
      exact Raising.Keeps.bind (env.sameSource_changeState _ _ _ _ _) fun _ =>
        env.sameSource_advanceTo 0
  | pause => exact env.sameSource_changeState _ _ _ _ _
  | resume => exact env.sameSource_changeState _ _ _ _ _
  | advance_to elapsed_seconds => exact env.sameSource_advanceTo elapsed_seconds
  | deliver item_id => exact env.sameSource_deliver item_id
  | skip item_id reason => exact env.sameSource_skip item_id reason
  | resolve_checkpoint checkpoint_id passed evidence_ids reason checks =>
      exact env.sameSource_resolveCheckpoint checkpoint_id passed evidence_ids reason checks
  | fail_safe_stop reason => exact env.sameSource_failSafeStop reason
  | reset new_run_id => exact absurd rfl (h new_run_id)

/-! ## Conforming operations -/

/-- A brief handler returns its success. -/
theorem runHandler_brief (code : HandlerCode W) :
    code.Brief → ∀ c, ∃ message data c',
      env.runHandler code c = (.ok (.automation ⟨true, message, data⟩), c') ∧
        1 ≤ message.length ∧ message.length ≤ 2048 := by
  induction code with
  | finish result =>
      rintro ⟨message, data, rfl, hmessage⟩ c
      exact ⟨message, data, c, rfl, hmessage⟩
  | raise e => exact fun h => h.elim
  | act effect next ih =>
      exact fun h c => ih _ (h (effect c.world)) { c with world := effect c.world }
  | inspect next ih => exact fun h c => ih _ (h c.view) c
  | fail_safe_stop reason next ih =>
      exact fun h c => ih _ (h.2 (env.failSafeStop reason c).1) (env.failSafeStop reason c).2

/-- What a delivery makes of an item under brief handlers. -/
inductive Executed (item : ScenarioItem) :
    Except (String × List (String × Json)) (String × List (String × Json)) → Prop
  | summary (h : item.action_id = none) : Executed item (.ok (item.summary, []))
  | unlisted (action_id : String) (h : item.action_id = some action_id) :
      Executed item (.error (s!"no allowlisted handler for {action_id}", []))
  | success (message : String) (data : List (String × Json)) (haction : item.action_id ≠ none)
      (h : 1 ≤ message.length ∧ message.length ≤ 2048) : Executed item (.ok (message, data))

theorem executed_of_brief (hhandlers : env.BriefHandlers) (item : ScenarioItem)
    (c : ScenarioController W) :
    ∃ outcome c', env.execute item c = (.ok outcome, c') ∧ Executed item outcome := by
  unfold execute
  cases haction : item.action_id with
  | none => exact ⟨_, c, rfl, .summary haction⟩
  | some action_id =>
      dsimp only
      cases hhandler : env.handlers action_id with
      | none => exact ⟨_, c, rfl, .unlisted action_id haction⟩
      | some handler =>
          obtain ⟨message, data, c', hcode, hmessage⟩ := env.runHandler_brief
            (handler item c.run_id) (hhandlers action_id handler hhandler item c.run_id)
            (note (.handlerInvoked item.item_id) c)
          have hsome : item.action_id ≠ none := by
            rw [haction]
            exact Option.some_ne_none action_id
          refine ⟨.ok (message, data), c', ?_, .success message data hsome hmessage⟩
          have hattempt : Raising.attempt (env.runHandler (handler item c.run_id))
              (note (.handlerInvoked item.item_id) c) =
                (.ok (.ok (.automation ⟨true, message, data⟩)), c') := by
            rw [Raising.attempt_apply, hcode]
          dsimp only
          rw [Raising.modify_bind_apply, Raising.gets_bind_apply]
          exact Raising.bind_of_ok hattempt

section Conforming

variable {env} {c : ScenarioController W}

/-- The summaries of the items are not empty. -/
def Summarised (definition : ScenarioDefinition) : Prop :=
  ∀ item ∈ definition.items, 1 ≤ item.summary.length

theorem conforms_stop (hsound : env.SoundSources) {reason : String} (hreason : reason.length ≤ 1024)
    (hrun : env.RunFits c) : StopMeets env.Conforms reason c :=
  fun _ => conforms_of_fits hsound (hrun.of_sameSource ⟨rfl, rfl⟩) (stoppedNotice_fits hreason)

theorem stopsConform_of_brief (hsound : env.SoundSources) (code : HandlerCode W) :
    code.Brief → ∀ c, env.RunFits c → env.StopsConform code c := by
  induction code with
  | finish result => exact fun _ _ _ => trivial
  | raise e => exact fun _ _ _ => trivial
  | act effect next ih => exact fun h c hrun => ih _ (h _) _ (hrun.of_sameSource ⟨rfl, rfl⟩)
  | inspect next ih => exact fun h c hrun => ih _ (h _) c hrun
  | fail_safe_stop reason next ih =>
      intro h c hrun
      refine ⟨conforms_stop hsound h.1 hrun, ih _ (h.2 _) _ ?_⟩
      exact hrun.of_sameSource (env.sameSource_failSafeStop reason c)

variable (hsound : env.SoundSources) (hhandlers : env.BriefHandlers)
  (hfits : env.definition.Fits) (hsummary : Summarised env.definition)
include hsound hfits

theorem skip_conforms {item_id reason : String} (hreason : reason.length ≤ 1024)
    (hrun : env.RunFits c) : env.SkipMeets env.Conforms item_id reason c := by
  intro item _ hfind
  obtain ⟨rfl, hitem⟩ := env.find_eq_ok hfind
  exact conforms_of_fits hsound (hrun.of_sameSource ⟨rfl, rfl⟩)
    (skippedNotice_fits hfits hitem hreason)

include hhandlers hsummary

/-- The outcome of a delivery conforms, for what the handler makes of the item. -/
theorem outcome_conforms {item : ScenarioItem} (hitem : item ∈ env.definition.items)
    {actor_role : String} (hrole : actor_role ∈ ["controller", "facilitator"])
    (hrun : env.RunFits c) : env.DeliveryMeets env.Conforms item actor_role c := by
  have hdelivered : ∀ (message : String) (data : List (String × Json)) {c'}, env.RunFits c' →
      1 ≤ message.length ∧ message.length ≤ 2048 →
        OutcomeMeets env.Conforms item actor_role (note (.processed item actor_role) c')
          (.ok (message, data)) := fun message data _ hrun' hmessage =>
    conforms_of_fits hsound (hrun'.of_sameSource ⟨rfl, rfl⟩)
      (deliveredNotice_fits hfits hitem hrole hmessage data)
  obtain ⟨outcome, c', heq, hexecuted⟩ := env.executed_of_brief hhandlers item c
  have hsame := env.sameSource_execute item c
  rw [heq] at hsame
  have hrun' := hrun.of_sameSource hsame
  rw [env.deliveryMeets_iff _ actor_role heq]
  cases hexecuted with
  | summary haction =>
      exact hdelivered _ _ hrun' ⟨hsummary item hitem, hfits.summary item hitem haction⟩
  | unlisted action_id haction =>
      have hreason : s!"no allowlisted handler for {action_id}".length ≤ 1024 := by
        have hlength := hfits.action_id item hitem action_id haction
        rw [length_unlisted]
        omega
      exact conforms_of_fits hsound (hrun'.of_sameSource ⟨rfl, rfl⟩)
        (failedNotice_fits hfits hitem hreason [])
  | success message data _ hmessage => exact hdelivered message data hrun' hmessage

theorem delivery_conforms {item : ScenarioItem} (hitem : item ∈ env.definition.items)
    {actor_role : String} (hrole : actor_role ∈ ["controller", "facilitator"])
    (hrun : env.RunFits c) : env.DeliveryConforms item actor_role c where
  stops action_id handler _ hhandler :=
    stopsConform_of_brief hsound _ (hhandlers action_id handler hhandler item c.run_id) _
      (hrun.of_sameSource ⟨rfl, rfl⟩)
  outcome := outcome_conforms hsound hhandlers hfits hsummary hitem hrole hrun

theorem due_conforms {item : ScenarioItem} (hitem : item ∈ env.definition.items)
    (hrun : env.RunFits c) : DueMeets env.Conforms env.DeliveryConforms item c := by
  intro _
  split_ifs
  · exact conforms_of_fits hsound (hrun.of_sameSource ⟨rfl, rfl⟩) (readyNotice_fits hfits hitem)
  · exact delivery_conforms hsound hhandlers hfits hsummary hitem (by decide) hrun

theorem advance_conforms (elapsed_seconds : Int) (hrun : env.RunFits c) :
    env.AdvanceMeets env.Conforms env.DeliveryConforms elapsed_seconds c := by
  intro _ _
  refine Raising.LoopMeets.of_invariant (fun item hitem _ s hs => ⟨fun s' heq => ?_, ?_⟩) c hrun
  · have hsame := env.sameSource_advanceClock ((seconds item).getD 0) s
    rw [heq] at hsame
    exact due_conforms hsound hhandlers hfits hsummary (env.mem_items_of_due hitem)
      (hs.of_sameSource hsame)
  · exact hs.of_sameSource (env.sameSource_advanceItem item s)

theorem branch_conforms (checkpoint_id : String) (hid : checkpoint_id.length ≤ 256)
    (result : CheckpointOutcome) {branch : ScenarioItem} (hbranch : branch ∈ env.definition.items)
    (hrun : env.RunFits c) :
    env.BranchMeets env.Conforms env.DeliveryConforms checkpoint_id result branch c := by
  intro _
  have hreason : s!"opposite {checkpoint_id} branch selected".length ≤ 1024 := by
    rw [length_opposite]
    omega
  split_ifs
  · exact due_conforms hsound hhandlers hfits hsummary hbranch hrun
  · exact skip_conforms hsound hfits hreason hrun

theorem resolve_conforms (checkpoint_id : String) (passed : Bool) (evidence_ids : List String)
    {reason : String} (hreason : reason.length ≤ 1024) (checks : Option Json)
    (hrun : env.RunFits c) :
    env.ResolveMeets env.Conforms env.DeliveryConforms checkpoint_id passed evidence_ids reason
      checks c := by
  intro item hcan
  obtain ⟨rfl, hitem⟩ := env.find_eq_ok hcan.found
  refine ⟨conforms_of_fits hsound (hrun.of_sameSource ⟨rfl, rfl⟩)
    (resolvedNotice_fits hfits hitem passed evidence_ids hreason checks), fun u c' heq => ?_⟩
  have hsame := env.sameSource_recordResolution item item.item_id passed evidence_ids reason checks c
  rw [heq] at hsame
  refine Raising.LoopMeets.of_invariant (fun branch hbranch _ s hs => ⟨?_, ?_⟩) c'
    (hrun.of_sameSource hsame)
  · exact branch_conforms hsound hhandlers hfits hsummary item.item_id (hfits.item_id item hitem)
      (resultOf passed) (env.mem_branches.mp hbranch).1 hs
  · exact hs.of_sameSource (env.sameSource_resolveBranch item.item_id (resultOf passed) branch s)

omit hhandlers hfits hsummary in
theorem change_conforms {before after : RunState} {event_type action message : String}
    (htype : EventSchema.eventName.valid (.str event_type) = true)
    (haction : EventSchema.eventName.valid (.str action) = true)
    (hmessage : 1 ≤ message.length ∧ message.length ≤ 2048) (hrun : env.RunFits c) :
    ChangeMeets env.Conforms before after event_type action message c :=
  fun _ => conforms_of_fits hsound (hrun.of_sameSource ⟨rfl, rfl⟩)
    (runNotice_fits htype haction hmessage)

theorem start_conforms (hrun : env.RunFits c) :
    env.StartMeets env.Conforms env.DeliveryConforms c := by
  have hmessage : 1 ≤ s!"Started {env.definition.name}".length ∧
      s!"Started {env.definition.name}".length ≤ 2048 := by
    have hname := hfits.name
    rw [length_started]
    omega
  refine ⟨change_conforms hsound (by decide) (by decide) hmessage hrun, fun c' heq => ?_⟩
  have hsame := env.sameSource_changeState .ready .running "scenario.run.started" "scenario.start"
    s!"Started {env.definition.name}" c
  rw [show env.changeState .ready .running "scenario.run.started" "scenario.start"
    s!"Started {env.definition.name}" c = _ from heq] at hsame
  exact advance_conforms hsound hhandlers hfits hsummary 0 (hrun.of_sameSource hsame)

omit hhandlers hfits hsummary in
/-- The run after a reset has valid fields. -/
theorem runFits_renew {run_ids : String → Prop}
    (hids : ∀ run_id, run_ids run_id → EventSchema.correlationId.valid (.str run_id) = true)
    {new_run_id : Option String} (hop : (Operation.reset new_run_id).Within run_ids)
    (hrun : env.RunFits c) : env.RunFits (env.renew new_run_id c) := by
  refine ⟨rfl, hrun.exercise_id, ?_⟩
  show EventSchema.correlationId.valid (.str (env.newRun new_run_id c).1) = true
  unfold newRun
  cases hid : truthy new_run_id with
  | none => exact hsound.uuid4 c.world
  | some run_id => exact hids run_id (hop run_id hid)

/-- Every operation within the bounds conforms and leaves the fields of the run valid. -/
theorem call_conforms {run_ids : String → Prop}
    (hids : ∀ run_id, run_ids run_id → EventSchema.correlationId.valid (.str run_id) = true)
    {op : Operation} (hop : op.Within run_ids) (hrun : env.RunFits c) :
    env.ConformingStep op c ∧ env.RunFits (env.perform op c) := by
  by_cases hreset : ∀ new_run_id, op ≠ .reset new_run_id
  · refine ⟨?_, hrun.of_sameSource (env.sameSource_call op hreset c)⟩
    cases op with
    | prepare =>
        intro _
        exact Raising.LoopMeets.of_invariant (I := env.RunFits) (fun item hitem _ s hs =>
          ⟨due_conforms hsound hhandlers hfits hsummary (env.mem_items_of_preExercise hitem) hs,
            hs.of_sameSource (env.sameSource_makeDue item s)⟩) c hrun
    | start => exact start_conforms hsound hhandlers hfits hsummary hrun
    | pause => exact change_conforms hsound (by decide) (by decide) (by decide) hrun
    | resume => exact change_conforms hsound (by decide) (by decide) (by decide) hrun
    | advance_to elapsed_seconds =>
        exact advance_conforms hsound hhandlers hfits hsummary elapsed_seconds hrun
    | deliver item_id =>
        intro item _ hfind _
        exact delivery_conforms hsound hhandlers hfits hsummary (env.find_eq_ok hfind).2
          (by decide) hrun
    | skip item_id reason => exact skip_conforms hsound hfits hop hrun
    | resolve_checkpoint checkpoint_id passed evidence_ids reason checks =>
        exact resolve_conforms hsound hhandlers hfits hsummary checkpoint_id passed evidence_ids
          hop checks hrun
    | fail_safe_stop reason => exact conforms_stop hsound hop hrun
    | reset new_run_id => exact absurd rfl (hreset new_run_id)
  · obtain ⟨new_run_id, rfl⟩ : ∃ new_run_id, op = .reset new_run_id := by
      by_contra hnone
      exact hreset (not_exists.mp hnone)
    have hrenew := runFits_renew hsound hids hop hrun
    refine ⟨fun _ => conforms_of_fits hsound hrenew (resetNotice_fits c.run_id), ?_⟩
    by_cases hfinal : c.state ∈ [RunState.stopped, .completed]
    · have hsame := env.sameSource_notify (resetNotice c.run_id) (env.renew new_run_id c)
      show env.RunFits (env.reset new_run_id c).2
      rw [env.reset_eq_write new_run_id hfinal]
      exact hrenew.of_sameSource hsame
    · have hrefused : (env.reset new_run_id c).2 = c := by
        unfold reset
        rw [requireState_bind, if_neg hfinal]
      show env.RunFits (env.reset new_run_id c).2
      rw [hrefused]
      exact hrun

end Conforming

/-! ## What a conforming run shows -/

section Necessary

variable {env}

/-- The event of the start shows the exercise, the name and the id of the run. -/
theorem fits_of_start (hsound : env.SoundSources) {run_id : String} {w : W}
    (h : env.ConformingStep .start (env.init run_id w)) :
    env.definition.exercise_id.length ≤ 128 ∧ identifierPattern.search run_id = true ∧
      env.definition.name.length ≤ 2040 := by
  have hconforms := h.1 (List.mem_singleton.mpr rfl)
  obtain ⟨hexercise, hrun, -, hmessage, -⟩ := fits_of_conforms hsound hconforms
  have hname : s!"Started {env.definition.name}".length ≤ 2048 := hmessage
  rw [length_started] at hname
  exact ⟨((EventSchema.correlationId_valid _).mp hexercise).2.1,
    ((EventSchema.correlationId_valid _).mp hrun).2.2, by omega⟩

variable {item : ScenarioItem} (hitem : item ∈ env.definition.items)
include hitem

/-- The event of a skip shows the id and the title of the item. -/
theorem fits_of_skip (hsound : env.SoundSources) {reason : String} (hreason : ¬ Blank reason)
    {run_id : String} {w : W}
    (h : env.ConformingStep (.skip item.item_id reason) (env.init run_id w)) :
    item.item_id.length ≤ 256 ∧ item.title.length ≤ 256 := by
  have hfind := env.find_of_mem hitem
  have hcan : env.CanSkip item.item_id reason (env.init run_id w) :=
    ⟨List.mem_cons_self, hreason, ⟨item, hfind⟩, Or.inl rfl⟩
  obtain ⟨-, -, -, -, hbounds⟩ := fits_of_conforms hsound (h item hcan hfind)
  exact hbounds item rfl

/-- The event of a delivery shows the action of the item, or its summary. -/
theorem fits_of_deliver (hsound : env.SoundSources) (hhandlers : env.BriefHandlers)
    {run_id : String} {w : W}
    (h : env.ConformingStep (.deliver item.item_id) (env.init run_id w)) :
    (∀ a, item.action_id = some a → a.length ≤ 128) ∧
      (item.action_id = none → item.summary.length ≤ 2048) := by
  have hdelivery := (h item List.mem_cons_self (env.find_of_mem hitem) (Or.inl rfl)).outcome
  obtain ⟨outcome, c', heq, hexecuted⟩ :=
    env.executed_of_brief hhandlers item (env.init run_id w)
  rw [env.deliveryMeets_iff _ "facilitator" heq] at hdelivery
  have haction : EventSchema.eventName.valid
      (.str (item.action_id.getD "scenario.deliver")) = true := by
    match outcome, hdelivery with
    | .ok (message, data), hdelivery => exact (fits_of_conforms hsound hdelivery).2.2.1
    | .error (reason, data), hdelivery => exact (fits_of_conforms hsound hdelivery).2.2.1
  refine ⟨fun a ha => ?_, fun hnone => ?_⟩
  · rw [ha] at haction
    exact ((EventSchema.eventName_valid _).mp haction).2.1
  · cases hexecuted with
    | summary _ => exact (fits_of_conforms hsound hdelivery).2.2.2.1
    | unlisted action_id ha =>
        rw [hnone] at ha
        cases ha
    | success message data hsome _ => exact absurd hnone hsome

end Necessary

/-! ## Runs -/

/-- The runs of a loaded scenario, with brief handlers and with run ids and reasons of the lengths
that the schema allows, build only conforming events exactly when the definition is within the
bounds of the schema and the run ids have its pattern. -/
theorem conforms_iff_fits (hsound : env.SoundSources) (hhandlers : env.BriefHandlers)
    {value : Json} (hload : ScenarioDefinition.fromDict value = .ok env.definition)
    (run_ids : String → Prop) (hsome : ∃ run_id, run_ids run_id)
    (hlength : ∀ run_id, run_ids run_id → 1 ≤ run_id.length ∧ run_id.length ≤ 128) (w : W) :
    (∀ run_id, run_ids run_id → ∀ ops : List Operation, (∀ op ∈ ops, op.Within run_ids) →
        EachMeets env.perform env.ConformingStep ops (env.init run_id w)) ↔
      env.definition.Fits ∧
        ∀ run_id, run_ids run_id → identifierPattern.search run_id = true := by
  constructor
  · intro h
    have hone : ∀ run_id, run_ids run_id → ∀ op : Operation, op.Within run_ids →
        env.ConformingStep op (env.init run_id w) := fun run_id hid op hop =>
      (h run_id hid [op] fun op' hop' => (List.mem_singleton.mp hop') ▸ hop).1
    obtain ⟨run_id, hid⟩ := hsome
    obtain ⟨hexercise, -, hname⟩ := fits_of_start hsound (hone run_id hid .start trivial)
    have hx : "x".length ≤ 1024 := by decide
    have hskip := fun item (hitem : item ∈ env.definition.items) =>
      fits_of_skip hitem hsound (by decide) (hone run_id hid (.skip item.item_id "x") hx)
    have hdeliver := fun item (hitem : item ∈ env.definition.items) =>
      fits_of_deliver hitem hsound hhandlers (hone run_id hid (.deliver item.item_id) trivial)
    refine ⟨⟨hexercise, hname, fun item hitem => (hskip item hitem).1,
      fun item hitem => (hskip item hitem).2, fun item hitem => (hdeliver item hitem).1,
      fun item hitem => (hdeliver item hitem).2⟩, fun run_id' hid' => ?_⟩
    exact (fits_of_start hsound (hone run_id' hid' .start trivial)).2.1
  · rintro ⟨hfits, hpattern⟩ run_id hid ops hops
    have hids : ∀ run_id, run_ids run_id →
        EventSchema.correlationId.valid (.str run_id) = true := fun run_id hid =>
      (EventSchema.correlationId_valid _).mpr
        ⟨(hlength run_id hid).1, (hlength run_id hid).2, hpattern run_id hid⟩
    have hexercise : EventSchema.correlationId.valid (.str env.definition.exercise_id) = true := by
      have hvalid := env.definition.ids_valid.2
      refine (EventSchema.correlationId_valid _).mpr ⟨length_pos_of_ne fun hempty => ?_,
        hfits.exercise_id, Pattern.search_of_accepts hvalid⟩
      rw [hempty] at hvalid
      exact absurd hvalid (by decide)
    have hsummary : Summarised env.definition := fun item hitem =>
      length_pos_of_ne (ScenarioDefinition.fromDict_parsed value _ hload item hitem).summary
    refine EachMeets.of_invariant (I := env.RunFits) (fun op hop c hrun => ?_)
      ⟨rfl, hexercise, hids run_id hid⟩
    exact call_conforms hsound hhandlers hfits hsummary hids (hops op hop) hrun

theorem soundSources_sample (endDelivery : DeliveryMode) : (sample endDelivery).SoundSources where
  event_id := fun _ => rfl
  clock := fun _ => rfl
  sequence := fun _ h => nomatch h
  producer_version := show producerVersionPattern.search "1.0.0" = true by decide
  uuid4 := fun _ => show EventSchema.correlationId.valid
    (.str "6f1c0e0a-0000-4000-8000-000000000002") = true by decide

/-- The bounds of the small scenario decide about its runs. -/
theorem conforms_iff_fits_sample :
    (∀ run_id, run_id = "run-1" → ∀ ops : List Operation, (∀ op ∈ ops, op.Within (· = "run-1")) →
        EachMeets (sample .automatic).perform (sample .automatic).ConformingStep ops
          ((sample .automatic).init run_id ())) ↔
      (sampleScenario .automatic).Fits ∧
        ∀ run_id, run_id = "run-1" → identifierPattern.search run_id = true := by
  have hlength : ∀ run_id, run_id = "run-1" → 1 ≤ run_id.length ∧ run_id.length ≤ 128 := by
    rintro run_id rfl
    decide
  exact conforms_iff_fits (sample .automatic) (soundSources_sample .automatic)
    (fun _ _ h => nomatch h) fromDict_sampleValue (· = "run-1") ⟨"run-1", rfl⟩ hlength ()

/-- The JSON object of the overlong scenario. -/
def overlongValue : Json :=
  .obj [("schema_version", .str "1.0.0"), ("scenario_id", .str "sample"),
    ("exercise_id", .str "sample"), ("name", .str "Sample"),
    ("items", .arr [.obj [("id", .str "INJ-1"), ("kind", .str "inject"),
      ("title", .str overlongTitle), ("summary", .str "Summary"), ("phase", .str "control"),
      ("delivery", .str "automatic"), ("visibility", .str "facilitator"),
      ("trigger", .obj [("type", .str "elapsed"), ("seconds", .int 0)])]])]

theorem length_replicated (n : Nat) (c : Char) :
    (String.ofList (List.replicate n c)).length = n := by
  rw [String.length_ofList, List.length_replicate]

theorem length_overlongTitle : overlongTitle.length = 257 := length_replicated 257 't'

/-- The parser accepts a title of 257 characters, but no event of the item meets the schema. -/
theorem overlong_title_not_conforming :
    ScenarioDefinition.fromDict overlongValue = .ok overlong.definition ∧
      overlong.SoundSources ∧ overlong.BriefHandlers ∧
      ¬ EachMeets overlong.perform overlong.ConformingStep [.skip "INJ-1" "Not needed"]
        (overlong.init "run-1" ()) := by
  have hsound : overlong.SoundSources := { soundSources_sample .automatic with }
  refine ⟨by decide +kernel, hsound, fun _ _ h => (nomatch h), fun h => ?_⟩
  have hitem : overlongItem ∈ overlong.definition.items := List.mem_cons_self
  have hbounds := fits_of_skip hitem hsound (by decide : ¬ Blank "Not needed") h.1
  have htitle : overlongTitle.length ≤ 256 := hbounds.2
  rw [length_overlongTitle] at htitle
  omega

end Controller

end NetStrike.Orchestrator
