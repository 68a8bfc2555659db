import NetStrike.Orchestrator.Replay

/-!
# The event log determines the run

A run is `Determined` when the replay of its ledger is its board and the checkpoint path of the
report holds its results. Handlers are restricted as the log needs it: they do not call the
controller, and the data of their results leaves the controller's own keys alone (`Independent`).

Every write keeps `Determined` exactly when it is written (`noticeLaw_determined`), so a run is
determined throughout exactly when all its writes are (`determined_iff_audited`). An event that the
event contract refuses leaves a change without its event (`overlong_title_undetermined`).
-/

set_option autoImplicit false

namespace NetStrike.Orchestrator

open NetStrike.Foundation NetStrike.Shared

/-- The keys of event data that the controller itself writes. -/
def reservedKeys : List String := ["item_kind", "elapsed_seconds", "scenario_id", "result"]

/-- The handler does not call the controller, and its data uses no reserved key. -/
def HandlerCode.Independent {W : Type} : HandlerCode W → Prop
  | .finish (.automation result) => ∀ m ∈ result.data, m.1 ∉ reservedKeys
  | .finish .other => True
  | .raise _ => True
  | .act _ next => ∀ w, (next w).Independent
  | .inspect next => ∀ view, (next view).Independent
  | .fail_safe_stop _ _ => False

namespace Controller

variable {W : Type} (env : Controller W)

/-- Every handler is independent, for every item and run. -/
def HandlersIndependent : Prop :=
  ∀ action_id handler, env.handlers action_id = some handler →
    ∀ item run_id, (handler item run_id).Independent

/-- The ledger describes the run. -/
structure Determined (c : ScenarioController (Recorded W)) : Prop where
  board : replay endsByKind c.world.ledger = board c
  path : PathMatches (checkpointPath (currentRun c.world.ledger)) c.checkpoint_results

/-- An item that is still open has no result. -/
def ResultsClosed (c : ScenarioController W) : Prop :=
  ∀ id, (c.items id).status.Open → c.checkpoint_results id = none

/-! ## Independent handlers -/

/-- The data that a delivery ends with uses no reserved key. -/
def Unreserved :
    Except (String × List (String × Json)) (String × List (String × Json)) → Prop
  | .ok (_, data) => ∀ m ∈ data, m.1 ∉ reservedKeys
  | .error (_, data) => ∀ m ∈ data, m.1 ∉ reservedKeys

/-- An independent handler leaves state and ledger alone and returns unreserved data. -/
theorem independent_runHandler {code : HandlerCode W} (h : code.Independent) :
    ∀ c : ScenarioController (Recorded W),
      Unreserved (judge (env.recorded.runHandler code.recorded c).1) ∧
        (env.recorded.runHandler code.recorded c).2.state = c.state ∧
        SameLedger c (env.recorded.runHandler code.recorded c).2 := by
  induction code with
  | finish result =>
      intro c
      refine ⟨?_, rfl, rfl⟩
      show Unreserved (judge (.ok result))
      cases result with
      | automation result =>
          show Unreserved (if result.success then .ok (result.message, result.data)
            else .error (result.message, result.data))
          split_ifs
          · exact h
          · exact h
      | other => exact fun m hm => absurd hm List.not_mem_nil
  | raise e => exact fun c => ⟨fun m hm => absurd hm List.not_mem_nil, rfl, rfl⟩
  | act effect next ih =>
      intro c
      exact ih (effect c.world.world) (h (effect c.world.world))
        { c with world := { c.world with world := effect c.world.world } }
  | inspect next ih => exact fun c => ih _ (h _) c
  | fail_safe_stop reason next ih => exact h.elim

/-- With independent handlers the first part of a delivery changes nothing that the ledger
describes. -/
theorem execute_of_independent (hhandlers : env.HandlersIndependent) (item : ScenarioItem)
    (c : ScenarioController (Recorded W)) :
    ∃ outcome c', env.recorded.execute item c = (.ok outcome, c') ∧ SameBoard c c' ∧
      c'.state = c.state ∧ SameLedger c c' ∧ Unreserved outcome := by
  obtain ⟨outcome, c', heq, hboard, -, -⟩ := env.recorded.execute_spec item c
  refine ⟨outcome, c', heq, hboard, ?_⟩
  unfold execute at heq
  cases ha : item.action_id with
  | none =>
      rw [ha] at heq
      obtain ⟨rfl, rfl⟩ : (.ok (item.summary, [])) = outcome ∧ c = c' := by
        injection heq with h1 h2
        injection h1 with h1
        exact ⟨h1, h2⟩
      exact ⟨rfl, rfl, fun m hm => absurd hm List.not_mem_nil⟩
  | some action_id =>
      rw [ha] at heq
      cases hh : env.handlers action_id with
      | none =>
          simp only [recorded, hh, Option.map_none] at heq
          obtain ⟨rfl, rfl⟩ : _ = outcome ∧ c = c' := by
            injection heq with h1 h2
            injection h1 with h1
            exact ⟨h1, h2⟩
          exact ⟨rfl, rfl, fun m hm => absurd hm List.not_mem_nil⟩
      | some handler =>
          simp only [recorded, hh, Option.map_some] at heq
          obtain ⟨hdata, hstate, hledger⟩ := env.independent_runHandler
            (hhandlers action_id handler hh item c.run_id) (note (.handlerInvoked item.item_id) c)
          obtain ⟨rfl, rfl⟩ : judge (env.recorded.runHandler (handler item c.run_id).recorded
              (note (.handlerInvoked item.item_id) c)).1 = outcome ∧
              (env.recorded.runHandler (handler item c.run_id).recorded
                (note (.handlerInvoked item.item_id) c)).2 = c' := by
            injection heq with h1 h2
            injection h1 with h1
            exact ⟨h1, h2⟩
          exact ⟨hstate, hledger, hdata⟩

/-! ## What keeps the invariants -/

section Invariants

variable {c c' : ScenarioController (Recorded W)}

theorem ResultsClosed.of_same (h : ResultsClosed c) (hitems : c'.items = c.items)
    (hresults : c'.checkpoint_results = c.checkpoint_results) : ResultsClosed c' := by
  intro id hopen
  rw [hresults]
  exact h id (hitems ▸ hopen)

theorem ResultsClosed.setItem (h : ResultsClosed c) {id : String}
    (hopen : (c.items id).status.Open) (runtime : ItemRuntime) :
    ResultsClosed (setItem id runtime c) := by
  intro j hj
  by_cases hid : j = id
  · rw [hid]
    exact h id hopen
  · refine h j ?_
    have hsame : (Controller.setItem id runtime c).items j = c.items j :=
      Function.update_of_ne hid _ _
    rwa [hsame] at hj

theorem Determined.of_same (h : Determined c) (hboard : Controller.board c' = Controller.board c)
    (hledger : c'.world.ledger = c.world.ledger) : Determined c' := by
  have hresults : c'.checkpoint_results = c.checkpoint_results :=
    congrArg Board.checkpoint_results hboard
  constructor
  · rw [hledger, hboard]
    exact h.board
  · rw [hledger, hresults]
    exact h.path

/-- A change without its event is not determined. -/
theorem Determined.not_of_refused (h : Determined c)
    (hboard : Controller.board c' ≠ Controller.board c)
    (hledger : c'.world.ledger = c.world.ledger) : ¬ Determined c' := by
  intro h'
  have heq := h'.board
  rw [hledger, h.board] at heq
  exact hboard heq.symm

/-- A change with its event is determined, when the event has the effect of the change. -/
theorem Determined.of_written (h : Determined c) {event : Event}
    (hledger : c'.world.ledger = c.world.ledger ++ [event])
    (heffect : replayEvent endsByKind (Controller.board c) event = Controller.board c')
    (htype : event.event_type ∉ ["scenario.checkpoint.resolved", "scenario.run.reset"])
    (hresults : c'.checkpoint_results = c.checkpoint_results) : Determined c' := by
  have hresolved : event.event_type ≠ "scenario.checkpoint.resolved" :=
    fun heq => htype (heq ▸ List.mem_cons_self)
  have hreset : event.event_type ≠ "scenario.run.reset" :=
    fun heq => htype (heq ▸ List.mem_cons_of_mem _ List.mem_cons_self)
  have hentry : checkpointEntry event = none := if_neg hresolved
  constructor
  · rw [hledger, replay_append, h.board, heffect]
  · rw [hledger, currentRun_append, if_neg hreset, checkpointPath, List.filterMap_append,
      List.filterMap_cons, hentry, List.filterMap_nil, List.append_nil, hresults]
    exact h.path

end Invariants

/-! ## The board after a change -/

section Changes

variable {c c' : ScenarioController W}

theorem board_of_sameRun (h : SameRun c c') : board c' = board c := by
  unfold board
  rw [h.state, h.items, h.checkpoint_results]

theorem board_setItem (id : String) (runtime : ItemRuntime) (c : ScenarioController W) :
    board (setItem id runtime c) =
      { (board c).mark id runtime.status with
        delivered_at_seconds := Function.update (board c).delivered_at_seconds id
          runtime.delivered_at_seconds } := by
  refine Board.ext rfl ?_ ?_ rfl
  · exact Function.comp_update ItemRuntime.status c.items id runtime
  · exact Function.comp_update ItemRuntime.delivered_at_seconds c.items id runtime

/-- A runtime with the old time of delivery changes only the status. -/
theorem board_setItem_keep {id : String} {runtime : ItemRuntime}
    (h : runtime.delivered_at_seconds = (c.items id).delivered_at_seconds) :
    board (setItem id runtime c) = (board c).mark id runtime.status := by
  rw [board_setItem, h]
  refine Board.ext rfl rfl ?_ rfl
  exact Function.update_eq_self id (board c).delivered_at_seconds

theorem board_makeDelivered (item : ScenarioItem) (c : ScenarioController W) :
    board (makeDelivered item c) = (board c).deliver item.item_id (some c.elapsed_seconds) :=
  board_setItem _ _ c

theorem board_recordResult (checkpoint_id : String) (result : CheckpointOutcome)
    (c : ScenarioController W) :
    board (recordResult checkpoint_id result c) =
      ((board c).deliver checkpoint_id (some c.elapsed_seconds)).resolve checkpoint_id
        (some result) := by
  have hset := board_setItem checkpoint_id { c.items checkpoint_id with
    status := .delivered, delivered_at_seconds := some c.elapsed_seconds } c
  exact congrArg (Board.resolve checkpoint_id (some result)) hset

/-- A changed status shows on the board. -/
theorem board_ne_of_status (id : String) (h : (c'.items id).status ≠ (c.items id).status) :
    board c' ≠ board c :=
  fun heq => h (congrFun (congrArg Board.status heq) id)

theorem board_ne_of_state (h : c'.state ≠ c.state) : board c' ≠ board c :=
  fun heq => h (congrArg Board.state heq)

end Changes

/-! ## The single writes -/

section Writes

variable {c : ScenarioController (Recorded W)}

/-- The write of an item whose event marks its status. -/
theorem tracks_mark (hK : ResultsClosed c) (hI : Determined c) {item : ScenarioItem} (n : Notice)
    (change : ScenarioController (Recorded W) → ScenarioController (Recorded W))
    {runtime : ItemRuntime} (hchange : change c = setItem item.item_id runtime c)
    (hopen : (c.items item.item_id).status.Open)
    (hkeep : runtime.delivered_at_seconds = (c.items item.item_id).delivered_at_seconds)
    (hne : runtime.status ≠ (c.items item.item_id).status)
    (heffect : ∀ b, replayEvent endsByKind b (env.recorded.eventOf n (change c)) =
      b.mark item.item_id runtime.status)
    (htype : n.event_type ∉ ["scenario.checkpoint.resolved", "scenario.run.reset"]) :
    Raising.TracksAt ResultsClosed Determined (env.recorded.write change n) c
      (env.recorded.Written n (change c)) := by
  have hclosed : ResultsClosed (change c) := hchange ▸ hK.setItem hopen runtime
  have hworld : (change c).world = c.world := by rw [hchange]; rfl
  have hresults : (change c).checkpoint_results = c.checkpoint_results := by rw [hchange]; rfl
  refine env.recorded.tracksAt_write (fun c' hw hhanded => ?_) fun c' href => ?_
  · refine ⟨hclosed.of_same hhanded.run.items hhanded.run.checkpoint_results, ?_⟩
    have hledger := env.ledger_of_written hw hhanded
    rw [hworld] at hledger
    refine hI.of_written hledger ?_ htype (hhanded.run.checkpoint_results.trans hresults)
    rw [heffect, board_of_sameRun hhanded.run, hchange, board_setItem_keep hkeep]
  · refine ⟨hclosed.of_same href.1.items href.1.checkpoint_results, ?_⟩
    have hledger := env.ledger_of_refused href
    rw [hworld] at hledger
    refine hI.not_of_refused (board_ne_of_status item.item_id ?_) hledger
    rw [href.1.items, hchange]
    show (Function.update c.items item.item_id runtime item.item_id).status ≠ _
    rw [Function.update_self]
    exact hne

/-- The write of a change of the run's state. -/
theorem tracks_state (hK : ResultsClosed c) (hI : Determined c) {n : Notice} {state : RunState}
    (hne : state ≠ c.state)
    (heffect : ∀ b, replayEvent endsByKind b (env.recorded.eventOf n (setState state c)) =
      { b with state := state })
    (htype : n.event_type ∉ ["scenario.checkpoint.resolved", "scenario.run.reset"]) :
    Raising.TracksAt ResultsClosed Determined (env.recorded.write (setState state) n) c
      (env.recorded.Written n (setState state c)) := by
  have hclosed : ResultsClosed (setState state c) := hK.of_same rfl rfl
  refine env.recorded.tracksAt_write (fun c' hw hhanded => ?_) fun c' href => ?_
  · refine ⟨hclosed.of_same hhanded.run.items hhanded.run.checkpoint_results, ?_⟩
    have hledger := env.ledger_of_written hw hhanded
    refine hI.of_written hledger ?_ htype hhanded.run.checkpoint_results
    rw [heffect, board_of_sameRun hhanded.run]
    rfl
  · refine ⟨hclosed.of_same href.1.items href.1.checkpoint_results, ?_⟩
    have hledger := env.ledger_of_refused href
    refine hI.not_of_refused (board_ne_of_state ?_) hledger
    rw [href.1.state]
    exact hne

/-- The kind in the data of a delivered event. -/
theorem endsByKind_delivered {item : ScenarioItem} {data : List (String × Json)}
    (hdata : ∀ m ∈ data, m.1 ∉ reservedKeys) (actor_role message : String) :
    endsByKind (env.recorded.eventOf (deliveredNotice item actor_role message data) c) =
      decide (item.kind = .endMarker) := by
  have hfirst : (mergeMembers [("item_kind", Json.str item.kind.value)] data).lookup "item_kind" =
      some (.str item.kind.value) :=
    lookup_mergeMembers (fun m hm hk => absurd (by rw [hk]; decide) (hdata m hm)) (Or.inl rfl)
  have hget : (env.recorded.eventOf (deliveredNotice item actor_role message data) c).data.get?
      "item_kind" = some (.str item.kind.value) := by
    refine env.recorded.data_eventOf (by decide) rfl (fun m hm hk => ?_) (Or.inr ?_)
    · rcases mem_mergeMembers hm with hm | hm
      · rw [List.mem_singleton.mp hm]
      · exact absurd (by rw [hk]; decide) (hdata m hm)
    · obtain ⟨as, bs, heq, -⟩ := List.lookup_eq_some_iff.mp hfirst
      show "item_kind" ∈ (mergeMembers _ data).map Prod.fst
      rw [heq]
      simp
  unfold endsByKind
  rw [hget]
  cases item.kind <;> decide

theorem elapsedOf_delivered {item : ScenarioItem} {data : List (String × Json)}
    (hdata : ∀ m ∈ data, m.1 ∉ reservedKeys) (actor_role message : String) :
    elapsedOf (env.recorded.eventOf (deliveredNotice item actor_role message data) c) =
      some c.elapsed_seconds := by
  refine env.recorded.elapsedOf_eventOf fun m hm hk => ?_
  rcases mem_mergeMembers hm with hm | hm
  · rw [List.mem_singleton.mp hm] at hk
    exact absurd (show "item_kind" = "elapsed_seconds" from hk) (by decide)
  · exact absurd (by rw [hk]; decide) (hdata m hm)

/-- The successful end of a delivery. -/
theorem tracks_completeItem (hK : ResultsClosed c) (hI : Determined c) {item : ScenarioItem}
    {data : List (String × Json)} (hopen : (c.items item.item_id).status.Open)
    (hdata : ∀ m ∈ data, m.1 ∉ reservedKeys) (actor_role message : String) :
    Raising.TracksAt ResultsClosed Determined
      (env.recorded.completeItem item actor_role message data) c
      (env.recorded.Written (deliveredNotice item actor_role message data)
        (makeDelivered item c)) := by
  have hclosed : ResultsClosed (makeDelivered item c) := hK.setItem hopen _
  rw [completeItem_eq]
  refine env.recorded.tracksAt_write_then (settle item) (fun c' hw hhanded => ?_) fun c' href => ?_
  · have hclosed' := hclosed.of_same hhanded.run.items hhanded.run.checkpoint_results
    have hboard : replayEvent endsByKind (board c) (env.recorded.eventOf
        (deliveredNotice item actor_role message data) (makeDelivered item c)) =
          board (settle item c') := by
      rw [env.recorded.replayEvent_delivered, env.endsByKind_delivered hdata,
        env.elapsedOf_delivered hdata]
      have hmade := (board_of_sameRun hhanded.run).trans (board_makeDelivered item c)
      by_cases hend : item.kind = .endMarker
      · rw [settle, if_pos hend]
        show _ = { board c' with state := RunState.completed }
        rw [hmade, decide_eq_true hend]
        rfl
      · rw [settle, if_neg hend, hmade, decide_eq_false hend]
        rfl
    have hsettle : (settle item c').checkpoint_results = c.checkpoint_results ∧
        (settle item c').items = c'.items ∧ (settle item c').world = c'.world := by
      unfold settle
      split_ifs <;> exact ⟨hhanded.run.checkpoint_results, rfl, rfl⟩
    refine ⟨hclosed'.of_same hsettle.2.1 (hsettle.1.trans hhanded.run.checkpoint_results.symm), ?_⟩
    have hledger := env.ledger_of_written hw hhanded
    rw [← hsettle.2.2] at hledger
    have htype : "scenario.item.delivered" ∉
        ["scenario.checkpoint.resolved", "scenario.run.reset"] := by decide
    exact hI.of_written hledger hboard htype hsettle.1
  · refine ⟨hclosed.of_same href.1.items href.1.checkpoint_results, ?_⟩
    have hledger := env.ledger_of_refused href
    refine hI.not_of_refused (board_ne_of_status item.item_id ?_) hledger
    rw [href.1.items]
    show (Function.update c.items item.item_id _ item.item_id).status ≠ _
    rw [Function.update_self]
    rcases hopen with hs | hs <;> rw [hs] <;> simp

/-- A delivery, for what the handler makes of the item. -/
theorem tracks_deliverItem (hhandlers : env.HandlersIndependent) (hK : ResultsClosed c)
    (hI : Determined c) {item : ScenarioItem} (hopen : (c.items item.item_id).status.Open)
    (actor_role : String) :
    Raising.TracksAt ResultsClosed Determined (env.recorded.deliverItem item actor_role) c
      (env.recorded.DeliveryMeets env.recorded.Written item actor_role c) := by
  obtain ⟨outcome, c₁, hexec, hboard, hstate, hledger, hdata⟩ :=
    env.execute_of_independent hhandlers item c
  have hsame : board (note (.processed item actor_role) c₁) = board c := by
    show board c₁ = board c
    unfold board
    rw [hstate, hboard.items, hboard.checkpoint_results]
  have hK₁ : ResultsClosed (note (.processed item actor_role) c₁) :=
    hK.of_same hboard.items hboard.checkpoint_results
  have hI₁ : Determined (note (.processed item actor_role) c₁) := hI.of_same hsame hledger
  have hopen₁ : ((note (.processed item actor_role) c₁).items item.item_id).status.Open := by
    show (c₁.items item.item_id).status.Open
    rw [hboard.items]
    exact hopen
  have hcondition := env.recorded.deliveryMeets_iff env.recorded.Written actor_role hexec
  match outcome, hexec, hdata, hcondition with
  | .ok (message, data), hexec, hdata, hcondition =>
      refine Raising.TracksAt.of_eq ?_ (env.recorded.deliverItem_of_ok actor_role hexec)
      exact (env.tracks_completeItem hK₁ hI₁ hopen₁ hdata actor_role message).congr hcondition.symm
  | .error (reason, data), hexec, hdata, hcondition =>
      refine Raising.TracksAt.of_eq ?_ (env.recorded.deliverItem_of_error actor_role hexec)
      have hne : ItemStatus.failed ≠
          ((note (.processed item actor_role) c₁).items item.item_id).status := by
        rcases hopen₁ with hs | hs <;> rw [hs] <;> simp
      have htype : "scenario.item.failed" ∉
          ["scenario.checkpoint.resolved", "scenario.run.reset"] := by decide
      have hmark := env.tracks_mark hK₁ hI₁ (failedNotice item reason data)
        (makeFailed item reason) rfl hopen₁ rfl hne
        (fun b => env.recorded.replayEvent_failed _ b reason data) htype
      exact hmark.congr hcondition.symm

/-- The result of a checkpoint and its event. -/
theorem tracks_recordResolution (hK : ResultsClosed c) (hI : Determined c) {item : ScenarioItem}
    {checkpoint_id reason : String} {checks : Option Json}
    (hcan : env.recorded.CanResolve checkpoint_id reason checks item c) (passed : Bool)
    (evidence_ids : List String) :
    Raising.TracksAt ResultsClosed Determined
      (env.recorded.recordResolution item checkpoint_id passed evidence_ids reason checks) c
      (env.recorded.Written (resolvedNotice item checkpoint_id passed evidence_ids reason checks)
        (recordResult checkpoint_id (resultOf passed) c)) := by
  have hid : item.item_id = checkpoint_id := (env.recorded.find_eq_ok hcan.found).1
  have hclosed : ResultsClosed (recordResult checkpoint_id (resultOf passed) c) := by
    intro id hopen
    have hne : id ≠ checkpoint_id := by
      rintro rfl
      have hstatus : ((recordResult id (resultOf passed) c).items id).status = .delivered := by
        show (Function.update c.items id _ id).status = _
        rw [Function.update_self]
      rw [hstatus] at hopen
      rcases hopen with h | h <;> cases h
    have hsame : (recordResult checkpoint_id (resultOf passed) c).items id = c.items id :=
      Function.update_of_ne hne _ _
    rw [hsame] at hopen
    show Function.update c.checkpoint_results checkpoint_id _ id = none
    rw [Function.update_of_ne hne]
    exact hK id hopen
  refine env.recorded.tracksAt_write (fun c' hw hhanded => ?_) fun c' href => ?_
  · have hledger := env.ledger_of_written hw hhanded
    rw [show (recordResult checkpoint_id (resultOf passed) c).world = c.world from rfl] at hledger
    refine ⟨hclosed.of_same hhanded.run.items hhanded.run.checkpoint_results, ?_, ?_⟩
    · rw [hledger, replay_append, hI.board, env.recorded.replayEvent_resolved,
        board_of_sameRun hhanded.run, board_recordResult, hid]
      rfl
    · rw [hledger, hhanded.run.checkpoint_results]
      have hpath := hI.path.resolved
        (env.recorded.eventOf (resolvedNotice item checkpoint_id passed evidence_ids reason checks)
          (recordResult checkpoint_id (resultOf passed) c))
        (hK checkpoint_id hcan.isOpen) rfl
        (by rw [← hid]; exact env.recorded.subjectOf_eventOf rfl)
        (env.recorded.result_resolved checkpoint_id passed evidence_ids reason checks)
      exact hpath
  · refine ⟨hclosed.of_same href.1.items href.1.checkpoint_results, ?_⟩
    have hledger := env.ledger_of_refused href
    refine hI.not_of_refused (board_ne_of_status checkpoint_id ?_) hledger
    rw [href.1.items]
    show (Function.update c.items checkpoint_id _ checkpoint_id).status ≠ _
    rw [Function.update_self]
    rcases hcan.isOpen with hs | hs <;> rw [hs] <;> simp

/-- A reset and its event. -/
theorem tracks_reset (hI : Determined c) (new_run_id : Option String)
    (hfinal : c.state ∈ [RunState.stopped, .completed]) :
    Raising.TracksAt ResultsClosed Determined (env.recorded.reset new_run_id) c
      (env.recorded.Written (resetNotice c.run_id) (env.recorded.renew new_run_id c)) := by
  have hclosed : ResultsClosed (env.recorded.renew new_run_id c) := fun _ _ => rfl
  have hworld := env.ledger_renew new_run_id c
  refine Raising.TracksAt.of_eq ?_ (env.recorded.reset_eq_write new_run_id hfinal)
  refine env.recorded.tracksAt_write (fun c' hw hhanded => ?_) fun c' href => ?_
  · have hledger := env.ledger_of_written hw hhanded
    rw [hworld] at hledger
    refine ⟨hclosed.of_same hhanded.run.items hhanded.run.checkpoint_results, ?_, ?_⟩
    · rw [hledger, replay_append, env.recorded.replayEvent_reset, board_of_sameRun hhanded.run]
      rfl
    · have htype : (env.recorded.eventOf (resetNotice c.run_id)
          (env.recorded.renew new_run_id c)).event_type = "scenario.run.reset" := rfl
      rw [hledger, currentRun_append, if_pos htype, hhanded.run.checkpoint_results]
      exact fun id => rfl
  · refine ⟨hclosed.of_same href.1.items href.1.checkpoint_results, ?_⟩
    have hledger := env.ledger_of_refused href
    rw [hworld] at hledger
    refine hI.not_of_refused (board_ne_of_state ?_) hledger
    rw [href.1.state]
    show RunState.ready ≠ c.state
    simp only [List.mem_cons, List.not_mem_nil, or_false] at hfinal
    rcases hfinal with hs | hs <;> rw [hs] <;> decide

end Writes

/-! ## Runs -/

theorem tracks_readyItem {c : ScenarioController (Recorded W)} (hK : ResultsClosed c)
    (hI : Determined c) {item : ScenarioItem} (hpending : (c.items item.item_id).status = .pending) :
    Raising.TracksAt ResultsClosed Determined (env.recorded.readyItem item) c
      (env.recorded.Written (readyNotice item) (makeReady item c)) := by
  have hne : ItemStatus.ready ≠ (c.items item.item_id).status := by
    rw [hpending]
    simp
  have htype : "scenario.item.ready" ∉ ["scenario.checkpoint.resolved", "scenario.run.reset"] := by
    decide
  rw [readyItem_eq]
  exact env.tracks_mark hK hI (readyNotice item) (makeReady item) rfl
    (Or.inl hpending) rfl hne (fun b => env.recorded.replayEvent_ready _ b) htype

theorem tracks_skip {c : ScenarioController (Recorded W)} (hK : ResultsClosed c)
    (hI : Determined c) {item_id reason : String} {item : ScenarioItem}
    (hcan : env.recorded.CanSkip item_id reason c)
    (hitem : env.recorded.find item_id = .ok item) :
    Raising.TracksAt ResultsClosed Determined
      (env.recorded.write (makeSkipped item_id reason) (skippedNotice item item_id reason)) c
      (env.recorded.Written (skippedNotice item item_id reason) (makeSkipped item_id reason c)) := by
  obtain ⟨rfl, -⟩ := env.recorded.find_eq_ok hitem
  have hopen := hcan.isOpen
  have hne : ItemStatus.skipped ≠ (c.items item.item_id).status := by
    rcases hopen with hs | hs <;> rw [hs] <;> simp
  have htype : "scenario.item.skipped" ∉ ["scenario.checkpoint.resolved", "scenario.run.reset"] := by
    decide
  exact env.tracks_mark hK hI (skippedNotice item item.item_id reason)
    (makeSkipped item.item_id reason) rfl hopen rfl hne
    (fun b => env.recorded.replayEvent_skipped _ b item.item_id reason) htype

theorem tracks_change {c : ScenarioController (Recorded W)} (hK : ResultsClosed c)
    (hI : Determined c) {before after : RunState} {event_type : String} (action message : String)
    (hbefore : c.state = before) (h : (before, after, event_type) ∈ runChanges) :
    Raising.TracksAt ResultsClosed Determined
      (env.recorded.write (setState after) (runNotice event_type action message)) c
      (env.recorded.Written (runNotice event_type action message) (setState after c)) := by
  have htype : event_type ∉ ["scenario.checkpoint.resolved", "scenario.run.reset"] ∧
      after ≠ before := by
    simp only [runChanges, List.mem_cons, List.not_mem_nil, or_false, Prod.mk.injEq] at h
    rcases h with ⟨rfl, rfl, rfl⟩ | ⟨rfl, rfl, rfl⟩ | ⟨rfl, rfl, rfl⟩ <;> decide
  exact env.tracks_state (n := runNotice event_type action message) hK hI (hbefore ▸ htype.2)
    (fun b => env.recorded.replayEvent_run _ b h action message) htype.1

theorem noticeLaw_determined (hhandlers : env.HandlersIndependent) :
    env.recorded.NoticeLaw env.recorded.Written
      (env.recorded.DeliveryMeets env.recorded.Written) ResultsClosed Determined where
  clock t c hK hI := by
    have hsame := env.recorded.samePlay_advanceClock t c
    have hledger := env.sameLedger_advanceClock t c
    refine ⟨hK.of_same hsame.items hsame.checkpoint_results, hI.of_same ?_ hledger⟩
    unfold board
    rw [hsame.state, hsame.items, hsame.checkpoint_results]
  ready _ _ _ hK hI hpending := env.tracks_readyItem hK hI hpending
  delivery _ _ actor_role _ hK hI hopen := env.tracks_deliverItem hhandlers hK hI hopen actor_role
  skip _ _ _ _ hK hI hcan hitem := env.tracks_skip hK hI hcan hitem
  record _ passed evidence_ids _ _ _ _ hK hI hcan :=
    env.tracks_recordResolution hK hI hcan passed evidence_ids
  change _ _ _ action message _ hK hI hbefore h := env.tracks_change hK hI action message hbefore h
  reset new_run_id _ _ hI hfinal := env.tracks_reset hI new_run_id hfinal

theorem tracks_failSafeStop {c : ScenarioController (Recorded W)} (hK : ResultsClosed c)
    (hI : Determined c) (reason : String) :
    Raising.TracksAt ResultsClosed Determined (env.recorded.failSafeStop reason) c
      (StopMeets env.recorded.Written reason c) := by
  by_cases h : c.state ∈ playable ∧ ¬ Blank reason
  · have hne : RunState.stopped ≠ c.state := by
      intro heq
      have hplay := h.1
      rw [← heq] at hplay
      exact absurd hplay (by decide)
    have htype : "scenario.run.stopped" ∉
        ["scenario.checkpoint.resolved", "scenario.run.reset"] := by decide
    have hstate := env.tracks_state (n := stoppedNotice reason) hK hI hne
      (fun b => env.recorded.replayEvent_stopped _ b reason) htype
    exact (hstate.congr (by simp [StopMeets, h])).of_eq (env.recorded.failSafeStop_accepted h)
  · obtain ⟨e, heq, -⟩ := env.recorded.failSafeStop_refused h
    refine (Raising.TracksAt.unchanged hK hI (by rw [heq])).congr ?_
    exact ⟨fun _ ha => absurd ha h, fun _ => trivial⟩

theorem determined_init (run_id : String) (world : W) :
    Determined (env.recorded.init run_id ⟨world, []⟩) :=
  ⟨rfl, fun _ => rfl⟩

theorem tracks_call (hhandlers : env.HandlersIndependent) (op : Operation)
    {c : ScenarioController (Recorded W)} (hK : ResultsClosed c) (hI : Determined c) :
    Raising.TracksAt ResultsClosed Determined (env.recorded.call op) c
      (env.recorded.AuditedStep op c) :=
  (env.noticeLaw_determined hhandlers).call op hK hI fun reason _ =>
    env.tracks_failSafeStop hK hI reason

/-- With independent handlers, every state of a run is the replay of its ledger exactly when every
write of the run is written. -/
theorem determined_iff_audited (hhandlers : env.HandlersIndependent) (run_id : String) (world : W)
    (ops : List Operation) :
    (∀ c, Passes env.recorded.perform ops (env.recorded.init run_id ⟨world, []⟩) c →
        Determined c) ↔
      EachMeets env.recorded.perform env.recorded.AuditedStep ops
        (env.recorded.init run_id ⟨world, []⟩) :=
  passes_iff_eachMeets (K := ResultsClosed)
    (fun op _ hK hI => (env.tracks_call hhandlers op hK hI).kept)
    (fun op _ hK hI => (env.tracks_call hhandlers op hK hI).exact)
    (fun _ _ => rfl) (determined_init env run_id world)

/-- A run of the small scenario. -/
theorem determined_iff_audited_sample :
    (∀ c, Passes (sample .automatic).recorded.perform [.start, .advance_to 10]
        ((sample .automatic).recorded.init "run-1" ⟨(), []⟩) c → Determined c) ↔
      EachMeets (sample .automatic).recorded.perform (sample .automatic).recorded.AuditedStep
        [.start, .advance_to 10] ((sample .automatic).recorded.init "run-1" ⟨(), []⟩) :=
  determined_iff_audited (sample .automatic) (fun _ _ h => nomatch h) "run-1" () _

/-! ## An event that the contract refuses -/

/-- A title of 257 characters. -/
def overlongTitle : String := String.ofList (List.replicate 257 't')

/-- An item with that title. -/
def overlongItem : ScenarioItem :=
  { sampleItem "INJ-1" .inject .automatic (.elapsed 0) 0 inject_id_accepted inject_or_end with
    title := overlongTitle }

/-- A scenario whose only item has that title. -/
def overlongScenario : ScenarioDefinition where
  schema_version := "1.0.0"
  scenario_id := "sample"
  exercise_id := "sample"
  name := "Sample"
  items := [overlongItem]
  participant_experience := []
  schema_version_valid := sample_version_accepted
  ids_valid := sample_ids_accepted
  items_nonempty := List.cons_ne_nil _ _
  ids_unique := List.nodup_singleton _
  checkpoints_known := fun item hitem id outcome htrigger => by
    rw [List.mem_singleton.mp hitem] at htrigger
    cases htrigger

/-- The controller of that scenario, without handlers and with a sink that stores every event. -/
def overlong : Controller Unit := { sample .automatic with definition := overlongScenario }

/-- The event of the overlong item is not built, so the delivered item is missing in the ledger. -/
theorem overlong_title_undetermined :
    overlong.HandlersIndependent ∧ (∀ event w, (overlong.event_sink event w).1 = .ok ()) ∧
      ¬ Determined (runAll overlong.recorded.perform [.start]
        (overlong.recorded.init "run-1" ⟨(), []⟩)) := by
  refine ⟨fun _ _ h => (nomatch h), fun _ _ => rfl, fun h => ?_⟩
  have hstatus := congrFun (congrArg Board.status h.board) "INJ-1"
  revert hstatus
  decide +kernel

end Controller

end NetStrike.Orchestrator
