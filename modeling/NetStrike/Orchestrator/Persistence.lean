import NetStrike.Orchestrator.Determinism

/-!
# Failed audit writes

`Persisted` says that the ledger accounts for the controller: the statuses, the results and the
state of the run are those of the replayed events, and a delivered end item has completed the run.
Handlers are arbitrary here, so an end item is told by the definition and not by the data of its
event; a stop is latched before its event on purpose, so a stopped run may be missing in the ledger.

The controller assigns before it writes, so each write keeps `Persisted` exactly when it is written,
and so does a run (`persisted_iff_audited`). `refused_delivery_unrecorded` is the end item that was
delivered although its event was refused.
-/

set_option autoImplicit false

namespace NetStrike.Orchestrator

open NetStrike.Foundation NetStrike.Shared

/-- The event reports an end item of the definition. -/
def endsIn (definition : ScenarioDefinition) (event : Event) : Bool :=
  definition.items.any fun item =>
    item.item_id == subjectId event && decide (item.kind = .endMarker)

namespace Controller

variable {W : Type} (env : Controller W)

/-- The board accounts for the controller. -/
structure Accounts (b : Board) (c : ScenarioController W) : Prop where
  status : ∀ id, b.status id = (c.items id).status
  results : b.checkpoint_results = c.checkpoint_results
  state : c.state ≠ .stopped → b.state = c.state
  ended : ∀ item ∈ env.definition.items, item.kind = .endMarker →
    (c.items item.item_id).status = .delivered → c.state = .completed

/-- The ledger accounts for the controller. -/
def Persisted (c : ScenarioController (Recorded W)) : Prop :=
  env.recorded.Accounts (replay (endsIn env.definition) c.world.ledger) c

/-- A stopped run has worked on an item. -/
def StoppedInPlay (c : ScenarioController W) : Prop :=
  c.state = .stopped → ∃ id, (c.items id).status ≠ .pending

/-! ## Accounts -/

section Accounts

variable {env} {b : Board} {c c' : ScenarioController W}

theorem Accounts.of_sameRun (h : env.Accounts b c) (hsame : SameRun c c') : env.Accounts b c' := by
  constructor
  · rw [hsame.items]
    exact h.status
  · rw [hsame.checkpoint_results]
    exact h.results
  · rw [hsame.state]
    exact h.state
  · rw [hsame.state, hsame.items]
    exact h.ended

theorem status_setItem (id : String) (runtime : ItemRuntime) (c : ScenarioController W) :
    (fun j => ((setItem id runtime c).items j).status) =
      Function.update (fun j => (c.items j).status) id runtime.status :=
  Function.comp_update ItemRuntime.status c.items id runtime

/-- An item that is marked with another status than delivered. -/
theorem Accounts.mark (h : env.Accounts b c) (id : String) {runtime : ItemRuntime}
    (hne : runtime.status ≠ .delivered) :
    env.Accounts (b.mark id runtime.status) (setItem id runtime c) := by
  refine ⟨fun j => ?_, h.results, h.state, fun item hitem hend hdelivered => ?_⟩
  · have hstatus : b.status = fun j => (c.items j).status := funext h.status
    show Function.update b.status id runtime.status j = _
    rw [hstatus]
    exact (congrFun (status_setItem id runtime c) j).symm
  · have hold : (c.items item.item_id).status = .delivered := by
      by_cases hid : item.item_id = id
      · have hself : ((setItem id runtime c).items item.item_id).status = runtime.status := by
          show (Function.update c.items id runtime item.item_id).status = _
          rw [hid, Function.update_self]
        exact absurd (hself.symm.trans hdelivered) hne
      · rwa [show (setItem id runtime c).items item.item_id = c.items item.item_id from
          Function.update_of_ne hid _ _] at hdelivered
    exact h.ended item hitem hend hold

/-- A status that differs is not accounted for. -/
theorem Accounts.not_of_status (h : env.Accounts b c) (id : String)
    (hne : (c'.items id).status ≠ (c.items id).status) : ¬ env.Accounts b c' :=
  fun h' => hne ((h'.status id).symm.trans (h.status id))

theorem status_ne_of_setItem {id : String} {runtime : ItemRuntime}
    (hsame : SameRun (setItem id runtime c) c') (hne : runtime.status ≠ (c.items id).status) :
    (c'.items id).status ≠ (c.items id).status := by
  rw [hsame.items]
  show (Function.update c.items id runtime id).status ≠ _
  rw [Function.update_self]
  exact hne

theorem StoppedInPlay.of_touched (id : String) (h : (c.items id).status ≠ .pending) :
    StoppedInPlay c :=
  fun _ => ⟨id, h⟩

theorem StoppedInPlay.of_state (h : c.state ≠ .stopped) : StoppedInPlay c :=
  fun hs => absurd hs h

end Accounts

/-! ## The single writes -/

section Writes

variable {c : ScenarioController (Recorded W)}

/-- The write of an item whose event marks its status. -/
theorem persists_mark (hI : env.Persisted c) {item : ScenarioItem} (n : Notice)
    (change : ScenarioController (Recorded W) → ScenarioController (Recorded W))
    {runtime : ItemRuntime} (hchange : change c = setItem item.item_id runtime c)
    (hne : runtime.status ≠ (c.items item.item_id).status)
    (hkind : runtime.status ≠ .delivered ∧ runtime.status ≠ .pending)
    (heffect : ∀ b, replayEvent (endsIn env.definition) b (env.recorded.eventOf n (change c)) =
      b.mark item.item_id runtime.status) :
    Raising.TracksAt StoppedInPlay env.Persisted (env.recorded.write change n) c
      (env.recorded.Written n (change c)) := by
  have hworld : (change c).world = c.world := by rw [hchange]; rfl
  have htouched : ∀ c', SameRun (change c) c' → StoppedInPlay c' := by
    intro c' hsame
    refine StoppedInPlay.of_touched item.item_id ?_
    rw [hsame.items, hchange]
    show (Function.update c.items item.item_id runtime item.item_id).status ≠ _
    rw [Function.update_self]
    exact hkind.2
  refine env.recorded.tracksAt_write (fun c' hw hhanded => ?_) fun c' href => ?_
  · refine ⟨htouched c' hhanded.run, ?_⟩
    have hledger := env.ledger_of_written hw hhanded
    rw [hworld] at hledger
    have hmark : env.recorded.Accounts
        ((replay (endsIn env.definition) c.world.ledger).mark item.item_id runtime.status)
        (change c) := by
      rw [hchange]
      exact hI.mark item.item_id hkind.1
    show env.recorded.Accounts (replay _ c'.world.ledger) c'
    rw [hledger, replay_append, heffect]
    exact hmark.of_sameRun hhanded.run
  · refine ⟨htouched c' href.1, ?_⟩
    have hledger := env.ledger_of_refused href
    rw [hworld] at hledger
    show ¬ env.recorded.Accounts (replay _ c'.world.ledger) c'
    rw [hledger]
    exact hI.not_of_status item.item_id (status_ne_of_setItem (hchange ▸ href.1) hne)

/-- The end items among the subjects of delivered events. -/
theorem endsIn_delivered {item : ScenarioItem} (hitem : item ∈ env.definition.items)
    (actor_role message : String) (data : List (String × Json)) :
    endsIn env.definition
        (env.recorded.eventOf (deliveredNotice item actor_role message data) c) =
      decide (item.kind = .endMarker) := by
  unfold endsIn
  rw [env.recorded.subjectId_eventOf (n := deliveredNotice item actor_role message data) rfl]
  by_cases hend : item.kind = .endMarker
  · rw [decide_eq_true hend, List.any_eq_true]
    exact ⟨item, hitem, by simp [hend]⟩
  · rw [decide_eq_false hend, List.any_eq_false]
    intro other hother
    by_cases hid : other.item_id = item.item_id
    · obtain rfl : other = item := by
        have h1 := env.find_of_mem hother
        rw [hid, env.find_of_mem hitem] at h1
        injection h1 with h1
        exact h1.symm
      simp [hend]
    · simp [hid]

/-- The successful end of a delivery. -/
theorem persists_completeItem (hI : env.Persisted c) {item : ScenarioItem}
    (hitem : item ∈ env.definition.items) (hopen : (c.items item.item_id).status.Open)
    (actor_role message : String) (data : List (String × Json)) :
    Raising.TracksAt StoppedInPlay env.Persisted
      (env.recorded.completeItem item actor_role message data) c
      (env.recorded.Written (deliveredNotice item actor_role message data)
        (makeDelivered item c)) := by
  have hself : ((makeDelivered item c).items item.item_id).status = .delivered := by
    show (Function.update c.items item.item_id _ item.item_id).status = _
    rw [Function.update_self]
  rw [completeItem_eq]
  refine env.recorded.tracksAt_write_then (settle item) (fun c' hw hhanded => ?_) fun c' href => ?_
  · have hstatus : ∀ id, ((settle item c').items id).status =
        Function.update (fun j => (c.items j).status) item.item_id .delivered id := by
      intro id
      have hitems : (settle item c').items = (makeDelivered item c).items := by
        unfold settle
        split_ifs <;> exact hhanded.run.items
      rw [hitems]
      exact congrFun (status_setItem item.item_id _ c) id
    have hresults : (settle item c').checkpoint_results = c.checkpoint_results := by
      unfold settle
      split_ifs <;> exact hhanded.run.checkpoint_results
    have hstate : (settle item c').state =
        if item.kind = .endMarker then .completed else c.state := by
      unfold settle
      split_ifs
      · rfl
      · exact hhanded.run.state
    have hworld : (settle item c').world = c'.world := by
      unfold settle
      split_ifs <;> rfl
    constructor
    · refine StoppedInPlay.of_touched item.item_id ?_
      rw [hstatus, Function.update_self]
      simp
    · have hledger := env.ledger_of_written hw hhanded
      rw [← hworld] at hledger
      show env.recorded.Accounts (replay _ (settle item c').world.ledger) (settle item c')
      rw [hledger, replay_append, env.recorded.replayEvent_delivered, env.endsIn_delivered hitem]
      refine ⟨fun id => ?_, ?_, fun hs => ?_, fun other hother hend hdelivered => ?_⟩
      · rw [hstatus]
        exact congrFun (congrArg (fun f => Function.update f item.item_id ItemStatus.delivered)
          (funext hI.status)) id
      · rw [hresults]
        exact hI.results
      · rw [hstate] at hs ⊢
        by_cases hend : item.kind = .endMarker
        · simp [hend]
        · rw [if_neg hend] at hs ⊢
          rw [decide_eq_false hend]
          exact hI.state hs
      · rw [hstate]
        by_cases hkind : item.kind = .endMarker
        · rw [if_pos hkind]
        · rw [if_neg hkind]
          have hne : other.item_id ≠ item.item_id := by
            intro hid
            have h1 := env.find_of_mem hother
            rw [hid, env.find_of_mem hitem] at h1
            injection h1 with h1
            exact hkind (h1 ▸ hend)
          rw [hstatus, Function.update_of_ne hne] at hdelivered
          exact hI.ended other hother hend hdelivered
  · constructor
    · refine StoppedInPlay.of_touched item.item_id ?_
      rw [href.1.items, hself]
      simp
    · have hledger := env.ledger_of_refused href
      show ¬ env.recorded.Accounts (replay _ c'.world.ledger) c'
      rw [hledger]
      refine hI.not_of_status item.item_id ?_
      rw [href.1.items, hself]
      rcases hopen with hs | hs <;> rw [hs] <;> simp

/-- Stop events change nothing but the state of the board. -/
theorem foldl_stopped (ends : Event → Bool) {es : List Event}
    (h : ∀ e ∈ es, e.event_type = "scenario.run.stopped") (b : Board) :
    (es.foldl (replayEvent ends) b).status = b.status ∧
      (es.foldl (replayEvent ends) b).checkpoint_results = b.checkpoint_results := by
  induction es generalizing b with
  | nil => exact ⟨rfl, rfl⟩
  | cons e es ih =>
      have hstep : replayEvent ends b e = { b with state := .stopped } := by
        unfold replayEvent
        rw [h e List.mem_cons_self]
        rfl
      have hrest := ih (fun e' he' => h e' (List.mem_cons_of_mem e he')) (replayEvent ends b e)
      rw [List.foldl_cons, hrest.1, hrest.2, hstep]
      exact ⟨rfl, rfl⟩

/-- The handler part of a delivery keeps the accounts, also when it stops the run. -/
theorem persisted_execute (hI : env.Persisted c) (item : ScenarioItem) :
    env.Persisted (env.recorded.execute item c).2 := by
  obtain ⟨outcome, c', heq, hboard, -, hplay⟩ := env.recorded.execute_spec item c
  have hbeside := env.ranBeside_execute item c
  rw [heq] at hbeside ⊢
  show env.recorded.Accounts (replay _ c'.world.ledger) c'
  rcases hbeside with ⟨hstate, hledger⟩ | ⟨hstopped, es, hledger, hes⟩
  · refine ⟨?_, ?_, ?_, ?_⟩
    · rw [hledger, hboard.items]
      exact hI.status
    · rw [hledger, hboard.checkpoint_results]
      exact hI.results
    · rw [hledger, hstate]
      exact hI.state
    · rw [hstate, hboard.items]
      exact hI.ended
  · have hfold := foldl_stopped (endsIn env.definition) hes
      (replay (endsIn env.definition) c.world.ledger)
    have hreplay : replay (endsIn env.definition) c'.world.ledger =
        es.foldl (replayEvent (endsIn env.definition))
          (replay (endsIn env.definition) c.world.ledger) := by
      rw [hledger, replay, List.foldl_append]
      rfl
    refine ⟨?_, ?_, fun hs => absurd hstopped hs, fun other hother hend hdelivered => ?_⟩
    · rw [hreplay, hfold.1, hboard.items]
      exact hI.status
    · rw [hreplay, hfold.2, hboard.checkpoint_results]
      exact hI.results
    · rw [hboard.items] at hdelivered
      have hcompleted := hI.ended other hother hend hdelivered
      rcases hplay with ⟨hsame, -⟩ | ⟨hplaying, -⟩
      · exact hsame.trans hcompleted
      · rw [hcompleted] at hplaying
        exact absurd hplaying (by decide)

/-- A delivery, for what the handler makes of the item. -/
theorem persists_deliverItem (hI : env.Persisted c) {item : ScenarioItem}
    (hitem : item ∈ env.definition.items) (hopen : (c.items item.item_id).status.Open)
    (actor_role : String) :
    Raising.TracksAt StoppedInPlay env.Persisted (env.recorded.deliverItem item actor_role) c
      (env.recorded.DeliveryMeets env.recorded.Written item actor_role c) := by
  have hexecuted := env.persisted_execute hI item
  obtain ⟨outcome, c₁, hexec, hboard, -, -⟩ := env.recorded.execute_spec item c
  rw [hexec] at hexecuted
  have hI₁ : env.Persisted (note (.processed item actor_role) c₁) :=
    ⟨hexecuted.status, hexecuted.results, hexecuted.state, hexecuted.ended⟩
  have hopen₁ : ((note (.processed item actor_role) c₁).items item.item_id).status.Open := by
    show (c₁.items item.item_id).status.Open
    rw [hboard.items]
    exact hopen
  have hcondition := env.recorded.deliveryMeets_iff env.recorded.Written actor_role hexec
  match outcome, hexec, hcondition with
  | .ok (message, data), hexec, hcondition =>
      refine Raising.TracksAt.of_eq ?_ (env.recorded.deliverItem_of_ok actor_role hexec)
      exact (env.persists_completeItem hI₁ hitem hopen₁ actor_role message data).congr
        hcondition.symm
  | .error (reason, data), hexec, hcondition =>
      refine Raising.TracksAt.of_eq ?_ (env.recorded.deliverItem_of_error actor_role hexec)
      have hne : ItemStatus.failed ≠
          ((note (.processed item actor_role) c₁).items item.item_id).status := by
        rcases hopen₁ with hs | hs <;> rw [hs] <;> simp
      have hmark := env.persists_mark hI₁ (failedNotice item reason data)
        (makeFailed item reason) rfl hne ⟨by simp, by simp⟩
        (fun b => env.recorded.replayEvent_failed _ b reason data)
      exact hmark.congr hcondition.symm

theorem persists_readyItem (hI : env.Persisted c) {item : ScenarioItem}
    (hpending : (c.items item.item_id).status = .pending) :
    Raising.TracksAt StoppedInPlay env.Persisted (env.recorded.readyItem item) c
      (env.recorded.Written (readyNotice item) (makeReady item c)) := by
  have hne : ItemStatus.ready ≠ (c.items item.item_id).status := by
    rw [hpending]
    simp
  rw [readyItem_eq]
  exact env.persists_mark hI (readyNotice item) (makeReady item) rfl hne
    ⟨by simp, by simp⟩ (fun b => env.recorded.replayEvent_ready _ b)

theorem persists_skip (hI : env.Persisted c) {item_id reason : String} {item : ScenarioItem}
    (hcan : env.recorded.CanSkip item_id reason c)
    (hitem : env.recorded.find item_id = .ok item) :
    Raising.TracksAt StoppedInPlay env.Persisted
      (env.recorded.write (makeSkipped item_id reason) (skippedNotice item item_id reason)) c
      (env.recorded.Written (skippedNotice item item_id reason) (makeSkipped item_id reason c)) := by
  obtain ⟨rfl, -⟩ := env.recorded.find_eq_ok hitem
  have hopen := hcan.isOpen
  have hne : ItemStatus.skipped ≠ (c.items item.item_id).status := by
    rcases hopen with hs | hs <;> rw [hs] <;> simp
  exact env.persists_mark hI (skippedNotice item item.item_id reason)
    (makeSkipped item.item_id reason) rfl hne ⟨by simp, by simp⟩
    (fun b => env.recorded.replayEvent_skipped _ b item.item_id reason)

/-- The result of a checkpoint and its event. -/
theorem persists_recordResolution (hI : env.Persisted c) {item : ScenarioItem}
    {checkpoint_id reason : String} {checks : Option Json}
    (hcan : env.recorded.CanResolve checkpoint_id reason checks item c) (passed : Bool)
    (evidence_ids : List String) :
    Raising.TracksAt StoppedInPlay env.Persisted
      (env.recorded.recordResolution item checkpoint_id passed evidence_ids reason checks) c
      (env.recorded.Written (resolvedNotice item checkpoint_id passed evidence_ids reason checks)
        (recordResult checkpoint_id (resultOf passed) c)) := by
  have hfound := hcan.found
  obtain ⟨hid, hitem⟩ := env.recorded.find_eq_ok hfound
  have hstatus : ∀ id, ((recordResult checkpoint_id (resultOf passed) c).items id).status =
      Function.update (fun j => (c.items j).status) checkpoint_id .delivered id :=
    fun id => congrFun (status_setItem checkpoint_id _ c) id
  have hself : ((recordResult checkpoint_id (resultOf passed) c).items checkpoint_id).status =
      .delivered := by
    rw [hstatus, Function.update_self]
  have htouched : ∀ c', SameRun (recordResult checkpoint_id (resultOf passed) c) c' →
      StoppedInPlay c' := by
    intro c' hsame
    refine StoppedInPlay.of_touched checkpoint_id ?_
    rw [hsame.items, hself]
    simp
  refine env.recorded.tracksAt_write (fun c' hw hhanded => ?_) fun c' href => ?_
  · refine ⟨htouched c' hhanded.run, ?_⟩
    have hledger := env.ledger_of_written hw hhanded
    rw [show (recordResult checkpoint_id (resultOf passed) c).world = c.world from rfl] at hledger
    show env.recorded.Accounts (replay _ c'.world.ledger) c'
    rw [hledger, replay_append, env.recorded.replayEvent_resolved, hid]
    refine Accounts.of_sameRun (c := recordResult checkpoint_id (resultOf passed) c)
      ⟨fun id => ?_, ?_, hI.state, ?_⟩ hhanded.run
    · rw [hstatus]
      exact congrFun (congrArg (fun f => Function.update f checkpoint_id ItemStatus.delivered)
        (funext hI.status)) id
    · exact congrArg (fun f => Function.update f checkpoint_id (some (resultOf passed))) hI.results
    · intro other hother hend hdelivered
      have hne : other.item_id ≠ checkpoint_id := by
        intro heq
        have h1 := env.recorded.find_of_mem hother
        rw [heq, hfound] at h1
        injection h1 with h1
        rw [← h1, hcan.kind] at hend
        cases hend
      rw [hstatus, Function.update_of_ne hne] at hdelivered
      exact hI.ended other hother hend hdelivered
  · refine ⟨htouched c' href.1, ?_⟩
    have hledger := env.ledger_of_refused href
    rw [show (recordResult checkpoint_id (resultOf passed) c).world = c.world from rfl] at hledger
    show ¬ env.recorded.Accounts (replay _ c'.world.ledger) c'
    rw [hledger]
    refine hI.not_of_status checkpoint_id ?_
    rw [href.1.items, hself]
    rcases hcan.isOpen with hs | hs <;> rw [hs] <;> simp

/-- A change of the run's state and its event. -/
theorem persists_change (hI : env.Persisted c) {before after : RunState} {event_type : String}
    (action message : String) (hbefore : c.state = before)
    (h : (before, after, event_type) ∈ runChanges) :
    Raising.TracksAt StoppedInPlay env.Persisted
      (env.recorded.write (setState after) (runNotice event_type action message)) c
      (env.recorded.Written (runNotice event_type action message) (setState after c)) := by
  have hstates : after ≠ before ∧ after ≠ .stopped ∧ before ≠ .stopped ∧ before ≠ .completed := by
    simp only [runChanges, List.mem_cons, List.not_mem_nil, or_false, Prod.mk.injEq] at h
    rcases h with ⟨rfl, rfl, rfl⟩ | ⟨rfl, rfl, rfl⟩ | ⟨rfl, rfl, rfl⟩ <;> decide
  obtain ⟨hne, hafter, hlive, hopen⟩ := hstates
  have hnotstopped : ∀ c', SameRun (setState after c) c' → StoppedInPlay c' :=
    fun c' hsame => StoppedInPlay.of_state (hsame.state.symm ▸ hafter)
  refine env.recorded.tracksAt_write (fun c' hw hhanded => ?_) fun c' href => ?_
  · refine ⟨hnotstopped c' hhanded.run, ?_⟩
    have hledger := env.ledger_of_written hw hhanded
    rw [show (setState after c).world = c.world from rfl] at hledger
    show env.recorded.Accounts (replay _ c'.world.ledger) c'
    rw [hledger, replay_append, env.recorded.replayEvent_run _ _ h]
    refine Accounts.of_sameRun (c := setState after c)
      ⟨hI.status, hI.results, fun _ => rfl, ?_⟩ hhanded.run
    intro other hother hend hdelivered
    have hcompleted := hI.ended other hother hend hdelivered
    exact absurd (hbefore.symm.trans hcompleted) hopen
  · refine ⟨hnotstopped c' href.1, fun hI' => ?_⟩
    have hledger := env.ledger_of_refused href
    rw [show (setState after c).world = c.world from rfl] at hledger
    have hstate' : c'.state = after := href.1.state
    have hnew := hI'.state (hstate'.symm ▸ hafter)
    rw [hledger, hI.state (hbefore.symm ▸ hlive), hbefore, hstate'] at hnew
    exact hne hnew.symm

/-- A reset and its event. -/
theorem persists_reset (hK : StoppedInPlay c) (hI : env.Persisted c) (new_run_id : Option String)
    (hfinal : c.state ∈ [RunState.stopped, .completed]) :
    Raising.TracksAt StoppedInPlay env.Persisted (env.recorded.reset new_run_id) c
      (env.recorded.Written (resetNotice c.run_id) (env.recorded.renew new_run_id c)) := by
  have hworld := env.ledger_renew new_run_id c
  have hready : ∀ c', SameRun (env.recorded.renew new_run_id c) c' → c'.state = .ready :=
    fun c' hsame => hsame.state
  have hlive : RunState.ready ≠ .stopped := by decide
  refine Raising.TracksAt.of_eq ?_ (env.recorded.reset_eq_write new_run_id hfinal)
  refine env.recorded.tracksAt_write (fun c' hw hhanded => ?_) fun c' href => ?_
  · refine ⟨StoppedInPlay.of_state (hready c' hhanded.run ▸ hlive), ?_⟩
    have hledger := env.ledger_of_written hw hhanded
    show env.recorded.Accounts (replay _ c'.world.ledger) c'
    rw [hledger, replay_append, env.recorded.replayEvent_reset]
    refine Accounts.of_sameRun (c := env.recorded.renew new_run_id c)
      ⟨fun _ => rfl, rfl, fun _ => rfl, ?_⟩ hhanded.run
    intro other _ _ hdelivered
    cases hdelivered
  · have hstate := hready c' href.1
    refine ⟨StoppedInPlay.of_state (hstate ▸ hlive), fun hI' => ?_⟩
    have hledger := env.ledger_of_refused href
    rw [hworld] at hledger
    by_cases hstopped : c.state = .stopped
    · obtain ⟨id, hid⟩ := hK hstopped
      have hstatus := hI'.status id
      rw [hledger, hI.status id, href.1.items] at hstatus
      exact hid hstatus
    · have hold := hI'.state (hstate ▸ hlive)
      rw [hledger, hI.state hstopped, hstate] at hold
      rw [hold] at hfinal
      exact absurd hfinal (by decide)

end Writes

/-! ## Runs -/

theorem noticeLaw_persisted : env.recorded.NoticeLaw env.recorded.Written
    (env.recorded.DeliveryMeets env.recorded.Written) StoppedInPlay env.Persisted where
  clock t c hK hI := by
    have hsame := env.recorded.samePlay_advanceClock t c
    have hledger := env.sameLedger_advanceClock t c
    refine ⟨?_, ?_, ?_, ?_, ?_⟩
    · unfold StoppedInPlay
      rw [hsame.state, hsame.items]
      exact hK
    · rw [hledger, hsame.items]
      exact hI.status
    · rw [hledger, hsame.checkpoint_results]
      exact hI.results
    · rw [hledger, hsame.state]
      exact hI.state
    · rw [hsame.state, hsame.items]
      exact hI.ended
  ready _ _ _ _ hI hpending := env.persists_readyItem hI hpending
  delivery _ hitem actor_role _ _ hI hopen := env.persists_deliverItem hI hitem hopen actor_role
  skip _ _ _ _ _ hI hcan hitem := env.persists_skip hI hcan hitem
  record _ passed evidence_ids _ _ _ _ _ hI hcan :=
    env.persists_recordResolution hI hcan passed evidence_ids
  change _ _ _ action message _ _ hI hbefore h := env.persists_change hI action message hbefore h
  reset new_run_id _ hK hI hfinal := env.persists_reset hK hI new_run_id hfinal

theorem persisted_init (run_id : String) (world : W) :
    env.Persisted (env.recorded.init run_id ⟨world, []⟩) :=
  ⟨fun _ => rfl, rfl, fun _ => rfl, fun _ _ _ hdelivered => nomatch hdelivered⟩

/-- In a run without staff stops, the ledger accounts for every state exactly when every write of
the run is written. -/
theorem persisted_iff_audited (run_id : String) (world : W) {ops : List Operation}
    (hops : ∀ op ∈ ops, ∀ reason, op ≠ .fail_safe_stop reason) :
    (∀ c, Passes env.recorded.perform ops (env.recorded.init run_id ⟨world, []⟩) c →
        env.Persisted c) ↔
      EachMeets env.recorded.perform env.recorded.AuditedStep ops
        (env.recorded.init run_id ⟨world, []⟩) := by
  have htracks : ∀ op c, (∀ reason, op ≠ .fail_safe_stop reason) → StoppedInPlay c →
      env.Persisted c → Raising.TracksAt StoppedInPlay env.Persisted (env.recorded.call op) c
        (env.recorded.AuditedStep op c) := fun op _ hop hK hI =>
    env.noticeLaw_persisted.call op hK hI fun reason heq => absurd heq (hop reason)
  exact passes_iff_eachMeets_of (K := StoppedInPlay)
    (fun op c hop hK hI => (htracks op c hop hK hI).kept)
    (fun op c hop hK hI => (htracks op c hop hK hI).exact)
    hops (StoppedInPlay.of_state (by simp [init])) (env.persisted_init run_id world)

/-- A run of the small scenario. -/
theorem persisted_iff_audited_sample :
    (∀ c, Passes (sample .automatic).recorded.perform [.start, .advance_to 10]
        ((sample .automatic).recorded.init "run-1" ⟨(), []⟩) c → (sample .automatic).Persisted c) ↔
      EachMeets (sample .automatic).recorded.perform (sample .automatic).recorded.AuditedStep
        [.start, .advance_to 10] ((sample .automatic).recorded.init "run-1" ⟨(), []⟩) :=
  persisted_iff_audited (sample .automatic) "run-1" () (by simp)

/-! ## A refused delivery -/

/-- The small scenario under a sink that refuses delivered events. -/
def refusing : Controller Unit :=
  { sample .automatic with
    event_sink := fun event w =>
      if event.event_type = "scenario.item.delivered" then
        (.error (.of .sqlite3Error "database is locked"), w)
      else (.ok (), w) }

/-- The write of the delivered end item fails, `advance_to` raises, and the item stays delivered
without its event while the run stays running. -/
theorem refused_delivery_unrecorded :
    let c := runAll refusing.recorded.perform [.start, .advance_to 10]
      (refusing.recorded.init "run-1" ⟨(), []⟩)
    (c.items "END-1").status = .delivered ∧ c.state = .running ∧
      (∀ event ∈ c.world.ledger, event.event_type ≠ "scenario.item.delivered") ∧
      ¬ refusing.Persisted c := by
  intro c
  have hrun : (c.items "END-1").status = .delivered ∧ c.state = .running ∧
      ∀ event ∈ c.world.ledger, event.event_type ≠ "scenario.item.delivered" := by
    decide +kernel
  -- The run itself is no longer needed.
  clear_value c
  refine ⟨hrun.1, hrun.2.1, hrun.2.2, fun hI => ?_⟩
  have hmem : sampleItem "END-1" .endMarker .automatic (.elapsed 10) 0 (by decide) (by decide) ∈
      refusing.recorded.definition.items := by decide
  have hcompleted := hI.ended _ hmem rfl hrun.1
  rw [hrun.2.1] at hcompleted
  cases hcompleted

end Controller

end NetStrike.Orchestrator
