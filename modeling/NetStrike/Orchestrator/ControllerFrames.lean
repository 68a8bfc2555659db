import NetStrike.Orchestrator.Controller

/-!
# What the parts of the controller leave unchanged

Each part of the controller is described once: `SameRun` says that nothing but the builder, the
world and the journal changed, `Adds P` that the journal grew by entries satisfying `P`, and
`OnlyItem` that no runtime but that of one item changed. The invariants of later modules use these
lemmas and do not unfold the operations.
-/

set_option autoImplicit false

namespace NetStrike.Orchestrator.Controller

open NetStrike.Foundation NetStrike.Shared

variable {W : Type}

/-- Nothing but the builder, the world and the journal differs. -/
structure SameRun (c c' : ScenarioController W) : Prop where
  run_id : c'.run_id = c.run_id
  state : c'.state = c.state
  elapsed_seconds : c'.elapsed_seconds = c.elapsed_seconds
  items : c'.items = c.items
  checkpoint_results : c'.checkpoint_results = c.checkpoint_results

theorem SameRun.refl (c : ScenarioController W) : SameRun c c := ⟨rfl, rfl, rfl, rfl, rfl⟩

theorem SameRun.trans {a b c : ScenarioController W} (h : SameRun a b) (h' : SameRun b c) :
    SameRun a c :=
  ⟨h'.run_id.trans h.run_id, h'.state.trans h.state,
    h'.elapsed_seconds.trans h.elapsed_seconds, h'.items.trans h.items,
    h'.checkpoint_results.trans h.checkpoint_results⟩

/-- No runtime, no result and no correlation field differs. -/
structure SameBoard (c c' : ScenarioController W) : Prop where
  run_id : c'.run_id = c.run_id
  elapsed_seconds : c'.elapsed_seconds = c.elapsed_seconds
  items : c'.items = c.items
  checkpoint_results : c'.checkpoint_results = c.checkpoint_results

theorem SameRun.board {c c' : ScenarioController W} (h : SameRun c c') : SameBoard c c' :=
  ⟨h.run_id, h.elapsed_seconds, h.items, h.checkpoint_results⟩

theorem SameBoard.trans {a b c : ScenarioController W} (h : SameBoard a b) (h' : SameBoard b c) :
    SameBoard a c :=
  ⟨h'.run_id.trans h.run_id, h'.elapsed_seconds.trans h.elapsed_seconds, h'.items.trans h.items,
    h'.checkpoint_results.trans h.checkpoint_results⟩

/-- The journal grew by entries that satisfy `P`. -/
def Adds (P : JournalEntry → Prop) (c c' : ScenarioController W) : Prop :=
  ∃ es, c'.journal = c.journal ++ es ∧ ∀ e ∈ es, P e

section Adds

variable {P Q : JournalEntry → Prop} {a b c : ScenarioController W}

theorem Adds.of_eq (h : b.journal = a.journal) : Adds P a b :=
  ⟨[], by rw [h, List.append_nil], fun _ he => absurd he List.not_mem_nil⟩

theorem Adds.refl (P : JournalEntry → Prop) (c : ScenarioController W) : Adds P c c :=
  Adds.of_eq rfl

theorem Adds.one {e : JournalEntry} (h : b.journal = a.journal ++ [e]) (he : P e) : Adds P a b :=
  ⟨[e], h, fun _ hx => List.mem_singleton.mp hx ▸ he⟩

theorem Adds.trans (h : Adds P a b) (h' : Adds P b c) : Adds P a c := by
  obtain ⟨es, hes, hP⟩ := h
  obtain ⟨fs, hfs, hP'⟩ := h'
  refine ⟨es ++ fs, by rw [hfs, hes, List.append_assoc], ?_⟩
  intro e he
  rcases List.mem_append.mp he with he | he
  · exact hP e he
  · exact hP' e he

theorem Adds.mono (h : Adds P a b) (hPQ : ∀ e, P e → Q e) : Adds Q a b := by
  obtain ⟨es, hes, hP⟩ := h
  exact ⟨es, hes, fun e he => hPQ e (hP e he)⟩

end Adds

/-- An emitted event of the given type. -/
def EmittedType (event_type : String) (e : JournalEntry) : Prop :=
  ∃ event, e = .emitted event ∧ event.event_type = event_type

variable (env : Controller W)

/-! ## Events -/

section Emit

variable (event_type action message status : String) (item : Option ScenarioItem)
  (actor_role : String) (data : List (String × Json)) (c : ScenarioController W)

/-- The conditions under which the event of an `_emit` call is built. -/
def EventBuilds : Prop :=
  EventBuilder.Builds env.formats env.sources
    (env.emitCall c event_type action message status item actor_role data) c.events c.world

/-- An event that is not built raises a contract error before the sink is called. -/
theorem emit_of_not_builds
    (h : ¬ env.EventBuilds event_type action message status item actor_role data c) :
    ∃ e c', env.emit event_type action message status item actor_role data c = (.error e, c') ∧
      e.type.isA .EventContractError = true ∧ SameRun c c' ∧ c'.journal = c.journal := by
  obtain ⟨e, w', hbuild, he, -⟩ := EventBuilder.build_of_not_builds env.formats env.sources h
  refine ⟨e, withBuildState (c.events, w') c, ?_, he, ⟨rfl, rfl, rfl, rfl, rfl⟩, rfl⟩
  unfold emit
  have hfocus : Raising.focus buildState withBuildState (EventBuilder.build env.formats env.sources
      (env.emitCall c event_type action message status item actor_role data)) c =
        (.error e, withBuildState (c.events, w') c) := by
    rw [Raising.focus_apply, show buildState c = (c.events, c.world) from rfl, hbuild]
  rw [Raising.gets_bind_apply, Raising.bind_of_error hfocus]

/-- An event that is built reaches the sink, whose answer is the outcome. -/
theorem emit_of_builds
    (h : env.EventBuilds event_type action message status item actor_role data c) :
    ∃ event w c', event.event_type = event_type ∧
      env.emit event_type action message status item actor_role data c =
        ((env.event_sink event w).1, c') ∧
      SameRun c c' ∧ c'.journal = c.journal ++ [.emitted event] := by
  obtain ⟨event, s, hbuild, htype⟩ : ∃ event s,
      EventBuilder.build env.formats env.sources
        (env.emitCall c event_type action message status item actor_role data)
        (buildState c) = (.ok event, s) ∧ event.event_type = event_type :=
    ⟨_, _, EventBuilder.build_of_builds env.formats env.sources h, rfl⟩
  refine ⟨event, s.2, { note (.emitted event) (withBuildState s c) with
    world := (env.event_sink event s.2).2 }, htype, ?_, ⟨rfl, rfl, rfl, rfl, rfl⟩, rfl⟩
  unfold emit
  rw [Raising.gets_bind_apply, Raising.bind_of_ok (by rw [Raising.focus_apply, hbuild]),
    Raising.modify_bind_apply, Raising.step_bind_apply, Raising.ofExcept_apply]
  rfl

/-- Whatever happens, emitting changes nothing but the builder, the world and the journal. -/
theorem emit_frame :
    SameRun c (env.emit event_type action message status item actor_role data c).2 ∧
      Adds (EmittedType event_type) c
        (env.emit event_type action message status item actor_role data c).2 := by
  by_cases h : env.EventBuilds event_type action message status item actor_role data c
  · obtain ⟨event, w, c', htype, heq, hsame, hjournal⟩ :=
      env.emit_of_builds event_type action message status item actor_role data c h
    rw [heq]
    exact ⟨hsame, Adds.one hjournal ⟨event, rfl, htype⟩⟩
  · obtain ⟨e, c', heq, -, hsame, hjournal⟩ :=
      env.emit_of_not_builds event_type action message status item actor_role data c h
    rw [heq]
    exact ⟨hsame, Adds.of_eq hjournal⟩

end Emit

/-! ## Guards -/

theorem requireState_bind {β : Type} (allowed : List RunState)
    (f : Unit → Py (ScenarioController W) β) (c : ScenarioController W) :
    (requireState allowed >>= f) c =
      if c.state ∈ allowed then f () c
      else (.error (controllerError ("operation requires state " ++
        ", ".intercalate (allowed.map RunState.value) ++ "; current state is " ++
        c.state.value)), c) :=
  Raising.require_bind_apply _ _ _ _

/-- A found item has the given id and belongs to the definition. -/
theorem find_eq_ok {item_id : String} {item : ScenarioItem} (h : env.find item_id = .ok item) :
    item.item_id = item_id ∧ item ∈ env.definition.items := by
  unfold find at h
  split at h
  · next i hi =>
      cases h
      exact ⟨by simpa using List.find?_some hi, List.mem_of_find?_eq_some hi⟩
  · cases h

/-- An id that is not found raises a `ControllerError`. -/
theorem find_eq_error {item_id : String} {e : Exn} (h : env.find item_id = .error e) :
    e.type = .ControllerError := by
  unfold find at h
  split at h
  · cases h
  · cases h
    rfl

theorem find?_item_id {items : List ScenarioItem} {item : ScenarioItem} (h : item ∈ items)
    (hnodup : (items.map ScenarioItem.item_id).Nodup) :
    items.find? (fun i => i.item_id == item.item_id) = some item := by
  induction items with
  | nil => cases h
  | cons i is ih =>
      rw [List.map_cons, List.nodup_cons] at hnodup
      rcases List.mem_cons.mp h with rfl | h
      · simp
      · have hne : i.item_id ≠ item.item_id := fun heq =>
          hnodup.1 (heq ▸ List.mem_map_of_mem h)
        rw [List.find?_cons_of_neg (by simpa using hne)]
        exact ih h hnodup.2

/-- Item ids are unique, so an item of the definition is found under its id. -/
theorem find_of_mem {item : ScenarioItem} (h : item ∈ env.definition.items) :
    env.find item.item_id = .ok item := by
  unfold find
  rw [find?_item_id h env.definition.ids_unique]

/-! ## The stop and the handlers -/

/-- A stop outside play, or without a reason, is refused and changes nothing. -/
theorem failSafeStop_refused {reason : String} {c : ScenarioController W}
    (h : ¬ (c.state ∈ playable ∧ ¬ Blank reason)) :
    ∃ e, env.failSafeStop reason c = (.error e, c) ∧ e.type = .ControllerError := by
  unfold failSafeStop
  rw [requireState_bind]
  split_ifs with hstate
  · rw [Raising.require_bind_apply, if_neg (fun hreason => h ⟨hstate, hreason⟩)]
    exact ⟨_, rfl, rfl⟩
  · exact ⟨_, rfl, rfl⟩

/-- An accepted stop sets the state, then emits. -/
theorem failSafeStop_accepted {reason : String} {c : ScenarioController W}
    (h : c.state ∈ playable ∧ ¬ Blank reason) :
    env.failSafeStop reason c =
      env.emit "scenario.run.stopped" "scenario.stop" s!"Fail-safe stop: {strip reason}" "cancelled"
        none "controller" [("reason", .str (strip reason))] (setState .stopped c) := by
  unfold failSafeStop
  rw [requireState_bind, if_pos h.1, Raising.require_bind_apply, if_pos h.2,
    Raising.modify_bind_apply]

/-- What a handler can do to the controller: nothing, or one stop. -/
inductive HandlerRan (c c' : ScenarioController W) : Prop where
  | calm (board : SameBoard c c') (state : c'.state = c.state) (journal : c'.journal = c.journal)
  | stop (board : SameBoard c c') (playing : c.state ∈ playable) (state : c'.state = .stopped)
      (journal : ∃ es, c'.journal = c.journal ++ .stateSet .stopped :: es ∧
        ∀ e ∈ es, EmittedType "scenario.run.stopped" e)

theorem HandlerRan.board {c c' : ScenarioController W} (h : HandlerRan c c') : SameBoard c c' := by
  cases h with
  | calm board _ _ => exact board
  | stop board _ _ _ => exact board

theorem HandlerRan.trans {a b c : ScenarioController W} (h : HandlerRan a b)
    (h' : HandlerRan b c) : HandlerRan a c := by
  cases h with
  | calm board state journal =>
      cases h' with
      | calm board' state' journal' =>
          exact .calm (board.trans board') (state'.trans state) (journal'.trans journal)
      | stop board' playing state' journal' =>
          rw [state] at playing
          rw [journal] at journal'
          exact .stop (board.trans board') playing state' journal'
  | stop board playing state journal =>
      cases h' with
      | calm board' state' journal' =>
          rw [← journal'] at journal
          exact .stop (board.trans board') playing (state'.trans state) journal
      | stop board' playing' state' journal' =>
          -- A stopped run refuses the second stop.
          rw [state] at playing'
          exact absurd playing' (by decide)

theorem handlerRan_failSafeStop (reason : String) (c : ScenarioController W) :
    HandlerRan c (env.failSafeStop reason c).2 := by
  by_cases h : c.state ∈ playable ∧ ¬ Blank reason
  · rw [env.failSafeStop_accepted h]
    obtain ⟨hsame, es, hes, hall⟩ := env.emit_frame "scenario.run.stopped" "scenario.stop"
      s!"Fail-safe stop: {strip reason}" "cancelled" none "controller"
      [("reason", .str (strip reason))] (setState .stopped c)
    have hset : SameBoard c (setState .stopped c) := ⟨rfl, rfl, rfl, rfl⟩
    refine .stop (hset.trans hsame.board) h.1 hsame.state ⟨es, ?_, hall⟩
    rw [hes]
    simp [setState]
  · obtain ⟨e, heq, -⟩ := env.failSafeStop_refused h
    rw [heq]
    exact .calm ⟨rfl, rfl, rfl, rfl⟩ rfl rfl

/-- A handler in execution does nothing to the controller but stop it. -/
theorem handlerRan_runHandler (code : HandlerCode W) :
    ∀ c : ScenarioController W, HandlerRan c (env.runHandler code c).2 := by
  induction code with
  | finish result => exact fun c => .calm ⟨rfl, rfl, rfl, rfl⟩ rfl rfl
  | raise e => exact fun c => .calm ⟨rfl, rfl, rfl, rfl⟩ rfl rfl
  | act effect next ih =>
      intro c
      have hact : HandlerRan c { c with world := effect c.world } :=
        .calm ⟨rfl, rfl, rfl, rfl⟩ rfl rfl
      exact hact.trans (ih (effect c.world) { c with world := effect c.world })
  | inspect next ih => exact fun c => ih c.view c
  | fail_safe_stop reason next ih =>
      intro c
      have h := ih (env.failSafeStop reason c).1 (env.failSafeStop reason c).2
      exact (env.handlerRan_failSafeStop reason c).trans h

/-! ## Delivery -/

/-- The item's own part of a delivery succeeds in the state `c`. -/
def Succeeds (item : ScenarioItem) (c : ScenarioController W) : Prop :=
  ∃ m, (env.execute item c).1 = .ok (.ok m)

/-- The handler of the item stops the run when the item is delivered in the state `c`. -/
def Stops (item : ScenarioItem) (c : ScenarioController W) : Prop :=
  (env.execute item c).2.state ≠ c.state

/-- A journal entry of an executing handler. -/
def HandlerEntry : JournalEntry → Prop
  | .statusSet _ _ => False
  | .processed _ _ => False
  | _ => True

/-- The handler part of a delivery always returns and touches no runtime. Unless it stops the run,
it leaves nothing but its invocation in the journal. -/
theorem execute_spec (item : ScenarioItem) (c : ScenarioController W) :
    ∃ outcome c', env.execute item c = (.ok outcome, c') ∧ SameBoard c c' ∧
      Adds HandlerEntry c c' ∧
      ((c'.state = c.state ∧ Adds (fun e => ∃ id, e = .handlerInvoked id) c c') ∨
        c.state ∈ playable ∧ c'.state = .stopped) := by
  unfold execute
  cases item.action_id with
  | none =>
      exact ⟨_, c, rfl, ⟨rfl, rfl, rfl, rfl⟩, Adds.refl _ c, Or.inl ⟨rfl, Adds.refl _ c⟩⟩
  | some action_id =>
      cases hh : env.handlers action_id with
      | none =>
          simp only [hh]
          exact ⟨_, c, rfl, ⟨rfl, rfl, rfl, rfl⟩, Adds.refl _ c, Or.inl ⟨rfl, Adds.refl _ c⟩⟩
      | some handler =>
          simp only [hh]
          have hnote : SameBoard c (note (.handlerInvoked item.item_id) c) := ⟨rfl, rfl, rfl, rfl⟩
          have hjournal : Adds (fun e => ∃ id, e = .handlerInvoked id) c
              (note (.handlerInvoked item.item_id) c) := Adds.one rfl ⟨_, rfl⟩
          have hentry : Adds HandlerEntry c (note (.handlerInvoked item.item_id) c) :=
            Adds.one rfl trivial
          refine ⟨_, _, rfl, ?_⟩
          have hran := env.handlerRan_runHandler (handler item c.run_id)
            (note (.handlerInvoked item.item_id) c)
          refine ⟨hnote.trans hran.board, ?_⟩
          cases hran with
          | calm board state journal =>
              exact ⟨hentry.trans (Adds.of_eq journal),
                Or.inl ⟨state, hjournal.trans (Adds.of_eq journal)⟩⟩
          | stop board playing state journal =>
              obtain ⟨es, hes, hall⟩ := journal
              refine ⟨hentry.trans ⟨_, hes, ?_⟩, Or.inr ⟨playing, state⟩⟩
              intro e he
              rcases List.mem_cons.mp he with rfl | he
              · trivial
              · obtain ⟨event, rfl, -⟩ := hall e he
                trivial

/-- A handler that does not stop the run leaves only its invocation in the journal. -/
theorem execute_calm {item : ScenarioItem} {c : ScenarioController W} (h : ¬ env.Stops item c) :
    (env.execute item c).2.state = c.state ∧
      Adds (fun e => ∃ id, e = .handlerInvoked id) c (env.execute item c).2 := by
  obtain ⟨outcome, c', heq, -, -, hcases⟩ := env.execute_spec item c
  have hstate : (env.execute item c).2.state = c.state := not_not.mp h
  refine ⟨hstate, ?_⟩
  rw [heq] at hstate ⊢
  rcases hcases with ⟨-, hadds⟩ | ⟨hplay, hstop⟩
  · exact hadds
  · rw [← hstate, hstop] at hplay
    exact absurd hplay (by decide)

/-- The successful end of a delivery: the runtime, the event and, for an end item whose event was
accepted, the completed state. -/
theorem completeItem_cases (item : ScenarioItem) (actor_role message : String)
    (data : List (String × Json)) (c : ScenarioController W) :
    ∃ c', SameRun (setItem item.item_id ⟨.delivered, some c.elapsed_seconds, none⟩ c) c' ∧
      Adds (EmittedType "scenario.item.delivered")
        (setItem item.item_id ⟨.delivered, some c.elapsed_seconds, none⟩ c) c' ∧
      ((∃ e, env.completeItem item actor_role message data c = (.error e, c')) ∨
        env.completeItem item actor_role message data c =
          (.ok (), if item.kind = .endMarker then setState .completed c' else c')) := by
  obtain ⟨hsame, hadds⟩ := env.emit_frame "scenario.item.delivered"
    (item.action_id.getD "scenario.deliver") message "success" (some item) actor_role
    (mergeMembers [("item_kind", .str item.kind.value)] data)
    (setItem item.item_id ⟨.delivered, some c.elapsed_seconds, none⟩ c)
  refine ⟨_, hsame, hadds, ?_⟩
  unfold completeItem
  rw [Raising.modify_bind_apply]
  cases hr : env.emit "scenario.item.delivered" (item.action_id.getD "scenario.deliver") message
      "success" (some item) actor_role (mergeMembers [("item_kind", .str item.kind.value)] data)
      (setItem item.item_id ⟨.delivered, some c.elapsed_seconds, none⟩ c) with
  | mk r c' =>
      cases r with
      | ok _ =>
          refine Or.inr ?_
          rw [Raising.bind_of_ok hr]
          split_ifs <;> rfl
      | error e => exact Or.inl ⟨e, Raising.bind_of_error hr⟩

/-- The failed end of a delivery: the runtime, then the event. -/
theorem failItem_frame (item : ScenarioItem) (reason : String) (data : List (String × Json))
    (c : ScenarioController W) :
    ∃ runtime : ItemRuntime, runtime.status = .failed ∧
      SameRun (setItem item.item_id runtime c) (env.failItem item reason data c).2 ∧
      Adds (EmittedType "scenario.item.failed") (setItem item.item_id runtime c)
        (env.failItem item reason data c).2 :=
  ⟨_, rfl, env.emit_frame _ _ _ _ _ _ _ _⟩

/-- A processed entry of the journal is about this item and role. -/
def ProcessedOnly (item : ScenarioItem) (actor_role : String) (e : JournalEntry) : Prop :=
  ∀ i role, e = .processed i role → i = item ∧ role = actor_role

section ProcessedOnly

variable {item : ScenarioItem} {actor_role : String} {a b : ScenarioController W}

theorem processedOnly_of_handler (h : Adds HandlerEntry a b) :
    Adds (ProcessedOnly item actor_role) a b := by
  refine h.mono ?_
  rintro e he i role rfl
  exact he.elim

theorem processedOnly_of_emitted {t : String} (h : Adds (EmittedType t) a b) :
    Adds (ProcessedOnly item actor_role) a b := by
  refine h.mono ?_
  rintro e ⟨event, rfl, -⟩ i role ⟨⟩

theorem processedOnly_note (c : ScenarioController W) :
    Adds (ProcessedOnly item actor_role) c (note (.processed item actor_role) c) := by
  refine Adds.one rfl ?_
  rintro i role ⟨⟩
  exact ⟨rfl, rfl⟩

theorem processedOnly_setItem (id : String) (runtime : ItemRuntime) (c : ScenarioController W) :
    Adds (ProcessedOnly item actor_role) c (setItem id runtime c) := by
  refine Adds.one rfl ?_
  rintro i role ⟨⟩

theorem processedOnly_setState (state : RunState) (c : ScenarioController W) :
    Adds (ProcessedOnly item actor_role) c (setState state c) := by
  refine Adds.one rfl ?_
  rintro i role ⟨⟩

end ProcessedOnly

/-- What a delivery leaves: the runtime of the item tells whether it succeeded, everything else of
the board is as before, and the run is completed only by a successful end item. -/
structure Delivery (item : ScenarioItem) (actor_role : String) (c : ScenarioController W)
    (r : Except Exn Unit) (c' : ScenarioController W) : Prop where
  run_id : c'.run_id = c.run_id
  checkpoint_results : c'.checkpoint_results = c.checkpoint_results
  others : ∀ id, id ≠ item.item_id → c'.items id = c.items id
  delivered : env.Succeeds item c → (c'.items item.item_id).status = .delivered
  failed : ¬ env.Succeeds item c → (c'.items item.item_id).status = .failed
  journal : Adds (ProcessedOnly item actor_role) c c'
  state : c'.state = (env.execute item c).2.state ∨
    c'.state = .completed ∧ item.kind = .endMarker ∧ env.Succeeds item c
  completed : r = .ok () → env.Succeeds item c → item.kind = .endMarker → c'.state = .completed

theorem deliverItem_of_ok {item : ScenarioItem} {c c₁ : ScenarioController W} {message : String}
    {data : List (String × Json)} (actor_role : String)
    (h : env.execute item c = (.ok (.ok (message, data)), c₁)) :
    env.deliverItem item actor_role c =
      env.completeItem item actor_role message data (note (.processed item actor_role) c₁) := by
  unfold deliverItem
  rw [Raising.bind_of_ok h]
  rfl

theorem deliverItem_of_error {item : ScenarioItem} {c c₁ : ScenarioController W} {reason : String}
    {data : List (String × Json)} (actor_role : String)
    (h : env.execute item c = (.ok (.error (reason, data)), c₁)) :
    env.deliverItem item actor_role c =
      env.failItem item reason data (note (.processed item actor_role) c₁) := by
  unfold deliverItem
  rw [Raising.bind_of_ok h]
  rfl

theorem delivery_of_succeeds {item : ScenarioItem} {c : ScenarioController W} (actor_role : String)
    (h : env.Succeeds item c) :
    env.Delivery item actor_role c (env.deliverItem item actor_role c).1
      (env.deliverItem item actor_role c).2 := by
  obtain ⟨outcome, c₁, hexec, hboard, hentries, -⟩ := env.execute_spec item c
  obtain ⟨⟨message, data⟩, hm⟩ := h
  rw [hexec] at hm
  obtain rfl : outcome = .ok (message, data) := by injection hm
  have hsucc : env.Succeeds item c := ⟨(message, data), by rw [hexec]⟩
  obtain ⟨c₂, hsame, hadds, hcases⟩ := env.completeItem_cases item actor_role message data
    (note (.processed item actor_role) c₁)
  have hothers : ∀ id, id ≠ item.item_id → c₂.items id = c.items id := by
    intro id hid
    rw [hsame.items]
    show Function.update c₁.items item.item_id _ id = c.items id
    rw [Function.update_of_ne hid, hboard.items]
  have hstatus : (c₂.items item.item_id).status = .delivered := by
    rw [hsame.items]
    show (Function.update c₁.items item.item_id _ item.item_id).status = .delivered
    rw [Function.update_self]
  have hjournal : Adds (ProcessedOnly item actor_role) c c₂ :=
    (((processedOnly_of_handler hentries).trans (processedOnly_note c₁)).trans
      (processedOnly_setItem _ _ _)).trans (processedOnly_of_emitted hadds)
  have hstate : c₂.state = (env.execute item c).2.state := by
    rw [hexec]
    exact hsame.state
  have hrun : c₂.run_id = c.run_id := hsame.run_id.trans hboard.run_id
  have hresults : c₂.checkpoint_results = c.checkpoint_results :=
    hsame.checkpoint_results.trans hboard.checkpoint_results
  rw [env.deliverItem_of_ok actor_role hexec]
  rcases hcases with ⟨e, heq⟩ | heq
  · rw [heq]
    exact ⟨hrun, hresults, hothers, fun _ => hstatus, fun hn => absurd hsucc hn, hjournal,
      Or.inl hstate, fun h => by cases h⟩
  · rw [heq]
    by_cases hend : item.kind = .endMarker
    · rw [if_pos hend]
      exact ⟨hrun, hresults, hothers, fun _ => hstatus, fun hn => absurd hsucc hn,
        hjournal.trans (processedOnly_setState _ _), Or.inr ⟨rfl, hend, hsucc⟩, fun _ _ _ => rfl⟩
    · rw [if_neg hend]
      exact ⟨hrun, hresults, hothers, fun _ => hstatus, fun hn => absurd hsucc hn, hjournal,
        Or.inl hstate, fun _ _ h => absurd h hend⟩

theorem delivery_of_not_succeeds {item : ScenarioItem} {c : ScenarioController W}
    (actor_role : String) (h : ¬ env.Succeeds item c) :
    env.Delivery item actor_role c (env.deliverItem item actor_role c).1
      (env.deliverItem item actor_role c).2 := by
  obtain ⟨outcome, c₁, hexec, hboard, hentries, -⟩ := env.execute_spec item c
  obtain ⟨reason, data, rfl⟩ : ∃ reason data, outcome = .error (reason, data) := by
    cases outcome with
    | ok m => exact absurd ⟨m, by rw [hexec]⟩ h
    | error m => exact ⟨m.1, m.2, rfl⟩
  rw [env.deliverItem_of_error actor_role hexec]
  obtain ⟨runtime, hfailed, hsame, hadds⟩ := env.failItem_frame item reason data
    (note (.processed item actor_role) c₁)
  refine ⟨hsame.run_id.trans hboard.run_id,
    hsame.checkpoint_results.trans hboard.checkpoint_results, ?_, fun hs => absurd hs h, ?_,
    (((processedOnly_of_handler hentries).trans (processedOnly_note c₁)).trans
      (processedOnly_setItem _ _ _)).trans (processedOnly_of_emitted hadds), Or.inl ?_,
    fun _ hs => absurd hs h⟩
  · intro id hid
    rw [hsame.items]
    show Function.update c₁.items item.item_id _ id = c.items id
    rw [Function.update_of_ne hid, hboard.items]
  · intro _
    rw [hsame.items]
    show (Function.update c₁.items item.item_id runtime item.item_id).status = .failed
    rw [Function.update_self, hfailed]
  · rw [hexec]
    exact hsame.state

/-- Every delivery is described by `Delivery`. -/
theorem delivery_deliverItem (item : ScenarioItem) (actor_role : String)
    (c : ScenarioController W) :
    env.Delivery item actor_role c (env.deliverItem item actor_role c).1
      (env.deliverItem item actor_role c).2 := by
  by_cases h : env.Succeeds item c
  · exact env.delivery_of_succeeds actor_role h
  · exact env.delivery_of_not_succeeds actor_role h

/-! ## Due items -/

theorem readyItem_frame (item : ScenarioItem) (c : ScenarioController W) :
    ∃ runtime : ItemRuntime, runtime.status = .ready ∧
      SameRun (setItem item.item_id runtime c) (env.readyItem item c).2 ∧
      Adds (EmittedType "scenario.item.ready") (setItem item.item_id runtime c)
        (env.readyItem item c).2 :=
  ⟨_, rfl, env.emit_frame _ _ _ _ _ _ _ _⟩

theorem makeDue_of_not_pending {item : ScenarioItem} {c : ScenarioController W}
    (h : (c.items item.item_id).status ≠ .pending) : env.makeDue item c = (.ok (), c) := by
  unfold makeDue
  rw [Raising.gets_bind_apply, if_pos h]
  rfl

theorem makeDue_of_waits {item : ScenarioItem} {c : ScenarioController W}
    (h : (c.items item.item_id).status = .pending) (hw : item.Waits) :
    env.makeDue item c = env.readyItem item c := by
  unfold makeDue
  rw [Raising.gets_bind_apply, if_neg (not_not.mpr h), if_pos hw]

theorem makeDue_of_automatic {item : ScenarioItem} {c : ScenarioController W}
    (h : (c.items item.item_id).status = .pending) (hw : ¬ item.Waits) :
    env.makeDue item c = env.deliverItem item "controller" c := by
  unfold makeDue
  rw [Raising.gets_bind_apply, if_neg (not_not.mpr h), if_neg hw]

/-- Only the clock, the world and nothing else moves. -/
structure SamePlay (c c' : ScenarioController W) : Prop where
  run_id : c'.run_id = c.run_id
  state : c'.state = c.state
  items : c'.items = c.items
  checkpoint_results : c'.checkpoint_results = c.checkpoint_results
  journal : c'.journal = c.journal

instance : Std.Refl (SamePlay (W := W)) := ⟨fun _ => ⟨rfl, rfl, rfl, rfl, rfl⟩⟩

instance : IsTrans (ScenarioController W) SamePlay :=
  ⟨fun _ _ _ h h' => ⟨h'.run_id.trans h.run_id, h'.state.trans h.state, h'.items.trans h.items,
    h'.checkpoint_results.trans h.checkpoint_results, h'.journal.trans h.journal⟩⟩

theorem samePlay_advanceClock (elapsed_seconds : Int) (c : ScenarioController W) :
    SamePlay c (env.advanceClock elapsed_seconds c).2 := by
  have hkeeps : (env.advanceClock elapsed_seconds).Keeps SamePlay := by
    refine Raising.Keeps.bind (Raising.Keeps.modify fun _ => ⟨rfl, rfl, rfl, rfl, rfl⟩) fun _ => ?_
    refine Raising.Keeps.forEach fun observer _ => ?_
    exact Raising.Keeps.bind (Raising.Keeps.step fun _ => ⟨rfl, rfl, rfl, rfl, rfl⟩) fun r =>
      Raising.Keeps.ofExcept r
  exact hkeeps c

/-! ## Skips -/

/-- What a skip needs. -/
structure CanSkip (item_id reason : String) (c : ScenarioController W) : Prop where
  playing : c.state ∈ playable
  reason : ¬ Blank reason
  known : ∃ item, env.find item_id = .ok item
  isOpen : (c.items item_id).status.Open

/-- A refused skip raises a `ControllerError` and changes nothing. -/
theorem skip_refused {item_id reason : String} {c : ScenarioController W}
    (h : ¬ env.CanSkip item_id reason c) :
    ∃ e, env.skip item_id reason c = (.error e, c) ∧ e.type = .ControllerError := by
  unfold skip
  rw [requireState_bind]
  split_ifs with hstate
  · rw [Raising.require_bind_apply]
    by_cases hreason : Blank reason
    · rw [if_neg (not_not.mpr hreason)]
      exact ⟨_, rfl, rfl⟩
    · rw [if_pos hreason, Raising.ofExcept_bind_apply]
      cases hf : env.find item_id with
      | error e => exact ⟨e, rfl, env.find_eq_error hf⟩
      | ok item =>
          dsimp only
          rw [Raising.require_bind_apply, if_neg (fun hopen =>
            h ⟨hstate, hreason, ⟨item, hf⟩, hopen⟩)]
          exact ⟨_, rfl, rfl⟩
  · exact ⟨_, rfl, rfl⟩

/-- An accepted skip sets the status, then emits. -/
theorem skip_accepted {item_id reason : String} {c : ScenarioController W}
    (h : env.CanSkip item_id reason c) :
    ∃ (item : ScenarioItem) (runtime : ItemRuntime), env.find item_id = .ok item ∧
      runtime.status = .skipped ∧
      env.skip item_id reason c =
        env.emit "scenario.item.skipped" "scenario.skip" s!"{item_id} skipped: {strip reason}"
          "skipped" (some item) "facilitator"
          [("item_kind", .str item.kind.value), ("reason", .str (strip reason))]
          (setItem item_id runtime c) := by
  obtain ⟨item, hitem⟩ := h.known
  refine ⟨item, { c.items item_id with status := .skipped, error := some (strip reason) },
    hitem, rfl, ?_⟩
  unfold skip
  rw [requireState_bind, if_pos h.playing, Raising.require_bind_apply, if_pos h.reason,
    Raising.ofExcept_bind_apply, hitem]
  dsimp only
  rw [Raising.require_bind_apply, if_pos h.isOpen, Raising.modify_bind_apply]

theorem skip_frame {item_id reason : String} {c : ScenarioController W}
    (h : env.CanSkip item_id reason c) :
    ∃ runtime : ItemRuntime, runtime.status = .skipped ∧
      SameRun (setItem item_id runtime c) (env.skip item_id reason c).2 ∧
      Adds (EmittedType "scenario.item.skipped") (setItem item_id runtime c)
        (env.skip item_id reason c).2 := by
  obtain ⟨item, runtime, -, hskipped, heq⟩ := env.skip_accepted h
  rw [heq]
  exact ⟨runtime, hskipped, env.emit_frame _ _ _ _ _ _ _ _⟩

/-! ## Checkpoint resolution -/

/-- What a resolution needs before it changes anything. -/
structure CanResolve (checkpoint_id reason : String) (checks : Option Json) (item : ScenarioItem)
    (c : ScenarioController W) : Prop where
  playing : c.state ∈ [RunState.running, .paused]
  found : env.find checkpoint_id = .ok item
  kind : item.kind = .checkpoint
  isOpen : (c.items checkpoint_id).status.Open
  reason : ¬ Blank reason
  checks : ChecksValid checks

theorem checkResolution_accepted {checkpoint_id reason : String} {checks : Option Json}
    {item : ScenarioItem} {c : ScenarioController W}
    (h : env.CanResolve checkpoint_id reason checks item c) :
    env.checkResolution checkpoint_id reason checks c = (.ok item, c) := by
  unfold checkResolution
  rw [requireState_bind, if_pos h.playing, Raising.ofExcept_bind_apply, h.found]
  dsimp only
  rw [Raising.require_bind_apply, if_pos h.kind, Raising.require_bind_apply, if_pos h.isOpen,
    Raising.require_bind_apply, if_pos h.reason, Raising.require_bind_apply, if_pos h.checks]
  rfl

theorem checkResolution_refused {checkpoint_id reason : String} {checks : Option Json}
    {c : ScenarioController W} (h : ∀ item, ¬ env.CanResolve checkpoint_id reason checks item c) :
    ∃ e, env.checkResolution checkpoint_id reason checks c = (.error e, c) ∧
      e.type = .ControllerError := by
  unfold checkResolution
  rw [requireState_bind]
  split_ifs with hstate
  · rw [Raising.ofExcept_bind_apply]
    cases hf : env.find checkpoint_id with
    | error e => exact ⟨e, rfl, env.find_eq_error hf⟩
    | ok item =>
        simp only [Raising.require_bind_apply]
        by_cases hkind : item.kind = .checkpoint
        · rw [if_pos hkind]
          by_cases hopen : (c.items checkpoint_id).status.Open
          · rw [if_pos hopen]
            by_cases hreason : Blank reason
            · rw [if_neg (not_not.mpr hreason)]
              exact ⟨_, rfl, rfl⟩
            · rw [if_pos hreason, if_neg (fun hchecks =>
                h item ⟨hstate, hf, hkind, hopen, hreason, hchecks⟩)]
              exact ⟨_, rfl, rfl⟩
          · rw [if_neg hopen]
            exact ⟨_, rfl, rfl⟩
        · rw [if_neg hkind]
          exact ⟨_, rfl, rfl⟩
  · exact ⟨_, rfl, rfl⟩

/-- A refused resolution raises a `ControllerError` and changes nothing. -/
theorem resolveCheckpoint_refused {checkpoint_id reason : String} {checks : Option Json}
    {c : ScenarioController W} (h : ∀ item, ¬ env.CanResolve checkpoint_id reason checks item c)
    (passed : Bool) (evidence_ids : List String) :
    ∃ e, env.resolveCheckpoint checkpoint_id passed evidence_ids reason checks c = (.error e, c) ∧
      e.type = .ControllerError := by
  obtain ⟨e, heq, he⟩ := env.checkResolution_refused h
  exact ⟨e, Raising.bind_of_error heq, he⟩

/-- An accepted resolution records the result, emits it and processes the branches. -/
theorem resolveCheckpoint_accepted {checkpoint_id reason : String} {checks : Option Json}
    {item : ScenarioItem} {c : ScenarioController W}
    (h : env.CanResolve checkpoint_id reason checks item c) (passed : Bool)
    (evidence_ids : List String) :
    env.resolveCheckpoint checkpoint_id passed evidence_ids reason checks c =
      (env.emitResolution item checkpoint_id passed evidence_ids reason checks >>= fun _ =>
        Raising.forEach (env.resolveBranch checkpoint_id (resultOf passed))
          (env.branches checkpoint_id)) (recordResult checkpoint_id (resultOf passed) c) := by
  unfold resolveCheckpoint
  rw [Raising.bind_of_ok (env.checkResolution_accepted h), Raising.modify_bind_apply]

theorem emitResolution_frame (item : ScenarioItem) (checkpoint_id : String) (passed : Bool)
    (evidence_ids : List String) (reason : String) (checks : Option Json)
    (c : ScenarioController W) :
    SameRun c (env.emitResolution item checkpoint_id passed evidence_ids reason checks c).2 ∧
      Adds (EmittedType "scenario.checkpoint.resolved") c
        (env.emitResolution item checkpoint_id passed evidence_ids reason checks c).2 :=
  env.emit_frame _ _ _ _ _ _ _ _

theorem results_makeDue (item : ScenarioItem) (c : ScenarioController W) :
    (env.makeDue item c).2.checkpoint_results = c.checkpoint_results := by
  by_cases hpending : (c.items item.item_id).status = .pending
  · by_cases hw : item.Waits
    · rw [env.makeDue_of_waits hpending hw]
      obtain ⟨runtime, -, hsame, -⟩ := env.readyItem_frame item c
      exact hsame.checkpoint_results
    · rw [env.makeDue_of_automatic hpending hw]
      exact (env.delivery_deliverItem item "controller" c).checkpoint_results
  · rw [env.makeDue_of_not_pending hpending]

theorem results_skip (item_id reason : String) (c : ScenarioController W) :
    (env.skip item_id reason c).2.checkpoint_results = c.checkpoint_results := by
  by_cases hcan : env.CanSkip item_id reason c
  · obtain ⟨runtime, -, hsame, -⟩ := env.skip_frame hcan
    exact hsame.checkpoint_results
  · obtain ⟨e, heq, -⟩ := env.skip_refused hcan
    rw [heq]

/-- A turn of the resolution loop changes no result. -/
theorem results_resolveBranch (checkpoint_id : String) (result : CheckpointOutcome)
    (branch : ScenarioItem) (c : ScenarioController W) :
    (env.resolveBranch checkpoint_id result branch c).2.checkpoint_results =
      c.checkpoint_results := by
  unfold resolveBranch
  rw [Raising.gets_bind_apply]
  split_ifs
  · rfl
  · exact env.results_makeDue branch c
  · exact env.results_skip branch.item_id s!"opposite {checkpoint_id} branch selected" c

/-! ## Statuses move forward -/

/-- `after` is `before`, or comes later in the life of an item. -/
def Later : ItemStatus → ItemStatus → Prop
  | .pending, _ => True
  | .ready, after => after ≠ .pending
  | before, after => after = before

theorem Later.refl (s : ItemStatus) : Later s s := by
  cases s <;> simp [Later]

theorem Later.trans {a b c : ItemStatus} (h : Later a b) (h' : Later b c) : Later a c := by
  cases a <;> cases b <;> cases c <;> simp_all [Later]

theorem later_of_open {a b : ItemStatus} (h : a.Open) (hb : b ≠ .pending) : Later a b := by
  rcases h with rfl | rfl
  · trivial
  · exact hb

/-- No item moves back. -/
def Forward (c c' : ScenarioController W) : Prop :=
  ∀ id, Later (c.items id).status (c'.items id).status

instance : Std.Refl (Forward (W := W)) := ⟨fun _ _ => Later.refl _⟩

instance : IsTrans (ScenarioController W) Forward := ⟨fun _ _ _ h h' id => (h id).trans (h' id)⟩

theorem Forward.of_items {c c' : ScenarioController W} (h : c'.items = c.items) : Forward c c' := by
  intro id
  rw [h]
  exact Later.refl _

theorem Forward.setItem {c c' : ScenarioController W} {id : String} {runtime : ItemRuntime}
    (hopen : (c.items id).status.Open) (hr : runtime.status ≠ .pending)
    (h : c'.items = (setItem id runtime c).items) : Forward c c' := by
  intro j
  rw [h]
  show Later _ (Function.update c.items id runtime j).status
  by_cases hj : j = id
  · rw [hj, Function.update_self]
    exact later_of_open hopen hr
  · rw [Function.update_of_ne hj]
    exact Later.refl _

/-- A delivery of an open item moves it forward. -/
theorem forward_deliverItem {item : ScenarioItem} {c : ScenarioController W} (actor_role : String)
    (hopen : (c.items item.item_id).status.Open) :
    Forward c (env.deliverItem item actor_role c).2 := by
  have hd := env.delivery_deliverItem item actor_role c
  intro id
  by_cases hid : id = item.item_id
  · rw [hid]
    by_cases hsucc : env.Succeeds item c
    · exact later_of_open hopen (by rw [hd.delivered hsucc]; decide)
    · exact later_of_open hopen (by rw [hd.failed hsucc]; decide)
  · rw [hd.others id hid]
    exact Later.refl _

theorem forward_makeDue (item : ScenarioItem) : (env.makeDue item).Keeps Forward := by
  intro c
  by_cases hpending : (c.items item.item_id).status = .pending
  · by_cases hw : item.Waits
    · rw [env.makeDue_of_waits hpending hw]
      obtain ⟨runtime, hready, hsame, -⟩ := env.readyItem_frame item c
      exact Forward.setItem (Or.inl hpending) (by rw [hready]; decide) hsame.items
    · rw [env.makeDue_of_automatic hpending hw]
      exact env.forward_deliverItem "controller" (Or.inl hpending)
  · rw [env.makeDue_of_not_pending hpending]
    exact Std.Refl.refl c

theorem forward_skip (item_id reason : String) : (env.skip item_id reason).Keeps Forward := by
  intro c
  by_cases ha : env.CanSkip item_id reason c
  · obtain ⟨runtime, hskipped, hsame, -⟩ := env.skip_frame ha
    exact Forward.setItem ha.isOpen (by rw [hskipped]; decide) hsame.items
  · obtain ⟨e, heq, -⟩ := env.skip_refused ha
    rw [heq]
    exact Std.Refl.refl c

theorem forward_resolveBranch (checkpoint_id : String) (result : CheckpointOutcome)
    (branch : ScenarioItem) :
    (env.resolveBranch checkpoint_id result branch).Keeps Forward := by
  intro c
  unfold resolveBranch
  rw [Raising.gets_bind_apply]
  split_ifs
  · exact Std.Refl.refl c
  · exact env.forward_makeDue branch c
  · exact env.forward_skip _ _ c

theorem forward_resolveLoop (checkpoint_id : String) (result : CheckpointOutcome)
    (bs : List ScenarioItem) :
    (Raising.forEach (env.resolveBranch checkpoint_id result) bs).Keeps Forward :=
  Raising.Keeps.forEach fun branch _ => env.forward_resolveBranch checkpoint_id result branch

theorem mem_branches {checkpoint_id : String} {item : ScenarioItem} :
    item ∈ env.branches checkpoint_id ↔
      item ∈ env.definition.items ∧ item.isBranchOf checkpoint_id = true := by
  simp [branches, sortItems]

theorem mem_items_of_preExercise {item : ScenarioItem} (h : item ∈ env.preExercise) :
    item ∈ env.definition.items := by
  simp only [preExercise, sortItems, List.mem_insertionSort, List.mem_filter] at h
  exact h.1

theorem mem_items_of_due {item : ScenarioItem} {t : Int} {c : ScenarioController W}
    (h : item ∈ env.due t c) : item ∈ env.definition.items := by
  simp only [due, sortItems, List.mem_insertionSort, List.mem_filter] at h
  exact h.1

end NetStrike.Orchestrator.Controller
