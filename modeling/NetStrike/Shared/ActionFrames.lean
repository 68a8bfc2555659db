import NetStrike.Shared.Actions

/-!
# What the parts of an adapter leave unchanged

`Outside es` describes a part of a call in which no handler runs: nothing but the builder, the world,
the stop and the journal changes, and the journal grows by `es`. Collaborators stop runs only through
`activate_fail_safe`, so the runs stopped and the cancel events set are those that `es` says were
latched. `Outside` is proved once for the collaborators, by induction on the depth of nested calls
and on their code; everything else follows by composition.
-/

set_option autoImplicit false

namespace NetStrike.Shared

open NetStrike.Foundation

/-- An entry that is neither the start of a call nor the start of a handler. -/
def ActionEntry.Outer : ActionEntry → Prop
  | .called _ => False
  | .invoked _ _ => False
  | _ => True

variable {W S : Type}

/-- The journal grew by `es`, and the runs stopped are those that were and those latched in `es`. -/
structure Observes (es : List ActionEntry) (a a' : SafeActionAdapter W S) : Prop where
  journal : a'.journal = a.journal ++ es
  stopped : ∀ run, run ∈ a'.stopped_runs ↔ run ∈ a.stopped_runs ∨ .latched run ∈ es

/-- A running action after the stops of `es`. -/
def marked (es : List ActionEntry) (action : RunningAction) : RunningAction :=
  { action with cancelled := action.cancelled || decide (.latched action.run_id ∈ es) }

/-- No handler ran: only the builder, the world, the stop and the journal changed. -/
structure Outside (es : List ActionEntry) (a a' : SafeActionAdapter W S) : Prop
    extends Observes es a a' where
  entries : ∀ e ∈ es, e.Outer
  context : a'.events.context = a.events.context
  results : a'.results = a.results
  fingerprints : a'.fingerprints = a.fingerprints
  executions : a'.executions = a.executions
  running : ∀ q, a'.running.lookup q = (a.running.lookup q).map (marked es)

theorem Observes.refl (a : SafeActionAdapter W S) : Observes [] a a :=
  ⟨(List.append_nil _).symm, fun run => by simp⟩

theorem Observes.trans {es fs : List ActionEntry} {a b c : SafeActionAdapter W S}
    (h : Observes es a b) (h' : Observes fs b c) : Observes (es ++ fs) a c := by
  refine ⟨by rw [h'.journal, h.journal, List.append_assoc], fun run => ?_⟩
  rw [h'.stopped, h.stopped, List.mem_append, or_assoc]

theorem marked_nil (action : RunningAction) : marked [] action = action := by
  simp [marked]

theorem marked_marked (es fs : List ActionEntry) (action : RunningAction) :
    marked fs (marked es action) = marked (es ++ fs) action := by
  unfold marked
  congr 1
  rw [Bool.eq_iff_iff]
  simp [or_assoc]

theorem Outside.of_same {a a' : SafeActionAdapter W S} (hjournal : a'.journal = a.journal)
    (hstopped : a'.stopped_runs = a.stopped_runs)
    (hcontext : a'.events.context = a.events.context) (hresults : a'.results = a.results)
    (hfingerprints : a'.fingerprints = a.fingerprints)
    (hexecutions : a'.executions = a.executions) (hrunning : a'.running = a.running) :
    Outside [] a a' where
  journal := by rw [hjournal, List.append_nil]
  stopped := fun run => by simp [hstopped]
  entries := fun e he => absurd he List.not_mem_nil
  context := hcontext
  results := hresults
  fingerprints := hfingerprints
  executions := hexecutions
  running := fun q => by
    have hid : marked [] = id := funext marked_nil
    rw [hrunning, hid, Option.map_id, id]

theorem Outside.refl (a : SafeActionAdapter W S) : Outside [] a a :=
  Outside.of_same rfl rfl rfl rfl rfl rfl rfl

theorem Outside.trans {es fs : List ActionEntry} {a b c : SafeActionAdapter W S}
    (h : Outside es a b) (h' : Outside fs b c) : Outside (es ++ fs) a c where
  toObserves := h.toObserves.trans h'.toObserves
  entries := fun e he => (List.mem_append.mp he).elim (h.entries e) (h'.entries e)
  context := h'.context.trans h.context
  results := h'.results.trans h.results
  fingerprints := h'.fingerprints.trans h.fingerprints
  executions := h'.executions.trans h.executions
  running := fun q => by
    rw [h'.running, h.running, Option.map_map]
    congr 1
    funext action
    exact marked_marked es fs action

/-- One observation that latches nothing. -/
theorem Outside.note {e : ActionEntry} (he : e.Outer) (hl : ∀ run, e ≠ .latched run)
    (a : SafeActionAdapter W S) : Outside [e] a (Adapter.note e a) where
  journal := rfl
  stopped := fun run => by
    have hne : ActionEntry.latched run ≠ e := fun h => hl run h.symm
    simp [Adapter.note, hne]
  entries := fun e' he' => List.mem_singleton.mp he' ▸ he
  context := rfl
  results := rfl
  fingerprints := rfl
  executions := rfl
  running := fun q => by
    have hid : marked [e] = id := by
      funext action
      have hne : ActionEntry.latched action.run_id ≠ e := fun h => hl _ h.symm
      simp [marked, hne]
    rw [hid, Option.map_id, id]
    rfl

/-- Looking up in a list whose values were mapped. -/
theorem lookup_mapValues {α β : Type} (f : α → β) (entries : List (String × α)) (q : String) :
    (entries.map fun entry => (entry.1, f entry.2)).lookup q = (entries.lookup q).map f := by
  induction entries with
  | nil => rfl
  | cons entry entries ih =>
      obtain ⟨k, v⟩ := entry
      by_cases hk : q = k
      · simp [hk]
      · have hbeq : (q == k) = false := beq_eq_false_iff_ne.mpr hk
        simp [List.lookup_cons, hbeq, ih]

/-- A stop latches its run and sets the cancel events of its running actions. -/
theorem outside_latch (run_id : String) (a : SafeActionAdapter W S) :
    Outside [.latched run_id] a (Adapter.latch run_id a) where
  journal := rfl
  stopped := fun run => by
    simp [Adapter.latch, Finset.mem_insert, or_comm]
  entries := fun e he => List.mem_singleton.mp he ▸ trivial
  context := rfl
  results := rfl
  fingerprints := rfl
  executions := rfl
  running := fun q => by
    have hmarked : marked [.latched run_id] = fun action : RunningAction =>
        { action with cancelled := action.cancelled || action.run_id == run_id } := by
      funext action
      unfold marked
      congr 1
      rw [Bool.eq_iff_iff]
      simp
    rw [hmarked]
    exact lookup_mapValues (fun action : RunningAction =>
      { action with cancelled := action.cancelled || action.run_id == run_id }) a.running q

/-- What a part of a call without a handler leaves of the state before. -/
structure Beside (a a' : SafeActionAdapter W S) : Prop where
  outside : ∃ es, Outside es a a'
  simulation : a'.simulation = a.simulation

instance : Std.Refl (Beside (W := W) (S := S)) := ⟨fun a => ⟨⟨[], Outside.refl a⟩, rfl⟩⟩

theorem Beside.trans {a b c : SafeActionAdapter W S} (h : Beside a b) (h' : Beside b c) :
    Beside a c := by
  obtain ⟨es, hes⟩ := h.outside
  obtain ⟨fs, hfs⟩ := h'.outside
  exact ⟨⟨es ++ fs, hes.trans hfs⟩, h'.simulation.trans h.simulation⟩

instance : IsTrans (SafeActionAdapter W S) Beside := ⟨fun _ _ _ => Beside.trans⟩

namespace Adapter

variable (env : Adapter W S)

/-! ## Collaborators -/

theorem beside_of_world (w : W) (a : SafeActionAdapter W S) : Beside a { a with world := w } :=
  ⟨⟨[], Outside.of_same rfl rfl rfl rfl rfl rfl rfl⟩, rfl⟩

theorem outside_of_simulation (w : W) (s : S) (a : SafeActionAdapter W S) :
    Outside [] a { a with world := w, simulation := s } :=
  Outside.of_same rfl rfl rfl rfl rfl rfl rfl

/-- Code that sees the world only leaves everything else to the stops it makes. -/
theorem beside_onWorld {α : Type} {nested : Nested W S}
    (hnested : ∀ run_id operator reason, (nested run_id operator reason).Keeps Beside)
    (code : Callback W α) : (onWorld nested code).Keeps Beside := by
  show ∀ a, Beside a (runCallback _ _ nested code a).2
  induction code with
  | finish result => exact fun a => Std.Refl.refl a
  | act effect next ih => exact fun a => (beside_of_world _ a).trans (ih (effect a.world) _)
  | is_set request_id next ih => exact fun a => ih (isSet request_id a) a
  | activate_fail_safe run_id operator reason next ih =>
      exact fun a => (hnested run_id operator reason a).trans (ih _ _)

/-- A handler changes the world and the simulation, and may stop runs. -/
theorem outside_onSimulation {α : Type} {nested : Nested W S}
    (hnested : ∀ run_id operator reason, (nested run_id operator reason).Keeps Beside)
    (code : Callback (W × S) α) (a : SafeActionAdapter W S) :
    ∃ es, Outside es a (onSimulation nested code a).2 := by
  show ∃ es, Outside es a (runCallback _ _ nested code a).2
  induction code generalizing a with
  | finish result => exact ⟨[], Outside.refl a⟩
  | act effect next ih =>
      obtain ⟨es, hes⟩ := ih (effect (a.world, a.simulation)) { a with
        world := (effect (a.world, a.simulation)).1
        simulation := (effect (a.world, a.simulation)).2 }
      exact ⟨[] ++ es, (outside_of_simulation _ _ a).trans hes⟩
  | is_set request_id next ih => exact ih (isSet request_id a) a
  | activate_fail_safe run_id operator reason next ih =>
      obtain ⟨es, hes⟩ := (hnested run_id operator reason a).outside
      obtain ⟨fs, hfs⟩ := ih (nested run_id operator reason a).1 (nested run_id operator reason a).2
      exact ⟨es ++ fs, hes.trans hfs⟩

/-! ## Audit and stop -/

/-- The event builder keeps its context. -/
theorem build_context {formats : FormatChecker} {sources : EventSources W} (call : EventCall)
    (b : EventBuilder) (w : W) :
    (EventBuilder.build formats sources call (b, w)).2.1.context = b.context := by
  by_cases h : EventBuilder.Builds formats sources call b w
  · rw [EventBuilder.build_of_builds formats sources h]
  · obtain ⟨e, w', heq, -, -⟩ := EventBuilder.build_of_not_builds formats sources h
    rw [heq]

/-- Building an event changes only the builder and the world. -/
theorem beside_build (call : EventCall) :
    (Raising.focus (fun a : SafeActionAdapter W S => (a.events, a.world))
      (fun s a => { a with events := s.1, world := s.2 })
      (EventBuilder.build env.formats env.sources call)).Keeps Beside := by
  intro a
  exact ⟨⟨[], Outside.of_same rfl rfl (build_context call a.events a.world) rfl rfl rfl rfl⟩, rfl⟩

section Emit

variable {nested : Nested W S}
  (hnested : ∀ run_id operator reason, (nested run_id operator reason).Keeps Beside)
  (request : JsonObject) (event_type outcome message phase : String) (within_allowlist : Bool)
  (data : JsonObject)

include hnested

theorem beside_emitWith :
    (env.emitWith nested request event_type outcome message phase within_allowlist
      data).Keeps Beside := by
  unfold emitWith
  refine Raising.Keeps.bind (env.beside_build _) fun event => ?_
  refine Raising.Keeps.bind (beside_onWorld hnested _) fun answer => ?_
  refine Raising.Keeps.bind (Raising.Keeps.ofExcept answer) fun _ => ?_
  exact Raising.Keeps.modify fun a =>
    ⟨⟨_, Outside.note (e := .audited request event_type) trivial (fun _ h => by cases h) a⟩, rfl⟩

/-- An emission that returns ends with the accepted event. -/
theorem emitWith_eq_ok {a a' : SafeActionAdapter W S}
    (h : env.emitWith nested request event_type outcome message phase within_allowlist data a =
      (.ok (), a')) :
    ∃ es, Outside (es ++ [.audited request event_type]) a a' ∧ a'.simulation = a.simulation := by
  unfold emitWith at h
  obtain ⟨event, a₁, hbuild, h⟩ := Raising.bind_eq_ok h
  obtain ⟨answer, a₂, hsink, h⟩ := Raising.bind_eq_ok h
  obtain ⟨_, a₃, hanswer, h⟩ := Raising.bind_eq_ok h
  have hb := env.beside_build (emitCall request event_type outcome message phase within_allowlist
    data) a
  rw [hbuild] at hb
  have hs := beside_onWorld hnested (env.event_sink event) a₁
  rw [hsink] at hs
  rw [Raising.ofExcept_apply] at hanswer
  injection hanswer with _ ha₃
  rw [Raising.modify_apply] at h
  injection h with _ ha'
  obtain ⟨es, hes⟩ := (hb.trans hs).outside
  have hnote := Outside.note (e := .audited request event_type) trivial (fun _ h => by cases h) a₂
  subst ha₃
  subst ha'
  exact ⟨es, hes.trans hnote, (hb.trans hs).simulation⟩

end Emit

section Activate

variable {nested : Nested W S}
  (hnested : ∀ run_id operator reason, (nested run_id operator reason).Keeps Beside)
  (run_id : String) (operator : JsonObject) (reason : String)

/-- A stop without a control role or without a reason is refused and changes nothing. -/
theorem activateWith_refused (nested : Nested W S) (a : SafeActionAdapter W S)
    (h : ¬ (operator.text "role" ∈ controlRoles ∧ ¬ Blank reason)) :
    ∃ e, env.activateWith nested run_id operator reason a = (.error e, a) ∧
      e.type = .ActionContractError := by
  unfold activateWith
  rw [Raising.require_bind_apply]
  split_ifs with hrole
  · rw [Raising.require_bind_apply, if_neg fun hreason => h ⟨hrole, hreason⟩]
    exact ⟨_, rfl, rfl⟩
  · exact ⟨_, rfl, rfl⟩

include hnested

/-- An accepted stop latches its run first, whatever its own audit does. -/
theorem activateWith_accepted (a : SafeActionAdapter W S)
    (h : operator.text "role" ∈ controlRoles ∧ ¬ Blank reason) :
    ∃ es, Outside (.latched run_id :: es) a
        (env.activateWith nested run_id operator reason a).2 ∧
      (env.activateWith nested run_id operator reason a).2.simulation = a.simulation := by
  unfold activateWith
  rw [Raising.require_bind_apply, if_pos h.1, Raising.require_bind_apply, if_pos h.2,
    Raising.step_bind_apply, Raising.gets_bind_apply, Raising.modify_bind_apply]
  have hlatch := outside_latch run_id { a with world := (env.uuid4 a.world).2 }
  have hworld : Outside [] a { a with world := (env.uuid4 a.world).2 } :=
    Outside.of_same rfl rfl rfl rfl rfl rfl rfl
  have hkeeps : ∀ m : Py (SafeActionAdapter W S) Unit, m.Keeps Beside → ∀ n : Nat,
      (m >>= fun _ => (pure n : Py (SafeActionAdapter W S) Nat)).Keeps Beside :=
    fun m hm n => Raising.Keeps.bind hm fun _ => Raising.Keeps.pure n
  obtain ⟨⟨es, hes⟩, hsimulation⟩ := hkeeps _ (env.beside_emitWith hnested
    (stopRequest (env.uuid4 a.world).1 run_id operator) "action.fail_safe.activated" "success"
    "Fail-safe stop activated" "control" true _) _ (latch run_id { a with
      world := (env.uuid4 a.world).2 })
  exact ⟨es, (hworld.trans hlatch).trans hes, hsimulation⟩

theorem beside_activateWith : (env.activateWith nested run_id operator reason).Keeps Beside := by
  intro a
  by_cases h : operator.text "role" ∈ controlRoles ∧ ¬ Blank reason
  · obtain ⟨es, hes, hsimulation⟩ := env.activateWith_accepted hnested run_id operator reason a h
    exact ⟨⟨_, hes⟩, hsimulation⟩
  · obtain ⟨e, heq, -⟩ := env.activateWith_refused run_id operator reason nested a h
    rw [heq]
    exact Std.Refl.refl a

end Activate

/-- Nested stops, at any depth. -/
theorem beside_activateAt (depth : Nat) (run_id : String) (operator : JsonObject)
    (reason : String) : (env.activateAt depth run_id operator reason).Keeps Beside := by
  induction depth generalizing run_id operator reason with
  | zero => exact Raising.Keeps.raise _
  | succ depth ih => exact env.beside_activateWith ih run_id operator reason

theorem beside_nested (run_id : String) (operator : JsonObject) (reason : String) :
    (env.nested run_id operator reason).Keeps Beside :=
  env.beside_activateAt env.depth run_id operator reason

theorem beside_emit (request : JsonObject) (event_type outcome message phase : String)
    (within_allowlist : Bool) (data : JsonObject) :
    (env.emit request event_type outcome message phase within_allowlist data).Keeps Beside :=
  env.beside_emitWith env.beside_nested request event_type outcome message phase within_allowlist
    data

theorem emit_eq_ok {request : JsonObject} {event_type outcome message phase : String}
    {within_allowlist : Bool} {data : JsonObject} {a a' : SafeActionAdapter W S}
    (h : env.emit request event_type outcome message phase within_allowlist data a =
      (.ok (), a')) :
    ∃ es, Outside (es ++ [.audited request event_type]) a a' ∧ a'.simulation = a.simulation :=
  env.emitWith_eq_ok env.beside_nested request event_type outcome message phase within_allowlist
    data h

/-! ## Results and denials -/

/-- What a result needs to pass its own validation. -/
structure ResultAccepted (request : JsonObject) (status : ResultStatus) (successful : Bool)
    (started_at : DateTime) (effects : List String) (rollback : Rollback)
    (error_code : Option String) (message : String) (a : SafeActionAdapter W S) : Prop where
  started : started_at.aware = true
  finished : (env.sources.clock a.world).1.aware = true
  wellFormed : (resultRecord request status successful started_at.isoformat
    (env.sources.clock a.world).1.isoformat effects rollback error_code message).WellFormed
    env.formats

section Result

variable {request : JsonObject} {status : ResultStatus} {successful : Bool} {started_at : DateTime}
  {effects : List String} {rollback : Rollback} {error_code : Option String} {message : String}
  {a : SafeActionAdapter W S}

theorem result_of_accepted (h : env.ResultAccepted request status successful started_at effects
      rollback error_code message a) :
    env.result request status successful started_at effects rollback error_code message a =
      (.ok (resultRecord request status successful started_at.isoformat
        (env.sources.clock a.world).1.isoformat effects rollback error_code message),
        { a with world := (env.sources.clock a.world).2 }) := by
  have hvalid := (validate_result_iff env.formats _).mpr h.wellFormed
  simp only [result, timestamp, Raising.ofExcept_bind_apply, Raising.step_bind_apply]
  rw [if_pos h.started]
  dsimp only
  rw [if_pos h.finished]
  dsimp only
  rw [hvalid]
  rfl

/-- A result that is not accepted is not returned. -/
theorem result_of_not_accepted (h : ¬ env.ResultAccepted request status successful started_at
      effects rollback error_code message a) :
    ∃ e w, env.result request status successful started_at effects rollback error_code message a =
      (.error e, { a with world := w }) := by
  simp only [result, timestamp, Raising.ofExcept_bind_apply, Raising.step_bind_apply]
  by_cases hstarted : started_at.aware = true
  · rw [if_pos hstarted]
    dsimp only
    by_cases hfinished : (env.sources.clock a.world).1.aware = true
    · rw [if_pos hfinished]
      dsimp only
      cases hvalid : ActionValidator.validate env.formats (resultRecord request status successful
          started_at.isoformat (env.sources.clock a.world).1.isoformat effects rollback error_code
          message).toJson with
      | ok _ =>
          exact absurd ⟨hstarted, hfinished, (validate_result_iff env.formats _).mp hvalid⟩ h
      | error e => exact ⟨e, _, rfl⟩
    · rw [if_neg hfinished]
      exact ⟨_, _, rfl⟩
  · rw [if_neg hstarted]
    exact ⟨_, a.world, rfl⟩

end Result

theorem beside_result (request : JsonObject) (status : ResultStatus) (successful : Bool)
    (started_at : DateTime) (effects : List String) (rollback : Rollback)
    (error_code : Option String) (message : String) :
    (env.result request status successful started_at effects rollback error_code
      message).Keeps Beside := by
  intro a
  by_cases h : env.ResultAccepted request status successful started_at effects rollback error_code
      message a
  · rw [env.result_of_accepted h]
    exact beside_of_world _ a
  · obtain ⟨e, w, heq⟩ := env.result_of_not_accepted h
    rw [heq]
    exact beside_of_world w a

theorem beside_denied (request : JsonObject) (started_at : DateTime) (code message : String)
    (within_allowlist : Bool) :
    (env.denied request started_at code message within_allowlist).Keeps Beside := by
  refine Raising.Keeps.bind (Raising.Keeps.bind (env.beside_emit _ _ _ _ _ _ _) fun _ => ?_)
    fun _ => Raising.Keeps.pure _
  exact env.beside_result _ _ _ _ _ _ _ _

/-- A denial answers with an unsuccessful denied result, or raises. -/
theorem denied_eq_ok {request : JsonObject} {started_at : DateTime} {code message : String}
    {within_allowlist : Bool} {a a' : SafeActionAdapter W S} {decision : Decision W S}
    (h : env.denied request started_at code message within_allowlist a = (.ok decision, a')) :
    ∃ result, decision = .answered result ∧ result.status = .denied ∧
      result.successful = false := by
  unfold denied deny at h
  obtain ⟨result, a₁, hdeny, h⟩ := Raising.bind_eq_ok h
  obtain ⟨_, a₂, -, hresult⟩ := Raising.bind_eq_ok hdeny
  rw [Raising.pure_apply] at h
  injection h with hdecision _
  injection hdecision with hdecision
  by_cases hacc : env.ResultAccepted request .denied false started_at [] .unsupported (some code)
      message a₂
  · rw [env.result_of_accepted hacc] at hresult
    injection hresult with hresult _
    injection hresult with hresult
    exact ⟨result, hdecision.symm, by rw [← hresult]; rfl, by rw [← hresult]; rfl⟩
  · obtain ⟨e, w, heq⟩ := env.result_of_not_accepted hacc
    rw [heq] at hresult
    cases hresult

end Adapter

end NetStrike.Shared
