import NetStrike.Dashboard.Clock
import NetStrike.Orchestrator.ControllerFrames

/-!
# Faults and health checks

What the parts of `Clock` do: the safety stop halts the run and touches nothing of the clock
(`Halts`), a fault latches its code, ends the run and writes at most one event (`Faulted`), and
`require_healthy` returns on a clock without a fault only (`Examined`).
-/

set_option autoImplicit false

namespace NetStrike.Dashboard

open NetStrike.Foundation NetStrike.Shared NetStrike.Orchestrator
open NetStrike.Orchestrator.Controller (playable)

namespace Supervision

variable {P R W : Type} (env : Supervision P R W)

/-! ## The safety stop -/

/-- The run was stopped or goes on, and nothing but its state and the world differs. -/
structure Halts (s t : Service P R W) : Prop where
  rest : t = { s with controller := t.controller }
  board : Controller.SameBoard s.controller t.controller
  state : t.controller.state = s.controller.state ∨ t.controller.state = .stopped

instance : Std.Refl (Halts (P := P) (R := R) (W := W)) :=
  ⟨fun _ => ⟨rfl, ⟨rfl, rfl, rfl, rfl⟩, Or.inl rfl⟩⟩

instance : IsTrans (Service P R W) Halts := by
  refine ⟨fun a b c h h' => ⟨?_, h.board.trans h'.board, ?_⟩⟩
  · rw [h'.rest, h.rest]
  · rcases h'.state with hstate | hstate
    · rw [hstate]
      exact h.state
    · exact Or.inr hstate

theorem halts_onWorld (f : W → Except Exn Unit × W) :
    (onWorld f : Py (Service P R W) Unit).Keeps Halts :=
  fun _ => ⟨rfl, ⟨rfl, rfl, rfl, rfl⟩, Or.inl rfl⟩

/-- The controller's own stop. -/
theorem halts_controllerStop (reason : String) :
    (onController (env.controller.failSafeStop reason) : Py (Service P R W) Unit).Keeps Halts := by
  intro s
  have hran := env.controller.handlerRan_failSafeStop reason s.controller
  refine ⟨rfl, hran.board, ?_⟩
  cases hran with
  | calm board state journal => exact Or.inl state
  | stop board playing state journal => exact Or.inr state

theorem halts_stops (reason : String) (operator : JsonObject) :
    ∀ m ∈ env.stops reason operator, m.Keeps Halts := by
  intro m hm
  rcases List.mem_cons.mp hm with rfl | hm
  · refine Raising.Keeps.bind (Raising.Keeps.gets _) fun state => ?_
    split
    · exact env.halts_controllerStop reason
    · exact Raising.Keeps.pure _
  · obtain ⟨latch, -, rfl⟩ := List.mem_map.mp hm
    exact Raising.Keeps.bind (Raising.Keeps.gets _) fun run_id => halts_onWorld _

theorem halts_failSafeStop (reason : String) (operator : Option JsonObject) :
    (env.failSafeStop reason operator).Keeps Halts := by
  refine Raising.Keeps.bind (Raising.Keeps.require _ _) fun _ => ?_
  refine Raising.Keeps.bind (Raising.Keeps.require _ _) fun _ => ?_
  refine Raising.Keeps.bind (Raising.Keeps.require _ _) fun _ => ?_
  refine Raising.Keeps.bind (Raising.Keeps.attemptAll (env.halts_stops reason _)) fun errors => ?_
  exact Raising.Keeps.require _ _

/-- The stop of a run that plays is a stop, whatever the audit and the other latches do. -/
theorem state_controllerStop {reason : String} {c : ScenarioController W} (hplays : c.state ∈ playable)
    (hreason : ¬ Blank reason) : (env.controller.failSafeStop reason c).2.state = .stopped := by
  rw [env.controller.failSafeStop_accepted ⟨hplays, hreason⟩]
  exact (env.controller.emit_frame "scenario.run.stopped" "scenario.stop"
    s!"Fail-safe stop: {strip reason}" "cancelled" none "controller"
    [("reason", .str (strip reason))] (Controller.setState .stopped c)).1.state

/-- A safety stop that is let through leaves the run stopped or completed. -/
theorem over_failSafeStop {reason : String} {operator : JsonObject} {s : Service P R W}
    (hreason : ¬ Blank reason) (hrole : JsonObject.text operator "role" ∈ stopRoles)
    (hstate : s.controller.state ≠ .completed) :
    (env.failSafeStop reason (some operator) s).2.controller.state = .stopped := by
  unfold failSafeStop
  have hroles : ∀ o ∈ some operator, JsonObject.text o "role" ∈ stopRoles := by simpa using hrole
  rw [Raising.require_bind_apply, if_pos hreason, Raising.require_bind_apply, if_pos hroles,
    Raising.require_bind_apply, if_pos hstate]
  obtain ⟨es, hes⟩ := Raising.attemptAll_returns (env.stops reason
    (((some operator).filter (· ≠ [])).getD
      (entity "facilitator" "facilitator" none (some "facilitator")))) s
  rw [Raising.bind_of_ok hes, Raising.require_state]
  unfold stops
  rw [Raising.attemptAll_cons_state]
  -- The latches after the controller leave a stopped run stopped.
  have hrest := Raising.Keeps.attemptAll fun m hm =>
    env.halts_stops reason (((some operator).filter (· ≠ [])).getD
      (entity "facilitator" "facilitator" none (some "facilitator"))) m (List.mem_cons_of_mem _ hm)
  have hstopped := (hrest ((do
    let state ← Raising.gets fun s : Service P R W => s.controller.state
    if state ≠ RunState.stopped then onController (env.controller.failSafeStop reason)) s).2).state
  refine hstopped.elim (fun h => h.trans ?_) fun h => h
  rw [Raising.gets_bind_apply]
  split
  · next hplays =>
      refine env.state_controllerStop ?_ hreason
      cases h : s.controller.state <;> simp_all [playable]
  · next hnot => exact not_not.mp hnot

/-! ## Faults -/

/-- The audit of a fault writes at most the one event. -/
theorem auditFault_frame (code : FaultCode) (cleanup_complete : Bool) (s : Service P R W) :
    ∃ w es, (env.auditFault code cleanup_complete s).2 =
        { s with controller := { s.controller with world := w }, journal := s.journal ++ es } ∧
      (es = [] ∨ ∃ event : Event, event.event_type = "exercise.clock.faulted" ∧
        es = [.audited event]) := by
  unfold auditFault
  rw [Raising.gets_bind_apply, Raising.gets_bind_apply]
  cases hbuild : EventBuilder.build env.controller.formats env.controller.sources
      (faultCall code cleanup_complete s) (⟨env.faultContext s, 0⟩, s.controller.world) with
  | mk r b =>
      have hfocus : (onController (Raising.focus
          (fun c : ScenarioController W => ((⟨env.faultContext s, 0⟩ : EventBuilder), c.world))
          (fun b c => { c with world := b.2 })
          (EventBuilder.build env.controller.formats env.controller.sources
            (faultCall code cleanup_complete s))) : Py (Service P R W) Event) s =
          (r, { s with controller := { s.controller with world := b.2 } }) := by
        unfold onController
        rw [Raising.focus_apply, Raising.focus_apply, hbuild]
      cases r with
      | error e =>
          rw [Raising.bind_of_error hfocus]
          exact ⟨b.2, [], by rw [List.append_nil], Or.inl rfl⟩
      | ok event =>
          obtain ⟨-, hevent⟩ := EventBuilder.build_eq_ok _ _ hbuild
          rw [Raising.bind_of_ok hfocus]
          exact ⟨_, [.audited event], rfl, Or.inr ⟨event, by rw [hevent]; rfl, rfl⟩⟩

/-- What a fault does on a clock that has none. -/
structure Faulted (code : FaultCode) (s t : Service P R W) : Prop where
  fault_code : t.clock.fault_code = some code
  attached : t.clock.attached = s.clock.attached
  managed : t.clock.managed = s.clock.managed
  stopped : t.controller.state ∉ playable
  board : Controller.SameBoard s.controller t.controller
  last_observed : t.last_observed = s.last_observed
  fractional_seconds : t.fractional_seconds = s.fractional_seconds
  journal : ∃ es, t.journal = s.journal ++ .latched code :: es ∧
    (es = [] ∨ ∃ event : Event, event.event_type = "exercise.clock.faulted" ∧
      es = [.audited event])

/-- A second fault does nothing. -/
theorem fault_of_latched {s : Service P R W} (h : s.clock.fault_code ≠ none) (code : String) :
    env.fault code s = (.ok (), s) := by
  unfold fault
  rw [Raising.gets_bind_apply, if_pos (Option.isSome_iff_ne_none.mpr h)]
  rfl

/-- The stop inside a fault. -/
theorem faultStop_spec (s : Service P R W) :
    ∃ r t, env.faultStop s = (.ok r, t) ∧ Halts s t ∧ t.controller.state ∉ playable := by
  unfold faultStop
  rw [Raising.gets_bind_apply]
  split
  · next hcompleted =>
      refine ⟨.ok (), s, rfl, Std.Refl.refl s, ?_⟩
      rw [hcompleted]
      decide
  · next hstate =>
      refine ⟨_, _, rfl, env.halts_failSafeStop _ _ s, ?_⟩
      rw [env.over_failSafeStop (by decide) (by decide) hstate]
      decide

/-- A fault returns, latches its code, ends the run and writes at most one event. -/
theorem fault_of_none {s : Service P R W} (h : s.clock.fault_code = none) (code : String) :
    ∃ t, env.fault code s = (.ok (), t) ∧ Faulted (FaultCode.ofString code) s t := by
  let s₁ : Service P R W := { s with
    clock := { s.clock with
      fault_code := some (FaultCode.ofString code), cleanup_complete := some true }
    journal := s.journal ++ [.latched (FaultCode.ofString code)] }
  obtain ⟨r, s₂, hstop, hhalts, hover⟩ := env.faultStop_spec s₁
  let s₃ : Service P R W := { s₂ with
    clock := { s₂.clock with cleanup_complete := some r.toBool, audit_persisted := some false } }
  obtain ⟨w, es, haudit, hes⟩ := env.auditFault_frame (FaultCode.ofString code) r.toBool s₃
  have hclock : s₂.clock = s₁.clock := by rw [hhalts.rest]
  have hjournal : s₂.journal = s₁.journal := by rw [hhalts.rest]
  have heq : env.fault code s = (.ok (), (setClock (fun clock => { clock with
      audit_persisted := some (env.auditFault (FaultCode.ofString code) r.toBool s₃).1.toBool })
      (env.auditFault (FaultCode.ofString code) r.toBool s₃).2).2) := by
    unfold fault
    rw [Raising.gets_bind_apply, if_neg (by rw [h]; decide)]
    exact Raising.bind_of_ok hstop
  refine ⟨_, heq, ?_⟩
  rw [haudit]
  refine ⟨?_, ?_, ?_, hover, ⟨hhalts.board.run_id, hhalts.board.elapsed_seconds, hhalts.board.items,
    hhalts.board.checkpoint_results⟩, ?_, ?_, es, ?_, hes⟩
  · show s₂.clock.fault_code = _
    rw [hclock]
  · show s₂.clock.attached = _
    rw [hclock]
  · show s₂.clock.managed = _
    rw [hclock]
  · show s₂.last_observed = _
    rw [hhalts.rest]
  · show s₂.fractional_seconds = _
    rw [hhalts.rest]
  · show s₂.journal ++ es = _
    rw [hjournal, List.append_assoc]
    rfl

/-! ## Health -/

theorem age_spec (s : Service P R W) :
    ∃ age provider, env.age s = (.ok age, { s with provider := provider }) := by
  unfold age
  rw [Raising.gets_bind_apply]
  cases s.clock.last_heartbeat with
  | none => exact ⟨none, s.provider, rfl⟩
  | some last_heartbeat =>
      dsimp only
      rw [Raising.attempt_bind_apply]
      unfold reading
      cases (env.monotonic s.provider).1 with
      | error e => exact ⟨none, _, rfl⟩
      | ok now => exact ⟨_, _, rfl⟩

/-- The status is about the clock as it is, and taking it changes the provider only. -/
theorem status_spec (s : Service P R W) :
    ∃ age provider, env.age s = (.ok age, { s with provider := provider }) ∧
      env.status s = (.ok (env.statusOf s.clock age), { s with provider := provider }) := by
  obtain ⟨age, provider, hage⟩ := env.age_spec s
  refine ⟨age, provider, hage, ?_⟩
  unfold status
  rw [Raising.bind_of_ok hage]
  rfl

theorem statusOf_faulted {clock : ClockSupervisor R} {age : Option R} :
    env.statusOf clock age = .faulted ↔ clock.fault_code ≠ none := by
  unfold statusOf
  cases clock.fault_code with
  | some code => simp
  | none =>
      cases clock.managed <;> cases clock.attached <;> cases age <;> simp
      split <;> simp

theorem refuse_of_latched {s : Service P R W} (h : s.clock.fault_code ≠ none)
    (status : ClockStatus) : env.refuse status s = (.error unavailable, s) := by
  unfold refuse
  rw [Raising.gets_bind_apply, if_neg (by simpa using h)]
  rfl

/-- A refusal latches a fault where none is, and raises. -/
theorem refuse_of_none {s : Service P R W} (h : s.clock.fault_code = none) (status : ClockStatus) :
    ∃ t, env.refuse status s = (.error unavailable, t) ∧
      Faulted (FaultCode.ofString status.code) s t := by
  obtain ⟨t, heq, hfault⟩ := env.fault_of_none h status.code
  unfold refuse
  rw [Raising.gets_bind_apply, if_pos (by rw [h]; rfl), Raising.bind_of_ok heq]
  exact ⟨t, rfl, hfault⟩

/-- The ways in which `require_healthy` ends. -/
inductive Examined (s : Service P R W) : Except Exn Unit × Service P R W → Prop where
  /-- the clock is healthy, or it has no driver to supervise -/
  | healthy (age : Option R) (provider : P) (hage : env.age s = (.ok age, { s with provider }))
      (hnone : s.clock.fault_code = none)
      (hstatus : env.statusOf s.clock age = .healthy ∨ env.statusOf s.clock age = .unmonitored) :
      Examined s (.ok (), { s with provider })
  /-- a fault is latched already -/
  | latched (provider : P) (hsome : s.clock.fault_code ≠ none) :
      Examined s (.error unavailable, { s with provider })
  /-- a fault is latched now -/
  | faulted (provider : P) (code : FaultCode) (t : Service P R W)
      (hnone : s.clock.fault_code = none) (hfault : Faulted code { s with provider } t) :
      Examined s (.error unavailable, t)

theorem examined_requireHealthy (s : Service P R W) : env.Examined s (env.requireHealthy s) := by
  obtain ⟨age, provider, hage, hstatus⟩ := env.status_spec s
  unfold requireHealthy
  rw [Raising.bind_of_ok hstatus, Raising.gets_bind_apply]
  split
  · next hfailed =>
      have hnone : s.clock.fault_code = none := by
        by_contra hsome
        have hhealthy := (of_decide_eq_true hfailed).1
        rw [env.statusOf_faulted.mpr hsome] at hhealthy
        cases hhealthy
      obtain ⟨t, hfault, hfaulted⟩ :=
        env.fault_of_none (s := { s with provider }) hnone "scheduler_tick_failed"
      have hrefuse := env.refuse_of_latched (s := t) (by rw [hfaulted.fault_code]; simp) .faulted
      rw [Raising.bind_of_ok hfault, hrefuse]
      exact .faulted provider _ t hnone hfaulted
  · split
    · next hgood =>
        refine .healthy age provider hage ?_ hgood
        by_contra hsome
        rw [env.statusOf_faulted.mpr hsome] at hgood
        rcases hgood with hgood | hgood <;> cases hgood
    · by_cases hnone : s.clock.fault_code = none
      · obtain ⟨t, hrefuse, hfaulted⟩ :=
          env.refuse_of_none (s := { s with provider }) hnone (env.statusOf s.clock age)
        rw [hrefuse]
        exact .faulted provider _ t hnone hfaulted
      · rw [env.refuse_of_latched (s := { s with provider }) hnone (env.statusOf s.clock age)]
        exact .latched provider hnone

/-- A guarded method on a faulted clock raises and changes nothing. -/
theorem guard_of_latched {s : Service P R W} (h : s.clock.fault_code ≠ none)
    (body : Py (Service P R W) Unit) :
    ∃ provider, env.guard body s = (.error unavailable, { s with provider }) := by
  have hexamined := env.examined_requireHealthy s
  unfold guard
  cases hx : env.requireHealthy s with
  | mk r t =>
      rw [hx] at hexamined
      cases hexamined with
      | healthy age provider hage hnone hstatus => exact absurd hnone h
      | latched provider hsome => exact ⟨provider, Raising.bind_of_error hx⟩
      | faulted provider code t hnone hfault => exact absurd hnone h

/-! ## The opening check of a tick -/

/-- The health check that opens a tick finds no age of the heartbeat, or a stale one: there is no
heartbeat, the provider raises, a reading or the age is not finite, the age is negative, or it
exceeds the limit. -/
def BadHeartbeat (s : Service P R W) : Prop :=
  ∀ last_heartbeat now, s.clock.last_heartbeat = some last_heartbeat →
    (env.monotonic s.provider).1 = .ok now →
      let age := env.arithmetic.sub now last_heartbeat
      env.arithmetic.isfinite now = true → env.arithmetic.isfinite age = true →
        env.arithmetic.nonnegative age = true → env.arithmetic.exceedsStale age = true

theorem age_of_badHeartbeat {s : Service P R W} (h : env.BadHeartbeat s) {age : Option R}
    {t : Service P R W} (hage : env.age s = (.ok age, t)) :
    ∀ a ∈ age, env.arithmetic.exceedsStale a = true := by
  unfold Supervision.age at hage
  rw [Raising.gets_bind_apply] at hage
  cases hlast : s.clock.last_heartbeat with
  | none =>
      rw [hlast] at hage
      cases hage
      exact fun a ha => nomatch ha
  | some last_heartbeat =>
      rw [hlast] at hage
      dsimp only at hage
      rw [Raising.attempt_bind_apply] at hage
      cases hnow : (env.monotonic s.provider).1 with
      | error e =>
          rw [show (env.reading s).1 = .error e from hnow] at hage
          cases hage
          exact fun a ha => nomatch ha
      | ok now =>
          rw [show (env.reading s).1 = .ok now from hnow] at hage
          dsimp only at hage
          injection hage with hvalue _
          injection hvalue with hvalue
          rw [← hvalue]
          split
          · next hgood =>
              simp only [Bool.and_eq_true] at hgood
              intro a ha
              cases ha
              exact h last_heartbeat now hlast hnow hgood.1.1 hgood.1.2 hgood.2
          · exact fun a ha => nomatch ha

/-- A driven clock that is not faulted is unhealthy on a bad heartbeat. -/
theorem requireHealthy_of_badHeartbeat {s : Service P R W} (h : env.BadHeartbeat s)
    (hnone : s.clock.fault_code = none) (hattached : s.clock.attached = true)
    (hmanaged : s.clock.managed = true) :
    ∃ provider code t, env.requireHealthy s = (.error unavailable, t) ∧
      Faulted code { s with provider } t := by
  have hexamined := env.examined_requireHealthy s
  cases hx : env.requireHealthy s with
  | mk r t =>
      rw [hx] at hexamined
      cases hexamined with
      | healthy age provider hage _ hstatus =>
          have hstale := env.age_of_badHeartbeat h hage
          have hbad : env.statusOf s.clock age = .invalid_clock ∨
              env.statusOf s.clock age = .stale := by
            unfold statusOf
            rw [hnone, hattached, hmanaged]
            cases age with
            | none => exact Or.inl rfl
            | some a => exact Or.inr (if_pos (hstale a rfl))
          rcases hbad with hbad | hbad <;> rw [hbad] at hstatus <;>
            rcases hstatus with hstatus | hstatus <;> cases hstatus
      | latched provider hsome => exact absurd hnone hsome
      | faulted provider code t _ hfault => exact ⟨provider, code, t, rfl, hfault⟩

end Supervision

end NetStrike.Dashboard
