import NetStrike.Foundation.Journal
import NetStrike.Foundation.Runs
import NetStrike.Shared.ActionPaths

/-!
# Stops in the middle of a call

`StopRespected` says of the journal that a handler that starts after its run was stopped starts with
its cancel event set. `execute` looks at the stopped runs once, and only later enters the control of
the handler in `_running`, where a stop finds it. A stop that a collaborator completes in between is
seen in neither place. `KeepsStops` is the condition that there is none, or that another one follows
while the started event is written; `stopRespected_iff` says that it is exact for whole runs.
-/

set_option autoImplicit false

namespace NetStrike.Shared.Adapter

open NetStrike.Foundation

variable {W S : Type} (env : Adapter W S)

/-- A handler that starts after its run was stopped has its cancel event set. -/
def StopRespectedAt (before : List ActionEntry) : ActionEntry → Prop
  | .invoked request cancelled => .latched (request.text "run_id") ∈ before → cancelled = true
  | _ => True

/-- Every handler start of the journal respects the stops before it. -/
def StopRespected (journal : List ActionEntry) : Prop := Preceded StopRespectedAt journal

/-- The stopped runs are those that were latched. -/
def Latches (a : SafeActionAdapter W S) : Prop :=
  ∀ run, run ∈ a.stopped_runs ↔ .latched run ∈ a.journal

/-- If a call gets to its handler and its run is stopped by the time the control is registered, then
the run is stopped again before the handler is called. -/
def KeepsStops : Operation → SafeActionAdapter W S → Prop
  | .activate_fail_safe _ _ _, _ => True
  | .execute request, a => ∀ definition started_at control a₁ a₂ a₃,
      env.Started (redacted request) definition started_at control a a₁ a₂ a₃ →
      (redacted request).text "run_id" ∈ a₂.stopped_runs →
        .latched ((redacted request).text "run_id") ∈ a₃.journal.drop a₂.journal.length

/-! ## One operation -/

theorem latches_init (world : W) (simulation : S) : Latches (env.init world simulation) := by
  intro run
  simp [init]

theorem stopRespected_init (world : W) (simulation : S) :
    StopRespected (env.init world simulation).journal := Preceded.nil

theorem Latches.observes {a a' : SafeActionAdapter W S} {es : List ActionEntry} (h : Latches a)
    (ho : Observes es a a') : Latches a' := by
  intro run
  rw [ho.stopped, ho.journal, List.mem_append, h run]

/-- Entries other than handler starts respect every stop. -/
theorem stopRespectedAt_of_ne {e : ActionEntry} (h : ∀ request cancelled, e ≠ .invoked request cancelled)
    (before : List ActionEntry) : StopRespectedAt before e := by
  cases e with
  | invoked request cancelled => exact absurd rfl (h request cancelled)
  | called | audited | runStateRead | parametersAccepted | latched => trivial

theorem ne_invoked_of_outer {e : ActionEntry} (h : e.Outer) (request : JsonObject)
    (cancelled : Bool) : e ≠ .invoked request cancelled := by
  rintro rfl
  exact h

theorem ne_invoked_of_called {request : JsonObject} {es : List ActionEntry}
    (h : ∀ e ∈ es, e.Outer) : ∀ e ∈ .called request :: es, ∀ request' cancelled,
      e ≠ .invoked request' cancelled := by
  intro e he request' cancelled
  rcases List.mem_cons.mp he with rfl | he
  · simp
  · exact ne_invoked_of_outer (h e he) request' cancelled

/-- Entries without a handler start decide nothing. -/
theorem stopRespected_append {j es : List ActionEntry}
    (h : ∀ e ∈ es, ∀ request cancelled, e ≠ .invoked request cancelled) :
    StopRespected (j ++ es) ↔ StopRespected j := by
  unfold StopRespected
  rw [preceded_append]
  exact ⟨fun hj => hj.1, fun hj =>
    ⟨hj, Preceded.of_forall fun e he before => stopRespectedAt_of_ne (h e he) _⟩⟩

/-- What a call adds to the journal when it reaches its handler, in the order in which it is
observed: up to the registration, up to the handler, and from the handler on. -/
structure HandlerTrace (request : JsonObject) (definition : ActionDefinition W S)
    (a a₂ a₃ a' : SafeActionAdapter W S) (es fs gs : List ActionEntry) : Prop where
  registration : Observes (.called request :: es) a a₂
  announcement : Observes (fs ++ [.audited request "action.execution.started"]) a₂ a₃
  handler : Observes (.invoked request (isSet (request.text "request_id") a₃) :: gs) a₃ a'
  outer : ∀ e ∈ es ++ fs ++ gs, e.Outer
  approved : ∃ run_state, Allowed definition request run_state ∧
    (approvals definition request run_state).Sublist es
  cancelled : isSet (request.text "request_id") a₃ = true ↔
    .latched (request.text "run_id") ∈ fs

variable {env} in
theorem Started.trace {request : JsonObject} {definition : ActionDefinition W S}
    {started_at : DateTime} {control : ExecutionControl} {a a₁ a₂ a₃ : SafeActionAdapter W S}
    (h : env.Started request definition started_at control a a₁ a₂ a₃) :
    ∃ es fs gs, HandlerTrace request definition a a₂ a₃ (env.executeRedacted request a).2
      es fs gs := by
  obtain ⟨hcontrol, -, -, -, -, -, hat⟩ := h.atHandler
  obtain ⟨es, hes, hes', happroved⟩ := hat.registration
  obtain ⟨fs, hfs, hfs', hset⟩ := hat.announcement
  obtain ⟨⟨gs, hgs, hgs'⟩, -⟩ :=
    env.completeAction_observes definition request started_at control a₃
  rw [hcontrol] at hgs
  refine ⟨es, fs, gs, hes, hfs, ?_, ?_, happroved, hset⟩
  · rw [env.executeRedacted_of_started h]
    exact hgs
  · intro e he
    rcases List.mem_append.mp he with he | he
    · exact (List.mem_append.mp he).elim (hes' e) (hfs' e)
    · exact hgs' e he

/-- The journal of a call that reached its handler. -/
theorem HandlerTrace.journal {request : JsonObject} {definition : ActionDefinition W S}
    {a a₂ a₃ a' : SafeActionAdapter W S} {es fs gs : List ActionEntry}
    (h : HandlerTrace request definition a a₂ a₃ a' es fs gs) :
    a'.journal = a.journal ++
      ((.called request :: es ++ (fs ++ [.audited request "action.execution.started"])) ++
        .invoked request (isSet (request.text "request_id") a₃) :: gs) := by
  rw [h.handler.journal, h.announcement.journal, h.registration.journal]
  simp only [List.append_assoc]

/-- Before its handler a call adds no handler start. -/
theorem HandlerTrace.before_ne {request : JsonObject} {definition : ActionDefinition W S}
    {a a₂ a₃ a' : SafeActionAdapter W S} {es fs gs : List ActionEntry}
    (h : HandlerTrace request definition a a₂ a₃ a' es fs gs) :
    ∀ e ∈ ActionEntry.called request :: es ++
        (fs ++ [.audited request "action.execution.started"]),
      ∀ request' cancelled, e ≠ .invoked request' cancelled := by
  intro e he request' cancelled
  rcases List.mem_append.mp he with he | he
  · refine ne_invoked_of_called (fun e' he' => h.outer e' ?_) e he request' cancelled
    exact List.mem_append_left _ (List.mem_append_left _ he')
  · rcases List.mem_append.mp he with he | he
    · refine ne_invoked_of_outer (h.outer e ?_) request' cancelled
      exact List.mem_append_left _ (List.mem_append_right _ he)
    · rw [List.mem_singleton.mp he]
      intro heq
      cases heq

/-- After its start the handler's call adds no other. -/
theorem HandlerTrace.after_ne {request : JsonObject} {definition : ActionDefinition W S}
    {a a₂ a₃ a' : SafeActionAdapter W S} {es fs gs : List ActionEntry}
    (h : HandlerTrace request definition a a₂ a₃ a' es fs gs) :
    ∀ e ∈ gs, ∀ request' cancelled, e ≠ .invoked request' cancelled :=
  fun e he => ne_invoked_of_outer (h.outer e (List.mem_append_right _ he))

theorem observes_execute (request : JsonObject) (a : SafeActionAdapter W S) :
    ∃ es, Observes es a (env.executeRedacted request a).2 := by
  by_cases hstart : ∃ definition started_at control a₁ a₂ a₃,
      env.Started request definition started_at control a a₁ a₂ a₃
  · obtain ⟨definition, started_at, control, a₁, a₂, a₃, hstart⟩ := hstart
    obtain ⟨es, fs, gs, h⟩ := hstart.trace
    exact ⟨_, (h.registration.trans h.announcement).trans h.handler⟩
  · push Not at hstart
    obtain ⟨es, hes, -⟩ := (env.executeRedacted_of_not_started hstart).observed
    exact ⟨_, hes⟩

/-- A stop adds no handler start. -/
theorem observes_activate (run_id : String) (operator : JsonObject) (reason : String)
    (a : SafeActionAdapter W S) :
    ∃ es, Observes es a (env.activateFailSafe run_id operator reason a).2 ∧ ∀ e ∈ es, e.Outer := by
  obtain ⟨es, hes⟩ :=
    (env.beside_activateWith env.beside_nested run_id operator reason a).outside
  exact ⟨es, hes.toObserves, hes.entries⟩

theorem latches_perform (op : Operation) (a : SafeActionAdapter W S) (h : Latches a) :
    Latches (env.perform op a) := by
  cases op with
  | execute request =>
      obtain ⟨es, hes⟩ := env.observes_execute (redacted request) a
      exact h.observes hes
  | activate_fail_safe run_id operator reason =>
      obtain ⟨es, hes, -⟩ := env.observes_activate run_id operator reason a
      exact h.observes hes

/-- A call that reaches its handler respects the stops exactly when a run that is stopped at the
registration is stopped again. -/
theorem stopRespected_of_trace {request : JsonObject} {definition : ActionDefinition W S}
    {a a₂ a₃ a' : SafeActionAdapter W S} {es fs gs : List ActionEntry} (ha : Latches a)
    (hj : StopRespected a.journal) (h : HandlerTrace request definition a a₂ a₃ a' es fs gs) :
    StopRespected a'.journal ↔ (request.text "run_id" ∈ a₂.stopped_runs →
      .latched (request.text "run_id") ∈ a₃.journal.drop a₂.journal.length) := by
  have hbefore : ∀ e ∈ ActionEntry.called request :: es ++
      (fs ++ [.audited request "action.execution.started"]), ∀ before,
      StopRespectedAt before e := fun e he => stopRespectedAt_of_ne (h.before_ne e he)
  have hafter : ∀ e ∈ gs, ∀ before, StopRespectedAt before e := fun e he =>
    stopRespectedAt_of_ne (h.after_ne e he)
  have hsplit : StopRespected a'.journal ↔ StopRespected a.journal ∧ StopRespectedAt
      (a.journal ++ (.called request :: es ++ (fs ++ [.audited request "action.execution.started"])))
      (.invoked request (isSet (request.text "request_id") a₃)) := by
    unfold StopRespected
    rw [h.journal]
    exact preceded_around hbefore hafter
  have hstopped : .latched (request.text "run_id") ∈ a.journal ++ (.called request :: es ++
      (fs ++ [.audited request "action.execution.started"])) ↔
        request.text "run_id" ∈ a₂.stopped_runs ∨ .latched (request.text "run_id") ∈ fs := by
    rw [(ha.observes h.registration) _, h.registration.journal]
    simp only [List.mem_append, List.mem_singleton, reduceCtorEq, or_false, or_assoc]
  have hdrop : .latched (request.text "run_id") ∈ a₃.journal.drop a₂.journal.length ↔
      .latched (request.text "run_id") ∈ fs := by
    rw [h.announcement.journal, List.drop_left]
    simp
  rw [hsplit, hdrop]
  constructor
  · rintro ⟨-, hinvoked⟩ hrun
    exact h.cancelled.mp (hinvoked (hstopped.mpr (Or.inl hrun)))
  · intro hcondition
    refine ⟨hj, fun hmem => h.cancelled.mpr ?_⟩
    exact (hstopped.mp hmem).elim hcondition id

/-- An operation keeps `StopRespected` exactly when it keeps the stops. -/
theorem stopRespected_perform_iff (op : Operation) (a : SafeActionAdapter W S) (ha : Latches a)
    (hj : StopRespected a.journal) :
    StopRespected (env.perform op a).journal ↔ env.KeepsStops op a := by
  cases op with
  | activate_fail_safe run_id operator reason =>
      obtain ⟨es, hes, houter⟩ := env.observes_activate run_id operator reason a
      refine ⟨fun _ => trivial, fun _ => ?_⟩
      show StopRespected (env.activateFailSafe run_id operator reason a).2.journal
      rw [hes.journal, stopRespected_append fun e he => ne_invoked_of_outer (houter e he)]
      exact hj
  | execute request =>
      show StopRespected (env.executeRedacted (redacted request) a).2.journal ↔ _
      by_cases hstart : ∃ definition started_at control a₁ a₂ a₃,
          env.Started (redacted request) definition started_at control a a₁ a₂ a₃
      · obtain ⟨definition, started_at, control, a₁, a₂, a₃, hstart⟩ := hstart
        obtain ⟨es, fs, gs, htrace⟩ := hstart.trace
        rw [stopRespected_of_trace ha hj htrace]
        constructor
        · intro h definition' started_at' control' a₁' a₂' a₃' hstart'
          obtain ⟨-, -, -, -, rfl, rfl⟩ := hstart.unique hstart'
          exact h
        · intro h
          exact h definition started_at control a₁ a₂ a₃ hstart
      · push Not at hstart
        obtain ⟨es, hes, houter⟩ := (env.executeRedacted_of_not_started hstart).observed
        rw [hes.journal, stopRespected_append (ne_invoked_of_called houter)]
        refine ⟨fun _ definition started_at control a₁ a₂ a₃ h => ?_, fun _ => hj⟩
        exact absurd h (hstart definition started_at control a₁ a₂ a₃)

/-! ## Runs -/

/-- For every run of calls and stops, whatever the collaborators do: every handler start of every
state reached respects the stops exactly when each call of the run keeps the stops. -/
theorem stopRespected_iff (world : W) (simulation : S) (ops : List Operation) :
    (∀ a, Passes env.perform ops (env.init world simulation) a → StopRespected a.journal) ↔
      EachMeets env.perform env.KeepsStops ops (env.init world simulation) :=
  passes_iff_eachMeets (I := fun a => StopRespected a.journal) (K := Latches)
    (fun op a ha _ => env.latches_perform op a ha)
    (fun op a ha hj => env.stopRespected_perform_iff op a ha hj)
    (env.latches_init world simulation) (env.stopRespected_init world simulation)

/-- A sink that stops the run while the granted authorization is written. -/
def stopAtGranted : Event → Callback Nat (Except Exn Unit) := fun event =>
  if event.event_type = "action.authorization.granted" then
    .activate_fail_safe "RUN-1" (entity "person" "lead-1" none (some "facilitator")) "Safety"
      fun _ => .finish (.ok ())
  else .finish (.ok ())

/-- The run is stopped and audited as stopped, and the handler starts with a clear cancel event. -/
theorem stop_while_granted_is_lost :
    ¬ StopRespected (runAll (sample stopAtGranted (isolateIn 5)).perform
      [.execute (sampleRequest "6f1c0e0a-0000-4000-8000-000000000003" "EX-1")]
      ((sample stopAtGranted (isolateIn 5)).init 0 false)).journal := by
  intro h
  generalize hj : (runAll (sample stopAtGranted (isolateIn 5)).perform
    [.execute (sampleRequest "6f1c0e0a-0000-4000-8000-000000000003" "EX-1")]
    ((sample stopAtGranted (isolateIn 5)).init 0 false)).journal = journal at h
  have hlost : journal = journal.take 7 ++ .invoked (redacted
      (sampleRequest "6f1c0e0a-0000-4000-8000-000000000003" "EX-1")) false :: journal.drop 8 ∧
      .latched "RUN-1" ∈ journal.take 7 := by
    rw [← hj]
    decide +kernel
  have hset := h _ _ _ hlost.1 hlost.2
  cases hset

end NetStrike.Shared.Adapter
