import NetStrike.Shared.FailSafe

/-!
# No handler without authorization and audit

`AuthorizedAt` says what precedes the start of a handler: the start of its call, and since then, in
this order, the accepted `action.requested` event, an allowed run state, accepted parameters where
they are checked, and the accepted `action.authorization.granted` and `action.execution.started`
events, all of the same request. It holds of every handler start in every run (`authorized_runs`),
whatever the sink and the other collaborators do. Once `activate_fail_safe` was called for a run
with a control role and a reason, no handler of that run starts.
-/

set_option autoImplicit false

namespace NetStrike.Shared.Adapter

open NetStrike.Foundation

variable {W S : Type} (env : Adapter W S)

/-- The request is for a registered action of the adapter's own run and allowed by its definition,
and since the call began everything was approved and audited in order. -/
structure Authorized (before : List ActionEntry) (request : JsonObject)
    (definition : ActionDefinition W S) (run_state : String) : Prop where
  registered : env.registry.get (request.text "action_id") = some definition
  exercise : request.text "exercise_id" = env.context.exercise_id
  run : request.text "run_id" = env.context.run_id
  real : request.dryRun = false
  allowed : Allowed definition request run_state
  approved : ∃ earlier own, before = earlier ++ .called request :: own ∧
    (∀ e ∈ own, ∀ other, e ≠ .called other) ∧
    List.Sublist (approvals definition request run_state ++
      [.audited request "action.execution.started"]) own

/-- Handlers start authorized. -/
def AuthorizedAt (before : List ActionEntry) : ActionEntry → Prop
  | .invoked request _ => ∃ definition run_state, env.Authorized before request definition run_state
  | _ => True

theorem authorizedAt_of_ne {e : ActionEntry} (h : ∀ request cancelled, e ≠ .invoked request cancelled)
    (before : List ActionEntry) : env.AuthorizedAt before e := by
  cases e with
  | invoked request cancelled => exact absurd rfl (h request cancelled)
  | called | audited | runStateRead | parametersAccepted | latched => trivial

/-- A handler start of a call that reached its handler. -/
theorem authorized_of_trace {request : JsonObject} {definition : ActionDefinition W S}
    {a a₂ a₃ a' : SafeActionAdapter W S} {es fs gs : List ActionEntry}
    (h : HandlerTrace request definition a a₂ a₃ a' es fs gs)
    (hregistered : env.registry.get (request.text "action_id") = some definition)
    (hexercise : request.text "exercise_id" = env.context.exercise_id)
    (hrun : request.text "run_id" = env.context.run_id) (hreal : request.dryRun = false) :
    ∃ run_state, env.Authorized (a.journal ++ (.called request :: es ++
      (fs ++ [.audited request "action.execution.started"]))) request definition run_state := by
  obtain ⟨run_state, hallowed, hsub⟩ := h.approved
  refine ⟨run_state, hregistered, hexercise, hrun, hreal, hallowed, a.journal,
    es ++ (fs ++ [.audited request "action.execution.started"]), rfl, ?_, ?_⟩
  · intro e he other heq
    subst heq
    rcases List.mem_append.mp he with he | he
    · exact h.outer _ (List.mem_append_left _ (List.mem_append_left _ he))
    · rcases List.mem_append.mp he with he | he
      · exact h.outer _ (List.mem_append_left _ (List.mem_append_right _ he))
      · cases List.mem_singleton.mp he
  · exact hsub.append (List.sublist_append_right fs _)

/-- The journal grew by authorized handler starts, none of them for a run that was stopped. -/
def AddsAuthorized (a a' : SafeActionAdapter W S) : Prop :=
  ∃ es, Observes es a a' ∧ Preceded (fun before e => env.AuthorizedAt (a.journal ++ before) e) es ∧
    ∀ request cancelled, .invoked request cancelled ∈ es → request.text "run_id" ∉ a.stopped_runs

theorem addsAuthorized_of_ne {a a' : SafeActionAdapter W S} {es : List ActionEntry}
    (hes : Observes es a a')
    (hne : ∀ e ∈ es, ∀ request cancelled, e ≠ .invoked request cancelled) :
    env.AddsAuthorized a a' :=
  ⟨es, hes, Preceded.of_forall fun e he _ => env.authorizedAt_of_ne (hne e he) _,
    fun request cancelled he => absurd rfl (hne _ he request cancelled)⟩

/-- A call adds an authorized handler start, or none. -/
theorem addsAuthorized_execute (request : JsonObject) (a : SafeActionAdapter W S) :
    env.AddsAuthorized a (env.executeRedacted request a).2 := by
  by_cases hstart : ∃ definition started_at control a₁ a₂ a₃,
      env.Started request definition started_at control a a₁ a₂ a₃
  · obtain ⟨definition, started_at, control, a₁, a₂, a₃, hstart⟩ := hstart
    obtain ⟨-, hregistered, hexercise, hrun, hstopped, -, -⟩ := hstart.atHandler
    obtain ⟨es, fs, gs, htrace⟩ := hstart.trace
    obtain ⟨run_state, hauthorized⟩ :=
      env.authorized_of_trace htrace hregistered hexercise hrun hstart.real
    refine ⟨_, (htrace.registration.trans htrace.announcement).trans htrace.handler, ?_, ?_⟩
    · have haround := preceded_around (P := fun before e => env.AuthorizedAt (a.journal ++ before) e)
        (j := []) (e := .invoked request (isSet (request.text "request_id") a₃))
        (fun e he before => env.authorizedAt_of_ne (htrace.before_ne e he) (a.journal ++ before))
        (fun e he before => env.authorizedAt_of_ne (htrace.after_ne e he) (a.journal ++ before))
      exact haround.mpr ⟨Preceded.nil, definition, run_state, hauthorized⟩
    · intro request' cancelled he
      rcases List.mem_append.mp he with he | he
      · exact absurd rfl (htrace.before_ne _ he request' cancelled)
      · rcases List.mem_cons.mp he with heq | he
        · injection heq with hrequest _
          rw [hrequest]
          exact hstopped
        · exact absurd rfl (htrace.after_ne _ he request' cancelled)
  · push Not at hstart
    obtain ⟨es, hes, houter⟩ := (env.executeRedacted_of_not_started hstart).observed
    exact env.addsAuthorized_of_ne hes (ne_invoked_of_called houter)

/-- One operation adds only authorized handler starts, and none for a run that is stopped. -/
theorem addsAuthorized_perform (op : Operation) (a : SafeActionAdapter W S) :
    env.AddsAuthorized a (env.perform op a) := by
  cases op with
  | execute request => exact env.addsAuthorized_execute (redacted request) a
  | activate_fail_safe run_id operator reason =>
      obtain ⟨es, hes, houter⟩ := env.observes_activate run_id operator reason a
      exact env.addsAuthorized_of_ne hes fun e he => ne_invoked_of_outer (houter e he)

/-! ## Runs -/

/-- Every handler start of a run is authorized. -/
theorem authorized_runAll (ops : List Operation) (a : SafeActionAdapter W S)
    (h : Preceded env.AuthorizedAt a.journal) :
    Preceded env.AuthorizedAt (runAll env.perform ops a).journal := by
  induction ops generalizing a with
  | nil => exact h
  | cons op ops ih =>
      obtain ⟨es, hes, hauthorized, -⟩ := env.addsAuthorized_perform op a
      refine ih (env.perform op a) ?_
      rw [hes.journal]
      exact preceded_append.mpr ⟨h, hauthorized⟩

/-- No handler of a stopped run starts. -/
theorem stopped_runAll {run : String} (ops : List Operation) (a : SafeActionAdapter W S)
    (h : run ∈ a.stopped_runs) :
    ∃ es, (runAll env.perform ops a).journal = a.journal ++ es ∧
      ∀ request cancelled, .invoked request cancelled ∈ es → request.text "run_id" ≠ run := by
  induction ops generalizing a with
  | nil => exact ⟨[], (List.append_nil _).symm, fun _ _ he => absurd he List.not_mem_nil⟩
  | cons op ops ih =>
      obtain ⟨es, hes, -, hstopped⟩ := env.addsAuthorized_perform op a
      obtain ⟨fs, hfs, hrest⟩ := ih (env.perform op a) ((hes.stopped run).mpr (Or.inl h))
      refine ⟨es ++ fs, ?_, ?_⟩
      · rw [runAll_cons, hfs, hes.journal, List.append_assoc]
      · intro request cancelled he
        rcases List.mem_append.mp he with he | he
        · rintro rfl
          exact hstopped request cancelled he h
        · exact hrest request cancelled he

/-- A stop with a control role and a reason latches its run, even if its audit raises. -/
theorem stopped_of_activate {run_id reason : String} {operator : JsonObject}
    (hrole : operator.text "role" ∈ controlRoles) (hreason : ¬ Blank reason)
    (a : SafeActionAdapter W S) :
    run_id ∈ (env.perform (.activate_fail_safe run_id operator reason) a).stopped_runs := by
  obtain ⟨es, hes, -⟩ := env.activateWith_accepted env.beside_nested run_id operator reason a
    ⟨hrole, hreason⟩
  exact (hes.stopped run_id).mpr (Or.inr List.mem_cons_self)

/-- For every run of calls and stops, whatever the sink and the other collaborators do: every
handler start is authorized, and after a stop that was called with a control role and a reason no
handler of its run starts. -/
theorem authorized_runs (world : W) (simulation : S) (ops : List Operation) :
    Preceded env.AuthorizedAt (runAll env.perform ops (env.init world simulation)).journal ∧
      ∀ earlier run_id operator reason later,
        ops = earlier ++ .activate_fail_safe run_id operator reason :: later →
        operator.text "role" ∈ controlRoles → ¬ Blank reason →
        ∃ es, (runAll env.perform ops (env.init world simulation)).journal =
            (runAll env.perform (earlier ++ [.activate_fail_safe run_id operator reason])
              (env.init world simulation)).journal ++ es ∧
          ∀ request cancelled, .invoked request cancelled ∈ es →
            request.text "run_id" ≠ run_id := by
  refine ⟨env.authorized_runAll ops _ Preceded.nil, ?_⟩
  intro earlier run_id operator reason later hops hrole hreason
  have hstopped : run_id ∈ (runAll env.perform
      (earlier ++ [.activate_fail_safe run_id operator reason])
      (env.init world simulation)).stopped_runs := by
    rw [runAll_append]
    exact env.stopped_of_activate hrole hreason _
  obtain ⟨es, hes, hnone⟩ := env.stopped_runAll later _ hstopped
  refine ⟨es, ?_, hnone⟩
  rw [hops, ← hes, ← runAll_append, List.append_assoc, List.singleton_append]

end NetStrike.Shared.Adapter
