import NetStrike.Shared.ActionFrames

/-!
# The paths through `execute`

A call of `execute` either gets to its handler or not. `Started` says that it does, and names the
states on the way; then the call goes on as `completeAction` (`executeRedacted_of_started`). Every
other call leaves the simulation, the executions and the running handlers alone
(`executeRedacted_of_not_started`). `authorize_granted` lists what a granted authorization went
through.
-/

set_option autoImplicit false

namespace NetStrike.Shared.Adapter

open NetStrike.Foundation

variable {W S : Type} (env : Adapter W S)

/-! ## Authorization without a handler -/

theorem beside_readRunState (request : JsonObject) : (env.readRunState request).Keeps Beside := by
  refine Raising.Keeps.bind (beside_onWorld env.beside_nested _) fun answer => ?_
  refine Raising.Keeps.bind (Raising.Keeps.ofExcept answer) fun run_state => ?_
  refine Raising.Keeps.bind (Raising.Keeps.modify fun a => ?_) fun _ => Raising.Keeps.pure _
  exact ⟨⟨_, Outside.note (e := .runStateRead run_state) trivial (fun _ h => by cases h) a⟩, rfl⟩

theorem beside_checkParameters (definition : ActionDefinition W S) (request : JsonObject) :
    (env.checkParameters definition request).Keeps Beside := by
  unfold checkParameters
  cases definition.parameter_validator with
  | none => exact Raising.Keeps.pure _
  | some validator =>
      refine Raising.Keeps.bind (beside_onWorld env.beside_nested _) fun answer => ?_
      cases answer with
      | ok _ =>
          refine Raising.Keeps.bind (Raising.Keeps.modify fun a => ?_) fun _ =>
            Raising.Keeps.pure _
          exact ⟨⟨_, Outside.note (e := .parametersAccepted) trivial (fun _ h => by cases h) a⟩, rfl⟩
      | error e =>
          dsimp only
          split_ifs
          · exact Raising.Keeps.pure _
          · exact Raising.Keeps.raise e

theorem beside_checkPolicy (definition : ActionDefinition W S) (request : JsonObject)
    (started_at : DateTime) : (env.checkPolicy definition request started_at).Keeps Beside := by
  refine Raising.Keeps.bind (env.beside_readRunState request) fun run_state => ?_
  split
  · exact env.beside_denied _ _ _ _ _
  · refine Raising.Keeps.bind (Raising.Keeps.require _ _) fun _ => ?_
    split
    · exact env.beside_denied _ _ _ _ _
    · split
      · exact env.beside_denied _ _ _ _ _
      · split
        · exact env.beside_denied _ _ _ _ _
        · refine Raising.Keeps.bind (env.beside_checkParameters definition request)
            fun refusal => ?_
          cases refusal with
          | some message => exact env.beside_denied _ _ _ _ _
          | none =>
              exact Raising.Keeps.bind (env.beside_emit _ _ _ _ _ _ _) fun _ =>
                Raising.Keeps.pure _

theorem beside_checkRequest (request : JsonObject) (started_at : DateTime) :
    (env.checkRequest request started_at).Keeps Beside := by
  unfold checkRequest
  cases env.registry.get (request.text "action_id") with
  | none => exact env.beside_denied _ _ _ _ _
  | some definition =>
      refine Raising.Keeps.bind (Raising.Keeps.gets _) fun stopped_runs => ?_
      split_ifs
      · exact env.beside_denied _ _ _ _ _
      · exact env.beside_checkPolicy definition request started_at

theorem beside_replay (request : JsonObject) (started_at : DateTime) (stored : ActionResult) :
    (env.replay request started_at stored).Keeps Beside := by
  refine Raising.Keeps.bind (Raising.Keeps.gets _) fun first => ?_
  split_ifs
  · exact env.beside_denied _ _ _ _ _
  · refine Raising.Keeps.bind (Raising.Keeps.ofExcept _) fun _ => ?_
    exact Raising.Keeps.bind (env.beside_emit _ _ _ _ _ _ _) fun _ => Raising.Keeps.pure _

theorem beside_authorize (request : JsonObject) (started_at : DateTime) :
    (env.authorize request started_at).Keeps Beside := by
  refine Raising.Keeps.bind (env.beside_emit _ _ _ _ _ _ _) fun _ => ?_
  split_ifs
  · exact env.beside_denied _ _ _ _ _
  · refine Raising.Keeps.bind (Raising.Keeps.gets _) fun stored => ?_
    cases stored with
    | some result => exact env.beside_replay request started_at result
    | none => exact env.beside_checkRequest request started_at

/-! ## Granted authorizations -/

/-- The definition allows the request in the run state. -/
structure Allowed (definition : ActionDefinition W S) (request : JsonObject)
    (run_state : String) : Prop where
  run_state : run_state ∈ definition.allowed_run_states
  role : (request.object "actor").text "role" ∈ definition.allowed_roles
  target : targetKey request ∈ definition.allowed_targets
  timeout : request.number "timeout_seconds" ≤ definition.max_timeout_seconds

/-- The accepted parameters, where the definition checks them. -/
def parameterEntries (definition : ActionDefinition W S) : List ActionEntry :=
  if definition.parameter_validator.isSome then [.parametersAccepted] else []

/-- What is observed between the request and its granted authorization. -/
def approvals (definition : ActionDefinition W S) (request : JsonObject) (run_state : String) :
    List ActionEntry :=
  [.audited request "action.requested"] ++ ([.runStateRead run_state] ++
    parameterEntries definition ++ [.audited request "action.authorization.granted"])

theorem denied_ne_granted {request : JsonObject} {started_at : DateTime} {code message : String}
    {within_allowlist : Bool} {a a' : SafeActionAdapter W S} {definition : ActionDefinition W S} :
    env.denied request started_at code message within_allowlist a ≠
      (.ok (.granted definition), a') := by
  intro h
  obtain ⟨result, hresult, -, -⟩ := env.denied_eq_ok h
  cases hresult

theorem checkParameters_eq_none {definition : ActionDefinition W S} {request : JsonObject}
    {a a' : SafeActionAdapter W S}
    (h : env.checkParameters definition request a = (.ok none, a')) :
    ∃ es, Outside es a a' ∧ (parameterEntries definition).Sublist es := by
  unfold checkParameters at h
  unfold parameterEntries
  cases hvalidator : definition.parameter_validator with
  | none =>
      rw [hvalidator] at h
      injection h with _ ha
      subst ha
      exact ⟨[], Outside.refl a, List.Sublist.refl []⟩
  | some validator =>
      rw [hvalidator] at h
      obtain ⟨answer, a₁, hcall, h⟩ := Raising.bind_eq_ok h
      have hbeside := beside_onWorld env.beside_nested (validator (request.object "parameters")) a
      rw [hcall] at hbeside
      obtain ⟨es, hes⟩ := hbeside.outside
      cases answer with
      | ok _ =>
          dsimp only at h
          rw [Raising.modify_bind_apply, Raising.pure_apply] at h
          injection h with _ ha
          subst ha
          have hnote := Outside.note (e := .parametersAccepted) trivial (fun _ h => by cases h) a₁
          exact ⟨es ++ [.parametersAccepted], hes.trans hnote, List.sublist_append_right es _⟩
      | error e =>
          dsimp only at h
          split_ifs at h <;> cases h

/-- A policy check that grants has found the request allowed. -/
theorem checkPolicy_granted {definition : ActionDefinition W S} {request : JsonObject}
    {started_at : DateTime} {a a' : SafeActionAdapter W S} {definition' : ActionDefinition W S}
    (h : env.checkPolicy definition request started_at a = (.ok (.granted definition'), a')) :
    definition' = definition ∧ ∃ es run_state, Outside es a a' ∧
      Allowed definition request run_state ∧
      List.Sublist ([.runStateRead run_state] ++ parameterEntries definition ++
        [.audited request "action.authorization.granted"]) es := by
  unfold checkPolicy at h
  obtain ⟨run_state, a₁, hread, h⟩ := Raising.bind_eq_ok h
  by_cases hstate : run_state ∉ definition.allowed_run_states
  · rw [if_pos hstate] at h
    exact absurd h env.denied_ne_granted
  · rw [if_neg hstate] at h
    rw [not_not] at hstate
    obtain ⟨_, a₂, hactor, hrest⟩ := Raising.bind_eq_ok h
    have ha₂ : a₂ = a₁ := by
      have hsame := Raising.require_state (fun _ => (request.lookup "actor").isSome = true)
        (fun _ => Exn.of .KeyError "'actor'") a₁
      rw [hactor] at hsame
      exact hsame
    subst ha₂
    by_cases hrole : (request.object "actor").text "role" ∉ definition.allowed_roles
    · rw [if_pos hrole] at hrest
      exact absurd hrest env.denied_ne_granted
    rw [if_neg hrole] at hrest
    by_cases htarget : targetKey request ∉ definition.allowed_targets
    · rw [if_pos htarget] at hrest
      exact absurd hrest env.denied_ne_granted
    rw [if_neg htarget] at hrest
    by_cases htimeout : request.number "timeout_seconds" > definition.max_timeout_seconds
    · rw [if_pos htimeout] at hrest
      exact absurd hrest env.denied_ne_granted
    · rw [if_neg htimeout] at hrest
      rw [not_not] at hrole htarget
      obtain ⟨refusal, a₃, hcheck, hrest⟩ := Raising.bind_eq_ok hrest
      cases refusal with
      | some message => exact absurd hrest env.denied_ne_granted
      | none =>
          obtain ⟨_, a₄, hemit, hrest⟩ := Raising.bind_eq_ok hrest
          rw [Raising.pure_apply] at hrest
          injection hrest with hdefinition ha
          injection hdefinition with hdefinition
          injection hdefinition with hdefinition
          subst hdefinition
          subst ha
          refine ⟨rfl, ?_⟩
          obtain ⟨answer, b, hanswer, hread⟩ := Raising.bind_eq_ok hread
          obtain ⟨state, b', hstate', hread⟩ := Raising.bind_eq_ok hread
          rw [Raising.ofExcept_apply] at hstate'
          injection hstate' with _ hb'
          subst hb'
          rw [Raising.modify_bind_apply, Raising.pure_apply] at hread
          injection hread with hrs ha₁
          injection hrs with hrs
          subst hrs
          subst ha₁
          have hbeside := beside_onWorld env.beside_nested
            (env.run_state (request.text "exercise_id") (request.text "run_id")) a
          rw [hanswer] at hbeside
          obtain ⟨es₁, hes₁⟩ := hbeside.outside
          have hnote := Outside.note (e := .runStateRead state) trivial (fun _ h => by cases h) b
          obtain ⟨es₂, hes₂, hsub⟩ := env.checkParameters_eq_none hcheck
          obtain ⟨es₃, hes₃, -⟩ := env.emit_eq_ok hemit
          refine ⟨_, state, ((hes₁.trans hnote).trans hes₂).trans hes₃,
            ⟨hstate, hrole, htarget, Rat.not_lt.mp htimeout⟩, ?_⟩
          exact ((List.sublist_append_right es₁ _).append hsub).append
            (List.sublist_append_right es₃ _)

/-- What a granted authorization went through. -/
structure Granted (request : JsonObject) (definition : ActionDefinition W S)
    (es : List ActionEntry) (a a' : SafeActionAdapter W S) : Prop where
  exercise : request.text "exercise_id" = env.context.exercise_id
  run : request.text "run_id" = env.context.run_id
  fresh : a.results (key request) = none
  registered : env.registry.get (request.text "action_id") = some definition
  not_stopped : request.text "run_id" ∉ a.stopped_runs
  outside : Outside es a a'
  simulation : a'.simulation = a.simulation
  approved : ∃ run_state, Allowed definition request run_state ∧
    (approvals definition request run_state).Sublist es

theorem authorize_granted {request : JsonObject} {started_at : DateTime}
    {a a' : SafeActionAdapter W S} {definition : ActionDefinition W S}
    (h : env.authorize request started_at a = (.ok (.granted definition), a')) :
    ∃ es, env.Granted request definition es a a' := by
  have hbeside := env.beside_authorize request started_at a
  rw [h] at hbeside
  unfold authorize at h
  obtain ⟨_, a₁, hemit, h⟩ := Raising.bind_eq_ok h
  obtain ⟨es₁, hes₁, -⟩ := env.emit_eq_ok hemit
  split_ifs at h with hmismatch
  · exact absurd h env.denied_ne_granted
  · push Not at hmismatch
    rw [Raising.gets_bind_apply] at h
    cases hstored : a₁.results (key request) with
    | some result =>
        rw [hstored] at h
        dsimp only at h
        unfold replay at h
        rw [Raising.gets_bind_apply] at h
        split_ifs at h
        · exact absurd h env.denied_ne_granted
        · obtain ⟨_, a₂, -, h⟩ := Raising.bind_eq_ok h
          obtain ⟨_, a₃, -, h⟩ := Raising.bind_eq_ok h
          rw [Raising.pure_apply] at h
          injection h with h _
          injection h with h
          cases h
    | none =>
        rw [hstored] at h
        dsimp only at h
        unfold checkRequest at h
        cases hget : env.registry.get (request.text "action_id") with
        | none =>
            rw [hget] at h
            exact absurd h env.denied_ne_granted
        | some definition' =>
            rw [hget] at h
            dsimp only at h
            rw [Raising.gets_bind_apply] at h
            split_ifs at h with hstopped
            · exact absurd h env.denied_ne_granted
            · obtain ⟨rfl, es₂, run_state, hes₂, hallowed, hsub⟩ := env.checkPolicy_granted h
              refine ⟨_, hmismatch.1, hmismatch.2, hes₁.results ▸ hstored, hget,
                fun hrun => hstopped ((hes₁.stopped _).mpr (Or.inl hrun)), hes₁.trans hes₂,
                hbeside.simulation, run_state, hallowed, ?_⟩
              exact (List.sublist_append_right es₁ _).append hsub

/-- A result that is not stored: a denial, or the repetition of a stored result. -/
def Transient (result : ActionResult) : Prop := result.status = .denied ∨ result.cached = true

/-- A decision that is an answer answers with a result that is not stored. -/
def Decision.AnswersTransient : Decision W S → Prop
  | .answered result => Transient result
  | .granted _ => True

theorem denied_transient (request : JsonObject) (started_at : DateTime) (code message : String)
    (within_allowlist : Bool) :
    Raising.Triple (fun _ => True)
      (env.denied request started_at code message within_allowlist)
      (fun decision _ => decision.AnswersTransient) (fun _ _ => True) := by
  refine Raising.Triple.intro (fun a decision a' _ h => ?_) fun _ _ _ _ _ => trivial
  obtain ⟨result, rfl, hstatus, -⟩ := env.denied_eq_ok h
  exact Or.inl hstatus

theorem checkPolicy_transient (definition : ActionDefinition W S) (request : JsonObject)
    (started_at : DateTime) :
    Raising.Triple (fun _ => True) (env.checkPolicy definition request started_at)
      (fun decision _ => decision.AnswersTransient) (fun _ _ => True) := by
  unfold checkPolicy
  refine Raising.Triple.bind Raising.Triple.trivial fun run_state => ?_
  split
  · exact env.denied_transient _ _ _ _ _
  · refine Raising.Triple.bind Raising.Triple.trivial fun _ => ?_
    split
    · exact env.denied_transient _ _ _ _ _
    · split
      · exact env.denied_transient _ _ _ _ _
      · split
        · exact env.denied_transient _ _ _ _ _
        · refine Raising.Triple.bind Raising.Triple.trivial fun refusal => ?_
          cases refusal with
          | some message => exact env.denied_transient _ _ _ _ _
          | none =>
              exact Raising.Triple.bind Raising.Triple.trivial fun _ =>
                Raising.Triple.pure fun _ _ => trivial

theorem replay_transient (request : JsonObject) (started_at : DateTime) (stored : ActionResult) :
    Raising.Triple (fun _ => True) (env.replay request started_at stored)
      (fun decision _ => decision.AnswersTransient) (fun _ _ => True) := by
  unfold replay
  refine Raising.Triple.bind Raising.Triple.trivial fun first => ?_
  split_ifs
  · exact env.denied_transient _ _ _ _ _
  · refine Raising.Triple.bind Raising.Triple.trivial fun _ => ?_
    exact Raising.Triple.bind Raising.Triple.trivial fun _ =>
      Raising.Triple.pure fun _ _ => Or.inr rfl

/-- An authorization that answers does so with a denial or a repetition. -/
theorem authorize_transient (request : JsonObject) (started_at : DateTime) :
    Raising.Triple (fun _ => True) (env.authorize request started_at)
      (fun decision _ => decision.AnswersTransient) (fun _ _ => True) := by
  unfold authorize
  refine Raising.Triple.bind Raising.Triple.trivial fun _ => ?_
  split_ifs
  · exact env.denied_transient _ _ _ _ _
  · refine Raising.Triple.bind Raising.Triple.trivial fun stored => ?_
    cases stored with
    | some result => exact env.replay_transient _ _ _
    | none =>
        show Raising.Triple _ (env.checkRequest request started_at) _ _
        unfold checkRequest
        split
        · exact env.denied_transient _ _ _ _ _
        · refine Raising.Triple.bind Raising.Triple.trivial fun stopped_runs => ?_
          split_ifs
          · exact env.denied_transient _ _ _ _ _
          · exact env.checkPolicy_transient _ _ _

/-! ## Calls that reach their handler -/

/-- The state in which `authorize` starts. -/
def opened (request : JsonObject) (a : SafeActionAdapter W S) : SafeActionAdapter W S :=
  { note (.called request) a with world := (env.sources.clock a.world).2 }

theorem observes_opened (request : JsonObject) (a : SafeActionAdapter W S) :
    Observes [.called request] a (env.opened request a) :=
  ⟨rfl, fun run => by simp [opened, note]⟩

theorem observes_enterRunning (request : JsonObject) (a : SafeActionAdapter W S) :
    Observes [] a (enterRunning request a) :=
  ⟨(List.append_nil _).symm, fun run => by simp [enterRunning]⟩

/-- The call reaches its handler, after the authorization in `a₁`, the registration of the control
in `a₂` and the announced start in `a₃`. -/
structure Started (request : JsonObject) (definition : ActionDefinition W S)
    (started_at : DateTime) (control : ExecutionControl) (a a₁ a₂ a₃ : SafeActionAdapter W S) :
    Prop where
  valid : ActionValidator.validate env.formats request = .ok ()
  clock : started_at = (env.sources.clock a.world).1
  granted : env.authorize request started_at (env.opened request a) =
    (.ok (.granted definition), a₁)
  real : request.dryRun = false
  registered : env.registerControl request a₁ = (.ok control, a₂)
  announced : env.emitStarted definition request a₂ = (.ok (), a₃)

theorem executeRedacted_of_started {request : JsonObject} {definition : ActionDefinition W S}
    {started_at : DateTime} {control : ExecutionControl} {a a₁ a₂ a₃ : SafeActionAdapter W S}
    (h : env.Started request definition started_at control a a₁ a₂ a₃) :
    env.executeRedacted request a = env.completeAction definition request started_at control a₃ := by
  have hgranted : env.authorize request (env.sources.clock a.world).1 (env.opened request a) =
      (.ok (.granted definition), a₁) := h.clock ▸ h.granted
  unfold executeRedacted
  rw [Raising.modify_bind_apply, Raising.ofExcept_bind_apply, h.valid]
  dsimp only
  rw [Raising.step_bind_apply]
  refine (Raising.bind_of_ok hgranted).trans ?_
  dsimp only
  rw [if_neg (by rw [h.real]; decide)]
  show env.executeAction definition request (env.sources.clock a.world).1 a₁ = _
  rw [← h.clock]
  unfold executeAction
  rw [Raising.bind_of_ok h.registered, Raising.bind_of_ok h.announced]

variable {env} in
/-- The states on the way to the handler are determined by the call. -/
theorem Started.unique {request : JsonObject} {definition definition' : ActionDefinition W S}
    {started_at started_at' : DateTime} {control control' : ExecutionControl}
    {a a₁ a₂ a₃ a₁' a₂' a₃' : SafeActionAdapter W S}
    (h : env.Started request definition started_at control a a₁ a₂ a₃)
    (h' : env.Started request definition' started_at' control' a a₁' a₂' a₃') :
    definition' = definition ∧ started_at' = started_at ∧ control' = control ∧ a₁' = a₁ ∧
      a₂' = a₂ ∧ a₃' = a₃ := by
  have hclock : started_at' = started_at := h'.clock.trans h.clock.symm
  subst hclock
  have hgranted := h'.granted.symm.trans h.granted
  injection hgranted with hdefinition ha₁
  injection hdefinition with hdefinition
  injection hdefinition with hdefinition
  subst hdefinition
  subst ha₁
  have hregistered := h'.registered.symm.trans h.registered
  injection hregistered with hcontrol ha₂
  injection hcontrol with hcontrol
  subst hcontrol
  subst ha₂
  have hannounced := h'.announced.symm.trans h.announced
  injection hannounced with _ ha₃
  exact ⟨rfl, rfl, rfl, rfl, rfl, ha₃⟩

/-- Registering a control makes an entry with a clear cancel event; while the clock is read, stops
may happen. -/
theorem registerControl_spec (request : JsonObject) (a : SafeActionAdapter W S) :
    ∃ control es b, env.registerControl request a = (.ok control, enterRunning request b) ∧
      control.request_id = request.text "request_id" ∧ Outside es a b ∧
      b.simulation = a.simulation := by
  have hbeside := beside_onWorld env.beside_nested env.monotonic a
  unfold registerControl
  cases hnow : onWorld env.nested env.monotonic a with
  | mk r b =>
      rw [hnow] at hbeside
      obtain ⟨es, hes⟩ := hbeside.outside
      cases r with
      | ok now =>
          rw [Raising.bind_of_ok hnow, Raising.modify_bind_apply, Raising.pure_apply]
          exact ⟨_, es, b, rfl, rfl, hes, hbeside.simulation⟩
      | error e => cases hnow

/-- The journal, the stop and the ledgers of a call when its handler is about to be called. -/
structure AtHandler (request : JsonObject) (definition : ActionDefinition W S)
    (a a₂ a₃ : SafeActionAdapter W S) : Prop where
  registration : ∃ es, Observes (.called request :: es) a a₂ ∧ (∀ e ∈ es, e.Outer) ∧
    ∃ run_state, Allowed definition request run_state ∧
      (approvals definition request run_state).Sublist es
  announcement : ∃ es, Observes (es ++ [.audited request "action.execution.started"]) a₂ a₃ ∧
    (∀ e ∈ es, e.Outer) ∧
      (isSet (request.text "request_id") a₃ = true ↔ .latched (request.text "run_id") ∈ es)
  results : a₃.results = a.results
  fingerprints : a₃.fingerprints = a.fingerprints
  executions : a₃.executions = a.executions
  simulation : a₃.simulation = a.simulation
  context : a₃.events.context = a.events.context

variable {env} in
/-- A started call at its handler. -/
theorem Started.atHandler {request : JsonObject} {definition : ActionDefinition W S}
    {started_at : DateTime} {control : ExecutionControl} {a a₁ a₂ a₃ : SafeActionAdapter W S}
    (h : env.Started request definition started_at control a a₁ a₂ a₃) :
    control.request_id = request.text "request_id" ∧
      env.registry.get (request.text "action_id") = some definition ∧
      request.text "exercise_id" = env.context.exercise_id ∧
      request.text "run_id" = env.context.run_id ∧
      request.text "run_id" ∉ a.stopped_runs ∧ a.results (key request) = none ∧
      AtHandler request definition a a₂ a₃ := by
  obtain ⟨es₁, hgranted⟩ := env.authorize_granted h.granted
  obtain ⟨control', es₂, b, hregister, hcontrol, hes₂, hsimulation₂⟩ :=
    env.registerControl_spec request a₁
  have hregistered := hregister.symm.trans h.registered
  injection hregistered with hc ha₂
  injection hc with hc
  subst hc
  obtain ⟨es₃, hes₃, hsimulation₃⟩ := env.emit_eq_ok h.announced
  have hopened := env.observes_opened request a
  have hb₂ : Observes [] b a₂ := ha₂ ▸ observes_enterRunning request b
  have hboth := hgranted.outside.trans hes₂
  have hlookup : isSet (request.text "request_id") a₃ =
      decide (.latched (request.text "run_id") ∈ es₃ ++
        [.audited request "action.execution.started"]) := by
    unfold isSet
    rw [hes₃.running, ← ha₂]
    unfold enterRunning
    dsimp only
    rw [lookup_setEntry]
    simp [marked]
  refine ⟨hcontrol, hgranted.registered, hgranted.exercise, hgranted.run, hgranted.not_stopped,
    hgranted.fresh, ?_⟩
  refine ⟨⟨es₁ ++ es₂, ?_, hboth.entries, ?_⟩, ⟨es₃, hes₃.toObserves, ?_, ?_⟩, ?_, ?_, ?_, ?_, ?_⟩
  · have hall := (hopened.trans hboth.toObserves).trans hb₂
    rwa [List.append_nil] at hall
  · obtain ⟨run_state, hallowed, hsub⟩ := hgranted.approved
    exact ⟨run_state, hallowed, hsub.trans (List.sublist_append_left es₁ es₂)⟩
  · exact fun e he => hes₃.entries e (List.mem_append_left _ he)
  · rw [hlookup]
    simp
  · rw [hes₃.results, ← ha₂]
    exact hboth.results
  · rw [hes₃.fingerprints, ← ha₂]
    exact hboth.fingerprints
  · rw [hes₃.executions, ← ha₂]
    exact hboth.executions
  · rw [hsimulation₃, ← ha₂]
    exact hsimulation₂.trans hgranted.simulation
  · rw [hes₃.context, ← ha₂]
    exact hboth.context

/-! ## The handler and what follows it -/

/-- The state in which the handler starts. -/
def invoked (request : JsonObject) (control : ExecutionControl) (a : SafeActionAdapter W S) :
    SafeActionAdapter W S :=
  note (.invoked request (isSet control.request_id a)) a

theorem outside_callHandler (definition : ActionDefinition W S) (request : JsonObject)
    (control : ExecutionControl) (a : SafeActionAdapter W S) :
    ∃ es, Outside es a (env.callHandler definition request control a).2 := by
  obtain ⟨es, hes⟩ := outside_onSimulation env.beside_nested
    (definition.handler (request.object "parameters") (request.object "target") control) a
  unfold callHandler
  cases hanswer : onSimulation env.nested (definition.handler (request.object "parameters")
      (request.object "target") control) a with
  | mk r b =>
      rw [hanswer] at hes
      cases r with
      | ok answer =>
          rw [Raising.bind_of_ok hanswer]
          exact ⟨es, hes⟩
      | error e =>
          rw [Raising.bind_of_error hanswer]
          exact ⟨es, hes⟩

theorem beside_checkpoint (control : ExecutionControl) :
    (env.checkpoint control).Keeps Beside := by
  refine Raising.Keeps.bind (Raising.Keeps.require _ _) fun _ => ?_
  exact Raising.Keeps.bind (beside_onWorld env.beside_nested _) fun _ =>
    Raising.Keeps.require _ _

/-- The handler and the check after it change the simulation, stop runs, and nothing else. -/
theorem outside_runAction (definition : ActionDefinition W S) (request : JsonObject)
    (control : ExecutionControl) (a : SafeActionAdapter W S) :
    ∃ es, Outside es (invoked request control a)
      (env.runAction definition request control a).2 := by
  obtain ⟨es, hes⟩ := env.outside_callHandler definition request control
    (invoked request control a)
  have hrun : env.runAction definition request control a =
      (env.callHandler definition request control >>= fun effect => do
        env.checkpoint control
        return effect) (invoked request control a) := rfl
  rw [hrun]
  cases hcall : env.callHandler definition request control (invoked request control a) with
  | mk r b =>
      rw [hcall] at hes
      cases r with
      | ok effect =>
          rw [Raising.bind_of_ok hcall]
          have hcheck := Raising.Keeps.bind (env.beside_checkpoint control)
            (fun _ => Raising.Keeps.pure (R := Beside) effect) b
          obtain ⟨fs, hfs⟩ := hcheck.outside
          exact ⟨es ++ fs, hes.trans hfs⟩
      | error e =>
          rw [Raising.bind_of_error hcall]
          exact ⟨es, hes⟩

/-- A failed action gives an unsuccessful result, or its result is refused. -/
theorem failedResult_cases (request : JsonObject) (started_at : DateTime) (e : Exn)
    (a : SafeActionAdapter W S) :
    (∃ result w, env.failedResult request started_at e a = (.ok result, { a with world := w }) ∧
      result.successful = false ∧ result.status ∈ [ResultStatus.cancelled, .timed_out, .failed]) ∨
    ∃ e' w, env.failedResult request started_at e a = (.error e', { a with world := w }) := by
  have hresult : ∀ (status : ResultStatus) (error_code : Option String) (message : String),
      status ∈ [ResultStatus.cancelled, .timed_out, .failed] →
      (∃ result w, env.result request status false started_at [] .unsupported error_code message a =
          (.ok result, { a with world := w }) ∧ result.successful = false ∧
          result.status ∈ [ResultStatus.cancelled, .timed_out, .failed]) ∨
        ∃ e' w, env.result request status false started_at [] .unsupported error_code message a =
          (.error e', { a with world := w }) := by
    intro status error_code message hstatus
    by_cases h : env.ResultAccepted request status false started_at [] .unsupported error_code
        message a
    · exact Or.inl ⟨_, _, env.result_of_accepted h, rfl, hstatus⟩
    · exact Or.inr (env.result_of_not_accepted h)
  unfold failedResult
  split
  · exact hresult _ _ _ (by decide)
  · split
    · exact hresult _ _ _ (by decide)
    · split
      · exact hresult _ _ _ (by decide)
      · exact hresult _ _ _ (by decide)

/-- The result of an executed action is accepted. -/
def ExecutedAccepted (definition : ActionDefinition W S) (request : JsonObject)
    (started_at : DateTime) (effect : ActionEffect) (a : SafeActionAdapter W S) : Prop :=
  env.ResultAccepted request .executed true started_at effect.effects
    (supportedRollback definition (truthy effect.rollback_token)) none
    "Action executed successfully" a

/-- The result of an executed action. -/
def executedRecord (definition : ActionDefinition W S) (request : JsonObject)
    (started_at : DateTime) (effect : ActionEffect) (a : SafeActionAdapter W S) : ActionResult :=
  resultRecord request .executed true started_at.isoformat
    (env.sources.clock a.world).1.isoformat effect.effects
    (supportedRollback definition (truthy effect.rollback_token)) none
    "Action executed successfully"

theorem executedResult_of_accepted {definition : ActionDefinition W S} {request : JsonObject}
    {started_at : DateTime} {effect : ActionEffect} {a : SafeActionAdapter W S}
    (h : env.ExecutedAccepted definition request started_at effect a) :
    env.executedResult definition request started_at effect a =
      (.ok (env.executedRecord definition request started_at effect a),
        { a with
          world := (env.sources.clock a.world).2
          executions := Function.update a.executions (request.text "request_id")
            (some (definition, request, effect)) }) := by
  unfold executedResult
  rw [Raising.bind_of_ok (env.result_of_accepted h), Raising.modify_bind_apply]
  rfl

theorem executedResult_of_not_accepted {definition : ActionDefinition W S} {request : JsonObject}
    {started_at : DateTime} {effect : ActionEffect} {a : SafeActionAdapter W S}
    (h : ¬ env.ExecutedAccepted definition request started_at effect a) :
    ∃ e w, env.executedResult definition request started_at effect a =
      (.error e, { a with world := w }) := by
  obtain ⟨e, w, heq⟩ := env.result_of_not_accepted h
  exact ⟨e, w, Raising.bind_of_error heq⟩

/-- A handler that is not concluded leaves nothing but an exception. -/
theorem completeAction_of_error {definition : ActionDefinition W S} {request : JsonObject}
    {started_at : DateTime} {control : ExecutionControl} {a b c : SafeActionAdapter W S}
    {outcome : Except Exn ActionEffect} {e : Exn}
    (hrun : env.runAction definition request control a = (outcome, b))
    (hconclude : env.conclude definition request started_at outcome b = (.error e, c)) :
    env.completeAction definition request started_at control a =
      (.error e, removeRunning request c) := by
  have hattempt : env.attemptAction definition request started_at control a =
      (.error e, removeRunning request c) := by
    unfold attemptAction
    rw [Raising.ensure_apply, Raising.attempt_bind_apply, hrun, hconclude]
  exact Raising.bind_of_error hattempt

/-- A concluded handler has its result stored, whatever the audit of the completion does. -/
theorem completeAction_of_ok {definition : ActionDefinition W S} {request : JsonObject}
    {started_at : DateTime} {control : ExecutionControl} {a b c : SafeActionAdapter W S}
    {outcome : Except Exn ActionEffect} {concluded : ActionResult × JsonObject}
    (hrun : env.runAction definition request control a = (outcome, b))
    (hconclude : env.conclude definition request started_at outcome b = (.ok concluded, c)) :
    Beside (env.store request concluded.1 (removeRunning request c))
        (env.completeAction definition request started_at control a).2 ∧
      ∀ r, (env.completeAction definition request started_at control a).1 = .ok r →
        r = concluded.1 := by
  have hattempt : env.attemptAction definition request started_at control a =
      (.ok concluded, removeRunning request c) := by
    unfold attemptAction
    rw [Raising.ensure_apply, Raising.attempt_bind_apply, hrun, hconclude]
  unfold completeAction
  rw [Raising.bind_of_ok hattempt, Raising.modify_bind_apply]
  refine ⟨?_, fun r hr => Raising.bind_pure_value hr⟩
  rw [Raising.bind_pure_state]
  exact env.beside_emit _ _ _ _ _ _ _ _

theorem conclude_error (definition : ActionDefinition W S) (request : JsonObject)
    (started_at : DateTime) (e : Exn) (a : SafeActionAdapter W S) :
    (∃ result w, env.conclude definition request started_at (.error e) a =
        (.ok (result, []), { a with world := w }) ∧ result.successful = false ∧
        result.status ∈ [ResultStatus.cancelled, .timed_out, .failed]) ∨
      ∃ e' w, env.conclude definition request started_at (.error e) a =
        (.error e', { a with world := w }) := by
  rcases env.failedResult_cases request started_at e a with
    ⟨result, w, heq, hunsuccessful, hstatus⟩ | ⟨e', w, heq⟩
  · exact Or.inl ⟨result, w, Raising.bind_of_ok heq, hunsuccessful, hstatus⟩
  · exact Or.inr ⟨e', w, Raising.bind_of_error heq⟩

theorem conclude_accepted {definition : ActionDefinition W S} {request : JsonObject}
    {started_at : DateTime} {effect : ActionEffect} {a : SafeActionAdapter W S}
    (h : env.ExecutedAccepted definition request started_at effect a) :
    env.conclude definition request started_at (.ok effect) a =
      (.ok (env.executedRecord definition request started_at effect a, effect.metadata),
        { a with
          world := (env.sources.clock a.world).2
          executions := Function.update a.executions (request.text "request_id")
            (some (definition, request, effect)) }) :=
  Raising.bind_of_ok (env.executedResult_of_accepted h)

theorem conclude_not_accepted {definition : ActionDefinition W S} {request : JsonObject}
    {started_at : DateTime} {effect : ActionEffect} {a : SafeActionAdapter W S}
    (h : ¬ env.ExecutedAccepted definition request started_at effect a) :
    ∃ e w, env.conclude definition request started_at (.ok effect) a =
      (.error e, { a with world := w }) := by
  obtain ⟨e, w, heq⟩ := env.executedResult_of_not_accepted h
  exact ⟨e, w, Raising.bind_of_error heq⟩

/-- To conclude a handler is to build its result and to remember an executed action. -/
theorem conclude_frame (definition : ActionDefinition W S) (request : JsonObject)
    (started_at : DateTime) (outcome : Except Exn ActionEffect) (a : SafeActionAdapter W S) :
    ∃ w executions, (env.conclude definition request started_at outcome a).2 =
      { a with world := w, executions := executions } := by
  cases outcome with
  | error e =>
      rcases env.conclude_error definition request started_at e a with
        ⟨result, w, heq, -, -⟩ | ⟨e', w, heq⟩
      · exact ⟨w, a.executions, by rw [heq]⟩
      · exact ⟨w, a.executions, by rw [heq]⟩
  | ok effect =>
      by_cases hacc : env.ExecutedAccepted definition request started_at effect a
      · exact ⟨(env.sources.clock a.world).2, Function.update a.executions
          (request.text "request_id") (some (definition, request, effect)),
          by rw [env.conclude_accepted hacc]⟩
      · obtain ⟨e, w, heq⟩ := env.conclude_not_accepted hacc
        exact ⟨w, a.executions, by rw [heq]⟩

/-- What is observed from the start of the handler on. -/
theorem completeAction_observes (definition : ActionDefinition W S) (request : JsonObject)
    (started_at : DateTime) (control : ExecutionControl) (a : SafeActionAdapter W S) :
    (∃ es, Observes (.invoked request (isSet control.request_id a) :: es) a
        (env.completeAction definition request started_at control a).2 ∧ ∀ e ∈ es, e.Outer) ∧
      (env.completeAction definition request started_at control a).2.events.context =
        a.events.context := by
  obtain ⟨es, hes⟩ := env.outside_runAction definition request control a
  have hinvoked : Observes [.invoked request (isSet control.request_id a)] a
      (invoked request control a) := ⟨rfl, fun run => by simp [invoked, note]⟩
  have hstart := hinvoked.trans hes.toObserves
  cases hrun : env.runAction definition request control a with
  | mk outcome b =>
      rw [hrun] at hes hstart
      obtain ⟨w, executions, hframe⟩ := env.conclude_frame definition request started_at outcome b
      cases hconclude : env.conclude definition request started_at outcome b with
      | mk r c =>
          rw [hconclude] at hframe
          dsimp only at hframe
          cases r with
          | error e =>
              rw [env.completeAction_of_error hrun hconclude, hframe]
              exact ⟨⟨es, ⟨hstart.journal, hstart.stopped⟩, hes.entries⟩, hes.context⟩
          | ok concluded =>
              obtain ⟨⟨⟨fs, hfs⟩, -⟩, -⟩ := env.completeAction_of_ok hrun hconclude
              rw [hframe] at hfs
              have hstored : Observes [] b (env.store request concluded.1 (removeRunning request
                  { b with world := w, executions := executions })) :=
                ⟨(List.append_nil _).symm, fun run => by simp [store, removeRunning]⟩
              have hall := (hstart.trans hstored).trans hfs.toObserves
              rw [List.append_nil] at hall
              refine ⟨⟨es ++ fs, hall, ?_⟩, hfs.context.trans hes.context⟩
              exact fun e he => (List.mem_append.mp he).elim (hes.entries e) (hfs.entries e)

/-! ## Calls that do not reach their handler -/

/-- A call without a handler: the simulation and the executions stay, and the only result it may
store is that of a dry run of the adapter's own run, under a new key. -/
structure Unstarted (request : JsonObject) (a : SafeActionAdapter W S)
    (outcome : Except Exn ActionResult) (a' : SafeActionAdapter W S) : Prop where
  observed : ∃ es, Observes (.called request :: es) a a' ∧ ∀ e ∈ es, e.Outer
  context : a'.events.context = a.events.context
  executions : a'.executions = a.executions
  simulation : a'.simulation = a.simulation
  ledger : (a'.results = a.results ∧ a'.fingerprints = a.fingerprints ∧
      ∀ r, outcome = .ok r → Transient r) ∨
    ∃ result : ActionResult, a.results (key request) = none ∧
      request.text "run_id" = env.context.run_id ∧ result.status = .dry_run ∧
      result.successful = true ∧ result.cached = false ∧ result.WellFormed env.formats ∧
      a'.results = Function.update a.results (key request) (some result) ∧
      a'.fingerprints =
        Function.update a.fingerprints (key request) (some (env.fingerprint request)) ∧
      ∀ r, outcome = .ok r → r = result

theorem unstarted_of_beside {request : JsonObject} {a a' : SafeActionAdapter W S}
    {outcome : Except Exn ActionResult} (h : Beside (env.opened request a) a')
    (htransient : ∀ r, outcome = .ok r → Transient r) : env.Unstarted request a outcome a' := by
  obtain ⟨es, hes⟩ := h.outside
  have hopened := env.observes_opened request a
  exact ⟨⟨es, hopened.trans hes.toObserves, hes.entries⟩, hes.context, hes.executions,
    h.simulation, Or.inl ⟨hes.results, hes.fingerprints, htransient⟩⟩

/-- A dry run stores its result, unless the result is refused. -/
theorem unstarted_dryRun {request : JsonObject} {definition : ActionDefinition W S}
    {a a₁ : SafeActionAdapter W S} {es : List ActionEntry} (started_at : DateTime)
    (h : env.Granted request definition es (env.opened request a) a₁) :
    env.Unstarted request a (env.dryRun definition request started_at a₁).1
      (env.dryRun definition request started_at a₁).2 := by
  unfold dryRun
  by_cases hacc : env.ResultAccepted request .dry_run true started_at definition.expected_effects
      (supportedRollback definition none) none "Dry run passed; handler was not invoked" a₁
  · rw [Raising.bind_of_ok (env.result_of_accepted hacc), Raising.modify_bind_apply]
    generalize hrecord : resultRecord request .dry_run true started_at.isoformat
      (env.sources.clock a₁.world).1.isoformat definition.expected_effects
      (supportedRollback definition none) none "Dry run passed; handler was not invoked" = record
    have hstatus : record.status = .dry_run ∧ record.successful = true ∧ record.cached = false ∧
        record.WellFormed env.formats := by
      rw [← hrecord]
      exact ⟨rfl, rfl, rfl, hacc.wellFormed⟩
    generalize hstore : env.store request record
      { a₁ with world := (env.sources.clock a₁.world).2 } = b
    obtain ⟨⟨fs, hfs⟩, hsimulation⟩ : Beside b
        (env.emitCompletion definition request record [] b).2 :=
      env.beside_emit _ _ _ _ _ _ _ _
    have hstored : Observes [] a₁ b := by
      rw [← hstore]
      exact ⟨(List.append_nil _).symm, fun run => by simp [store]⟩
    have hall := (((env.observes_opened request a).trans h.outside.toObserves).trans
      hstored).trans hfs.toObserves
    rw [List.append_nil] at hall
    refine ⟨⟨es ++ fs, ?_, ?_⟩, ?_, ?_, ?_, Or.inr ⟨record, h.fresh, h.run, hstatus.1,
      hstatus.2.1, hstatus.2.2.1, hstatus.2.2.2, ?_, ?_, fun r hr => Raising.bind_pure_value hr⟩⟩
    · rw [Raising.bind_pure_state]
      exact hall
    · exact fun e he => (List.mem_append.mp he).elim (h.outside.entries e) (hfs.entries e)
    · rw [Raising.bind_pure_state, hfs.context, ← hstore]
      exact h.outside.context
    · rw [Raising.bind_pure_state, hfs.executions, ← hstore]
      exact h.outside.executions
    · rw [Raising.bind_pure_state, hsimulation, ← hstore]
      exact h.simulation
    · rw [Raising.bind_pure_state, hfs.results, ← hstore]
      show Function.update a₁.results _ _ = _
      rw [h.outside.results]
      rfl
    · rw [Raising.bind_pure_state, hfs.fingerprints, ← hstore]
      show Function.update a₁.fingerprints _ _ = _
      rw [h.outside.fingerprints]
      rfl
  · obtain ⟨e, w, heq⟩ := env.result_of_not_accepted hacc
    rw [Raising.bind_of_error heq]
    exact env.unstarted_of_beside (Beside.trans ⟨⟨es, h.outside⟩, h.simulation⟩
      (beside_of_world w a₁)) fun r hr => nomatch hr

/-- A call whose start is not announced leaves an entry in `_running` at most. -/
theorem unstarted_of_not_announced {request : JsonObject} {definition : ActionDefinition W S}
    {a a₁ b a₃ : SafeActionAdapter W S} {es fs : List ActionEntry} {e : Exn}
    (h : env.Granted request definition es (env.opened request a) a₁) (hfs : Outside fs a₁ b)
    (hsimulation : b.simulation = a₁.simulation)
    (hstart : env.emitStarted definition request (enterRunning request b) = (.error e, a₃)) :
    env.Unstarted request a (.error e) a₃ := by
  have hemit : Beside (enterRunning request b)
      (env.emitStarted definition request (enterRunning request b)).2 :=
    env.beside_emit _ _ _ _ _ _ _ _
  rw [hstart] at hemit
  obtain ⟨gs, hgs⟩ := hemit.outside
  have hboth := h.outside.trans hfs
  have hall := (((env.observes_opened request a).trans hboth.toObserves).trans
    (observes_enterRunning request b)).trans hgs.toObserves
  rw [List.append_nil] at hall
  exact {
    observed := ⟨es ++ fs ++ gs, hall, fun e he =>
      (List.mem_append.mp he).elim (hboth.entries e) (hgs.entries e)⟩
    context := hgs.context.trans hboth.context
    executions := hgs.executions.trans hboth.executions
    simulation := hemit.simulation.trans (hsimulation.trans h.simulation)
    ledger := Or.inl ⟨hgs.results.trans hboth.results,
      hgs.fingerprints.trans hboth.fingerprints, fun r hr => nomatch hr⟩ }

/-- A call that does not reach its handler. -/
theorem executeRedacted_of_not_started {request : JsonObject} {a : SafeActionAdapter W S}
    (h : ∀ definition started_at control a₁ a₂ a₃,
      ¬ env.Started request definition started_at control a a₁ a₂ a₃) :
    env.Unstarted request a (env.executeRedacted request a).1 (env.executeRedacted request a).2 := by
  unfold executeRedacted
  rw [Raising.modify_bind_apply, Raising.ofExcept_bind_apply]
  cases hvalid : ActionValidator.validate env.formats request with
  | error e =>
      exact ⟨⟨[], ⟨rfl, fun run => by simp [note]⟩, fun e he => absurd he List.not_mem_nil⟩, rfl,
        rfl, rfl, Or.inl ⟨rfl, rfl, fun r hr => by cases hr⟩⟩
  | ok _ =>
      dsimp only
      rw [Raising.step_bind_apply]
      show env.Unstarted request a
        ((env.authorize request (env.sources.clock a.world).1 >>= _) (env.opened request a)).1
        ((env.authorize request (env.sources.clock a.world).1 >>= _) (env.opened request a)).2
      have hbeside := env.beside_authorize request (env.sources.clock a.world).1
        (env.opened request a)
      cases hauth : env.authorize request (env.sources.clock a.world).1 (env.opened request a) with
      | mk r a₁ =>
          rw [hauth] at hbeside
          cases r with
          | error e =>
              rw [Raising.bind_of_error hauth]
              exact env.unstarted_of_beside hbeside fun r hr => by cases hr
          | ok decision =>
              rw [Raising.bind_of_ok hauth]
              have htransient := (env.authorize_transient request _).of_ok trivial hauth
              cases decision with
              | answered result =>
                  refine env.unstarted_of_beside hbeside fun r hr => ?_
                  have hr : Except.ok result = Except.ok r := hr
                  injection hr with hr
                  rw [← hr]
                  exact htransient
              | granted definition =>
                  obtain ⟨es, hgranted⟩ := env.authorize_granted hauth
                  dsimp only
                  by_cases hdry : request.dryRun = true
                  · rw [if_pos hdry]
                    exact env.unstarted_dryRun _ hgranted
                  · rw [if_neg hdry]
                    obtain ⟨control, fs, b, hregister, -, hfs, hsimulation⟩ :=
                      env.registerControl_spec request a₁
                    unfold executeAction
                    rw [Raising.bind_of_ok hregister]
                    cases hstart : env.emitStarted definition request (enterRunning request b) with
                    | mk r a₃ =>
                        cases r with
                        | ok _ =>
                            exact absurd ⟨hvalid, rfl, hauth, Bool.eq_false_iff.mpr hdry, hregister,
                              hstart⟩ (h definition _ control a₁ _ a₃)
                        | error e =>
                            rw [Raising.bind_of_error hstart]
                            exact env.unstarted_of_not_announced hgranted hfs hsimulation hstart

end NetStrike.Shared.Adapter
