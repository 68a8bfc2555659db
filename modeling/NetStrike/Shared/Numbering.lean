import NetStrike.Shared.Idempotency

/-!
# Calls whose events can be written

The builder of an adapter takes its numbers from a sequencer in the world. `Numbered` says that the
collaborators leave that sequencer alone or move it up, and `Advances` that every part of a call
keeps the builder at or below it, so a build never fails for its number. With a sink that accepts
everything a call whose first event was written then has all its events written:
`execute_error_simulation` says that such a call raises only if it changed nothing.
-/

set_option autoImplicit false

namespace NetStrike.Shared

open NetStrike.Foundation

/-! ## Code that keeps a relation -/

namespace Callback

variable {V α : Type}

/-- Run a step and go on with its result. -/
def step {β : Type} (f : V → β × V) (next : β → Callback V α) : Callback V α :=
  .act id fun v => .act (fun _ => (f v).2) fun _ => next (f v).1

/-- Every effect of the code relates the state before to the state after by `R`. -/
def Keeps (R : V → V → Prop) : Callback V α → Prop
  | .finish _ => True
  | .act effect next => ∀ v, R v (effect v) ∧ (next (effect v)).Keeps R
  | .is_set _ next => ∀ set, (next set).Keeps R
  | .activate_fail_safe _ _ _ next => ∀ outcome, (next outcome).Keeps R

end Callback

namespace Adapter

variable {W S : Type} (env : Adapter W S) (level : W → Nat)

/-- The collaborators take their numbers from the sequencer whose last number is `level`, and do
not set it back. -/
structure Numbered : Prop where
  factory : ∃ next, env.sources.sequence_factory = some next ∧
    ∀ w, (next w).1 = level w + 1 ∧ level (next w).2 = level w + 1
  clock : ∀ w, level w ≤ level (env.sources.clock w).2
  event_id : ∀ w, level w ≤ level (env.sources.event_id_factory w).2
  uuid4 : ∀ w, level w ≤ level (env.uuid4 w).2
  event_sink : ∀ event, (env.event_sink event).Keeps fun w w' => level w ≤ level w'
  run_state : ∀ exercise_id run_id,
    (env.run_state exercise_id run_id).Keeps fun w w' => level w ≤ level w'
  monotonic : env.monotonic.Keeps fun w w' => level w ≤ level w'
  validator : ∀ definition ∈ env.registry.definitions, ∀ validator,
    definition.parameter_validator = some validator →
      ∀ parameters, (validator parameters).Keeps fun w w' => level w ≤ level w'
  handler : ∀ definition ∈ env.registry.definitions, ∀ parameters target control,
    (definition.handler parameters target control).Keeps fun v v' => level v.1 ≤ level v'.1

/-- The sequencer did not move back, and the builder did not overtake it. -/
structure Advances (a a' : SafeActionAdapter W S) : Prop where
  forward : level a.world ≤ level a'.world
  builder : a.events.sequence ≤ level a.world → a'.events.sequence ≤ level a'.world

instance : Std.Refl (Advances (S := S) level) := ⟨fun _ => ⟨le_rfl, id⟩⟩

variable {level}

theorem Advances.trans {a b c : SafeActionAdapter W S} (h : Advances level a b)
    (h' : Advances level b c) : Advances level a c :=
  ⟨h.forward.trans h'.forward, fun hb => h'.builder (h.builder hb)⟩

instance : IsTrans (SafeActionAdapter W S) (Advances level) := ⟨fun _ _ _ => Advances.trans⟩

/-- A step that moves the sequencer up and leaves the builder. -/
theorem advances_of_world {a a' : SafeActionAdapter W S} (hevents : a'.events = a.events)
    (hworld : level a.world ≤ level a'.world) : Advances level a a' :=
  ⟨hworld, fun hb => hevents ▸ hb.trans hworld⟩

section Numbered

variable {env} (h : env.Numbered level)
include h

/-- A build moves the builder to the number that the sequencer gives. -/
theorem advances_build (call : EventCall) :
    (Raising.focus (fun a : SafeActionAdapter W S => (a.events, a.world))
      (fun s a => { a with events := s.1, world := s.2 })
      (EventBuilder.build env.formats env.sources call)).Keeps (Advances level) := by
  obtain ⟨next, hnext, hlevel⟩ := h.factory
  have hsequence : ∀ b w, EventBuilder.nextSequence env.sources b w = next w := by
    intro b w
    unfold EventBuilder.nextSequence
    rw [hnext]
  have hid : ∀ w, level w ≤ level (EventBuilder.eventId env.sources call w).2 := by
    intro w
    unfold EventBuilder.eventId
    split
    · exact le_rfl
    · exact h.event_id w
  have hnow : ∀ w, level w ≤ level (EventBuilder.now env.sources call w).2 := by
    intro w
    unfold EventBuilder.now
    split
    · exact le_rfl
    · exact h.clock w
  have hsources : ∀ w, level w + 1 ≤ level (EventBuilder.now env.sources call
      (EventBuilder.eventId env.sources call (next w).2).2).2 := by
    intro w
    have hup := (hid (next w).2).trans (hnow _)
    rw [(hlevel w).2] at hup
    exact hup
  intro a
  rw [Raising.focus_apply]
  by_cases hbuilds : EventBuilder.Builds env.formats env.sources call a.events a.world
  · rw [EventBuilder.build_of_builds _ _ hbuilds, hsequence]
    refine ⟨(Nat.le_succ _).trans (hsources a.world), fun _ => ?_⟩
    show (next a.world).1 ≤ _
    rw [(hlevel a.world).1]
    exact hsources a.world
  · obtain ⟨e, w', heq, -, hw'⟩ := EventBuilder.build_of_not_builds _ _ hbuilds
    rw [heq]
    refine advances_of_world rfl ?_
    show level a.world ≤ level w'
    rw [hw', hsequence]
    split_ifs
    · exact (Nat.le_succ _).trans (hsources a.world)
    · rw [(hlevel a.world).2]
      exact Nat.le_succ _
    · exact le_rfl

section Collaborators

variable {nested : Nested W S}
  (hnested : ∀ run_id operator reason, (nested run_id operator reason).Keeps (Advances level))
include hnested

omit h in
theorem advances_onWorld {α : Type} {code : Callback W α}
    (hcode : code.Keeps fun w w' => level w ≤ level w') :
    (onWorld nested code).Keeps (Advances level) := by
  show ∀ a, Advances level a (runCallback _ _ nested code a).2
  induction code with
  | finish result => exact fun a => Std.Refl.refl a
  | act effect next ih =>
      intro a
      obtain ⟨hup, hnext⟩ := hcode a.world
      have hact : Advances level a { a with world := effect a.world } := advances_of_world rfl hup
      exact hact.trans (ih _ hnext _)
  | is_set request_id next ih => exact fun a => ih _ (hcode _) a
  | activate_fail_safe run_id operator reason next ih =>
      exact fun a => (hnested run_id operator reason a).trans (ih _ (hcode _) _)

omit h in
theorem advances_onSimulation {α : Type} {code : Callback (W × S) α}
    (hcode : code.Keeps fun v v' => level v.1 ≤ level v'.1) :
    (onSimulation nested code).Keeps (Advances level) := by
  show ∀ a, Advances level a (runCallback _ _ nested code a).2
  induction code with
  | finish result => exact fun a => Std.Refl.refl a
  | act effect next ih =>
      intro a
      obtain ⟨hup, hnext⟩ := hcode (a.world, a.simulation)
      have hact : Advances level a { a with
          world := (effect (a.world, a.simulation)).1
          simulation := (effect (a.world, a.simulation)).2 } := advances_of_world rfl hup
      exact hact.trans (ih _ hnext _)
  | is_set request_id next ih => exact fun a => ih _ (hcode _) a
  | activate_fail_safe run_id operator reason next ih =>
      exact fun a => (hnested run_id operator reason a).trans (ih _ (hcode _) _)

theorem advances_emitWith (request : JsonObject) (event_type outcome message phase : String)
    (within_allowlist : Bool) (data : JsonObject) :
    (env.emitWith nested request event_type outcome message phase within_allowlist data).Keeps
      (Advances level) := by
  unfold emitWith
  refine Raising.Keeps.bind (advances_build h _) fun event => ?_
  refine Raising.Keeps.bind (advances_onWorld hnested (h.event_sink event)) fun answer => ?_
  refine Raising.Keeps.bind (Raising.Keeps.ofExcept answer) fun _ => ?_
  exact Raising.Keeps.modify fun a => advances_of_world rfl le_rfl

theorem advances_activateWith (run_id : String) (operator : JsonObject) (reason : String) :
    (env.activateWith nested run_id operator reason).Keeps (Advances level) := by
  unfold activateWith
  refine Raising.Keeps.bind (Raising.Keeps.require _ _) fun _ => ?_
  refine Raising.Keeps.bind (Raising.Keeps.require _ _) fun _ => ?_
  refine Raising.Keeps.bind (Raising.Keeps.step fun a => advances_of_world rfl (h.uuid4 a.world))
    fun request_id => ?_
  refine Raising.Keeps.bind (Raising.Keeps.gets _) fun cancelled => ?_
  refine Raising.Keeps.bind (Raising.Keeps.modify fun a => advances_of_world rfl le_rfl) fun _ => ?_
  exact Raising.Keeps.bind (advances_emitWith h hnested _ _ _ _ _ _ _) fun _ =>
    Raising.Keeps.pure _

end Collaborators

theorem advances_nested (run_id : String) (operator : JsonObject) (reason : String) :
    (env.nested run_id operator reason).Keeps (Advances level) := by
  unfold nested
  induction env.depth generalizing run_id operator reason with
  | zero => exact Raising.Keeps.raise _
  | succ depth ih => exact advances_activateWith h ih run_id operator reason

theorem advances_emit (request : JsonObject) (event_type outcome message phase : String)
    (within_allowlist : Bool) (data : JsonObject) :
    (env.emit request event_type outcome message phase within_allowlist data).Keeps
      (Advances level) :=
  advances_emitWith h (advances_nested h) request event_type outcome message phase
    within_allowlist data

theorem advances_result (request : JsonObject) (status : ResultStatus) (successful : Bool)
    (started_at : DateTime) (effects : List String) (rollback : Rollback)
    (error_code : Option String) (message : String) :
    (env.result request status successful started_at effects rollback error_code message).Keeps
      (Advances level) := by
  unfold result
  refine Raising.Keeps.bind (Raising.Keeps.ofExcept _) fun _ => ?_
  refine Raising.Keeps.bind (Raising.Keeps.step fun a => advances_of_world rfl (h.clock a.world))
    fun _ => ?_
  refine Raising.Keeps.bind (Raising.Keeps.ofExcept _) fun _ => ?_
  exact Raising.Keeps.bind (Raising.Keeps.ofExcept _) fun _ => Raising.Keeps.pure _

theorem advances_denied (request : JsonObject) (started_at : DateTime) (code message : String)
    (within_allowlist : Bool) :
    (env.denied request started_at code message within_allowlist).Keeps (Advances level) := by
  unfold denied deny
  refine Raising.Keeps.bind (Raising.Keeps.bind (advances_emit h _ _ _ _ _ _ _) fun _ => ?_)
    fun _ => Raising.Keeps.pure _
  exact advances_result h _ _ _ _ _ _ _ _

theorem advances_checkParameters {definition : ActionDefinition W S}
    (hdefinition : definition ∈ env.registry.definitions) (request : JsonObject) :
    (env.checkParameters definition request).Keeps (Advances level) := by
  unfold checkParameters
  cases hvalidator : definition.parameter_validator with
  | none => exact Raising.Keeps.pure _
  | some validator =>
      refine Raising.Keeps.bind (advances_onWorld (advances_nested h)
        (h.validator definition hdefinition validator hvalidator _)) fun answer => ?_
      cases answer with
      | ok _ =>
          exact Raising.Keeps.bind (Raising.Keeps.modify fun a => advances_of_world rfl le_rfl)
            fun _ => Raising.Keeps.pure _
      | error e =>
          dsimp only
          split_ifs
          · exact Raising.Keeps.pure _
          · exact Raising.Keeps.raise e

theorem advances_checkPolicy {definition : ActionDefinition W S}
    (hdefinition : definition ∈ env.registry.definitions) (request : JsonObject)
    (started_at : DateTime) :
    (env.checkPolicy definition request started_at).Keeps (Advances level) := by
  unfold checkPolicy readRunState
  refine Raising.Keeps.bind (Raising.Keeps.bind (advances_onWorld (advances_nested h)
    (h.run_state _ _)) fun answer => Raising.Keeps.bind (Raising.Keeps.ofExcept answer)
      fun _ => Raising.Keeps.bind (Raising.Keeps.modify fun a => advances_of_world rfl le_rfl)
        fun _ => Raising.Keeps.pure _) fun run_state => ?_
  split
  · exact advances_denied h _ _ _ _ _
  · refine Raising.Keeps.bind (Raising.Keeps.require _ _) fun _ => ?_
    split
    · exact advances_denied h _ _ _ _ _
    · split
      · exact advances_denied h _ _ _ _ _
      · split
        · exact advances_denied h _ _ _ _ _
        · refine Raising.Keeps.bind (advances_checkParameters h hdefinition request)
            fun refusal => ?_
          cases refusal with
          | some message => exact advances_denied h _ _ _ _ _
          | none =>
              exact Raising.Keeps.bind (advances_emit h _ _ _ _ _ _ _) fun _ =>
                Raising.Keeps.pure _

theorem advances_replay (request : JsonObject) (started_at : DateTime) (stored : ActionResult) :
    (env.replay request started_at stored).Keeps (Advances level) := by
  unfold replay
  refine Raising.Keeps.bind (Raising.Keeps.gets _) fun first => ?_
  split
  · exact advances_denied h _ _ _ _ _
  · refine Raising.Keeps.bind (Raising.Keeps.ofExcept _) fun _ => ?_
    exact Raising.Keeps.bind (advances_emit h _ _ _ _ _ _ _) fun _ => Raising.Keeps.pure _

theorem advances_authorize (request : JsonObject) (started_at : DateTime) :
    (env.authorize request started_at).Keeps (Advances level) := by
  unfold authorize
  refine Raising.Keeps.bind (advances_emit h _ _ _ _ _ _ _) fun _ => ?_
  split
  · exact advances_denied h _ _ _ _ _
  · refine Raising.Keeps.bind (Raising.Keeps.gets _) fun stored => ?_
    cases stored with
    | some result => exact advances_replay h _ _ _
    | none =>
        show (env.checkRequest request started_at).Keeps _
        unfold checkRequest
        cases hget : env.registry.get (request.text "action_id") with
        | none => exact advances_denied h _ _ _ _ _
        | some definition =>
            refine Raising.Keeps.bind (Raising.Keeps.gets _) fun stopped_runs => ?_
            split
            · exact advances_denied h _ _ _ _ _
            · exact advances_checkPolicy h (mem_of_get hget) _ _

theorem advances_registerControl (request : JsonObject) :
    (env.registerControl request).Keeps (Advances level) := by
  unfold registerControl
  refine Raising.Keeps.bind (advances_onWorld (advances_nested h) h.monotonic) fun now => ?_
  exact Raising.Keeps.bind (Raising.Keeps.modify fun a => advances_of_world rfl le_rfl)
    fun _ => Raising.Keeps.pure _

theorem advances_runAction {definition : ActionDefinition W S}
    (hdefinition : definition ∈ env.registry.definitions) (request : JsonObject)
    (control : ExecutionControl) :
    (env.runAction definition request control).Keeps (Advances level) := by
  unfold runAction invoke callHandler checkpoint
  refine Raising.Keeps.bind (Raising.Keeps.bind
    (Raising.Keeps.modify fun a => advances_of_world rfl le_rfl) fun _ =>
      Raising.Keeps.bind (advances_onSimulation (advances_nested h)
        (h.handler definition hdefinition _ _ _)) fun answer => Raising.Keeps.ofExcept answer)
    fun effect => ?_
  refine Raising.Keeps.bind (Raising.Keeps.bind (Raising.Keeps.require _ _) fun _ =>
    Raising.Keeps.bind (advances_onWorld (advances_nested h) h.monotonic) fun _ =>
      Raising.Keeps.require _ _) fun _ => Raising.Keeps.pure _

theorem advances_conclude (definition : ActionDefinition W S) (request : JsonObject)
    (started_at : DateTime) (output : Except Exn ActionEffect) :
    (env.conclude definition request started_at output).Keeps (Advances level) := by
  cases output with
  | error e =>
      refine Raising.Keeps.bind ?_ fun _ => Raising.Keeps.pure _
      rw [env.failedResult_eq]
      exact advances_result h _ _ _ _ _ _ _ _
  | ok effect =>
      refine Raising.Keeps.bind ?_ fun _ => Raising.Keeps.pure _
      refine Raising.Keeps.bind (advances_result h _ _ _ _ _ _ _ _) fun _ => ?_
      exact Raising.Keeps.bind (Raising.Keeps.modify fun a => advances_of_world rfl le_rfl)
        fun _ => Raising.Keeps.pure _

/-- The parts of a call up to the announced start of the handler. -/
theorem advances_of_started {request : JsonObject} {definition : ActionDefinition W S}
    {started_at : DateTime} {control : ExecutionControl} {a a₁ a₂ a₃ : SafeActionAdapter W S}
    (hstart : env.Started request definition started_at control a a₁ a₂ a₃) :
    Advances level a a₃ := by
  have hopened : Advances level a (env.opened request a) := advances_of_world rfl (h.clock a.world)
  have hauthorize := advances_authorize h request started_at (env.opened request a)
  rw [hstart.granted] at hauthorize
  have hregister := advances_registerControl h request a₁
  rw [hstart.registered] at hregister
  have hannounce := advances_emit h request "action.execution.started" "pending"
    "Action execution started" definition.phase true [] a₂
  have hannounced : env.emit request "action.execution.started" "pending"
      "Action execution started" definition.phase true [] a₂ = (.ok (), a₃) := hstart.announced
  rw [hannounced] at hannounce
  exact ((hopened.trans hauthorize).trans hregister).trans hannounce

/-- A call to the adapter, whatever comes of it. -/
theorem advances_executeRedacted (request : JsonObject) :
    (env.executeRedacted request).Keeps (Advances level) := by
  unfold executeRedacted
  refine Raising.Keeps.bind (Raising.Keeps.modify fun a => advances_of_world rfl le_rfl) fun _ => ?_
  refine Raising.Keeps.bind (Raising.Keeps.ofExcept _) fun _ => ?_
  refine Raising.Keeps.bind (Raising.Keeps.step fun a => advances_of_world rfl (h.clock a.world))
    fun started_at => ?_
  -- A granted definition is registered, which the relation alone does not know.
  intro a
  have hauthorize := advances_authorize h request started_at a
  cases hauth : env.authorize request started_at a with
  | mk r b =>
      rw [hauth] at hauthorize
      cases r with
      | error e =>
          rw [Raising.bind_of_error hauth]
          exact hauthorize
      | ok decision =>
          rw [Raising.bind_of_ok hauth]
          refine hauthorize.trans ?_
          cases decision with
          | answered result => exact Std.Refl.refl b
          | granted definition =>
              obtain ⟨es, hgranted⟩ := env.authorize_granted hauth
              have hdefinition := mem_of_get hgranted.registered
              have hstore : ∀ result : ActionResult, (Raising.modify (env.store request result) :
                  Py (SafeActionAdapter W S) Unit).Keeps (Advances level) :=
                fun result => Raising.Keeps.modify fun a => advances_of_world rfl le_rfl
              have hcompletion : ∀ result metadata,
                  (env.emitCompletion definition request result metadata).Keeps (Advances level) :=
                fun result metadata => advances_emit h _ _ _ _ _ _ _
              dsimp only
              split
              · refine Raising.Keeps.bind (advances_result h _ _ _ _ _ _ _ _) (fun result => ?_) b
                exact Raising.Keeps.bind (hstore result) fun _ =>
                  Raising.Keeps.bind (hcompletion result _) fun _ => Raising.Keeps.pure _
              · refine Raising.Keeps.bind (advances_registerControl h request) (fun control => ?_) b
                refine Raising.Keeps.bind (advances_emit h _ _ _ _ _ _ _) fun _ => ?_
                refine Raising.Keeps.bind (Raising.Keeps.ensure ?_ fun a =>
                  advances_of_world rfl le_rfl) fun concluded => ?_
                · exact Raising.Keeps.bind
                    (Raising.Keeps.attempt (advances_runAction h hdefinition request control))
                    fun output => advances_conclude h _ _ _ output
                · exact Raising.Keeps.bind (hstore concluded.1) fun _ =>
                    Raising.Keeps.bind (hcompletion _ _) fun _ => Raising.Keeps.pure _

/-! ## Emissions that return -/

/-- The sink accepts every event. -/
def SinkAccepts (env : Adapter W S) : Prop :=
  ∀ event a, (onWorld env.nested (env.event_sink event) a).1 = .ok (.ok ())

omit h in
/-- A returned emission had acceptable arguments. -/
theorem accepted_of_emit {request : JsonObject} {event_type outcome message phase : String}
    {within_allowlist : Bool} {data : JsonObject} {a a' : SafeActionAdapter W S}
    (hemit : env.emit request event_type outcome message phase within_allowlist data a =
      (.ok (), a')) :
    ∃ event_id timestamp, (emitCall request event_type outcome message phase within_allowlist
      data).Accepted env.formats a.events.context event_id timestamp := by
  obtain ⟨event, b, hbuild, -⟩ := Raising.bind_eq_ok hemit
  rw [Raising.focus_apply] at hbuild
  cases hresult : EventBuilder.build env.formats env.sources (emitCall request event_type outcome
      message phase within_allowlist data) (a.events, a.world) with
  | mk r s =>
      rw [hresult] at hbuild
      injection hbuild with hr _
      dsimp only at hr
      subst hr
      obtain ⟨hbuilds, -⟩ := EventBuilder.build_eq_ok env.formats env.sources hresult
      exact ⟨_, _, hbuilds.accepted⟩

/-- An emission whose arguments are acceptable returns. -/
theorem emit_returns (hsink : SinkAccepts env) (hclock : env.SoundClock)
    (hids : ∀ w, env.formats.uuid (env.sources.event_id_factory w).1 = true)
    {request : JsonObject} {event_type outcome message phase : String} {within_allowlist : Bool}
    {data : JsonObject} {a : SafeActionAdapter W S} {event_id timestamp : String}
    (haccepted : (emitCall request event_type outcome message phase within_allowlist
      data).Accepted env.formats a.events.context event_id timestamp)
    (hnumber : a.events.sequence ≤ level a.world) :
    ∃ a', env.emit request event_type outcome message phase within_allowlist data a =
      (.ok (), a') := by
  obtain ⟨next, hnext, hlevel⟩ := h.factory
  have hbuilds : EventBuilder.Builds env.formats env.sources (emitCall request event_type outcome
      message phase within_allowlist data) a.events a.world := by
    refine ⟨rfl, ?_, hclock.aware _, ?_⟩
    · unfold EventBuilder.nextSequence
      rw [hnext]
      show a.events.sequence < (next a.world).1
      rw [(hlevel a.world).1]
      exact Nat.lt_succ_of_le hnumber
    · exact { haccepted with
        event_id := hids _
        timestamp := ⟨hclock.format _, endsWithZ_isoformat _⟩ }
  obtain ⟨event, b, hbuild⟩ : ∃ event b,
      Raising.focus (fun a : SafeActionAdapter W S => (a.events, a.world))
        (fun s a => { a with events := s.1, world := s.2 })
        (EventBuilder.build env.formats env.sources (emitCall request event_type outcome message
          phase within_allowlist data)) a = (.ok event, b) :=
    ⟨_, _, by rw [Raising.focus_apply, EventBuilder.build_of_builds _ _ hbuilds]⟩
  have haccept := hsink event b
  unfold emit emitWith
  rw [Raising.bind_of_ok hbuild]
  cases hcall : onWorld env.nested (env.event_sink event) b with
  | mk r c =>
      rw [hcall] at haccept
      dsimp only at haccept
      subst haccept
      rw [Raising.bind_of_ok hcall]
      exact ⟨_, rfl⟩

/-- Everything a call needs to have its events written. -/
structure SoundAudit (env : Adapter W S) : Prop where
  sink : SinkAccepts env
  clock : env.SoundClock
  event_id : ∀ w, env.formats.uuid (env.sources.event_id_factory w).1 = true

/-- A call that reaches its handler returns. -/
theorem returns_of_started (hsound : SoundAudit env) (hhandlers : env.SoundHandlers)
    {request : JsonObject} {definition : ActionDefinition W S} {started_at : DateTime}
    {control : ExecutionControl} {a a₁ a₂ a₃ : SafeActionAdapter W S}
    (hnumber : a.events.sequence ≤ level a.world)
    (hstart : env.Started request definition started_at control a a₁ a₂ a₃) :
    ∃ result, (env.executeRedacted request a).1 = .ok result := by
  obtain ⟨-, hregistered, -, -, -, -, -⟩ := hstart.atHandler
  have hdefinition := mem_of_get hregistered
  have hname : EventSchema.eventName.valid (.str "action.execution.completed") = true := by decide
  have hfits := env.runAction_fits hhandlers hdefinition request control a₃
  have hrunning := advances_runAction h hdefinition request control a₃
  obtain ⟨es, hes⟩ := env.outside_runAction definition request control a₃
  obtain ⟨event_id, timestamp, hannounced⟩ := accepted_of_emit hstart.announced
  obtain ⟨fs, hfs, -⟩ := env.emit_eq_ok hstart.announced
  rw [env.executeRedacted_of_started hstart]
  cases hrun : env.runAction definition request control a₃ with
  | mk output b =>
      rw [hrun] at hfits hrunning hes
      obtain ⟨concluded, c, hconclude, hwellFormed, -, -⟩ :
          ∃ concluded c, env.conclude definition request started_at output b = (.ok concluded, c) ∧
            concluded.1.WellFormed env.formats ∧ concluded.1.status ≠ .denied ∧
            concluded.1.cached = false :=
        conclude_of_fits hsound.clock hstart.valid hstart.clock hfits
      have hconcluded := advances_conclude h definition request started_at output b
      obtain ⟨w, executions, hframe⟩ := env.conclude_frame definition request started_at output b
      rw [hconclude] at hconcluded hframe
      dsimp only at hframe
      have hattempt : env.attemptAction definition request started_at control a₃ =
          (.ok concluded, removeRunning request c) := by
        unfold attemptAction
        rw [Raising.ensure_apply, Raising.attempt_bind_apply, hrun, hconclude]
      have hlast : c.events.sequence ≤ level c.world :=
        (((advances_of_started h hstart).trans hrunning).trans hconcluded).builder hnumber
      have hcontext : c.events.context = a₂.events.context := by
        rw [hframe]
        exact hes.context.trans hfs.context
      have hcompleted : (emitCall request "action.execution.completed"
          (if concluded.1.successful then "success" else "failure") concluded.1.message
          definition.phase true ([("status", .str concluded.1.status.value),
            ("effects", Json.strs concluded.1.effects)] ++
              if concluded.2 = [] then [] else [("metadata", .obj concluded.2)])).Accepted
          env.formats c.events.context event_id timestamp := by
        rw [hcontext]
        exact { hannounced with
          event_type := hname
          outcome := by
            refine (EventCall.outcome_valid _).mpr ⟨?_, fun reason hreason => nomatch hreason⟩
            show (if concluded.1.successful then "success" else "failure") ∈ _
            cases concluded.1.successful <;> decide
          message := ⟨hwellFormed.message.1, hwellFormed.message.2.trans (by decide)⟩ }
      obtain ⟨d, hemit⟩ := emit_returns h hsound.sink hsound.clock hsound.event_id
        (a := env.store request concluded.1 (removeRunning request c)) hcompleted hlast
      refine ⟨concluded.1, ?_⟩
      unfold completeAction
      rw [Raising.bind_of_ok hattempt, Raising.modify_bind_apply]
      exact congrArg Prod.fst (Raising.bind_of_ok hemit)

/-- A call that raises has started no handler: the simulation is as it was. -/
theorem execute_error_simulation (hsound : SoundAudit env) (hhandlers : env.SoundHandlers)
    {request : JsonObject} {a : SafeActionAdapter W S} (hnumber : a.events.sequence ≤ level a.world)
    {e : Exn} (herror : (env.executeRedacted request a).1 = .error e) :
    (env.executeRedacted request a).2.simulation = a.simulation := by
  by_cases hstart : ∃ definition started_at control a₁ a₂ a₃,
      env.Started request definition started_at control a a₁ a₂ a₃
  · obtain ⟨definition, started_at, control, a₁, a₂, a₃, hstart⟩ := hstart
    obtain ⟨result, hresult⟩ := returns_of_started h hsound hhandlers hnumber hstart
    rw [hresult] at herror
    cases herror
  · push Not at hstart
    exact (env.executeRedacted_of_not_started hstart).simulation

end Numbered

end Adapter

end NetStrike.Shared
