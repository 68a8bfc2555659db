import NetStrike.Shared.FailSafe

/-!
# One handler call for each key

`execute` keeps the first result that it gives for a run and an idempotency key, and answers every
later request with that key from there. `Recorded` says that every handler start of the journal has
its result in the store and that only well-formed first results of the adapter's own run are there.
It holds in every state of every run (`recorded_runs`) when the clock gives UTC times and the
handlers' outputs pass the result schema. A later request with a stored key is answered from the
store where it is valid, belongs to the exercise of the adapter and gets its own two audit events
written (`replayed`, `conflicting`).
-/

set_option autoImplicit false

namespace NetStrike.Shared.Adapter

open NetStrike.Foundation

variable {W S : Type} (env : Adapter W S)

/-! ## Collaborators -/

/-- The clock gives UTC times in a form that the format check knows. -/
structure SoundClock : Prop where
  aware : ∀ w, (env.sources.clock w).1.aware = true
  format : ∀ w, env.formats.dateTime (env.sources.clock w).1.isoformat = true

/-- The status, the error code and the message that the `except` clauses make of an exception. -/
def failure (e : Exn) : ResultStatus × Option String × String :=
  if e.type.isA .ActionCancelled then (.cancelled, some "cancelled", e.message)
  else if e.type.isA .TimeoutError then (.timed_out, some "timed_out", e.message)
  else if e.type.isA .ActionExecutionError then (.failed, e.code, e.message)
  else (.failed, some "handler_error", "Handler failed: " ++ e.type.name)

/-- The output of a handler passes the result schema: its effects are distinct, or the message that
is made of its exception has an allowed length. -/
def OutputFits : Except Exn ActionEffect → Prop
  | .ok effect => effect.effects.Nodup
  | .error e => 1 ≤ (failure e).2.2.length ∧ (failure e).2.2.length ≤ 1024

/-- Every handler's output passes the result schema. -/
def SoundHandlers : Prop :=
  ∀ definition ∈ env.registry.definitions, ∀ request control a,
    OutputFits (env.callHandler definition request control a).1

/-! ## Results that pass their validation -/

theorem failedResult_eq (request : JsonObject) (started_at : DateTime) (e : Exn) :
    env.failedResult request started_at e =
      env.result request (failure e).1 false started_at [] .unsupported (failure e).2.1
        (failure e).2.2 := by
  unfold failedResult failure
  split_ifs <;> rfl

section Results

variable {env} {request : JsonObject} {started_at : DateTime} {a : SafeActionAdapter W S}

theorem utcDateTime_valid {formats : FormatChecker} {t : DateTime}
    (h : formats.dateTime t.isoformat = true) :
    (EventSchema.utcDateTime formats).valid (.str t.isoformat) = true := by
  simp [EventSchema.utcDateTime, JsonType.admits, h, endsWithZ_isoformat]

/-- The result of a valid request passes its own validation. -/
theorem resultAccepted_of_sound (hclock : env.SoundClock)
    (hvalid : ActionValidator.validate env.formats request = .ok ()) {w : W}
    (hstart : started_at = (env.sources.clock w).1) {status : ResultStatus} {successful : Bool}
    {effects : List String} {rollback : Rollback} {error_code : Option String} {message : String}
    (heffects : effects.Nodup) (hmethod : ∀ method, rollback.method = some method → method ≠ "")
    (htoken : ∀ token, rollback.token = some token → token ≠ "")
    (hmessage : 1 ≤ message.length ∧ message.length ≤ 1024) :
    env.ResultAccepted request status successful started_at effects rollback error_code message
      a where
  started := hstart ▸ hclock.aware w
  finished := hclock.aware a.world
  wellFormed := {
    record_fields hvalid with
    started_at := utcDateTime_valid (hstart ▸ hclock.format w)
    finished_at := utcDateTime_valid (hclock.format a.world)
    effects := heffects
    method := hmethod
    token := htoken
    message := hmessage }

/-- A concluded handler has a well-formed result that is neither a denial nor a repetition. -/
theorem conclude_of_fits (hclock : env.SoundClock)
    (hvalid : ActionValidator.validate env.formats request = .ok ()) {w : W}
    (hstart : started_at = (env.sources.clock w).1) {definition : ActionDefinition W S}
    {output : Except Exn ActionEffect} (hfits : OutputFits output) :
    ∃ concluded b, env.conclude definition request started_at output a = (.ok concluded, b) ∧
      concluded.1.WellFormed env.formats ∧ concluded.1.status ≠ .denied ∧
      concluded.1.cached = false := by
  cases output with
  | error e =>
      have haccepted : env.ResultAccepted request (failure e).1 false started_at []
          .unsupported (failure e).2.1 (failure e).2.2 a :=
        resultAccepted_of_sound hclock hvalid hstart List.nodup_nil (fun _ h => nomatch h)
          (fun _ h => nomatch h) hfits
      have hfailed := env.result_of_accepted haccepted
      rw [← env.failedResult_eq] at hfailed
      refine ⟨(_, []), _, Raising.bind_of_ok hfailed, haccepted.wellFormed, ?_, rfl⟩
      show (failure e).1 ≠ .denied
      unfold failure
      split_ifs <;> exact fun h => nomatch h
  | ok effect =>
      have haccepted : env.ExecutedAccepted definition request started_at effect a :=
        resultAccepted_of_sound hclock hvalid hstart hfits
          (fun _ h => Option.some.inj h ▸ definition.method_given)
          (fun _ h => (truthy_eq_some.mp h).2) (by decide)
      exact ⟨_, _, env.conclude_accepted haccepted, haccepted.wellFormed, (fun h => nomatch h), rfl⟩

end Results

/-- The outcome of a handler with the check after it passes the result schema. -/
theorem runAction_fits (hhandlers : env.SoundHandlers) {definition : ActionDefinition W S}
    (hdefinition : definition ∈ env.registry.definitions) (request : JsonObject)
    (control : ExecutionControl) (a : SafeActionAdapter W S) :
    OutputFits (env.runAction definition request control a).1 := by
  have houtput := hhandlers definition hdefinition request control (invoked request control a)
  have hrun : env.runAction definition request control a =
      (env.callHandler definition request control >>= fun effect => do
        env.checkpoint control
        return effect) (invoked request control a) := rfl
  have hcheckpoint : Raising.Triple (fun _ => True) (env.checkpoint control) (fun _ _ => True)
      (fun e _ => OutputFits (.error e)) := by
    refine Raising.Triple.bind (Q := fun _ _ => True) ?_ fun _ =>
      Raising.Triple.bind (Q := fun _ _ => True) ?_ fun _ => ?_
    · refine Raising.Triple.require (fun _ _ _ => trivial) fun _ _ _ => ?_
      show 1 ≤ _ ∧ _
      decide
    · exact Raising.Triple.step fun _ _ => trivial
    · refine Raising.Triple.require (fun _ _ _ => trivial) fun _ _ _ => ?_
      show 1 ≤ _ ∧ _
      decide
  rw [hrun]
  cases hcall : env.callHandler definition request control (invoked request control a) with
  | mk r b =>
      rw [hcall] at houtput
      cases r with
      | error e =>
          rw [Raising.bind_of_error hcall]
          exact houtput
      | ok effect =>
          rw [Raising.bind_of_ok hcall]
          cases hcheck : env.checkpoint control b with
          | mk r c =>
              cases r with
              | error e =>
                  rw [Raising.bind_of_error hcheck]
                  exact hcheckpoint.of_error trivial hcheck
              | ok _ =>
                  rw [Raising.bind_of_ok hcheck]
                  exact houtput

/-! ## The store -/

/-- The call stores `result` as the first result of its key. -/
structure Stores (request : JsonObject) (a : SafeActionAdapter W S) (result : ActionResult)
    (a' : SafeActionAdapter W S) : Prop where
  fresh : a.results (key request) = none
  run : request.text "run_id" = env.context.run_id
  status : result.status ≠ .denied
  first : result.cached = false
  wellFormed : result.WellFormed env.formats
  results : a'.results = Function.update a.results (key request) (some result)
  fingerprints : a'.fingerprints =
    Function.update a.fingerprints (key request) (some (env.fingerprint request))

/-- The call changes nothing in the store. -/
structure KeepsStore (a a' : SafeActionAdapter W S) : Prop where
  results : a'.results = a.results
  fingerprints : a'.fingerprints = a.fingerprints

theorem mem_of_get {registry : ActionRegistry W S} {action_id : String}
    {definition : ActionDefinition W S} (h : registry.get action_id = some definition) :
    definition ∈ registry.definitions :=
  List.mem_of_find?_eq_some h

/-- A call that reaches its handler stores its result. -/
theorem stores_of_started (hclock : env.SoundClock) (hhandlers : env.SoundHandlers)
    {request : JsonObject} {definition : ActionDefinition W S} {started_at : DateTime}
    {control : ExecutionControl} {a a₁ a₂ a₃ : SafeActionAdapter W S}
    (h : env.Started request definition started_at control a a₁ a₂ a₃) :
    ∃ result, env.Stores request a result (env.executeRedacted request a).2 ∧
      ∀ r, (env.executeRedacted request a).1 = .ok r → r = result := by
  obtain ⟨-, hregistered, -, hrun, -, hfresh, hat⟩ := h.atHandler
  have hfits := env.runAction_fits hhandlers (mem_of_get hregistered) request control a₃
  obtain ⟨es, hes⟩ := env.outside_runAction definition request control a₃
  rw [env.executeRedacted_of_started h]
  cases hrunAction : env.runAction definition request control a₃ with
  | mk output b =>
      rw [hrunAction] at hfits hes
      obtain ⟨concluded, c, hconclude, hwellFormed, hstatus, hfirst⟩ :
          ∃ concluded c, env.conclude definition request started_at output b = (.ok concluded, c) ∧
            concluded.1.WellFormed env.formats ∧ concluded.1.status ≠ .denied ∧
            concluded.1.cached = false :=
        conclude_of_fits hclock h.valid h.clock hfits
      obtain ⟨w, executions, hframe⟩ := env.conclude_frame definition request started_at output b
      rw [hconclude] at hframe
      dsimp only at hframe
      obtain ⟨⟨⟨fs, hfs⟩, -⟩, houtcome⟩ := env.completeAction_of_ok hrunAction hconclude
      refine ⟨concluded.1, ⟨hfresh, hrun, hstatus, hfirst, hwellFormed, ?_, ?_⟩, houtcome⟩
      · rw [hfs.results]
        show Function.update c.results _ _ = _
        rw [hframe]
        exact congrArg (fun results => Function.update results _ _) (hes.results.trans hat.results)
      · rw [hfs.fingerprints]
        show Function.update c.fingerprints _ _ = _
        rw [hframe]
        exact congrArg (fun fingerprints => Function.update fingerprints _ _)
          (hes.fingerprints.trans hat.fingerprints)

/-- A call stores its result, or it denies, repeats a stored result or raises and leaves the store
as it is. -/
theorem stores_or_keeps (hclock : env.SoundClock) (hhandlers : env.SoundHandlers)
    (request : JsonObject) (a : SafeActionAdapter W S) :
    (∃ result, env.Stores request a result (env.executeRedacted request a).2 ∧
      ∀ r, (env.executeRedacted request a).1 = .ok r → r = result) ∨
    KeepsStore a (env.executeRedacted request a).2 ∧
      ∀ r, (env.executeRedacted request a).1 = .ok r → Transient r := by
  by_cases hstart : ∃ definition started_at control a₁ a₂ a₃,
      env.Started request definition started_at control a a₁ a₂ a₃
  · obtain ⟨definition, started_at, control, a₁, a₂, a₃, hstart⟩ := hstart
    exact Or.inl (env.stores_of_started hclock hhandlers hstart)
  · push Not at hstart
    rcases (env.executeRedacted_of_not_started hstart).ledger with
      ⟨hresults, hfingerprints, htransient⟩ |
        ⟨result, hfresh, hrun, hstatus, -, hfirst, hwellFormed, hresults, hfingerprints, houtcome⟩
    · exact Or.inr ⟨⟨hresults, hfingerprints⟩, htransient⟩
    · refine Or.inl ⟨result, ⟨hfresh, hrun, ?_, hfirst, hwellFormed, hresults, hfingerprints⟩,
        houtcome⟩
      rw [hstatus]
      exact fun h => nomatch h

/-! ## One handler start for each key -/

/-- No handler started for the key of the handler that starts. -/
def FirstUse (before : List ActionEntry) : ActionEntry → Prop
  | .invoked request _ => ∀ earlier cancelled, .invoked earlier cancelled ∈ before →
      key earlier ≠ key request
  | _ => True

theorem firstUse_of_ne {e : ActionEntry} (h : ∀ request cancelled, e ≠ .invoked request cancelled)
    (before : List ActionEntry) : FirstUse before e := by
  cases e with
  | invoked request cancelled => exact absurd rfl (h request cancelled)
  | called | audited | runStateRead | parametersAccepted | latched => trivial

/-- Every handler start was the first of its key and has its result in the store. -/
structure Recorded (a : SafeActionAdapter W S) : Prop where
  once : Preceded FirstUse a.journal
  stored : ∀ request cancelled, .invoked request cancelled ∈ a.journal →
    a.results (key request) ≠ none

theorem recorded_init (world : W) (simulation : S) : Recorded (env.init world simulation) :=
  ⟨Preceded.nil, fun _ _ h => absurd h List.not_mem_nil⟩

/-- A key with a result has the same result after every call. -/
theorem stored_kept (hclock : env.SoundClock) (hhandlers : env.SoundHandlers)
    (request : JsonObject) {a : SafeActionAdapter W S} {k : String × String}
    {stored : ActionResult} (h : a.results k = some stored) :
    (env.executeRedacted request a).2.results k = some stored ∧
      (env.executeRedacted request a).2.fingerprints k = a.fingerprints k := by
  rcases env.stores_or_keeps hclock hhandlers request a with ⟨result, hstores, -⟩ | ⟨hkeeps, -⟩
  · have hne : k ≠ key request := by
      rintro rfl
      rw [hstores.fresh] at h
      cases h
    rw [hstores.results, hstores.fingerprints, Function.update_of_ne hne,
      Function.update_of_ne hne]
    exact ⟨h, rfl⟩
  · rw [hkeeps.results, hkeeps.fingerprints]
    exact ⟨h, rfl⟩

/-- The step lemma of `Recorded`. -/
theorem recorded_execute (hclock : env.SoundClock) (hhandlers : env.SoundHandlers)
    (request : JsonObject) {a : SafeActionAdapter W S} (ha : Recorded a) :
    Recorded (env.executeRedacted request a).2 := by
  have hkept : ∀ k, a.results k ≠ none → (env.executeRedacted request a).2.results k ≠ none := by
    intro k hk
    obtain ⟨stored, hstored⟩ := Option.ne_none_iff_exists'.mp hk
    rw [(env.stored_kept hclock hhandlers request hstored).1]
    exact fun h => nomatch h
  by_cases hstart : ∃ definition started_at control a₁ a₂ a₃,
      env.Started request definition started_at control a a₁ a₂ a₃
  · obtain ⟨definition, started_at, control, a₁, a₂, a₃, hstart⟩ := hstart
    obtain ⟨result, hstores, -⟩ := env.stores_of_started hclock hhandlers hstart
    obtain ⟨es, fs, gs, htrace⟩ := hstart.trace
    have hbefore := htrace.before_ne
    have hafter := htrace.after_ne
    refine ⟨?_, fun request' cancelled he => ?_⟩
    · rw [htrace.journal]
      refine (preceded_around (fun e he => firstUse_of_ne (hbefore e he))
        fun e he => firstUse_of_ne (hafter e he)).mpr ⟨ha.once, fun earlier cancelled he => ?_⟩
      intro hkey
      rcases List.mem_append.mp he with he | he
      · exact ha.stored earlier cancelled he (hkey ▸ hstores.fresh)
      · exact absurd rfl (hbefore _ he earlier cancelled)
    · rw [htrace.journal] at he
      rcases List.mem_append.mp he with he | he
      · exact hkept _ (ha.stored request' cancelled he)
      · rcases List.mem_append.mp he with he | he
        · exact absurd rfl (hbefore _ he request' cancelled)
        · rcases List.mem_cons.mp he with heq | he
          · injection heq with hrequest _
            rw [hrequest, hstores.results, Function.update_self]
            exact fun h => nomatch h
          · exact absurd rfl (hafter _ he request' cancelled)
  · push Not at hstart
    obtain ⟨es, hes, houter⟩ := (env.executeRedacted_of_not_started hstart).observed
    have hne : ∀ e ∈ .called request :: es, ∀ request' cancelled, e ≠ .invoked request' cancelled :=
      ne_invoked_of_called houter
    refine ⟨?_, fun request' cancelled he => ?_⟩
    · rw [hes.journal]
      exact preceded_append.mpr ⟨ha.once, Preceded.of_forall fun e he _ => firstUse_of_ne (hne e he) _⟩
    · rw [hes.journal] at he
      rcases List.mem_append.mp he with he | he
      · exact hkept _ (ha.stored request' cancelled he)
      · exact absurd rfl (hne _ he request' cancelled)

/-! ## Later requests with a stored key -/

/-- The two audit events of a call are written: the request, and the event that answers it. -/
def Audited (request : JsonObject) (event_type outcome message : String) (data : JsonObject)
    (a : SafeActionAdapter W S) : Prop :=
  ∃ b c, env.emit request "action.requested" "pending" "Action requested" "control" true []
      (env.opened request a) = (.ok (), b) ∧
    env.emit request event_type outcome message "control" true data b = (.ok (), c)

/-- The audit events of a repetition are written. -/
def RepetitionAudited (request : JsonObject) (a : SafeActionAdapter W S) : Prop :=
  env.Audited request "action.result.replayed" "success" "Returned cached action result" [] a

/-- The audit events of a conflict are written. -/
def ConflictAudited (request : JsonObject) (a : SafeActionAdapter W S) : Prop :=
  env.Audited request "action.authorization.denied" "denied"
    "Idempotency key was reused for a different action"
    [("error_code", .str "idempotency_conflict")] a

section Later

variable {env} {request : JsonObject} {a : SafeActionAdapter W S} {stored : ActionResult}

/-- A call with a stored key starts no handler and changes neither the store nor the simulation. -/
theorem unchanged_of_stored (hstored : a.results (key request) = some stored) :
    KeepsStore a (env.executeRedacted request a).2 ∧
      (env.executeRedacted request a).2.executions = a.executions ∧
      (env.executeRedacted request a).2.simulation = a.simulation := by
  have hnot : ∀ definition started_at control a₁ a₂ a₃,
      ¬ env.Started request definition started_at control a a₁ a₂ a₃ := by
    intro definition started_at control a₁ a₂ a₃ hstart
    obtain ⟨-, -, -, -, -, hfresh, -⟩ := hstart.atHandler
    rw [hfresh] at hstored
    cases hstored
  have hunstarted := env.executeRedacted_of_not_started hnot
  refine ⟨?_, hunstarted.executions, hunstarted.simulation⟩
  rcases hunstarted.ledger with ⟨hresults, hfingerprints, -⟩ | ⟨result, hfresh, -⟩
  · exact ⟨hresults, hfingerprints⟩
  · rw [hfresh] at hstored
    cases hstored

/-- After its requested event a request of the adapter's own run with a stored key gets the answer
that the store gives. -/
theorem execute_of_replay (hvalid : ActionValidator.validate env.formats request = .ok ())
    (hexercise : request.text "exercise_id" = env.context.exercise_id)
    (hrun : request.text "run_id" = env.context.run_id)
    (hstored : a.results (key request) = some stored) {b c : SafeActionAdapter W S}
    (hrequested : env.emit request "action.requested" "pending" "Action requested" "control" true []
      (env.opened request a) = (.ok (), b)) {result : ActionResult}
    (hreplay : env.replay request (env.sources.clock a.world).1 stored b =
      (.ok (.answered result), c)) : env.executeRedacted request a = (.ok result, c) := by
  obtain ⟨es, hes, -⟩ := env.emit_eq_ok hrequested
  have hresults : b.results (key request) = some stored := by
    rw [hes.results]
    exact hstored
  have hauthorize : env.authorize request (env.sources.clock a.world).1 (env.opened request a) =
      (.ok (.answered result), c) := by
    unfold authorize
    rw [Raising.bind_of_ok hrequested, if_neg (by rw [hexercise, hrun]; simp),
      Raising.gets_bind_apply, hresults]
    exact hreplay
  unfold executeRedacted
  rw [Raising.modify_bind_apply, Raising.ofExcept_bind_apply, hvalid]
  dsimp only
  rw [Raising.step_bind_apply]
  exact (Raising.bind_of_ok hauthorize).trans rfl

/-- A request with the stored fingerprint gets the stored result, marked as cached. -/
theorem replayed (hvalid : ActionValidator.validate env.formats request = .ok ())
    (hexercise : request.text "exercise_id" = env.context.exercise_id)
    (hrun : request.text "run_id" = env.context.run_id)
    (hstored : a.results (key request) = some stored) (hwellFormed : stored.WellFormed env.formats)
    (hfingerprint : a.fingerprints (key request) = some (env.fingerprint request))
    (haudited : env.RepetitionAudited request a) :
    (env.executeRedacted request a).1 = .ok { stored with cached := true } := by
  obtain ⟨b, c, hrequested, hreplayed⟩ := haudited
  obtain ⟨es, hes, -⟩ := env.emit_eq_ok hrequested
  have hcached : ActionValidator.validate env.formats
      (ActionResult.toJson { stored with cached := true }) = .ok () :=
    (validate_result_iff env.formats _).mpr { hwellFormed with }
  have hreplay : env.replay request (env.sources.clock a.world).1 stored b =
      (.ok (.answered { stored with cached := true }), c) := by
    unfold replay
    have hfirst : b.fingerprints (key request) = some (env.fingerprint request) := by
      rw [hes.fingerprints]
      exact hfingerprint
    rw [Raising.gets_bind_apply, if_neg (by rw [hfirst]; exact not_not.mpr rfl)]
    rw [Raising.ofExcept_bind_apply, hcached]
    exact Raising.bind_of_ok hreplayed
  exact congrArg Prod.fst
    (execute_of_replay hvalid hexercise hrun hstored hrequested hreplay)

/-- A request with another fingerprint is denied as a conflict. -/
theorem conflicting (hclock : env.SoundClock)
    (hvalid : ActionValidator.validate env.formats request = .ok ())
    (hexercise : request.text "exercise_id" = env.context.exercise_id)
    (hrun : request.text "run_id" = env.context.run_id)
    (hstored : a.results (key request) = some stored)
    (hfingerprint : a.fingerprints (key request) ≠ some (env.fingerprint request))
    (haudited : env.ConflictAudited request a) :
    ∃ result, (env.executeRedacted request a).1 = .ok result ∧ result.status = .denied ∧
      result.error_code = some "idempotency_conflict" := by
  obtain ⟨b, c, hrequested, hdenied⟩ := haudited
  obtain ⟨es, hes, -⟩ := env.emit_eq_ok hrequested
  have haccepted : env.ResultAccepted request .denied false (env.sources.clock a.world).1 []
      .unsupported (some "idempotency_conflict")
      "Idempotency key was reused for a different action" c :=
    resultAccepted_of_sound hclock hvalid rfl List.nodup_nil (fun _ h => nomatch h)
      (fun _ h => nomatch h) (by decide)
  obtain ⟨d, record, hdeny, hstatus, hcode⟩ : ∃ d record,
      env.deny request (env.sources.clock a.world).1 "idempotency_conflict"
        "Idempotency key was reused for a different action" true b = (.ok record, d) ∧
      record.status = .denied ∧ record.error_code = some "idempotency_conflict" :=
    ⟨_, _, (Raising.bind_of_ok hdenied).trans (env.result_of_accepted haccepted), rfl, rfl⟩
  have hreplay : env.replay request (env.sources.clock a.world).1 stored b =
      (.ok (.answered record), d) := by
    unfold replay
    have hfirst : b.fingerprints (key request) ≠ some (env.fingerprint request) := by
      rw [hes.fingerprints]
      exact hfingerprint
    rw [Raising.gets_bind_apply, if_pos hfirst]
    exact Raising.bind_of_ok hdeny
  have hexecute := execute_of_replay hvalid hexercise hrun hstored hrequested hreplay
  exact ⟨record, congrArg Prod.fst hexecute, hstatus, hcode⟩

end Later

/-! ## Runs -/

/-- The request is valid and belongs to the exercise of the adapter. -/
structure OwnRequest (request : JsonObject) : Prop where
  valid : ActionValidator.validate env.formats request = .ok ()
  exercise : request.text "exercise_id" = env.context.exercise_id

/-- A call with the key of `request`, whose first result is `first`: it changes nothing, and where
its own audit events are written it repeats the result or reports the conflict. -/
structure AnsweredFrom (request : JsonObject) (first : ActionResult) (again : JsonObject)
    (a : SafeActionAdapter W S) : Prop where
  store : KeepsStore a (env.executeRedacted again a).2
  executions : (env.executeRedacted again a).2.executions = a.executions
  simulation : (env.executeRedacted again a).2.simulation = a.simulation
  same : env.OwnRequest again → env.fingerprint again = env.fingerprint request →
    env.RepetitionAudited again a →
      (env.executeRedacted again a).1 = .ok { first with cached := true }
  other : env.OwnRequest again → env.fingerprint again ≠ env.fingerprint request →
    env.ConflictAudited again a →
      ∃ result, (env.executeRedacted again a).1 = .ok result ∧ result.status = .denied ∧
        result.error_code = some "idempotency_conflict"

/-- The state after calls of `execute`. -/
def afterCalls (requests : List JsonObject) (a : SafeActionAdapter W S) : SafeActionAdapter W S :=
  runAll (fun request => env.perform (.execute request)) requests a

/-- After its first result a key is answered from it, whatever is called in between. -/
theorem answeredFrom_of_first (hclock : env.SoundClock) (hhandlers : env.SoundHandlers)
    {request : JsonObject} {first : ActionResult} {a b : SafeActionAdapter W S}
    (hfirst : env.Stores request a first b) (middle : List JsonObject) {again : JsonObject}
    (hkey : key again = key request) :
    env.AnsweredFrom request first again (env.afterCalls middle b) := by
  have hstored : b.results (key request) = some first ∧
      b.fingerprints (key request) = some (env.fingerprint request) := by
    rw [hfirst.results, hfirst.fingerprints, Function.update_self, Function.update_self]
    exact ⟨rfl, rfl⟩
  obtain ⟨hresult, hfingerprint⟩ :
      (env.afterCalls middle b).results (key request) = some first ∧
        (env.afterCalls middle b).fingerprints (key request) = some (env.fingerprint request) := by
    refine invariant_runAll (C := fun _ _ => True)
      (I := fun c : SafeActionAdapter W S => c.results (key request) = some first ∧
        c.fingerprints (key request) = some (env.fingerprint request))
      (fun next c hc _ => ?_) hstored (EachMeets.of_forall _ (fun _ _ => trivial) _ _)
    obtain ⟨hkept, hsame⟩ := env.stored_kept hclock hhandlers (redacted next) hc.1
    exact ⟨hkept, hsame.trans hc.2⟩
  rw [← hkey] at hresult hfingerprint
  have hrun : again.text "run_id" = env.context.run_id :=
    (congrArg Prod.fst hkey).trans hfirst.run
  obtain ⟨hstore, hexecutions, hsimulation⟩ := @unchanged_of_stored _ _ env _ _ _ hresult
  refine ⟨hstore, hexecutions, hsimulation, fun hown hsame haudited => ?_,
    fun hown hother haudited => ?_⟩
  · rw [← hsame] at hfingerprint
    exact replayed hown.valid hown.exercise hrun hresult hfirst.wellFormed hfingerprint haudited
  · refine conflicting hclock hown.valid hown.exercise hrun hresult (fun h => hother ?_) haudited
    rw [hfingerprint] at h
    exact (Option.some.inj h).symm

/-- Every state of a run of calls has one handler start for each key at most. -/
theorem recorded_runs (hclock : env.SoundClock) (hhandlers : env.SoundHandlers) (world : W)
    (simulation : S) (requests : List JsonObject) :
    Recorded (env.afterCalls requests (env.init world simulation)) :=
  invariant_runAll (C := fun _ _ => True)
    (fun request _ ha _ => env.recorded_execute hclock hhandlers (redacted request) ha)
    (env.recorded_init world simulation) (EachMeets.of_forall _ (fun _ _ => trivial) _ _)

theorem soundHandlers_sample : (sample acceptAll (isolateIn 5)).SoundHandlers := by
  intro definition hdefinition request control a
  rw [List.mem_singleton.mp hdefinition]
  exact List.nodup_singleton "host isolated"

/-- The first request to isolate the host, and the same request with a new id. -/
def firstRequest : JsonObject := sampleRequest "6f1c0e0a-0000-4000-8000-000000000003" "EX-1"

@[inherit_doc firstRequest]
def secondRequest : JsonObject := sampleRequest "6f1c0e0a-0000-4000-8000-000000000004" "EX-1"

end NetStrike.Shared.Adapter
