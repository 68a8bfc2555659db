import NetStrike.Dashboard.Sso

/-!
# Sign-in steps whose audit fails

Every branch of the workflow but one changes the workflow before it audits: it writes a line of
history, or it clears the open challenge. `Marked` says so, and it survives everything that follows.
Only the sign-in of another account audits first (`Foreign`), so a call that ends with an exception
of the audit sink has no effect exactly then (`audit_failure_iff`).
-/

set_option autoImplicit false

namespace NetStrike.Dashboard.Sso

open NetStrike.Foundation NetStrike.Shared NetStrike.Modules

variable {W : Type} (env : Sso W)

/-! ## What the calls into collaborators keep -/

/-- Nothing but the world differs. -/
structure SameWorkflow (s s' : SsoExperience W) : Prop where
  state : s'.state = s.state
  identity : s'.identity = s.identity
  journal : s'.journal = s.journal

instance : Std.Refl (SameWorkflow (W := W)) := ⟨fun _ => ⟨rfl, rfl, rfl⟩⟩

instance : IsTrans (SsoExperience W) SameWorkflow :=
  ⟨fun _ _ _ h h' => ⟨h'.state.trans h.state, h'.identity.trans h.identity,
    h'.journal.trans h.journal⟩⟩

theorem sameWorkflow_now : env.now.Keeps SameWorkflow := fun _ => ⟨rfl, rfl, rfl⟩

theorem sameWorkflow_newId : env.newId.Keeps SameWorkflow := fun _ => ⟨rfl, rfl, rfl⟩

theorem sameWorkflow_audit (action result : String) (credential identity_id : Option String) :
    (env.audit action result credential identity_id).Keeps SameWorkflow := by
  unfold audit
  refine Raising.Keeps.bind env.sameWorkflow_now fun _ => ?_
  refine Raising.Keeps.bind env.sameWorkflow_newId fun _ => ?_
  refine Raising.Keeps.bind (Raising.Keeps.step fun _ => ⟨rfl, rfl, rfl⟩) fun answer => ?_
  cases answer with
  | ok _ => exact Raising.Keeps.pure _
  | error e => exact Raising.Keeps.raise _

/-- To show the state is to read the clock. -/
theorem state_apply (s : SsoExperience W) :
    ∃ snapshot w, env.state s = (.ok snapshot, { s with world := w }) := by
  unfold Sso.state
  rw [Raising.gets_bind_apply]
  cases openChallenge s.state with
  | none => exact ⟨_, s.world, rfl⟩
  | some challenge => exact ⟨_, _, rfl⟩

theorem sameWorkflow_state : env.state.Keeps SameWorkflow := by
  intro s
  obtain ⟨snapshot, w, heq⟩ := env.state_apply s
  rw [heq]
  exact ⟨rfl, rfl, rfl⟩

/-! ## Marks -/

/-- The workflow has a new line of history, or its open challenge is gone. -/
def Marked (t t' : SsoState) : Prop :=
  t.history.length < t'.history.length ∨
    (truthy t.challenge_id).isSome = true ∧ t'.challenge_id = none

theorem Marked.ne {t t' : SsoState} (h : Marked t t') : t' ≠ t := by
  rintro rfl
  rcases h with hlength | ⟨hopen, hnone⟩
  · exact lt_irrefl _ hlength
  · rw [hnone] at hopen
    cases hopen

/-- The history and the challenge are those of `t`. -/
structure Unmarked (t : SsoState) (s : SsoExperience W) : Prop where
  history : s.state.history = t.history
  challenge_id : s.state.challenge_id = t.challenge_id

/-- The exception comes from the audit sink. -/
def OfAudit (e : SsoFault) : Prop := ∃ e', e = .audit e'

/-- From a state without a mark, an exception of the audit sink leaves a mark. -/
def MarksFirst {α : Type} (m : Step W α) : Prop :=
  ∀ t, Raising.Triple (Unmarked t) m (fun _ _ => True)
    fun e s => OfAudit e → Marked t s.state

/-- What follows a mark keeps it. -/
theorem marked_after {α : Type} {m : Step W α} (hm : m.Keeps SameWorkflow) (t : SsoState) :
    Raising.Triple (fun s => Marked t s.state) m (fun _ s => Marked t s.state)
      fun _ s => Marked t s.state := by
  refine Raising.Triple.intro ?_ ?_
  · intro s a s' hs heq
    have hsame := hm s
    rw [heq] at hsame
    rwa [hsame.state]
  · intro s e s' hs heq
    have hsame := hm s
    rw [heq] at hsame
    rwa [hsame.state]

/-- A change that leaves a mark, followed by calls into collaborators. -/
theorem marksFirst_modify {α : Type} {f : SsoExperience W → SsoExperience W} {m : Step W α}
    (hf : ∀ t s, Unmarked t s → Marked t (f s).state)
    (hm : ∀ t, Raising.Triple (fun s => Marked t s.state) m (fun _ s => Marked t s.state)
      fun _ s => Marked t s.state) : MarksFirst (Raising.modify f >>= fun _ => m) := by
  intro t
  refine Raising.Triple.bind (Q := fun _ s => Marked t s.state)
    (Raising.Triple.modify fun s hs => hf t s hs) fun _ => ?_
  exact (hm t).conseq (fun _ hs => hs) (fun _ _ _ => trivial) fun _ _ hs _ => hs

/-- A new line of history is a mark. -/
theorem marked_of_history {t : SsoState} {s s' : SsoExperience W} (h : Unmarked t s)
    {line : String} (hline : s'.state.history = s.state.history ++ [line]) : Marked t s'.state := by
  left
  rw [hline, h.history, List.length_append]
  exact Nat.lt_succ_self _

/-- A computation that no audit is part of. -/
theorem marksFirst_of_silent {α : Type} {m : Step W α}
    (h : ∀ s e, (m s).1 = .error e → ¬ OfAudit e) : MarksFirst m := by
  intro t
  refine Raising.Triple.intro (fun _ _ _ _ _ => trivial) ?_
  intro s e s' _ heq haudit
  exact absurd haudit (h s e (by rw [heq]))

theorem marksFirst_raise {α : Type} {e : SsoFault} (he : ¬ OfAudit e) :
    MarksFirst (Raising.raise e : Step W α) := by
  refine marksFirst_of_silent ?_
  rintro s e' ⟨⟩
  exact he

theorem not_ofAudit_experience (message : String) :
    ¬ OfAudit (.experience message) := by
  rintro ⟨e, ⟨⟩⟩

theorem not_ofAudit_boundary (message : String) : ¬ OfAudit (.boundary message) := by
  rintro ⟨e, ⟨⟩⟩

theorem not_ofAudit_key (name : String) : ¬ OfAudit (.key name) := by
  rintro ⟨e, ⟨⟩⟩

/-- A read before a computation. -/
theorem marksFirst_gets {α β : Type} {f : SsoExperience W → α} {m : α → Step W β}
    (h : ∀ a, MarksFirst (m a)) : MarksFirst (Raising.gets f >>= m) :=
  fun t => Raising.Triple.bind (Q := fun _ => Unmarked t) (Raising.Triple.gets fun _ hs => hs)
    fun a => h a t

/-- A call into a collaborator that raises nothing, before a computation. -/
theorem marksFirst_step {α β : Type} {f : SsoExperience W → α × SsoExperience W}
    {m : α → Step W β} (hf : (Raising.step f : Step W α).Keeps SameWorkflow)
    (h : ∀ a, MarksFirst (m a)) : MarksFirst (Raising.step f >>= m) := by
  intro t
  refine Raising.Triple.bind (Q := fun _ => Unmarked t) ?_ fun a => h a t
  refine Raising.Triple.step fun s hs => ?_
  have hstate : (f s).2.state = s.state := (hf s).state
  exact ⟨by rw [hstate, hs.history], by rw [hstate, hs.challenge_id]⟩

/-! ## The branches -/

/-- A trailing audit and the snapshot keep a mark. -/
theorem marked_auditThen (action result : String) (credential identity_id : Option String)
    {α : Type} {m : Step W α} (t : SsoState)
    (hm : Raising.Triple (fun s => Marked t s.state) m (fun _ s => Marked t s.state)
      fun _ s => Marked t s.state) :
    Raising.Triple (fun s => Marked t s.state)
      (env.audit action result credential identity_id >>= fun _ => m)
      (fun _ s => Marked t s.state) fun _ s => Marked t s.state :=
  Raising.Triple.bind (marked_after (env.sameWorkflow_audit action result credential identity_id) t)
    fun _ => hm

theorem marked_state (t : SsoState) :
    Raising.Triple (fun s => Marked t s.state) env.state (fun _ s => Marked t s.state)
      fun _ s => Marked t s.state :=
  marked_after env.sameWorkflow_state t

theorem marksFirst_refuse : MarksFirst env.refuse :=
  marksFirst_modify (fun _ _ hs => marked_of_history hs rfl) fun t =>
    env.marked_auditThen _ _ _ _ t (env.marked_state t)

theorem marksFirst_showView (view : SsoView) (message : String) :
    MarksFirst (env.showView view message) := by
  refine marksFirst_of_silent fun s e herror => ?_
  unfold showView at herror
  rw [Raising.modify_bind_apply] at herror
  obtain ⟨snapshot, w, heq⟩ :=
    env.state_apply (setState (fun t => { t with view := view, message := message }) s)
  rw [heq] at herror
  cases herror

theorem setIdentity_state (f : Identity → Identity) (s : SsoExperience W) :
    (env.setIdentity f s).state = s.state := by
  unfold setIdentity
  split <;> rfl

theorem setMfa_state (f : MfaRecord → MfaRecord) (s : SsoExperience W) :
    (env.setMfa f s).state = s.state := by
  unfold setMfa
  split <;> rfl

theorem marksFirst_countFailure (credential : String) : MarksFirst (env.countFailure credential) := by
  refine marksFirst_gets fun failed => ?_
  split_ifs
  · refine marksFirst_modify (fun t s hs => ?_) fun t =>
      env.marked_auditThen _ _ _ _ t (env.marked_state t)
    have hline : (env.lockOut s).state.history = s.state.history ++ ["locked"] := by
      rw [lockOut, setIdentity_state]
      rfl
    exact marked_of_history hs hline
  · exact marksFirst_modify (fun _ _ hs => marked_of_history hs rfl) fun t =>
      env.marked_auditThen _ _ _ _ t (env.marked_state t)

theorem marksFirst_issueChallenge (credential : String) :
    MarksFirst (env.issueChallenge credential) := by
  refine marksFirst_step env.sameWorkflow_newId fun id => ?_
  refine marksFirst_step env.sameWorkflow_now fun now => ?_
  exact marksFirst_modify (fun _ _ hs => marked_of_history hs rfl) fun t =>
    env.marked_auditThen _ _ _ _ t (env.marked_auditThen _ _ _ _ t (env.marked_state t))

theorem marksFirst_attemptSignIn (identity : Identity) (credential : String) :
    MarksFirst (env.attemptSignIn identity credential) := by
  refine marksFirst_gets fun t => ?_
  split_ifs
  · exact env.marksFirst_refuse
  · exact env.marksFirst_showView _ _
  · exact env.marksFirst_showView _ _
  · exact env.marksFirst_countFailure credential
  · exact env.marksFirst_issueChallenge credential

/-- A sign-in under the configured name. -/
theorem marksFirst_signInKnown (credential : String) : MarksFirst (env.signInKnown credential) := by
  refine marksFirst_gets fun found => ?_
  cases found with
  | none => exact marksFirst_raise (not_ofAudit_boundary _)
  | some identity =>
      dsimp only
      split_ifs
      · exact marksFirst_raise (not_ofAudit_boundary _)
      · intro t
        refine Raising.Triple.bind (Q := fun _ => Unmarked t)
          (Raising.Triple.modify fun s hs => ⟨hs.history, hs.challenge_id⟩) fun _ => ?_
        exact env.marksFirst_attemptSignIn identity credential t

theorem setMfa_history (f : MfaRecord → MfaRecord) {t : SsoState} {s : SsoExperience W}
    (hs : Unmarked t s) : Unmarked t (env.setMfa f s) :=
  ⟨by rw [setMfa_state, hs.history], by rw [setMfa_state, hs.challenge_id]⟩

theorem marksFirst_settle (approves expired : Bool) : MarksFirst (env.settle approves expired) := by
  unfold settle
  split_ifs
  · exact marksFirst_modify
      (fun _ _ hs => marked_of_history (env.setMfa_history _ hs) rfl) fun t =>
        env.marked_auditThen _ _ _ _ t (env.marked_state t)
  · refine marksFirst_modify
      (fun _ _ hs => marked_of_history (env.setMfa_history _ hs) rfl) fun t => ?_
    refine env.marked_auditThen _ _ _ _ t ?_
    refine Raising.Triple.bind (Q := fun _ s => Marked t s.state)
      (Raising.Triple.modify fun s hs => hs) fun _ => ?_
    exact env.marked_auditThen _ _ _ _ t (env.marked_state t)
  · exact marksFirst_modify
      (fun _ _ hs => marked_of_history (env.setMfa_history _ hs) rfl) fun t =>
        env.marked_auditThen _ _ _ _ t (env.marked_state t)

/-- The decision on an open challenge: it is settled before the audit, or cancelled. -/
theorem decideOpen_marks (approves : Bool) {t : SsoState}
    (hopen : (truthy t.challenge_id).isSome = true) :
    Raising.Triple (Unmarked t) (env.decideOpen approves) (fun _ _ => True)
      fun e s => OfAudit e → Marked t s.state := by
  unfold decideOpen
  refine Raising.Triple.bind (Q := fun _ => Unmarked t) ?_ fun expired => ?_
  · refine Raising.Triple.intro ?_ ?_
    · intro s a s' hs heq
      have hkeeps : env.hasExpired.Keeps SameWorkflow := by
        refine Raising.Keeps.bind (Raising.Keeps.gets _) fun expires_at => ?_
        cases expires_at with
        | none => exact Raising.Keeps.pure _
        | some n => exact Raising.Keeps.bind env.sameWorkflow_now fun _ => Raising.Keeps.pure _
      have hsame := hkeeps s
      rw [heq] at hsame
      exact ⟨by rw [hsame.state, hs.history], by rw [hsame.state, hs.challenge_id]⟩
    · intro s e s' _ heq
      unfold hasExpired at heq
      rw [Raising.gets_bind_apply] at heq
      cases hexpires : s.state.challenge_expires_at <;> rw [hexpires] at heq <;> cases heq
  · refine Raising.Triple.bind (Q := fun _ => Unmarked t)
      (Raising.Triple.gets fun _ hs => hs) fun found => ?_
    cases found with
    | none => exact marksFirst_raise (not_ofAudit_key _) t
    | some identity =>
        dsimp only
        split_ifs
        · -- The cancellation writes no line of history, but the open challenge is gone.
          refine Raising.Triple.bind (Q := fun _ s => Marked t s.state)
            (Raising.Triple.modify fun s _ => Or.inr ⟨hopen, rfl⟩) fun _ => ?_
          refine Raising.Triple.conseq (env.marked_auditThen _ _ _ _ t ?_) (fun _ hs => hs)
            (fun _ _ _ => trivial) (fun _ _ hs _ => hs)
          exact Raising.Triple.raise fun s hs => hs
        · refine Raising.Triple.bind (Q := fun _ => Unmarked t)
            (Raising.Triple.gets fun _ hs => hs) fun record => ?_
          cases record with
          | none => exact marksFirst_raise (not_ofAudit_key _) t
          | some _ => exact env.marksFirst_settle approves expired t

theorem marksFirst_decideMfa (challenge_id decision : Json) :
    MarksFirst (env.decideMfa challenge_id decision) := by
  unfold decideMfa
  cases challengeOf challenge_id with
  | none => exact marksFirst_raise (not_ofAudit_experience _)
  | some id =>
      cases decisionOf decision with
      | none => exact marksFirst_raise (not_ofAudit_experience _)
      | some approves =>
          intro t
          refine Raising.Triple.bind
            (Q := fun current s => Unmarked t s ∧ current = truthy t.challenge_id)
            (Raising.Triple.gets fun s hs => ⟨hs, by rw [hs.challenge_id]⟩) fun current => ?_
          split_ifs with hcurrent
          · by_cases hopen : (truthy t.challenge_id).isSome = true
            · exact (env.decideOpen_marks approves hopen).conseq (fun _ hs => hs.1)
                (fun _ _ h => h) fun _ _ h => h
            · intro s hs
              rw [← hs.2, hcurrent] at hopen
              exact absurd rfl hopen
          · exact Raising.Triple.raise fun _ _ h => absurd h (not_ofAudit_experience _)

theorem marksFirst_reviewSessions : MarksFirst env.reviewSessions := by
  refine marksFirst_gets fun signed_in => ?_
  split_ifs
  · exact marksFirst_modify (fun _ _ hs => marked_of_history hs rfl) fun t =>
      env.marked_auditThen _ _ _ _ t (env.marked_state t)
  · exact marksFirst_raise (not_ofAudit_experience _)

/-! ## Calls -/

/-- The operation is a sign-in of another account than the configured one. -/
def Foreign : Operation → Prop
  | .sign_in username credential =>
      ∃ name phrase, usernameOf username = some name ∧ credentialOf credential = some phrase ∧
        env.casefold (strip name) ≠ env.config.username
  | _ => False

theorem marksFirst_then {α β : Type} {m : Step W α} (h : MarksFirst m) (b : β) :
    MarksFirst (m >>= fun _ => pure b) :=
  fun t => Raising.Triple.bind (h t) fun _ => Raising.Triple.pure fun _ hs => hs

/-- Every other call leaves a mark before it audits. -/
theorem marksFirst_call {op : Operation} (hop : ¬ env.Foreign op) : MarksFirst (env.call op) := by
  cases op with
  | sign_in username credential =>
      refine marksFirst_then ?_ ()
      unfold signIn
      cases hname : usernameOf username with
      | none => exact marksFirst_raise (not_ofAudit_boundary _)
      | some name =>
          cases hphrase : credentialOf credential with
          | none => exact marksFirst_raise (not_ofAudit_experience _)
          | some phrase =>
              dsimp only
              split_ifs with hforeign
              · exact absurd ⟨name, phrase, hname, hphrase, hforeign⟩ hop
              · exact env.marksFirst_signInKnown phrase
  | decide_mfa challenge_id decision =>
      exact marksFirst_then (env.marksFirst_decideMfa challenge_id decision) ()
  | review_sessions => exact marksFirst_then env.marksFirst_reviewSessions ()
  | reset =>
      refine marksFirst_of_silent fun s e herror => ?_
      change (env.reset s).1 = .error e at herror
      unfold reset at herror
      rw [Raising.modify_bind_apply, Raising.gets_bind_apply] at herror
      cases hfound : (dropSession s).identity.identities.lookup env.config.identity_id with
      | none =>
          rw [hfound] at herror
          cases herror
          exact not_ofAudit_key _
      | some identity =>
          rw [hfound] at herror
          cases herror
  | set_enabled enabled =>
      refine marksFirst_of_silent fun s e herror => ?_
      cases herror

/-- A sign-in of another account changes nothing but the world. -/
theorem sameWorkflow_foreign {op : Operation} (hop : env.Foreign op) :
    (env.call op).Keeps SameWorkflow := by
  cases op with
  | sign_in username credential =>
      obtain ⟨name, phrase, hname, hphrase, hforeign⟩ := hop
      refine Raising.Keeps.bind ?_ fun _ => Raising.Keeps.pure _
      unfold signIn
      rw [hname]
      dsimp only
      rw [hphrase]
      dsimp only
      rw [if_pos hforeign]
      exact Raising.Keeps.bind (env.sameWorkflow_audit _ _ _ _) fun _ => Raising.Keeps.raise _
  | _ => exact hop.elim

/-- A call that ends with an exception of the audit sink leaves the workflow and the identity state
as they were exactly when it is a sign-in of another account. -/
theorem audit_failure_iff {op : Operation} {s : SsoExperience W} {e : Exn}
    (h : (env.call op s).1 = .error (.audit e)) :
    ((env.call op s).2.state = s.state ∧ (env.call op s).2.identity = s.identity) ↔
      env.Foreign op := by
  constructor
  · rintro ⟨hstate, -⟩
    by_contra hop
    cases hcall : env.call op s with
    | mk r s' =>
        rw [hcall] at h hstate
        have hmarked := (env.marksFirst_call hop s.state).of_error ⟨rfl, rfl⟩
          (hcall.trans (congrArg (·, s') h)) ⟨e, rfl⟩
        exact hmarked.ne hstate
  · intro hop
    have hsame := env.sameWorkflow_foreign hop s
    exact ⟨hsame.state, hsame.identity⟩

/-! ## A review whose audit fails -/

/-- A small workflow whose audit sink is given. -/
def sample (audit_sink : JsonObject → Unit → Except Exn Unit × Unit) : Sso Unit where
  config :=
    { service_name := "Access", heading := "Sign in", introduction := "Use the exercise account"
      identity_id := "sarah", username := "sarah@simcorp.test", display_name := "Sarah"
      initial_failures_before_mfa := 0, lockout_threshold := 3, mfa_timeout_seconds := 60
      messages := ⟨"failure", "locked", "mfa", "success", "suspicious", "rejected"⟩
      suspicious_sessions := [⟨"sess-red-01", "Session", "Elsewhere", "Today"⟩] }
  audit_sink := audit_sink
  clock := fun w => (0, w)
  id_factory := fun w => ("challenge-1", w)
  casefold := id

/-- An audit sink that raises. -/
def brokenSink : JsonObject → Unit → Except Exn Unit × Unit :=
  fun _ w => (.error (.of .OSError "audit unavailable"), w)

/-- The workflow after an approved sign-in. -/
def signedIn : SsoExperience Unit :=
  { init (SyntheticIdentityState.baseline []) () with
    state := { view := .success, signed_in := true } }

theorem audit_failure_iff_sample :
    (((sample brokenSink).call .review_sessions signedIn).2.state = signedIn.state ∧
        ((sample brokenSink).call .review_sessions signedIn).2.identity = signedIn.identity) ↔
      (sample brokenSink).Foreign .review_sessions :=
  (sample brokenSink).audit_failure_iff (e := .of .OSError "audit unavailable") rfl

/-- The review of the sessions shows them although its audit failed. -/
theorem unaudited_review :
    ((sample brokenSink).call .review_sessions signedIn).1 =
        .error (.audit (.of .OSError "audit unavailable")) ∧
      ((sample brokenSink).call .review_sessions signedIn).2.state ≠ signedIn.state := by
  refine ⟨rfl, ?_⟩
  decide

end NetStrike.Dashboard.Sso
