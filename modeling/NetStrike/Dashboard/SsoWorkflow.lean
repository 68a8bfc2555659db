import NetStrike.Dashboard.SsoAudit
import NetStrike.Foundation.Journal
import NetStrike.Foundation.Runs

/-!
# The sign-in workflow as a state machine

With an audit sink that accepts everything, `Moves` says once what an operation can do to the
workflow. `Sound` is what the workflow promises in a state, with the journal of what happened since
the last reset. `decide_mfa` and `review_sessions` do not look at the lock, so a locked workflow is
left by the decision on a challenge that was open when it was locked, and by the review of a session
from before: `sso_sound_iff` says that nothing else breaks the promise.
-/

set_option autoImplicit false

namespace NetStrike.Dashboard.Sso

open NetStrike.Foundation NetStrike.Shared NetStrike.Modules

variable {W : Type} (env : Sso W)

/-! ## What an operation can do -/

/-- The state in another world. -/
def inWorld (w : W) (s : SsoExperience W) : SsoExperience W := { s with world := w }

/-- The workflow remembers the configured name. -/
def named (s : SsoExperience W) : SsoExperience W :=
  setState (fun t => { t with username := some env.config.username }) s

/-- The identity is known, and disabled or not. -/
def EnabledIs (enabled : Bool) (s : SsoExperience W) : Prop :=
  ∃ identity, s.identity.identities.lookup env.config.identity_id = some identity ∧
    identity.enabled = enabled

/-- A decision finds the identity enabled, and a challenge record of it. -/
def Ready (s : SsoExperience W) : Prop :=
  env.EnabledIs true s ∧ (s.identity.mfa.lookup env.config.identity_id).isSome = true

/-- The decision names the open challenge. -/
def Decides (challenge_id decision : Json) (approves : Bool) (s : SsoExperience W) : Prop :=
  ∃ id, challengeOf challenge_id = some id ∧ decisionOf decision = some approves ∧
    truthy s.state.challenge_id = some id

/-- The operation decides on the open challenge of an enabled identity, or reviews the sessions of a
sign-in. -/
def Acts : Operation → SsoExperience W → Prop
  | .decide_mfa challenge_id decision, s =>
      (∃ approves, Decides challenge_id decision approves s) ∧ env.Ready s
  | .review_sessions, s => s.state.signed_in = true
  | _, _ => False

/-- What an operation makes of a state, up to the world. -/
inductive Moves (s : SsoExperience W) : Operation → SsoExperience W → Prop where
  | stay {op : Operation} (hidle : ¬ env.Acts op s) : Moves s op s
  | refuse {username credential : Json} : Moves s (.sign_in username credential) (env.lock (env.named s))
  | display {username credential : Json} (view : SsoView) (message : String)
      (hfree : s.state.locked = false) :
      Moves s (.sign_in username credential)
        (setState (fun t => { t with view := view, message := message }) (env.named s))
  | fail {username credential : Json} (hfree : s.state.locked = false) :
      Moves s (.sign_in username credential) (env.fail (env.named s))
  | lockOut {username credential : Json} :
      Moves s (.sign_in username credential) (env.lockOut (env.named s))
  | challenge {username credential : Json} (id : String) (now : Int)
      (hfree : s.state.locked = false) (hout : s.state.signed_in = false) :
      Moves s (.sign_in username credential) (env.challenge id now (env.named s))
  | cancel {challenge_id decision : Json} {approves : Bool} (expired : Bool)
      (hdecides : Decides challenge_id decision approves s) (hdisabled : env.EnabledIs false s) :
      Moves s (.decide_mfa challenge_id decision) (env.cancel expired s)
  | expire {challenge_id decision : Json} {approves : Bool}
      (hdecides : Decides challenge_id decision approves s) (hready : env.Ready s) :
      Moves s (.decide_mfa challenge_id decision) (env.expire s)
  | approve {challenge_id decision : Json}
      (hdecides : Decides challenge_id decision true s) (hready : env.Ready s) :
      Moves s (.decide_mfa challenge_id decision) (env.createSession (env.approve s))
  | deny {challenge_id decision : Json}
      (hdecides : Decides challenge_id decision false s) (hready : env.Ready s) :
      Moves s (.decide_mfa challenge_id decision) (env.deny s)
  | review (hin : s.state.signed_in = true) : Moves s .review_sessions (env.review s)
  | drop : Moves s .reset (dropSession s)
  | restart : Moves s .reset (env.restart (dropSession s))
  | set_enabled (enabled : Bool) :
      Moves s (.set_enabled enabled)
        (env.setIdentity (fun identity => { identity with enabled := enabled }) s)

section Calls

variable {env}

theorem inWorld_self (s : SsoExperience W) : inWorld s.world s = s := rfl

theorem setIdentity_inWorld (f : Identity → Identity) (w : W) (s : SsoExperience W) :
    env.setIdentity f (inWorld w s) = inWorld w (env.setIdentity f s) := by
  unfold setIdentity inWorld
  cases s.identity.identities.lookup env.config.identity_id <;> rfl

theorem setMfa_inWorld (f : MfaRecord → MfaRecord) (w : W) (s : SsoExperience W) :
    env.setMfa f (inWorld w s) = inWorld w (env.setMfa f s) := by
  unfold setMfa inWorld
  cases s.identity.mfa.lookup env.config.identity_id <;> rfl

theorem audit_apply (haudit : ∀ p w, (env.audit_sink p w).1 = .ok ())
    (action result : String) (credential identity_id : Option String) (s : SsoExperience W) :
    ∃ w, env.audit action result credential identity_id s = (.ok (), inWorld w s) := by
  unfold audit now newId
  rw [Raising.step_bind_apply, Raising.step_bind_apply, Raising.step_bind_apply]
  dsimp only
  rw [haudit]
  exact ⟨_, rfl⟩

/-- An audit and the snapshot move nothing. -/
theorem auditThenState_apply (haudit : ∀ p w, (env.audit_sink p w).1 = .ok ())
    (action result : String) (credential : Option String) (s : SsoExperience W) :
    ∃ w, ((env.audit action result credential none >>= fun _ => env.state) s).2 = inWorld w s := by
  obtain ⟨w, hw⟩ := audit_apply haudit action result credential none s
  obtain ⟨snapshot, w', hw'⟩ := env.state_apply (inWorld w s)
  rw [Raising.bind_of_ok hw, hw']
  exact ⟨w', rfl⟩

variable (env) in
/-- Run from `s₁`, the computation makes of `s` what the operation can make of it. -/
def Leads (s : SsoExperience W) (op : Operation) (m : Step W SsoSnapshot) (s₁ : SsoExperience W) :
    Prop :=
  ∃ w s', (m s₁).2 = inWorld w s' ∧ env.Moves s op s'

theorem leads_raise {s : SsoExperience W} {op : Operation} (hidle : ¬ env.Acts op s) (e : SsoFault)
    (w : W) : env.Leads s op (Raising.raise e) (inWorld w s) :=
  ⟨w, s, rfl, .stay hidle⟩

/-- One change, then an audit and the snapshot. -/
theorem leads_modify (haudit : ∀ p w, (env.audit_sink p w).1 = .ok ()) {s s₁ s' : SsoExperience W}
    {op : Operation} {f : SsoExperience W → SsoExperience W} (hf : ∃ w, f s₁ = inWorld w s')
    (hmoves : env.Moves s op s') (action result : String) (credential : Option String) :
    env.Leads s op
      (Raising.modify f >>= fun _ => env.audit action result credential none >>= fun _ => env.state)
      s₁ := by
  obtain ⟨w, hf⟩ := hf
  obtain ⟨w', hw'⟩ := auditThenState_apply haudit action result credential (f s₁)
  refine ⟨w', s', ?_, hmoves⟩
  rw [Raising.modify_bind_apply, hw', hf]
  rfl

variable {s : SsoExperience W} {username credential : Json}

theorem leads_showView (hfree : s.state.locked = false) (view : SsoView) (message : String) :
    env.Leads s (.sign_in username credential) (env.showView view message)
      (env.named s) := by
  obtain ⟨snapshot, w, heq⟩ := env.state_apply
    (setState (fun t => { t with view := view, message := message }) (env.named s))
  refine ⟨w, _, ?_, .display view message hfree⟩
  unfold showView
  rw [Raising.modify_bind_apply, heq]
  rfl

theorem leads_countFailure (haudit : ∀ p w, (env.audit_sink p w).1 = .ok ())
    (hfree : s.state.locked = false) (phrase : String) :
    env.Leads s (.sign_in username credential) (env.countFailure phrase)
      (env.named s) := by
  unfold countFailure Leads
  rw [Raising.gets_bind_apply]
  split_ifs
  · exact leads_modify haudit ⟨_, (inWorld_self _).symm⟩ .lockOut _ _ _
  · exact leads_modify haudit ⟨_, (inWorld_self _).symm⟩ (.fail hfree) _ _ _

theorem leads_issueChallenge (haudit : ∀ p w, (env.audit_sink p w).1 = .ok ())
    (hfree : s.state.locked = false) (hout : s.state.signed_in = false) (phrase : String) :
    env.Leads s (.sign_in username credential) (env.issueChallenge phrase)
      (env.named s) := by
  unfold issueChallenge newId now Leads
  rw [Raising.step_bind_apply, Raising.step_bind_apply, Raising.modify_bind_apply]
  obtain ⟨w, hw⟩ := audit_apply haudit "identity.sign_in.attempt" "success" (some phrase) none
    (env.challenge (env.id_factory s.world).1 (env.clock (env.id_factory s.world).2).1
      (inWorld (env.clock (env.id_factory s.world).2).2 (env.named s)))
  obtain ⟨w', hw'⟩ := auditThenState_apply haudit "identity.mfa.challenge.delivered" "pending" none
    (inWorld w (env.challenge (env.id_factory s.world).1 (env.clock (env.id_factory s.world).2).1
      (inWorld (env.clock (env.id_factory s.world).2).2 (env.named s))))
  refine ⟨w', _, ?_, .challenge (env.id_factory s.world).1
    (env.clock (env.id_factory s.world).2).1 hfree hout⟩
  exact (congrArg Prod.snd (Raising.bind_of_ok hw)).trans hw'

theorem leads_attemptSignIn (haudit : ∀ p w, (env.audit_sink p w).1 = .ok ())
    (identity : Identity) (phrase : String) :
    env.Leads s (.sign_in username credential) (env.attemptSignIn identity phrase)
      (env.named s) := by
  unfold attemptSignIn Leads
  rw [Raising.gets_bind_apply]
  split_ifs with hlocked hin hopen hfew
  · exact leads_modify haudit ⟨_, (inWorld_self _).symm⟩ .refuse _ _ _
  all_goals
    have hfree : s.state.locked = false := Bool.eq_false_iff.mpr (not_or.mp hlocked).2
  · exact leads_showView hfree _ _
  · exact leads_showView hfree _ _
  · exact leads_countFailure haudit hfree phrase
  · exact leads_issueChallenge haudit hfree (Bool.eq_false_iff.mpr hin) phrase

theorem leads_signIn (haudit : ∀ p w, (env.audit_sink p w).1 = .ok ()) :
    env.Leads s (.sign_in username credential) (env.signIn username credential) s := by
  have hidle : ¬ env.Acts (.sign_in username credential) s := not_false
  unfold signIn
  cases usernameOf username with
  | none => exact leads_raise hidle _ s.world
  | some name =>
      cases credentialOf credential with
      | none => exact leads_raise hidle _ s.world
      | some phrase =>
          dsimp only
          split_ifs
          · obtain ⟨w, hw⟩ := audit_apply haudit "identity.sign_in.rejected" "denied" none
              (some "external-account") s
            refine ⟨w, s, ?_, .stay hidle⟩
            unfold reject
            rw [Raising.bind_of_ok hw]
            rfl
          · unfold signInKnown Leads
            rw [Raising.gets_bind_apply]
            cases s.identity.identities.lookup env.config.identity_id with
            | none => exact leads_raise hidle _ s.world
            | some identity =>
                dsimp only
                split_ifs
                · exact leads_raise hidle _ s.world
                · exact leads_attemptSignIn haudit identity phrase

theorem hasExpired_apply (s : SsoExperience W) :
    ∃ expired w, env.hasExpired s = (.ok expired, inWorld w s) := by
  unfold hasExpired
  rw [Raising.gets_bind_apply]
  cases s.state.challenge_expires_at with
  | none => exact ⟨true, s.world, rfl⟩
  | some expires_at => exact ⟨_, _, rfl⟩

variable {challenge_id decision : Json} {approves : Bool}

theorem leads_settle (haudit : ∀ p w, (env.audit_sink p w).1 = .ok ())
    (hdecides : Decides challenge_id decision approves s) (hready : env.Ready s) (expired : Bool)
    (w : W) :
    env.Leads s (.decide_mfa challenge_id decision) (env.settle approves expired)
      (inWorld w s) := by
  unfold settle
  split_ifs with hexpired happroves
  · refine leads_modify haudit ⟨w, ?_⟩ (.expire hdecides hready) _ _ _
    rw [expire, setMfa_inWorld]
    rfl
  · obtain ⟨w₁, hw₁⟩ := audit_apply haudit "identity.mfa.challenge.approve" "success" none none
      (env.approve (inWorld w s))
    obtain ⟨w₂, hw₂⟩ := auditThenState_apply haudit "identity.session.created" "success" none
      (env.createSession (inWorld w₁ (env.approve (inWorld w s))))
    refine ⟨w₂, _, ?_, .approve (happroves ▸ hdecides) hready⟩
    rw [Raising.modify_bind_apply, Raising.bind_of_ok hw₁, Raising.modify_bind_apply, hw₂,
      approve, setMfa_inWorld]
    rfl
  · refine leads_modify haudit ⟨w, ?_⟩ (.deny (Bool.eq_false_iff.mpr happroves ▸ hdecides) hready)
      _ _ _
    rw [deny, setMfa_inWorld]
    rfl

theorem leads_decideOpen (haudit : ∀ p w, (env.audit_sink p w).1 = .ok ())
    (hdecides : Decides challenge_id decision approves s) :
    env.Leads s (.decide_mfa challenge_id decision) (env.decideOpen approves) s := by
  obtain ⟨expired, w, hexpired⟩ := env.hasExpired_apply s
  unfold decideOpen Leads
  rw [Raising.bind_of_ok hexpired, Raising.gets_bind_apply]
  cases hfound : (inWorld w s).identity.identities.lookup env.config.identity_id with
  | none =>
      refine leads_raise ?_ _ w
      rintro ⟨-, ⟨identity, hidentity, -⟩, -⟩
      exact nomatch hfound.symm.trans hidentity
  | some identity =>
      dsimp only
      split_ifs with hdisabled
      · obtain ⟨w', hw'⟩ := audit_apply haudit "identity.mfa.challenge.cancelled" "blocked" none
          none (env.cancel expired (inWorld w s))
        refine ⟨w', _, ?_, .cancel expired hdecides ⟨identity, hfound, hdisabled⟩⟩
        rw [Raising.modify_bind_apply, Raising.bind_of_ok hw']
        rfl
      · rw [Raising.gets_bind_apply]
        cases hrecord : (inWorld w s).identity.mfa.lookup env.config.identity_id with
        | none =>
            refine leads_raise ?_ _ w
            rintro ⟨-, -, hpresent⟩
            rw [show s.identity.mfa.lookup env.config.identity_id = none from hrecord] at hpresent
            cases hpresent
        | some record =>
            refine leads_settle haudit hdecides ⟨⟨identity, hfound, ?_⟩, ?_⟩ expired w
            · simpa using hdisabled
            · exact (congrArg Option.isSome hrecord).trans rfl

theorem leads_decideMfa (haudit : ∀ p w, (env.audit_sink p w).1 = .ok ()) :
    env.Leads s (.decide_mfa challenge_id decision) (env.decideMfa challenge_id decision)
      s := by
  unfold decideMfa
  cases hid : challengeOf challenge_id with
  | none =>
      refine leads_raise ?_ _ s.world
      rintro ⟨⟨approves, id, hid', -, -⟩, -⟩
      rw [hid] at hid'
      cases hid'
  | some id =>
      cases happroves : decisionOf decision with
      | none =>
          refine leads_raise ?_ _ s.world
          rintro ⟨⟨approves, id, -, happroves', -⟩, -⟩
          rw [happroves] at happroves'
          cases happroves'
      | some approves =>
          unfold Leads
          dsimp only
          rw [Raising.gets_bind_apply]
          split_ifs with hcurrent
          · exact leads_decideOpen haudit ⟨id, hid, happroves, hcurrent⟩
          · refine leads_raise ?_ _ s.world
            rintro ⟨⟨approves', id', hid', -, hcurrent'⟩, -⟩
            obtain rfl : id = id' := Option.some.inj (hid.symm.trans hid')
            exact hcurrent hcurrent'

theorem leads_reviewSessions (haudit : ∀ p w, (env.audit_sink p w).1 = .ok ()) :
    env.Leads s .review_sessions env.reviewSessions s := by
  unfold reviewSessions Leads
  rw [Raising.gets_bind_apply]
  split_ifs with hin
  · exact leads_modify haudit ⟨_, (inWorld_self _).symm⟩ (.review hin) _ _ _
  · exact leads_raise (show ¬ env.Acts .review_sessions s from hin) _ s.world

/-- With an audit sink that accepts everything, an operation makes one of the moves. -/
theorem perform_moves (haudit : ∀ p w, (env.audit_sink p w).1 = .ok ()) (op : Operation)
    (s : SsoExperience W) : ∃ w s', env.perform op s = inWorld w s' ∧ env.Moves s op s' := by
  have hdone : ∀ {m : Step W SsoSnapshot}, env.Leads s op m s →
      ∃ w s', ((m >>= fun _ => (pure () : Step W Unit)) s).2 = inWorld w s' ∧
        env.Moves s op s' := by
    rintro m ⟨w, s', heq, hmoves⟩
    exact ⟨w, s', (Raising.bind_pure_state m () s).trans heq, hmoves⟩
  cases op with
  | sign_in username credential => exact hdone (leads_signIn haudit)
  | decide_mfa challenge_id decision => exact hdone (leads_decideMfa haudit)
  | review_sessions => exact hdone (leads_reviewSessions haudit)
  | reset =>
      show ∃ w s', (env.reset s).2 = inWorld w s' ∧ env.Moves s .reset s'
      unfold reset
      rw [Raising.modify_bind_apply, Raising.gets_bind_apply]
      cases (dropSession s).identity.identities.lookup env.config.identity_id with
      | none => exact ⟨_, _, (inWorld_self _).symm, .drop⟩
      | some identity => exact ⟨_, _, (inWorld_self _).symm, .restart⟩
  | set_enabled enabled => exact ⟨_, _, (inWorld_self _).symm, .set_enabled enabled⟩

end Calls

/-! ## What the workflow promises -/

/-- The number of a settled challenge. -/
def settledNumber : SsoMark → Option Nat
  | .settled challenge _ _ _ => some challenge
  | _ => none

/-- The mark lets somebody in. -/
def Admits : SsoMark → Prop
  | .settled _ .approved _ _ => True
  | .sessionCreated => True
  | _ => False

/-- The generated session stands for the approval of an unexpired challenge of an enabled identity,
no challenge is settled twice, sessions are reviewed after a sign-in only, and a locked workflow
shows that it is locked and has let nobody in since. -/
structure Sound (s : SsoExperience W) : Prop where
  session : (s.identity.sessions.lookup generatedSessionId).isSome = true →
    ∃ n, .settled n .approved true false ∈ s.journal
  once : (s.journal.filterMap settledNumber).Nodup
  reviewed : s.state.sessions_reviewed = true → s.state.signed_in = true
  view : s.state.locked = true → s.state.view = .locked
  closed : Preceded (fun before mark => Admits mark → .lockedOut ∉ before) s.journal

/-- What holds besides: the numbers of the challenges, and that an open challenge excludes a
sign-in. -/
structure Tracked (s : SsoExperience W) : Prop where
  numbered : ∀ n ∈ s.journal.filterMap settledNumber, n ≤ issued s
  fresh : (truthy s.state.challenge_id).isSome = true →
    issued s ∉ s.journal.filterMap settledNumber
  exclusive : (truthy s.state.challenge_id).isSome = true → s.state.signed_in = false
  latched : .lockedOut ∈ s.journal → s.state.locked = true

section Tracked

variable {s s' : SsoExperience W}

/-- Neither the journal nor the challenge nor the sign-in changes, and the lock is not lifted. -/
theorem Tracked.same (h : Tracked s) (hjournal : s'.journal = s.journal)
    (hchallenge : s'.state.challenge_id = s.state.challenge_id)
    (hsigned : s'.state.signed_in = s.state.signed_in)
    (hlocked : s'.state.locked = s.state.locked) : Tracked s' := by
  have hissued : issued s' = issued s := by rw [issued, hjournal, issued]
  constructor
  · rw [hjournal, hissued]
    exact h.numbered
  · rw [hchallenge, hjournal, hissued]
    exact h.fresh
  · rw [hchallenge, hsigned]
    exact h.exclusive
  · rw [hjournal, hlocked]
    exact h.latched

/-- The workflow is locked. -/
theorem Tracked.lock (h : Tracked s) (hjournal : s'.journal = s.journal ++ [.lockedOut])
    (hchallenge : s'.state.challenge_id = s.state.challenge_id)
    (hsigned : s'.state.signed_in = s.state.signed_in) (hlocked : s'.state.locked = true) :
    Tracked s' := by
  have hissued : issued s' = issued s := by
    rw [issued, hjournal, List.count_append]
    rfl
  have hnumbers : s'.journal.filterMap settledNumber =
      s.journal.filterMap settledNumber := by
    rw [hjournal, List.filterMap_append]
    exact List.append_nil _
  constructor
  · rw [hnumbers, hissued]
    exact h.numbered
  · rw [hchallenge, hnumbers, hissued]
    exact h.fresh
  · rw [hchallenge, hsigned]
    exact h.exclusive
  · exact fun _ => hlocked

/-- A challenge is issued: its number is new. -/
theorem Tracked.challenge (h : Tracked s) (hjournal : s'.journal = s.journal ++ [.challenged])
    (hsigned : s'.state.signed_in = false) (hlocked : s'.state.locked = s.state.locked) :
    Tracked s' := by
  have hissued : issued s' = issued s + 1 := by
    rw [issued, hjournal, List.count_append]
    rfl
  have hnumbers : s'.journal.filterMap settledNumber =
      s.journal.filterMap settledNumber := by
    rw [hjournal, List.filterMap_append]
    exact List.append_nil _
  constructor
  · rw [hnumbers, hissued]
    exact fun n hn => (h.numbered n hn).trans (Nat.le_succ _)
  · rw [hnumbers, hissued]
    intro _ hmem
    exact absurd (h.numbered _ hmem) (Nat.not_succ_le_self _)
  · exact fun _ => hsigned
  · rw [hjournal, hlocked]
    intro hmem
    refine h.latched ?_
    simpa using hmem

/-- A challenge is settled: none is open. -/
theorem Tracked.settle (h : Tracked s) {how : Settlement} {enabled expired : Bool}
    {after : List SsoMark} (hafter : ∀ mark ∈ after, mark = .sessionCreated)
    (hjournal : s'.journal = s.journal ++ .settled (issued s) how enabled expired :: after)
    (hchallenge : s'.state.challenge_id = none) (hlocked : s'.state.locked = s.state.locked) :
    Tracked s' := by
  have hnone : ¬ (truthy s'.state.challenge_id).isSome = true := by
    rw [hchallenge]
    exact fun h => nomatch h
  have hcount : after.count .challenged = 0 := by
    rw [List.count_eq_zero]
    intro hmem
    cases hafter _ hmem
  have hissued : issued s' = issued s := by
    rw [issued, hjournal, List.count_append, List.count_cons_of_ne (by simp), hcount]
    rfl
  have hnumbers : (SsoMark.settled (issued s) how enabled expired :: after).filterMap
      settledNumber = [issued s] := by
    have hafter : after.filterMap settledNumber = [] := by
      rw [List.filterMap_eq_nil_iff]
      intro mark hmark
      rw [hafter mark hmark]
      rfl
    show issued s :: after.filterMap settledNumber = [issued s]
    rw [hafter]
  refine ⟨?_, fun hopen => absurd hopen hnone, fun hopen => absurd hopen hnone, ?_⟩
  · rw [hissued, hjournal, List.filterMap_append]
    intro n hn
    rcases List.mem_append.mp hn with hn | hn
    · exact h.numbered n hn
    · rw [hnumbers] at hn
      exact (List.mem_singleton.mp hn).le
  · rw [hjournal, hlocked]
    intro hmem
    refine h.latched ?_
    rcases List.mem_append.mp hmem with hmem | hmem
    · exact hmem
    · rcases List.mem_cons.mp hmem with hmem | hmem
      · cases hmem
      · cases hafter _ hmem

theorem tracked_empty (hjournal : s.journal = []) (hchallenge : s.state.challenge_id = none) :
    Tracked s := by
  constructor
  · rw [hjournal]
    exact fun n hn => absurd hn List.not_mem_nil
  · rw [hchallenge]
    exact fun h => nomatch h
  · rw [hchallenge]
    exact fun h => nomatch h
  · rw [hjournal]
    exact fun h => absurd h List.not_mem_nil

end Tracked

/-! ## What a move keeps -/

section Moves

variable {env} {s s' : SsoExperience W} {op : Operation}

theorem dropSession_state (s : SsoExperience W) : (dropSession s).state = s.state := rfl

theorem setIdentity_journal (f : Identity → Identity) (s : SsoExperience W) :
    (env.setIdentity f s).journal = s.journal := by
  unfold setIdentity
  split <;> rfl

theorem setMfa_journal (f : MfaRecord → MfaRecord) (s : SsoExperience W) :
    (env.setMfa f s).journal = s.journal := by
  unfold setMfa
  split <;> rfl

theorem setIdentity_sessions (f : Identity → Identity) (s : SsoExperience W) :
    (env.setIdentity f s).identity.sessions = s.identity.sessions := by
  unfold setIdentity
  split <;> rfl

theorem setMfa_sessions (f : MfaRecord → MfaRecord) (s : SsoExperience W) :
    (env.setMfa f s).identity.sessions = s.identity.sessions := by
  unfold setMfa
  split <;> rfl

/-- What settles a challenge of an enabled identity changes. -/
structure Settles (how : Settlement) (expired : Bool) (s s' : SsoExperience W) : Prop where
  journal : s'.journal = s.journal ++ [.settled (issued s) how true expired]
  challenge_id : s'.state.challenge_id = none
  locked : s'.state.locked = s.state.locked
  view : s'.state.view ≠ .locked
  reviewed : s'.state.sessions_reviewed = s.state.sessions_reviewed
  sessions : s'.identity.sessions = s.identity.sessions

variable (env) in
theorem settles_expire (s : SsoExperience W) : Settles .expired true s (env.expire s) := by
  refine ⟨?_, rfl, ?_, SsoView.noConfusion, ?_, setMfa_sessions _ s⟩
  · exact congrArg (· ++ [SsoMark.settled (issued s) .expired true true]) (setMfa_journal _ s)
  · show (env.setMfa _ s).state.locked = s.state.locked
    rw [setMfa_state]
  · show (env.setMfa _ s).state.sessions_reviewed = s.state.sessions_reviewed
    rw [setMfa_state]

variable (env) in
theorem settles_approve (s : SsoExperience W) : Settles .approved false s (env.approve s) := by
  refine ⟨?_, rfl, ?_, SsoView.noConfusion, ?_, setMfa_sessions _ s⟩
  · exact congrArg (· ++ [SsoMark.settled (issued s) .approved true false]) (setMfa_journal _ s)
  · show (env.setMfa _ s).state.locked = s.state.locked
    rw [setMfa_state]
  · show (env.setMfa _ s).state.sessions_reviewed = s.state.sessions_reviewed
    rw [setMfa_state]

variable (env) in
theorem settles_deny (s : SsoExperience W) : Settles .denied false s (env.deny s) := by
  refine ⟨?_, rfl, ?_, SsoView.noConfusion, ?_, setMfa_sessions _ s⟩
  · exact congrArg (· ++ [SsoMark.settled (issued s) .denied true false]) (setMfa_journal _ s)
  · show (env.setMfa _ s).state.locked = s.state.locked
    rw [setMfa_state]
  · show (env.setMfa _ s).state.sessions_reviewed = s.state.sessions_reviewed
    rw [setMfa_state]

variable (env) in
/-- The journal of an approval with its session. -/
theorem journal_createSession {how : Settlement} {expired : Bool} (h : Settles how expired s s') :
    (env.createSession s').journal =
      s.journal ++ [.settled (issued s) how true expired, .sessionCreated] := by
  show s'.journal ++ [.sessionCreated] = _
  rw [h.journal, List.append_assoc]
  rfl

theorem tracked_of_moves (hmoves : env.Moves s op s') (h : Tracked s) : Tracked s' := by
  have hnil : ∀ mark ∈ ([] : List SsoMark), mark = .sessionCreated :=
    fun _ hmem => absurd hmem List.not_mem_nil
  cases hmoves with
  | stay _ => exact h
  | refuse => exact h.lock rfl rfl rfl rfl
  | display view message _ => exact h.same rfl rfl rfl rfl
  | fail hfree => exact h.same rfl rfl rfl hfree.symm
  | lockOut =>
      refine h.lock ?_ ?_ ?_ ?_
      · rw [lockOut, setIdentity_journal]
        rfl
      all_goals
        rw [lockOut, setIdentity_state]
        rfl
  | challenge id now _ hout => exact h.challenge rfl hout rfl
  | cancel expired _ _ => exact h.settle hnil rfl rfl rfl
  | expire _ _ =>
      have hs := env.settles_expire s
      exact h.settle hnil hs.journal hs.challenge_id hs.locked
  | approve _ _ =>
      have hs := env.settles_approve s
      exact h.settle (fun _ hmem => List.mem_singleton.mp hmem) (env.journal_createSession hs)
        hs.challenge_id hs.locked
  | deny _ _ =>
      have hs := env.settles_deny s
      exact h.settle hnil hs.journal hs.challenge_id hs.locked
  | review _ => exact h.same rfl rfl rfl rfl
  | drop => exact h.same rfl rfl rfl rfl
  | restart => exact tracked_empty rfl rfl
  | set_enabled enabled =>
      refine h.same ?_ ?_ ?_ ?_
      · exact setIdentity_journal _ _
      all_goals rw [setIdentity_state]

/-- The journal grows by marks that let nobody in and settle nothing. -/
theorem Sound.quiet (h : Sound s) {marks : List SsoMark}
    (hmarks : ∀ mark ∈ marks, ¬ Admits mark ∧ settledNumber mark = none)
    (hjournal : s'.journal = s.journal ++ marks)
    (hsessions : (s'.identity.sessions.lookup generatedSessionId).isSome = true →
      (s.identity.sessions.lookup generatedSessionId).isSome = true)
    (hreviewed : s'.state.sessions_reviewed = true → s'.state.signed_in = true)
    (hview : s'.state.locked = true → s'.state.view = .locked) : Sound s' := by
  refine ⟨?_, ?_, hreviewed, hview, ?_⟩
  · intro hsession
    obtain ⟨n, hn⟩ := h.session (hsessions hsession)
    rw [hjournal]
    exact ⟨n, List.mem_append_left marks hn⟩
  · have hnone : marks.filterMap settledNumber = [] := by
      rw [List.filterMap_eq_nil_iff]
      exact fun mark hmark => (hmarks mark hmark).2
    rw [hjournal, List.filterMap_append, hnone, List.append_nil]
    exact h.once
  · rw [hjournal, preceded_append]
    exact ⟨h.closed, Preceded.of_forall fun mark hmark _ hadmits =>
      absurd hadmits (hmarks mark hmark).1⟩

/-- A settlement has a new number. -/
theorem once_settled (h : Sound s) (ht : Tracked s)
    (hopen : (truthy s.state.challenge_id).isSome = true) :
    (s.journal.filterMap settledNumber ++ [issued s]).Nodup :=
  List.nodup_append.mpr ⟨h.once, List.nodup_singleton _, fun n hn m hm hnm => by
    rw [List.mem_singleton.mp hm] at hnm
    exact ht.fresh hopen (hnm ▸ hn)⟩

theorem isSome_of_decides {challenge_id decision : Json} {approves : Bool}
    (h : Decides challenge_id decision approves s) :
    (truthy s.state.challenge_id).isSome = true := by
  obtain ⟨id, -, -, hid⟩ := h
  rw [hid]
  rfl

/-- A challenge is settled without an approval. -/
theorem Sound.settled (h : Sound s) (ht : Tracked s)
    (hopen : (truthy s.state.challenge_id).isSome = true) {how : Settlement} {enabled expired : Bool}
    (hhow : how ≠ .approved)
    (hjournal : s'.journal = s.journal ++ [.settled (issued s) how enabled expired])
    (hsessions : s'.identity.sessions = s.identity.sessions)
    (hreviewed : s'.state.sessions_reviewed = s.state.sessions_reviewed)
    (hview : s'.state.locked = true → s'.state.view = .locked) : Sound s' := by
  refine ⟨?_, ?_, ?_, hview, ?_⟩
  · rw [hsessions, hjournal]
    intro hsession
    obtain ⟨n, hn⟩ := h.session hsession
    exact ⟨n, List.mem_append_left _ hn⟩
  · rw [hjournal, List.filterMap_append]
    exact once_settled h ht hopen
  · -- An open challenge excludes a sign-in, and so a review.
    rw [hreviewed]
    intro hr
    have hin := h.reviewed hr
    rw [ht.exclusive hopen] at hin
    cases hin
  · rw [hjournal, preceded_append]
    refine ⟨h.closed, Preceded.of_forall fun mark hmark _ hadmits => ?_⟩
    rw [List.mem_singleton.mp hmark] at hadmits
    cases how with
    | approved => exact absurd rfl hhow
    | _ => exact hadmits.elim

/-- A challenge is approved while the workflow is not locked. -/
theorem Sound.approved (h : Sound s) (ht : Tracked s)
    (hopen : (truthy s.state.challenge_id).isSome = true) (hfree : s.state.locked = false)
    (hs : Settles .approved false s s') (hin : s'.state.signed_in = true) :
    Sound (env.createSession s') := by
  have hjournal := env.journal_createSession hs
  have hunlocked : .lockedOut ∉ s.journal := fun hmem => by
    rw [ht.latched hmem] at hfree
    cases hfree
  refine ⟨?_, ?_, fun _ => hin, ?_, ?_⟩
  · rw [hjournal]
    exact fun _ => ⟨issued s, List.mem_append_right _ List.mem_cons_self⟩
  · rw [hjournal, List.filterMap_append]
    exact once_settled h ht hopen
  · intro hlocked
    have hkept : s'.state.locked = false := hs.locked.trans hfree
    rw [show (env.createSession s').state.locked = s'.state.locked from rfl, hkept] at hlocked
    cases hlocked
  · rw [hjournal, preceded_append, preceded_cons, preceded_cons]
    refine ⟨h.closed, fun _ => by rwa [List.append_nil], fun _ hmem => ?_, Preceded.nil⟩
    rcases List.mem_append.mp hmem with hmem | hmem
    · exact hunlocked hmem
    · cases List.mem_singleton.mp hmem

theorem lookup_dropSession (s : SsoExperience W) :
    (dropSession s).identity.sessions.lookup generatedSessionId = none := by
  rw [List.lookup_eq_none_iff]
  intro entry hentry
  have hkey : entry.1 ≠ generatedSessionId := by
    simpa using (List.mem_filter.mp hentry).2
  exact bne_iff_ne.mpr (Ne.symm hkey)

/-- Where the lock is respected, what the workflow promises is kept. -/
theorem sound_of_moves (hmoves : env.Moves s op s') (h : Sound s) (ht : Tracked s)
    (hrespects : s.state.locked = true → ¬ env.Acts op s) : Sound s' := by
  have hnil : ∀ mark ∈ ([] : List SsoMark), ¬ Admits mark ∧ settledNumber mark = none :=
    fun _ hmem => absurd hmem List.not_mem_nil
  have hlock : ∀ mark ∈ [SsoMark.lockedOut], ¬ Admits mark ∧ settledNumber mark = none := by
    intro mark hmem
    rw [List.mem_singleton.mp hmem]
    exact ⟨not_false, rfl⟩
  -- The workflow acts, so it is not locked.
  have hfree : env.Acts op s → s.state.locked = false := fun hacts =>
    Bool.eq_false_iff.mpr fun hlocked => hrespects hlocked hacts
  have hunlocked : s.state.locked = false → ∀ view, s.state.locked = true → view = SsoView.locked := by
    intro hfalse view htrue
    rw [hfalse] at htrue
    cases htrue
  cases hmoves with
  | stay _ => exact h
  | refuse => exact h.quiet hlock rfl id h.reviewed fun _ => rfl
  | display view message hf =>
      exact h.quiet hnil (List.append_nil _).symm id h.reviewed (hunlocked hf view)
  | fail hf =>
      exact h.quiet hnil (List.append_nil _).symm id h.reviewed fun hlocked => by cases hlocked
  | lockOut =>
      refine h.quiet hlock ?_ ?_ ?_ ?_
      · rw [lockOut, setIdentity_journal]
        rfl
      · rw [lockOut, setIdentity_sessions]
        exact id
      · rw [lockOut, setIdentity_state]
        exact h.reviewed
      · rw [lockOut, setIdentity_state]
        exact fun _ => rfl
  | challenge id now hf _ =>
      have hmarks : ∀ mark ∈ [SsoMark.challenged], ¬ Admits mark ∧ settledNumber mark = none := by
        intro mark hmem
        rw [List.mem_singleton.mp hmem]
        exact ⟨not_false, rfl⟩
      exact h.quiet hmarks rfl (fun hsession => hsession) h.reviewed (hunlocked hf _)
  | cancel expired hdecides _ =>
      have hhow : Settlement.cancelled ≠ .approved := by decide
      exact h.settled ht (isSome_of_decides hdecides) hhow rfl rfl rfl fun _ => rfl
  | expire hdecides hready =>
      have hs := env.settles_expire s
      refine h.settled ht (isSome_of_decides hdecides) (by decide) hs.journal hs.sessions
        hs.reviewed ?_
      rw [hs.locked]
      exact hunlocked (hfree ⟨⟨_, hdecides⟩, hready⟩) _
  | approve hdecides hready =>
      exact h.approved ht (isSome_of_decides hdecides) (hfree ⟨⟨_, hdecides⟩, hready⟩)
        (env.settles_approve s) rfl
  | deny hdecides hready =>
      have hs := env.settles_deny s
      refine h.settled ht (isSome_of_decides hdecides) (by decide) hs.journal hs.sessions
        hs.reviewed ?_
      rw [hs.locked]
      exact hunlocked (hfree ⟨⟨_, hdecides⟩, hready⟩) _
  | review hin =>
      exact h.quiet hnil (List.append_nil _).symm id (fun _ => hin) (hunlocked (hfree hin) _)
  | drop =>
      refine h.quiet hnil (List.append_nil _).symm ?_ h.reviewed h.view
      rw [lookup_dropSession]
      exact fun hsome => by cases hsome
  | restart =>
      refine ⟨?_, List.nodup_nil, (fun hr => by cases hr), (fun hl => by cases hl), Preceded.nil⟩
      show ((env.setMfa _ (env.setIdentity _ (dropSession s))).identity.sessions.lookup
        generatedSessionId).isSome = true → _
      rw [setMfa_sessions, setIdentity_sessions, lookup_dropSession]
      exact fun hsome => by cases hsome
  | set_enabled enabled =>
      refine h.quiet hnil ?_ ?_ ?_ ?_
      · rw [setIdentity_journal, List.append_nil]
      · rw [setIdentity_sessions]
        exact id
      · rw [setIdentity_state]
        exact h.reviewed
      · rw [setIdentity_state]
        exact h.view

/-- An action of a locked workflow leaves the locked view. -/
theorem respects_of_moves (hmoves : env.Moves s op s') (h : Sound s') :
    s.state.locked = true → ¬ env.Acts op s := by
  intro hlocked hacts
  cases hmoves with
  | stay hidle => exact hidle hacts
  | cancel expired _ hdisabled =>
      obtain ⟨-, ⟨identity, hfound, henabled⟩, -⟩ := hacts
      obtain ⟨identity', hfound', hdisabled'⟩ := hdisabled
      obtain rfl : identity = identity' := Option.some.inj (hfound.symm.trans hfound')
      rw [henabled] at hdisabled'
      cases hdisabled'
  | expire _ _ =>
      have hs := env.settles_expire s
      exact hs.view (h.view (hs.locked.trans hlocked))
  | approve _ _ =>
      have hs := env.settles_approve s
      exact hs.view (h.view (hs.locked.trans hlocked))
  | deny _ _ =>
      have hs := env.settles_deny s
      exact hs.view (h.view (hs.locked.trans hlocked))
  | review _ => exact SsoView.noConfusion (h.view hlocked)
  | _ => exact hacts

end Moves

/-! ## Runs -/

/-- The operation respects the lock: it neither decides on a challenge nor reviews sessions while
the workflow is locked. -/
def Respects (op : Operation) (s : SsoExperience W) : Prop :=
  s.state.locked = true → ¬ env.Acts op s

theorem sound_inWorld {w : W} {s : SsoExperience W} : Sound (inWorld w s) ↔ Sound s :=
  ⟨fun h => ⟨h.session, h.once, h.reviewed, h.view, h.closed⟩,
    fun h => ⟨h.session, h.once, h.reviewed, h.view, h.closed⟩⟩

theorem Tracked.inWorld {s : SsoExperience W} (h : Tracked s) (w : W) : Tracked (inWorld w s) :=
  ⟨h.numbered, h.fresh, h.exclusive, h.latched⟩

/-- An audit sink that accepts everything. -/
def openSink : JsonObject → Unit → Except Exn Unit × Unit := fun _ w => (.ok (), w)

/-- A sign-in of the configured account. -/
def sampleSignIn : Operation := .sign_in (.str "sarah@simcorp.test") (.str "phrase")

/-- A challenge is issued, the account is disabled, a second sign-in locks the workflow, and the
account is enabled again before the challenge is approved. -/
def bypass : List Operation :=
  [sampleSignIn, .set_enabled false, sampleSignIn, .set_enabled true,
    .decide_mfa (.str "challenge-1") (.str "approve")]

end NetStrike.Dashboard.Sso
