import NetStrike.Orchestrator.Mfa

/-!
# Deliveries whose audit fails

`deliver` appends the new challenge to the history before its event is built and sent, and `_record`
completes the entry only after that. So a delivery whose own event is not persisted leaves an entry
without an outcome, and `deliver_atomic_iff` says that nothing else breaks the atomicity of a
delivery: neither the expiry of the challenge before, nor any other operation.
-/

set_option autoImplicit false

namespace NetStrike.Orchestrator.Mfa

open NetStrike.Foundation NetStrike.Shared NetStrike.Modules

variable {W : Type} (env : Mfa W)

/-! ## Audited events -/

/-- The event is built and the sink accepts it. -/
def Persists (call : EventCall) (t : EventBuilder × W) : Prop :=
  ∃ event u, EventBuilder.build env.formats env.sources call t = (.ok event, u) ∧
    (env.event_sink event u.2).1 = .ok ()

/-- An event that is not persisted raises. -/
theorem emit_of_not_persists {call : EventCall} {t : EventBuilder × W}
    (h : ¬ env.Persists call t) : ∃ e u, env.emit call t = (.error e, u) := by
  unfold emit
  cases hbuild : EventBuilder.build env.formats env.sources call t with
  | mk built u =>
      cases built with
      | error e => exact ⟨e, u, by rw [Raising.bind_of_error hbuild]⟩
      | ok event =>
          rw [Raising.bind_of_ok hbuild, Raising.step_bind_apply, Raising.ofExcept_bind_apply]
          cases hsink : (env.event_sink event u.2).1 with
          | ok _ => exact absurd ⟨event, u, hbuild, hsink⟩ h
          | error e => exact ⟨e, _, rfl⟩

/-- An event that is persisted is returned. -/
theorem emit_of_persists {call : EventCall} {t : EventBuilder × W} (h : env.Persists call t) :
    ∃ event u, env.emit call t = (.ok event, u) := by
  obtain ⟨event, u, hbuild, hsink⟩ := h
  refine ⟨event, (u.1, (env.event_sink event u.2).2), ?_⟩
  unfold emit
  rw [Raising.bind_of_ok hbuild, Raising.step_bind_apply, Raising.ofExcept_bind_apply]
  simp only [hsink]
  rfl

/-! ## What a recorded outcome changes -/

/-- The fields that an audit failure has to leave alone. -/
def observed (s : ScheduledMfa W) :
    List MfaChallenge × Option Nat × SyntheticIdentityState := (s.history, s.pending, s.identity)

/-- The event of an outcome. -/
def eventOf (challenge : MfaChallenge) (outcome : MfaOutcome) (reason : String)
    (actor : JsonObject) (occurred_at_seconds : Option Int) (s : ScheduledMfa W) : EventCall :=
  env.recordCall challenge outcome reason actor
    (occurred_at_seconds.getD (env.elapsed s.world))

variable {env} {index : Nat} {challenge : MfaChallenge} {outcome : MfaOutcome} {reason : String}
  {actor : JsonObject} {occurred_at_seconds : Option Int} {s : ScheduledMfa W}

/-- Without its event an outcome changes only the builder and the world. -/
theorem record_refused (index : Nat)
    (h : ¬ env.Persists (env.eventOf challenge outcome reason actor occurred_at_seconds s)
      (buildState s)) :
    ∃ e u, env.record index challenge outcome reason actor occurred_at_seconds s =
      (.error (.audit e), withBuildState u s) := by
  obtain ⟨e, u, hemit⟩ := env.emit_of_not_persists h
  rw [eventOf] at hemit
  refine ⟨e, u, ?_⟩
  unfold record
  rw [Raising.gets_bind_apply, Raising.bind_of_error]
  rw [Raising.mapError_apply, Raising.focus_apply, hemit]
  rfl

/-- With its event the outcome is written to the challenge, then to the identity state. -/
theorem record_persisted (index : Nat)
    (h : env.Persists (env.eventOf challenge outcome reason actor occurred_at_seconds s)
      (buildState s)) :
    ∃ evidence_id u, env.record index challenge outcome reason actor occurred_at_seconds s =
      env.updateRecord (fun record => { record with decision := outcome.decision })
        (env.settle index challenge ⟨outcome, reason, evidence_id⟩ (withBuildState u s)) := by
  obtain ⟨event, u, hemit⟩ := env.emit_of_persists h
  rw [eventOf] at hemit
  refine ⟨event.event_id, u, ?_⟩
  unfold record
  rw [Raising.gets_bind_apply]
  have hfirst : Raising.mapError MfaFault.audit (Raising.focus buildState withBuildState
      (env.emit (env.recordCall challenge outcome reason actor
        (occurred_at_seconds.getD (env.elapsed s.world))))) s =
      (.ok event, withBuildState u s) := by
    rw [Raising.mapError_apply, Raising.focus_apply, hemit]
    rfl
  rw [Raising.bind_of_ok hfirst, Raising.modify_bind_apply]

/-- The challenge record of the identity is changed, or there is none. -/
theorem updateRecord_apply (f : MfaRecord → MfaRecord) (s : ScheduledMfa W) :
    env.updateRecord f s =
      match s.identity.mfa.lookup env.config.identity_id with
      | none => (.error (.key env.config.identity_id), s)
      | some record => (.ok (), { s with identity := { s.identity with
          mfa := setEntry env.config.identity_id (f record) s.identity.mfa } }) := by
  unfold updateRecord
  rw [Raising.gets_bind_apply]
  cases s.identity.mfa.lookup env.config.identity_id <;> rfl

/-- No audit failure comes from the challenge record. -/
theorem updateRecord_not_audit {f : MfaRecord → MfaRecord} {t : ScheduledMfa W} {e : Exn} :
    env.updateRecord f s ≠ (.error (.audit e), t) := by
  rw [updateRecord_apply]
  split <;> exact fun h => nomatch h

/-- An audit failure of a recorded outcome means that its event was not persisted. -/
theorem record_audit {t : ScheduledMfa W} {e : Exn}
    (h : env.record index challenge outcome reason actor occurred_at_seconds s =
      (.error (.audit e), t)) :
    ¬ env.Persists (env.eventOf challenge outcome reason actor occurred_at_seconds s)
        (buildState s) ∧ observed t = observed s := by
  by_cases hpersists :
      env.Persists (env.eventOf challenge outcome reason actor occurred_at_seconds s) (buildState s)
  · obtain ⟨evidence_id, u, hrecord⟩ := record_persisted index hpersists
    rw [hrecord] at h
    exact absurd h updateRecord_not_audit
  · obtain ⟨e', u, hrecord⟩ := record_refused index hpersists
    rw [hrecord] at h
    cases h
    exact ⟨hpersists, rfl⟩

/-- A challenge record is found or not; the other fields stay. -/
theorem updateRecord_observes (f : MfaRecord → MfaRecord) (s : ScheduledMfa W) :
    (env.updateRecord f s).2.history = s.history ∧ (env.updateRecord f s).2.pending = s.pending := by
  rw [updateRecord_apply]
  split <;> exact ⟨rfl, rfl⟩

/-! ## The expiry step -/

variable (env)

/-- The end of the pending challenge. -/
def close (index : Nat) (challenge : MfaChallenge) (outcome : MfaOutcome) (reason : String)
    (actor : JsonObject) (occurred_at_seconds : Option Int) : Step W Unit := do
  env.record index challenge outcome reason actor occurred_at_seconds
  Raising.modify clear

/-- The reading of the containment. -/
theorem reasonNow_apply (s : ScheduledMfa W) :
    env.reasonNow s = (env.blockedReason s.identity.toIdentitySections, s) := by
  unfold reasonNow
  rw [Raising.gets_bind_apply, Raising.ofExcept_apply]

/-- The expiry step in every case. -/
theorem advance_apply (s : ScheduledMfa W) :
    env.advance s =
      match pendingEntry s with
      | none => (.ok (), s)
      | some (index, challenge) =>
          match env.blockedReason s.identity.toIdentitySections with
          | .error fault => (.error fault, s)
          | .ok (some reason) =>
              env.close index challenge .cancelled reason [] (some (env.elapsed s.world)) s
          | .ok none =>
              if challenge.expires_at_seconds ≤ env.elapsed s.world then
                env.close index challenge .expired "exercise_timeout" []
                  (some challenge.expires_at_seconds) s
              else (.ok (), s) := by
  unfold advance
  rw [Raising.gets_bind_apply]
  cases pendingEntry s with
  | none => rfl
  | some entry =>
      obtain ⟨index, challenge⟩ := entry
      dsimp only
      cases hblocked : env.blockedReason s.identity.toIdentitySections with
      | error fault => rw [Raising.bind_of_error (by rw [reasonNow_apply, hblocked])]
      | ok blocked =>
          rw [Raising.bind_of_ok (by rw [reasonNow_apply, hblocked]), Raising.gets_bind_apply]
          cases blocked with
          | some reason => rfl
          | none =>
              dsimp only
              split <;> rfl

/-- No identity lookup fails with an audit failure. -/
theorem blockedReason_not_audit {state : IdentitySections} {e : Exn} :
    env.blockedReason state ≠ .error (.audit e) := by
  unfold blockedReason
  intro h
  repeat' split at h
  all_goals cases h

variable {env}

/-- An audit failure at the end of a challenge changes nothing. -/
theorem close_audit {t : ScheduledMfa W} {e : Exn}
    (h : env.close index challenge outcome reason actor occurred_at_seconds s =
      (.error (.audit e), t)) : observed t = observed s := by
  rcases Raising.bind_eq_error h with h | ⟨_, _, _, h⟩
  · exact (record_audit h).2
  · cases h

/-- An audit failure of the expiry step changes nothing. -/
theorem advance_audit {t : ScheduledMfa W} {e : Exn} (h : env.advance s = (.error (.audit e), t)) :
    observed t = observed s := by
  rw [advance_apply] at h
  split at h
  · cases h
  · split at h
    next hfault =>
      cases h
      exact absurd hfault (blockedReason_not_audit env)
    · exact close_audit h
    · split at h
      · exact close_audit h
      · cases h

/-! ## Relations that the operations keep -/

/-- What the parts of the operations do is in the relation. -/
structure Frames (env : Mfa W) (R : ScheduledMfa W → ScheduledMfa W → Prop) : Prop where
  build : ∀ u s, R s (withBuildState u s)
  settle : ∀ index challenge settlement s, R s (env.settle index challenge settlement s)
  update : ∀ f s, R s (env.updateRecord f s).2
  clear : ∀ s, R s (Mfa.clear s)

section Frames

variable {R : ScheduledMfa W → ScheduledMfa W → Prop} [Std.Refl R] [IsTrans (ScheduledMfa W) R]

theorem Frames.record (h : Frames env R) (index : Nat) (challenge : MfaChallenge)
    (outcome : MfaOutcome) (reason : String) (actor : JsonObject)
    (occurred_at_seconds : Option Int) :
    (env.record index challenge outcome reason actor occurred_at_seconds).Keeps R :=
  (Raising.Keeps.gets _).bind fun _ =>
    (Raising.Keeps.mapError (fun s => h.build _ s) _).bind fun _ =>
      (Raising.Keeps.modify (h.settle index challenge _)).bind fun _ => h.update _

theorem Frames.reasonNow : env.reasonNow.Keeps R :=
  (Raising.Keeps.gets _).bind fun _ => Raising.Keeps.ofExcept _

theorem Frames.advance (h : Frames env R) : env.advance.Keeps R := by
  refine (Raising.Keeps.gets _).bind fun found => ?_
  cases found with
  | none => exact Raising.Keeps.pure _
  | some entry =>
      refine Frames.reasonNow.bind fun blocked => (Raising.Keeps.gets _).bind fun elapsed => ?_
      cases blocked with
      | some reason =>
          exact (h.record _ _ _ _ _ _).bind fun _ => Raising.Keeps.modify h.clear
      | none =>
          dsimp only
          split
          · exact (h.record _ _ _ _ _ _).bind fun _ => Raising.Keeps.modify h.clear
          · exact Raising.Keeps.pure _

theorem Frames.decide (h : Frames env R) (challenge_id decision : Json) (actor : JsonObject) :
    (env.decide challenge_id decision actor).Keeps R := by
  refine (Raising.Keeps.ofExcept _).bind fun _ => (Raising.Keeps.require _ _).bind fun _ => ?_
  split
  · refine h.advance.bind fun _ => (Raising.Keeps.gets _).bind fun found => ?_
    cases found with
    | none => exact Raising.Keeps.raise _
    | some entry =>
        dsimp only
        split
        · exact Raising.Keeps.raise _
        · exact (h.record _ _ _ _ _ _).bind fun _ => Raising.Keeps.modify h.clear
  · exact Raising.Keeps.raise _

theorem Frames.stop (h : Frames env R) : env.stop.Keeps R := by
  refine (Raising.Keeps.gets _).bind fun found => ?_
  cases found with
  | none => exact Raising.Keeps.pure _
  | some entry => exact Raising.Keeps.ensure (h.record _ _ _ _ _ _) h.clear

theorem Frames.deliver (h : Frames env R) (happend : ∀ challenge s, R s (append challenge s))
    (hpublish : ∀ index s, R s (publish index s)) (item : ScenarioItem) (run_id : String) :
    (env.deliver item run_id).Keeps R := by
  refine (Raising.Keeps.gets _).bind fun state => ?_
  split
  · exact Raising.Keeps.pure _
  · refine h.advance.bind fun _ => (Raising.Keeps.gets _).bind fun pending => ?_
    split
    · exact Raising.Keeps.pure _
    · refine (Raising.Keeps.gets _).bind fun challenge => (Raising.Keeps.gets _).bind fun index =>
        (Raising.Keeps.modify (happend challenge)).bind fun _ =>
          Frames.reasonNow.bind fun blocked => ?_
      cases blocked with
      | some reason => exact (h.record _ _ _ _ _ _).bind fun _ => Raising.Keeps.pure _
      | none =>
          exact (h.record _ _ _ _ _ _).bind fun _ => Raising.Keeps.bind (h.update _) fun _ =>
            (Raising.Keeps.modify (hpublish index)).bind fun _ => Raising.Keeps.pure _

end Frames

/-- Every entry of the history has an outcome, a reason and an evidence id. -/
def Complete (s : ScheduledMfa W) : Prop :=
  ∀ challenge ∈ s.history, challenge.settlement.isSome = true

theorem frames_length (env : Mfa W) :
    Frames env (Raising.Same fun s : ScheduledMfa W => s.history.length) where
  build := fun _ _ => rfl
  settle := fun _ _ _ _ => List.length_set
  update := fun f s => congrArg List.length (updateRecord_observes f s).1
  clear := fun _ => rfl

theorem frames_complete (env : Mfa W) :
    Frames env (Raising.Onward (Complete (W := W))) where
  build := fun _ _ h => h
  settle := by
    intro index challenge settlement s h entry hentry
    rcases List.mem_or_eq_of_mem_set hentry with hold | rfl
    · exact h entry hold
    · rfl
  update := by
    intro f s h
    rw [Complete, (updateRecord_observes f s).1]
    exact h
  clear := fun _ h => h

/-! ## Delivery -/

variable (env)

/-- The delivery in every case. -/
theorem deliver_apply (item : ScenarioItem) (run_id : String) (s : ScheduledMfa W) :
    env.deliver item run_id s =
      if run_id ≠ env.run_id ∨ env.run_state s.world ≠ "running" then
        (.ok ⟨false, "MFA delivery requires the current running exercise", []⟩, s)
      else
        match env.advance s with
        | (.error fault, t) => (.error fault, t)
        | (.ok _, t) =>
            if t.pending.isSome = true then
              (.ok ⟨false, "A synthetic challenge is already pending", []⟩, t)
            else env.issue t.history.length (env.newChallenge item (env.elapsed t.world))
              (append (env.newChallenge item (env.elapsed t.world)) t) := by
  unfold deliver
  rw [Raising.gets_bind_apply]
  split
  · rfl
  · cases hadvance : env.advance s with
    | mk r t =>
        cases r with
        | error fault => rw [Raising.bind_of_error hadvance]
        | ok _ =>
            rw [Raising.bind_of_ok hadvance, Raising.gets_bind_apply]
            dsimp only
            split
            · rfl
            · rw [Raising.gets_bind_apply, Raising.gets_bind_apply, Raising.modify_bind_apply]

/-- The outcome of a new challenge. -/
def newOutcome (blocked : Option String) : MfaOutcome :=
  if blocked.isSome = true then .blocked else .delivered

/-- The event of the new challenge of an item. -/
def newEvent (item : ScenarioItem) (blocked : Option String) (t : ScheduledMfa W) : EventCall :=
  env.eventOf (env.newChallenge item (env.elapsed t.world)) (newOutcome blocked)
    (blocked.getD "awaiting_human_decision") [] none t

/-- Whenever the delivery gets past the expiry step, the event of its new challenge is built and
the sink accepts it. -/
def Audited (item : ScenarioItem) (run_id : String) (s : ScheduledMfa W) : Prop :=
  run_id = env.run_id → env.run_state s.world = "running" →
    ∀ t, env.advance s = (.ok (), t) → t.pending = none →
      ∀ blocked, env.blockedReason t.identity.toIdentitySections = .ok blocked →
        env.Persists (env.newEvent item blocked t) (buildState t)

/-- A delivery is atomic: where it raises an audit failure, the state is the one before, or the one
after the expiry step, which closed a challenge. -/
def Atomic (item : ScenarioItem) (run_id : String) (s : ScheduledMfa W) : Prop :=
  ∀ e t, env.deliver item run_id s = (.error (.audit e), t) →
    observed t = observed s ∨
      ∃ u, env.advance s = (.ok (), u) ∧ s.pending ≠ none ∧ u.pending = none ∧
        observed t = observed u

variable {env}

/-- A new challenge of which the identity state knows nothing. -/
theorem issue_of_error {challenge : MfaChallenge} {fault : MfaFault}
    (h : env.blockedReason s.identity.toIdentitySections = .error fault) :
    env.issue index challenge s = (.error fault, s) := by
  unfold issue
  rw [Raising.bind_of_error (by rw [reasonNow_apply, h])]

/-- A new challenge whose event is not persisted. -/
theorem issue_refused (index : Nat) {challenge : MfaChallenge} {blocked : Option String}
    (hblocked : env.blockedReason s.identity.toIdentitySections = .ok blocked)
    (h : ¬ env.Persists (env.eventOf challenge (newOutcome blocked)
      (blocked.getD "awaiting_human_decision") [] none s) (buildState s)) :
    ∃ e u, env.issue index challenge s = (.error (.audit e), withBuildState u s) := by
  obtain ⟨e, u, hrecord⟩ := record_refused index h
  refine ⟨e, u, ?_⟩
  unfold issue
  rw [Raising.bind_of_ok (by rw [reasonNow_apply, hblocked])]
  cases blocked with
  | some reason => exact Raising.bind_of_error hrecord
  | none => exact Raising.bind_of_error hrecord

/-- A computation without audit failures that leaves the history alone. -/
def Quiet {α : Type} (m : Step W α) : Prop :=
  ∀ s, (∀ e t, m s ≠ (.error (.audit e), t)) ∧ (m s).2.history = s.history

theorem quiet_modify {f : ScheduledMfa W → ScheduledMfa W} (h : ∀ s, (f s).history = s.history) :
    Quiet (Raising.modify f : Step W Unit) :=
  fun s => ⟨fun _ _ heq => (nomatch heq), h s⟩

theorem quiet_pure {α : Type} (a : α) : Quiet (pure a : Step W α) :=
  fun _ => ⟨fun _ _ heq => (nomatch heq), rfl⟩

variable (env) in
theorem quiet_updateRecord (f : MfaRecord → MfaRecord) : Quiet (env.updateRecord f) :=
  fun s => ⟨fun _ _ => updateRecord_not_audit, (updateRecord_observes f s).1⟩

theorem Quiet.bind {α β : Type} {m : Step W α} {k : α → Step W β} (hm : Quiet m)
    (hk : ∀ a, Quiet (k a)) : Quiet (m >>= k) := by
  intro s
  obtain ⟨haudit, hhistory⟩ := hm s
  cases h : m s with
  | mk r t =>
      rw [h] at hhistory
      cases r with
      | ok a =>
          rw [Raising.bind_of_ok h]
          exact ⟨(hk a t).1, (hk a t).2.trans hhistory⟩
      | error fault =>
          rw [Raising.bind_of_error h]
          refine ⟨fun e u heq => ?_, hhistory⟩
          cases heq
          exact haudit e t h

/-- The entry of a new challenge whose event is persisted. -/
def audited (challenge : MfaChallenge) (blocked : Option String) (evidence_id : String) :
    MfaChallenge :=
  { challenge with
    settlement :=
      some ⟨newOutcome blocked, blocked.getD "awaiting_human_decision", evidence_id⟩ }

/-- A new challenge whose event is persisted: no audit failure, and the entry is complete. -/
theorem issue_persisted (index : Nat) {challenge : MfaChallenge} {blocked : Option String}
    (hblocked : env.blockedReason s.identity.toIdentitySections = .ok blocked)
    (h : env.Persists (env.eventOf challenge (newOutcome blocked)
      (blocked.getD "awaiting_human_decision") [] none s) (buildState s)) :
    (∀ e t, env.issue index challenge s ≠ (.error (.audit e), t)) ∧
      ∃ evidence_id, (env.issue index challenge s).2.history =
        s.history.set index (audited challenge blocked evidence_id) := by
  obtain ⟨evidence_id, u, hrecord⟩ := record_persisted index h
  have hrest : ∃ k : Unit → Step W AutomationResult, (∀ a, Quiet (k a)) ∧
      env.issue index challenge s = (env.updateRecord
          (fun record => { record with decision := (newOutcome blocked).decision }) >>= k)
        (env.settle index challenge
          ⟨newOutcome blocked, blocked.getD "awaiting_human_decision", evidence_id⟩
          (withBuildState u s)) := by
    unfold issue
    rw [Raising.bind_of_ok (by rw [reasonNow_apply, hblocked])]
    cases blocked with
    | some reason =>
        refine ⟨fun _ => pure (processed challenge .blocked), fun _ => quiet_pure _, ?_⟩
        rw [Raising.bind_apply, ← hrecord]
        rfl
    | none =>
        refine ⟨fun _ => do
            env.updateRecord fun record => { record with push_count := record.push_count + 1 }
            Raising.modify (publish index)
            return processed challenge .delivered,
          fun _ => (env.quiet_updateRecord _).bind fun _ =>
            (quiet_modify (f := publish index) fun _ => rfl).bind fun _ =>
              quiet_pure _, ?_⟩
        rw [Raising.bind_apply, ← hrecord]
        rfl
  obtain ⟨k, hk, hissue⟩ := hrest
  have hquiet := (env.quiet_updateRecord
    fun record => { record with decision := (newOutcome blocked).decision }).bind hk
  rw [hissue]
  exact ⟨(hquiet _).1, evidence_id, (hquiet _).2⟩

/-- A delivery that is not audited fails with the new entry left in the history. -/
theorem deliver_of_not_audited {item : ScenarioItem} {run_id : String} {s : ScheduledMfa W}
    (h : ¬ env.Audited item run_id s) :
    ∃ t e u, env.advance s = (.ok (), t) ∧ env.deliver item run_id s = (.error (.audit e),
      withBuildState u (append (env.newChallenge item (env.elapsed t.world)) t)) := by
  simp only [Audited, not_forall] at h
  obtain ⟨hrun, hstate, t, hadvance, hpending, blocked, hblocked, hrefused⟩ := h
  have hreason : env.blockedReason
      (append (env.newChallenge item (env.elapsed t.world)) t).identity.toIdentitySections =
        .ok blocked := hblocked
  obtain ⟨e, u, hissue⟩ := issue_refused t.history.length hreason hrefused
  refine ⟨t, e, u, hadvance, ?_⟩
  rw [deliver_apply, if_neg (by simp [hrun, hstate]), hadvance]
  dsimp only
  rw [if_neg (by simp [hpending]), hissue]

variable (env) in
/-- A delivery ends without a new entry, or with a new challenge after the expiry step. -/
theorem deliver_cases (item : ScenarioItem) (run_id : String) (s : ScheduledMfa W) :
    (∃ result, env.deliver item run_id s = (.ok result, s)) ∨
      (∃ fault, env.advance s = (.error fault, (env.advance s).2) ∧
        env.deliver item run_id s = (.error fault, (env.advance s).2)) ∨
      (∃ result, env.deliver item run_id s = (.ok result, (env.advance s).2)) ∨
      ∃ t, run_id = env.run_id ∧ env.run_state s.world = "running" ∧
        env.advance s = (.ok (), t) ∧ t.pending = none ∧
        env.deliver item run_id s =
          env.issue t.history.length (env.newChallenge item (env.elapsed t.world))
            (append (env.newChallenge item (env.elapsed t.world)) t) := by
  rw [deliver_apply]
  split
  · exact Or.inl ⟨_, rfl⟩
  next hrun =>
    simp only [not_or, ne_eq, not_not] at hrun
    cases hadvance : env.advance s with
    | mk r t =>
        cases r with
        | error fault => exact Or.inr (Or.inl ⟨fault, rfl, rfl⟩)
        | ok _ =>
            dsimp only
            split
            · exact Or.inr (Or.inr (Or.inl ⟨_, rfl⟩))
            next hpending =>
              exact Or.inr (Or.inr (Or.inr
                ⟨t, hrun.1, hrun.2, rfl, by simpa using hpending, rfl⟩))

/-- A delivery is atomic exactly when the event of its new challenge is persisted. -/
theorem atomic_iff (item : ScenarioItem) (run_id : String) (s : ScheduledMfa W) :
    env.Atomic item run_id s ↔ env.Audited item run_id s := by
  constructor
  · intro hatomic
    by_contra haudited
    -- The refused event leaves the history one entry longer than before the call.
    obtain ⟨t, e, u, hadvance, hdeliver⟩ := deliver_of_not_audited haudited
    have hlength : t.history.length = s.history.length := by
      have := (frames_length env).advance s
      rwa [hadvance] at this
    rcases hatomic e _ hdeliver with h | ⟨t', hadvance', -, -, h⟩
    · have hhistory := congrArg (fun o => o.1.length) h
      simp [observed, withBuildState, append] at hhistory
      omega
    · rw [hadvance] at hadvance'
      cases hadvance'
      have hhistory := congrArg (fun o => o.1.length) h
      simp [observed, withBuildState, append] at hhistory
  · intro haudited e t hdeliver
    rcases env.deliver_cases item run_id s with ⟨_, h⟩ | ⟨fault, hadvance, h⟩ | ⟨_, h⟩ |
      ⟨u, hrun, hstate, hadvance, hpending, h⟩
    · rw [h] at hdeliver
      cases hdeliver
    · rw [h] at hdeliver
      cases hdeliver
      exact Or.inl (advance_audit hadvance)
    · rw [h] at hdeliver
      cases hdeliver
    · rw [h] at hdeliver
      cases hblocked : env.blockedReason u.identity.toIdentitySections with
      | error fault =>
          rw [issue_of_error (s := append _ u) hblocked] at hdeliver
          cases hdeliver
          exact absurd hblocked (blockedReason_not_audit env)
      | ok blocked =>
          have hpersists := haudited hrun hstate u hadvance hpending blocked hblocked
          exact absurd hdeliver ((issue_persisted _ (s := append _ u) hblocked hpersists).1 e t)

/-! ## Runs -/

/-- The identity state has the entries of the configuration. -/
structure Referenced (env : Mfa W) (state : IdentitySections) : Prop where
  identity : (state.identities.lookup env.config.identity_id).isSome = true
  session : (state.sessions.lookup env.config.session_id).isSome = true
  factor : (state.factors.lookup env.config.factor_id).isSome = true
  mfa : (state.mfa.lookup env.config.identity_id).isSome = true

/-- With the entries of the configuration there is an answer whether containment is in force. -/
theorem Referenced.blockedReason {state : IdentitySections} (h : env.Referenced state) :
    ∃ blocked, env.blockedReason state = .ok blocked := by
  obtain ⟨identity, hidentity⟩ := Option.isSome_iff_exists.mp h.identity
  obtain ⟨session, hsession⟩ := Option.isSome_iff_exists.mp h.session
  obtain ⟨factor, hfactor⟩ := Option.isSome_iff_exists.mp h.factor
  unfold Mfa.blockedReason
  rw [hidentity, hsession, hfactor]
  dsimp only
  split
  · exact ⟨_, rfl⟩
  · split
    · exact ⟨_, rfl⟩
    · split
      · exact ⟨_, rfl⟩
      · split
        · exact ⟨_, rfl⟩
        · exact ⟨_, rfl⟩

/-- What another component makes of the identity state: the entries of the configuration stay. -/
structure Change (env : Mfa W) where
  apply : SyntheticIdentityState → SyntheticIdentityState
  keeps : ∀ state, env.Referenced state.toIdentitySections →
    env.Referenced (apply state).toIdentitySections

/-- The calls of a `ScheduledMfa`, and what other components make of the world and of the identity
state between them. -/
inductive Operation (env : Mfa W) where
  | advance
  | deliver (item : ScenarioItem) (run_id : String)
  | decide (challenge_id decision : Json) (actor : JsonObject)
  | stop
  | world (f : W → W)
  | identity (change : env.Change)

/-- The state after an operation, whether it returned or raised. -/
def perform : env.Operation → ScheduledMfa W → ScheduledMfa W
  | .advance, s => (env.advance s).2
  | .deliver item run_id, s => (env.deliver item run_id s).2
  | .decide challenge_id decision actor, s => (env.decide challenge_id decision actor s).2
  | .stop, s => (env.stop s).2
  | .world f, s => { s with world := f s.world }
  | .identity change, s => { s with identity := change.apply s.identity }

/-- The operation is no delivery, or one whose new challenge is audited. -/
def OperationAudited : env.Operation → ScheduledMfa W → Prop
  | .deliver item run_id, s => env.Audited item run_id s
  | _, _ => True

theorem frames_referenced (env : Mfa W) :
    Frames env (Raising.Onward fun s : ScheduledMfa W =>
      env.Referenced s.identity.toIdentitySections) where
  build := fun _ _ h => h
  settle := fun _ _ _ _ h => h
  update := by
    intro f s h
    rw [updateRecord_apply]
    split
    · exact h
    · refine ⟨h.identity, h.session, h.factor, ?_⟩
      dsimp only
      rw [lookup_setEntry]
      simp
  clear := fun _ h => h

theorem referenced_perform (op : env.Operation) (s : ScheduledMfa W)
    (h : env.Referenced s.identity.toIdentitySections) :
    env.Referenced (env.perform op s).identity.toIdentitySections := by
  have hframes := frames_referenced env
  cases op with
  | advance => exact hframes.advance s h
  | deliver item run_id => exact hframes.deliver (fun _ _ h => h) (fun _ _ h => h) item run_id s h
  | decide challenge_id decision actor => exact hframes.decide challenge_id decision actor s h
  | stop => exact hframes.stop s h
  | world f => exact h
  | identity change => exact change.keeps s.identity h

/-- An operation leaves a complete history complete exactly when it is audited. -/
theorem complete_perform_iff (op : env.Operation) (s : ScheduledMfa W)
    (h : env.Referenced s.identity.toIdentitySections) (hcomplete : Complete s) :
    Complete (env.perform op s) ↔ env.OperationAudited op s := by
  have hframes := frames_complete env
  cases op with
  | advance => exact iff_of_true (hframes.advance s hcomplete) trivial
  | decide challenge_id decision actor =>
      exact iff_of_true (hframes.decide challenge_id decision actor s hcomplete) trivial
  | stop => exact iff_of_true (hframes.stop s hcomplete) trivial
  | world f => exact iff_of_true hcomplete trivial
  | identity change => exact iff_of_true hcomplete trivial
  | deliver item run_id =>
      have hadvanced : Complete (env.advance s).2 := hframes.advance s hcomplete
      constructor
      · intro hafter
        by_contra haudited
        obtain ⟨t, e, u, -, hdeliver⟩ := deliver_of_not_audited haudited
        rw [perform, hdeliver] at hafter
        exact absurd (hafter (env.newChallenge item (env.elapsed t.world))
          (List.mem_append_right _ List.mem_cons_self)) (by simp [newChallenge])
      · intro haudited
        change Complete (env.deliver item run_id s).2
        rcases env.deliver_cases item run_id s with ⟨_, h⟩ | ⟨_, _, h⟩ | ⟨_, h⟩ |
          ⟨t, hrun, hstate, hadvance, hpending, hdeliver⟩
        · rw [h]
          exact hcomplete
        · rw [h]
          exact hadvanced
        · rw [h]
          exact hadvanced
        · have hreferenced : env.Referenced t.identity.toIdentitySections := by
            have := (frames_referenced env).advance s h
            rwa [hadvance] at this
          rw [hadvance] at hadvanced
          obtain ⟨blocked, hblocked⟩ := hreferenced.blockedReason
          have hpersists := haudited hrun hstate t hadvance hpending blocked hblocked
          have hreason : env.blockedReason
              (append (env.newChallenge item (env.elapsed t.world)) t).identity.toIdentitySections =
                .ok blocked := hblocked
          obtain ⟨evidence_id, hhistory⟩ :=
            (issue_persisted t.history.length hreason hpersists).2
          rw [hdeliver, Complete, hhistory]
          intro entry hentry
          simp only [append, List.set_append_right _ _ (Nat.le_refl _), Nat.sub_self,
            List.set_cons_zero, List.mem_append, List.mem_singleton] at hentry
          rcases hentry with hold | rfl
          · exact hadvanced entry hold
          · rfl

/-- A delivery is atomic under an audit failure, and a run keeps its history complete in every state,
exactly as long as the events of the new challenges are persisted. -/
theorem deliver_atomic_iff (s : ScheduledMfa W)
    (hreferenced : env.Referenced s.identity.toIdentitySections) (hcomplete : Complete s)
    (ops : List env.Operation) :
    (∀ item run_id t, env.Atomic item run_id t ↔ env.Audited item run_id t) ∧
      ((∀ t, Passes env.perform ops s t → Complete t) ↔
        EachMeets env.perform env.OperationAudited ops s) :=
  ⟨atomic_iff, passes_iff_eachMeets (fun op t h _ => referenced_perform op t h)
    (fun op t h hc => complete_perform_iff op t h hc) hreferenced hcomplete⟩

/-- The reviewed configuration. -/
def reviewed : MfaConfiguration :=
  ⟨"silent-spider-mfa-v1", "sarah", "sess-red-01", "factor-red-01", 30, by decide⟩

/-- A run that is always running, under a sink with the given answer. -/
def sample (answer : Except Exn Unit) : Mfa Unit where
  run_id := "run-1"
  config := reviewed
  credential_version := 1
  run_state := fun _ => "running"
  elapsed := fun _ => 0
  event_sink := fun _ w => (answer, w)
  sources := ⟨none, fun w => (⟨true, 0⟩, w), fun w => ("6f1c0e0a-0000-4000-8000-000000000001", w)⟩
  uuid5 := fun _ => "6f1c0e0a-0000-4000-8000-000000000003"
  formats := FormatChecker.lenient

/-- The start of the run. -/
def sampleStart (answer : Except Exn Unit) : ScheduledMfa Unit :=
  (sample answer).init "sample" (SyntheticIdentityState.baseline []) ()

/-- The item of a challenge. -/
def sampleChallenge : ScenarioItem :=
  sampleItem "MFA-1" .inject .automatic (.elapsed 0) 0 (by decide) inject_or_end

theorem deliver_atomic_iff_sample :
    (∀ item run_id t,
      (sample (.ok ())).Atomic item run_id t ↔ (sample (.ok ())).Audited item run_id t) ∧
      ((∀ t, Passes (sample (.ok ())).perform [.deliver sampleChallenge "run-1"]
          (sampleStart (.ok ())) t → Complete t) ↔
        EachMeets (sample (.ok ())).perform (sample (.ok ())).OperationAudited
          [.deliver sampleChallenge "run-1"] (sampleStart (.ok ()))) :=
  deliver_atomic_iff (sampleStart (.ok ())) ⟨by decide, by decide, by decide, by decide⟩
    (fun _ h => nomatch h) [.deliver sampleChallenge "run-1"]

/-- The sink is out of order when the first challenge is delivered: the delivery raises, and the
history keeps the challenge without an outcome. -/
theorem unaudited_challenge_remains :
    ∃ answer e t, (sample answer).deliver sampleChallenge "run-1" (sampleStart answer) =
        (.error (.audit e), t) ∧
      t.history = [⟨"mfa-6f1c0e0a-0000-4000-8000-000000000003", "MFA-1", 0, 30, none⟩] ∧
      ¬ Complete t ∧
      ¬ (sample answer).Atomic sampleChallenge "run-1" (sampleStart answer) := by
  have haudited : ¬ (sample (.error (.of .OSError "spool"))).Audited sampleChallenge "run-1"
      (sampleStart (.error (.of .OSError "spool"))) := by
    intro h
    obtain ⟨event, u, -, hsink⟩ := h rfl rfl _ rfl rfl none rfl
    cases hsink
  obtain ⟨t, e, u, hadvance, hdeliver⟩ := deliver_of_not_audited haudited
  cases hadvance
  refine ⟨_, e, _, hdeliver, rfl, ?_, fun h => haudited ((atomic_iff _ _ _).mp h)⟩
  intro hcomplete
  exact absurd (hcomplete _ List.mem_cons_self) (by decide)

end NetStrike.Orchestrator.Mfa
