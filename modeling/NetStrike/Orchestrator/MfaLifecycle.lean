import NetStrike.Orchestrator.MfaAtomicity

/-!
# The lifecycle of a challenge

The journal has a mark for each outcome whose event was built and accepted. Whatever the sink refuses,
the marks of one challenge are none, one for a blocked attempt, or one for the delivery and at most
one for its end (`challenges_have_one_lifecycle`). A delivery whose identity state lacks the entries of
the configuration would leave a closed challenge pending, so they have to be there (`Referenced`).
-/

set_option autoImplicit false

namespace NetStrike.Orchestrator.Mfa

open NetStrike.Foundation NetStrike.Shared NetStrike.Modules

variable {W : Type} {env : Mfa W}

/-! ## Outcomes of one challenge -/

/-- The audited outcomes of the challenge at a position. -/
def outcomes (index : Nat) (s : ScheduledMfa W) : List MfaOutcome :=
  (s.journal.filter fun mark => mark.index = index).map MfaMark.outcome

/-- The outcome ends a delivered challenge. -/
def IsEnd (outcome : MfaOutcome) : Prop := outcome ≠ .delivered ∧ outcome ≠ .blocked

/-- What may be audited of one challenge. -/
inductive Lifecycle : List MfaOutcome → Prop where
  | unaudited : Lifecycle []
  | blocked : Lifecycle [.blocked]
  | awaiting : Lifecycle [.delivered]
  | ended (outcome : MfaOutcome) (h : IsEnd outcome) : Lifecycle [.delivered, outcome]

/-- An approval is in time and not against containment. -/
def Timely (mark : MfaMark) : Prop :=
  mark.outcome = .approved → mark.contained = false ∧ mark.elapsed_seconds < mark.expires_at_seconds

/-- The history, the pending challenge and the journal agree. -/
structure Tracked (s : ScheduledMfa W) : Prop where
  lifecycle : ∀ index, Lifecycle (outcomes index s)
  settled : ∀ index challenge, s.history[index]? = some challenge →
    challenge.settlement.map MfaSettlement.outcome = (outcomes index s).getLast?
  fresh : ∀ index, s.history.length ≤ index → outcomes index s = []
  pending : ∀ index, s.pending = some index →
    index < s.history.length ∧ outcomes index s = [.delivered]
  timely : ∀ mark ∈ s.journal, Timely mark

/-- The history, the pending challenge and the journal are all that matters. -/
theorem Tracked.congr {s t : ScheduledMfa W} (h : Tracked s) (hhistory : t.history = s.history)
    (hpending : t.pending = s.pending) (hjournal : t.journal = s.journal) : Tracked t := by
  have houtcomes : ∀ index, outcomes index t = outcomes index s := by
    intro index
    rw [outcomes, hjournal]
    rfl
  refine ⟨fun index => ?_, fun index challenge hentry => ?_, fun index hle => ?_,
    fun index hopen => ?_, ?_⟩
  · rw [houtcomes]
    exact h.lifecycle index
  · rw [houtcomes]
    exact h.settled index challenge (hhistory ▸ hentry)
  · rw [houtcomes]
    exact h.fresh index (hhistory ▸ hle)
  · rw [houtcomes, hhistory]
    exact h.pending index (hpending ▸ hopen)
  · rw [hjournal]
    exact h.timely

/-- Nothing is pending any more. -/
theorem Tracked.clear {s : ScheduledMfa W} (h : Tracked s) : Tracked (Mfa.clear s) where
  lifecycle := h.lifecycle
  settled := h.settled
  fresh := h.fresh
  pending := fun _ hopen => by cases hopen
  timely := h.timely

/-- A new entry without an outcome. -/
theorem Tracked.append {s : ScheduledMfa W} (h : Tracked s) {challenge : MfaChallenge}
    (hnew : challenge.settlement = none) : Tracked (Mfa.append challenge s) where
  lifecycle := h.lifecycle
  settled := by
    intro index entry hentry
    rcases Nat.lt_trichotomy index s.history.length with hlt | rfl | hgt
    · rw [Mfa.append, List.getElem?_append_left hlt] at hentry
      exact h.settled index entry hentry
    · rw [Mfa.append, List.getElem?_concat_length] at hentry
      obtain rfl := Option.some.inj hentry
      have hnone : outcomes s.history.length (Mfa.append challenge s) = [] :=
        h.fresh _ le_rfl
      rw [hnew, hnone]
      rfl
    · rw [Mfa.append, List.getElem?_eq_none (by rw [List.length_append, List.length_singleton]; omega)]
        at hentry
      cases hentry
  fresh := by
    intro index hle
    rw [Mfa.append, List.length_append] at hle
    exact h.fresh index (Nat.le_of_add_right_le hle)
  pending := by
    intro index hopen
    obtain ⟨hlt, hdelivered⟩ := h.pending index hopen
    refine ⟨?_, hdelivered⟩
    rw [Mfa.append, List.length_append]
    exact Nat.lt_add_right _ hlt
  timely := h.timely

/-! ## Recorded outcomes -/

/-- The clock, the ids, the numbers and the sink leave the exercise clock alone. -/
structure Steady (env : Mfa W) : Prop where
  sequence_factory : ∀ factory, env.sources.sequence_factory = some factory →
    ∀ w, env.elapsed (factory w).2 = env.elapsed w
  clock : ∀ w, env.elapsed (env.sources.clock w).2 = env.elapsed w
  event_id_factory : ∀ w, env.elapsed (env.sources.event_id_factory w).2 = env.elapsed w
  event_sink : ∀ event w, env.elapsed (env.event_sink event w).2 = env.elapsed w

theorem Steady.emit (h : env.Steady) (call : EventCall) (t : EventBuilder × W) :
    env.elapsed (env.emit call t).2.2 = env.elapsed t.2 := by
  have hbuild : env.elapsed (EventBuilder.build env.formats env.sources call t).2.2 =
      env.elapsed t.2 := by
    refine EventBuilder.build_keeps env.formats env.sources (R := Raising.Same env.elapsed)
      (fun b w => ?_) (fun call w => ?_) (fun call w => ?_) call t.1 t.2
    · unfold EventBuilder.nextSequence
      split
      · next factory hfactory => exact h.sequence_factory factory hfactory w
      · rfl
    · unfold EventBuilder.eventId
      split
      · rfl
      · exact h.event_id_factory w
    · unfold EventBuilder.now
      split
      · rfl
      · exact h.clock w
  unfold Mfa.emit
  cases hrun : EventBuilder.build env.formats env.sources call t with
  | mk built u =>
      rw [hrun] at hbuild
      cases built with
      | error e =>
          rw [Raising.bind_of_error hrun]
          exact hbuild
      | ok event =>
          rw [Raising.bind_of_ok hrun, Raising.step_bind_apply, Raising.ofExcept_bind_apply]
          dsimp only
          split
          · exact (h.event_sink event u.2).trans hbuild
          · exact (h.event_sink event u.2).trans hbuild

variable (env)

/-- How often the identity was asked. -/
def pushes (state : IdentitySections) : Int :=
  ((state.mfa.lookup env.config.identity_id).map MfaRecord.push_count).getD 0

/-- The outcome of the challenge at a position was recorded. -/
structure Recorded (index : Nat) (challenge : MfaChallenge) (outcome : MfaOutcome)
    (s t : ScheduledMfa W) : Prop where
  history : ∃ settlement, settlement.outcome = outcome ∧
    t.history = s.history.set index { challenge with settlement := some settlement }
  pending : t.pending = s.pending
  journal : t.journal = s.journal ++ [⟨index, outcome, challenge.expires_at_seconds,
    env.elapsed s.world, env.contained s.identity.toIdentitySections⟩]
  pushes : env.pushes t.identity.toIdentitySections = env.pushes s.identity.toIdentitySections
  referenced : env.Referenced t.identity.toIdentitySections

variable {env}

/-- A change of the challenge record, where there is one. -/
theorem updateRecord_of_referenced (f : MfaRecord → MfaRecord) {s : ScheduledMfa W}
    (h : env.Referenced s.identity.toIdentitySections) :
    ∃ record t, s.identity.mfa.lookup env.config.identity_id = some record ∧
      env.updateRecord f s = (.ok (), t) ∧ t.history = s.history ∧ t.pending = s.pending ∧
      t.journal = s.journal ∧ env.pushes t.identity.toIdentitySections = (f record).push_count ∧
      env.Referenced t.identity.toIdentitySections := by
  obtain ⟨record, hrecord⟩ := Option.isSome_iff_exists.mp h.mfa
  have hkept := (frames_referenced env).update f s h
  rw [updateRecord_apply, hrecord] at hkept ⊢
  refine ⟨record, _, rfl, rfl, rfl, rfl, rfl, ?_, hkept⟩
  simp [pushes, lookup_setEntry]

/-- An outcome is recorded, or its event was refused and nothing but the builder and the world
changed. -/
theorem record_outcome (hsteady : env.Steady) {s : ScheduledMfa W}
    (h : env.Referenced s.identity.toIdentitySections) (index : Nat) (challenge : MfaChallenge)
    (outcome : MfaOutcome) (reason : String) (actor : JsonObject) (occurred : Option Int) :
    (∃ e u, env.record index challenge outcome reason actor occurred s =
      (.error (.audit e), withBuildState u s)) ∨
    ∃ t, env.record index challenge outcome reason actor occurred s = (.ok (), t) ∧
      env.Recorded index challenge outcome s t := by
  have hclock := hsteady.emit (env.eventOf challenge outcome reason actor occurred s) (buildState s)
  by_cases hpersists : env.Persists (env.eventOf challenge outcome reason actor occurred s)
      (buildState s)
  · obtain ⟨event, u, hemit⟩ := env.emit_of_persists hpersists
    rw [hemit] at hclock
    have hclock : env.elapsed (withBuildState u s).world = env.elapsed s.world := hclock
    obtain ⟨found, t, hfound, hupdate, hhistory, hpending, hjournal, hpushes, hreferenced⟩ :=
      updateRecord_of_referenced (fun record => { record with decision := outcome.decision })
        (s := env.settle index challenge ⟨outcome, reason, event.event_id⟩ (withBuildState u s)) h
    have hfirst : Raising.mapError MfaFault.audit (Raising.focus buildState withBuildState
        (env.emit (env.recordCall challenge outcome reason actor
          (occurred.getD (env.elapsed s.world))))) s = (.ok event, withBuildState u s) := by
      rw [eventOf] at hemit
      rw [Raising.mapError_apply, Raising.focus_apply, hemit]
      rfl
    refine Or.inr ⟨t, ?_, ⟨⟨outcome, reason, event.event_id⟩, rfl, hhistory⟩, hpending, ?_, ?_,
      hreferenced⟩
    · unfold record
      rw [Raising.gets_bind_apply, Raising.bind_of_ok hfirst, Raising.modify_bind_apply]
      exact hupdate
    · rw [hjournal, settle, hclock]
      rfl
    · have hlookup : s.identity.mfa.lookup env.config.identity_id = some found := hfound
      rw [hpushes, pushes, hlookup]
      rfl
  · obtain ⟨e, u, hrefused⟩ := record_refused index hpersists
    exact Or.inl ⟨e, u, hrefused⟩

/-- What was audited once an outcome was recorded. -/
theorem Recorded.outcomes_eq {index : Nat} {challenge : MfaChallenge} {outcome : MfaOutcome}
    {s t : ScheduledMfa W} (h : env.Recorded index challenge outcome s t) (i : Nat) :
    outcomes i t = outcomes i s ++ if i = index then [outcome] else [] := by
  rw [outcomes, h.journal, List.filter_append, List.map_append]
  by_cases hi : i = index
  · rw [if_pos hi, hi, List.filter_cons_of_pos (by simp)]
    rfl
  · rw [if_neg hi, List.filter_cons_of_neg (by simpa using fun heq => hi heq.symm)]
    rfl

/-- Recording an outcome that may follow keeps the agreement, once nothing is pending any more. -/
theorem Tracked.recorded {index : Nat} {challenge : MfaChallenge} {outcome : MfaOutcome}
    {s t : ScheduledMfa W} (h : Tracked s) (hrecorded : env.Recorded index challenge outcome s t)
    (hindex : index < s.history.length) (hnext : Lifecycle (outcomes index s ++ [outcome]))
    (htimely : outcome = .approved → env.contained s.identity.toIdentitySections = false ∧
      env.elapsed s.world < challenge.expires_at_seconds) :
    Tracked (Mfa.clear t) := by
  obtain ⟨settlement, houtcome, hhistory⟩ := hrecorded.history
  have hclear : ∀ i, outcomes i (Mfa.clear t) = outcomes i t := fun _ => rfl
  refine ⟨fun i => ?_, fun i entry hentry => ?_, fun i hle => ?_, fun i hpending => ?_,
    fun mark hmark => ?_⟩
  · rw [hclear, hrecorded.outcomes_eq]
    by_cases hi : i = index
    · rw [if_pos hi, hi]
      exact hnext
    · rw [if_neg hi, List.append_nil]
      exact h.lifecycle i
  · change t.history[i]? = some entry at hentry
    rw [hhistory, List.getElem?_set] at hentry
    rw [hclear, hrecorded.outcomes_eq]
    by_cases hi : i = index
    · rw [if_pos hi.symm, if_pos hindex] at hentry
      rw [if_pos hi, ← Option.some.inj hentry, List.getLast?_concat]
      exact congrArg some houtcome
    · rw [if_neg fun heq => hi heq.symm] at hentry
      rw [if_neg hi, List.append_nil]
      exact h.settled i entry hentry
  · change t.history.length ≤ i at hle
    rw [hhistory, List.length_set] at hle
    rw [hclear, hrecorded.outcomes_eq, if_neg (by omega), List.append_nil]
    exact h.fresh i hle
  · cases hpending
  · change mark ∈ t.journal at hmark
    rw [hrecorded.journal] at hmark
    rcases List.mem_append.mp hmark with hold | hnew
    · exact h.timely mark hold
    · rw [List.mem_singleton.mp hnew]
      exact htimely

/-- How many deliveries were audited. -/
def deliveries (s : ScheduledMfa W) : Nat :=
  s.journal.countP fun mark => mark.outcome = .delivered

variable (env)

/-- What holds in every state of a run. Where the requests are `counted`, the identity was asked as
often as a delivery was audited since `base`. -/
structure Sound (counted : Prop) (base : Int) (s : ScheduledMfa W) : Prop where
  tracked : Tracked s
  referenced : env.Referenced s.identity.toIdentitySections
  balanced : counted → env.pushes s.identity.toIdentitySections = base + deliveries s

variable {env}

theorem Recorded.deliveries_eq {index : Nat} {challenge : MfaChallenge} {outcome : MfaOutcome}
    {s t : ScheduledMfa W} (h : env.Recorded index challenge outcome s t) :
    deliveries t = deliveries s + if outcome = .delivered then 1 else 0 := by
  rw [deliveries, h.journal, List.countP_append, List.countP_singleton]
  simp [deliveries]

/-- The builder and the world do not matter. -/
theorem Sound.withBuildState {counted : Prop} {base : Int} {s : ScheduledMfa W} (h : env.Sound counted base s)
    (u : EventBuilder × W) : env.Sound counted base (Mfa.withBuildState u s) :=
  ⟨h.tracked.congr rfl rfl rfl, h.referenced, h.balanced⟩

theorem Sound.clear {counted : Prop} {base : Int} {s : ScheduledMfa W} (h : env.Sound counted base s) :
    env.Sound counted base (Mfa.clear s) := ⟨h.tracked.clear, h.referenced, h.balanced⟩

/-- The end of the pending challenge. -/
theorem Sound.ended {counted : Prop} {base : Int} {index : Nat} {challenge : MfaChallenge} {outcome : MfaOutcome}
    {s t : ScheduledMfa W} (h : env.Sound counted base s) (hpending : pendingEntry s = some (index, challenge))
    (hrecorded : env.Recorded index challenge outcome s t) (hend : IsEnd outcome)
    (htimely : outcome = .approved → env.contained s.identity.toIdentitySections = false ∧
      env.elapsed s.world < challenge.expires_at_seconds) :
    env.Sound counted base (Mfa.clear t) := by
  have hopen : s.pending = some index := by
    unfold pendingEntry at hpending
    cases hfound : s.pending with
    | none =>
        rw [hfound] at hpending
        cases hpending
    | some i =>
        rw [hfound, Option.bind_some] at hpending
        obtain ⟨entry, -, heq⟩ := Option.map_eq_some_iff.mp hpending
        rw [(Prod.mk.inj heq).1]
  obtain ⟨hlt, hdelivered⟩ := h.tracked.pending index hopen
  refine ⟨h.tracked.recorded hrecorded hlt ?_ htimely, hrecorded.referenced, ?_⟩
  · rw [hdelivered]
    exact .ended outcome hend
  · intro hcounted
    show env.pushes t.identity.toIdentitySections = base + (deliveries t : Int)
    rw [hrecorded.pushes, hrecorded.deliveries_eq, if_neg hend.1]
    exact h.balanced hcounted

theorem isEnd_of_outcomeOf {decision : Json} {outcome : MfaOutcome}
    (h : outcomeOf decision = some outcome) : IsEnd outcome := by
  unfold outcomeOf at h
  split at h
  · rw [← Option.some.inj h]
    exact ⟨by decide, by decide⟩
  · rw [← Option.some.inj h]
    exact ⟨by decide, by decide⟩
  · cases h

/-- Closing the pending challenge for a reason other than approval. -/
theorem Sound.close (hsteady : env.Steady) {counted : Prop} {base : Int} {s : ScheduledMfa W}
    (h : env.Sound counted base s) {index : Nat} {challenge : MfaChallenge} (hpending : pendingEntry s = some (index, challenge))
    {outcome : MfaOutcome} (hend : IsEnd outcome) (reason : String) (actor : JsonObject)
    (occurred : Option Int)
    (htimely : outcome = .approved → env.contained s.identity.toIdentitySections = false ∧
      env.elapsed s.world < challenge.expires_at_seconds) :
    env.Sound counted base (env.close index challenge outcome reason actor occurred s).2 ∧
      ((env.close index challenge outcome reason actor occurred s).1 = .ok () →
        (env.close index challenge outcome reason actor occurred s).2.pending = none) := by
  unfold Mfa.close
  rcases record_outcome hsteady h.referenced index challenge outcome reason actor occurred with
    ⟨e, u, hrefused⟩ | ⟨t, hok, hrecorded⟩
  · rw [Raising.bind_of_error hrefused]
    exact ⟨h.withBuildState u, fun hreturn => by cases hreturn⟩
  · rw [Raising.bind_of_ok hok]
    exact ⟨h.ended hpending hrecorded hend htimely, fun _ => rfl⟩

/-- What is in force once the expiry step has returned. -/
def Current (env : Mfa W) (s : ScheduledMfa W) : Prop :=
  ∀ index challenge, pendingEntry s = some (index, challenge) →
    env.contained s.identity.toIdentitySections = false ∧
      env.elapsed s.world < challenge.expires_at_seconds

theorem pendingEntry_of_none {s : ScheduledMfa W} (h : s.pending = none) : pendingEntry s = none := by
  rw [pendingEntry, h]
  rfl

/-- The expiry step. -/
theorem Sound.advance (hsteady : env.Steady) {counted : Prop} {base : Int} {s : ScheduledMfa W}
    (h : env.Sound counted base s) :
    env.Sound counted base (env.advance s).2 ∧
      ((env.advance s).1 = .ok () → env.Current (env.advance s).2) := by
  rw [advance_apply]
  cases hentry : pendingEntry s with
  | none =>
      exact ⟨h, fun _ index challenge hsome => by rw [hentry] at hsome; cases hsome⟩
  | some entry =>
      obtain ⟨index, challenge⟩ := entry
      dsimp only
      cases hblocked : env.blockedReason s.identity.toIdentitySections with
      | error fault => exact ⟨h, fun hreturn => by cases hreturn⟩
      | ok blocked =>
          cases blocked with
          | some reason =>
              have hend : IsEnd MfaOutcome.cancelled := ⟨by decide, by decide⟩
              obtain ⟨hsound, hclosed⟩ := h.close hsteady hentry hend reason []
                (some (env.elapsed s.world)) fun heq => by cases heq
              refine ⟨hsound, fun hreturn i c hsome => ?_⟩
              rw [pendingEntry_of_none (hclosed hreturn)] at hsome
              cases hsome
          | none =>
              dsimp only
              split_ifs with hexpired
              · have hend : IsEnd MfaOutcome.expired := ⟨by decide, by decide⟩
                obtain ⟨hsound, hclosed⟩ := h.close hsteady hentry hend "exercise_timeout" []
                  (some challenge.expires_at_seconds) fun heq => by cases heq
                refine ⟨hsound, fun hreturn i c hsome => ?_⟩
                rw [pendingEntry_of_none (hclosed hreturn)] at hsome
                cases hsome
              · refine ⟨h, fun _ i c hsome => ?_⟩
                rw [hentry] at hsome
                obtain ⟨rfl, rfl⟩ := Prod.mk.inj (Option.some.inj hsome)
                refine ⟨?_, not_le.mp hexpired⟩
                show env.contained s.identity.toIdentitySections = false
                rw [contained, hblocked]
                rfl

/-! ## Operations -/

/-- A new challenge. -/
theorem Sound.issue (hsteady : env.Steady) {counted : Prop} {base : Int} {s : ScheduledMfa W}
    (h : env.Sound counted base s) (hpending : s.pending = none) {challenge : MfaChallenge} (hnew : challenge.settlement = none) :
    env.Sound counted base (env.issue s.history.length challenge (append challenge s)).2 := by
  have happended : env.Sound counted base (append challenge s) :=
    ⟨h.tracked.append hnew, h.referenced, h.balanced⟩
  have hlt : s.history.length < (append challenge s).history.length := by
    rw [append, List.length_append]
    exact Nat.lt_succ_self _
  have hnone : outcomes s.history.length (append challenge s) = [] := h.tracked.fresh _ le_rfl
  -- Both outcomes of a new challenge are recorded in the same way.
  have hissued : ∀ outcome t, outcome = .blocked ∨ outcome = .delivered →
      env.Recorded s.history.length challenge outcome (append challenge s) t → Tracked t := by
    intro outcome t houtcome hrecorded
    have hnext : Lifecycle (outcomes s.history.length (append challenge s) ++ [outcome]) := by
      rw [hnone]
      rcases houtcome with rfl | rfl
      · exact .blocked
      · exact .awaiting
    have hclear := happended.tracked.recorded hrecorded hlt hnext fun heq => by
      rcases houtcome with rfl | rfl <;> cases heq
    refine hclear.congr rfl ?_ rfl
    rw [hrecorded.pending]
    exact hpending
  obtain ⟨blocked, hblocked⟩ := happended.referenced.blockedReason
  unfold Mfa.issue
  rw [Raising.bind_of_ok (by rw [reasonNow_apply, hblocked])]
  cases blocked with
  | some reason =>
      dsimp only
      rcases record_outcome hsteady happended.referenced s.history.length challenge .blocked reason
        [] none with ⟨e, u, hrefused⟩ | ⟨t, hok, hrecorded⟩
      · rw [Raising.bind_of_error hrefused]
        exact happended.withBuildState u
      · rw [Raising.bind_of_ok hok]
        refine ⟨hissued .blocked t (Or.inl rfl) hrecorded, hrecorded.referenced, fun hcounted => ?_⟩
        show env.pushes t.identity.toIdentitySections = base + (deliveries t : Int)
        rw [hrecorded.pushes, hrecorded.deliveries_eq, if_neg (by decide)]
        exact h.balanced hcounted
  | none =>
      dsimp only
      rcases record_outcome hsteady happended.referenced s.history.length challenge .delivered
        "awaiting_human_decision" [] none with ⟨e, u, hrefused⟩ | ⟨t, hok, hrecorded⟩
      · rw [Raising.bind_of_error hrefused]
        exact happended.withBuildState u
      · obtain ⟨found, t', hfound, hupdate, hhistory, -, hjournal, hpushes, hreferenced⟩ :=
          updateRecord_of_referenced
            (fun record => { record with push_count := record.push_count + 1 }) hrecorded.referenced
        rw [Raising.bind_of_ok hok, Raising.bind_of_ok hupdate, Raising.modify_bind_apply]
        have htracked := hissued .delivered t (Or.inr rfl) hrecorded
        have hcleared : Tracked (Mfa.clear t') := htracked.clear.congr hhistory rfl hjournal
        refine ⟨⟨hcleared.lifecycle, hcleared.settled, hcleared.fresh, fun i hopen => ?_,
          hcleared.timely⟩, hreferenced, ?_⟩
        · obtain rfl := Option.some.inj hopen
          obtain ⟨settlement, -, hentries⟩ := hrecorded.history
          constructor
          · show s.history.length < t'.history.length
            rw [hhistory, hentries, List.length_set]
            exact hlt
          · show outcomes s.history.length (publish s.history.length t') = _
            have hsame : outcomes s.history.length (publish s.history.length t') =
                outcomes s.history.length t := by
              show (t'.journal.filter _).map _ = _
              rw [hjournal]
              rfl
            rw [hsame, hrecorded.outcomes_eq, hnone, if_pos rfl]
            rfl
        · intro hcounted
          show env.pushes t'.identity.toIdentitySections = base + (deliveries t' : Int)
          have hbefore : env.pushes t.identity.toIdentitySections = found.push_count := by
            rw [pushes, hfound]
            rfl
          have hcount : deliveries t' = deliveries s + 1 := by
            rw [deliveries, hjournal]
            exact hrecorded.deliveries_eq
          have hbalanced := h.balanced hcounted
          rw [hrecorded.pushes] at hbefore
          change env.pushes s.identity.toIdentitySections = found.push_count at hbefore
          rw [hpushes, hcount]
          show found.push_count + 1 = base + ((deliveries s + 1 : Nat) : Int)
          omega

theorem Sound.deliver (hsteady : env.Steady) {counted : Prop} {base : Int} {s : ScheduledMfa W}
    (h : env.Sound counted base s) (item : ScenarioItem) (run_id : String) :
    env.Sound counted base (env.deliver item run_id s).2 := by
  have hadvanced := (h.advance hsteady).1
  rcases env.deliver_cases item run_id s with ⟨_, heq⟩ | ⟨_, _, heq⟩ | ⟨_, heq⟩ |
    ⟨t, -, -, hadvance, hpending, heq⟩
  · rw [heq]
    exact h
  · rw [heq]
    exact hadvanced
  · rw [heq]
    exact hadvanced
  · rw [hadvance] at hadvanced
    rw [heq]
    exact hadvanced.issue hsteady hpending rfl

theorem Sound.decide (hsteady : env.Steady) {counted : Prop} {base : Int} {s : ScheduledMfa W} (h : env.Sound counted base s)
    (challenge_id decision : Json) (actor : JsonObject) :
    env.Sound counted base (env.decide challenge_id decision actor s).2 := by
  unfold Mfa.decide
  rw [Raising.ofExcept_bind_apply]
  cases checkRole actor with
  | error fault => exact h
  | ok _ =>
      dsimp only
      rw [Raising.require_bind_apply]
      split_ifs
      swap
      · exact h
      cases challenge_id with
      | str id =>
          cases houtcome : outcomeOf decision with
          | none => exact h
          | some outcome =>
              cases hadvance : env.advance s with
              | mk r t =>
                  obtain ⟨hsound, hcurrent⟩ := h.advance hsteady
                  rw [hadvance] at hsound hcurrent
                  cases r with
                  | error fault =>
                      dsimp only
                      rw [Raising.bind_of_error hadvance]
                      exact hsound
                  | ok _ =>
                      dsimp only
                      rw [Raising.bind_of_ok hadvance, Raising.gets_bind_apply]
                      cases hentry : pendingEntry t with
                      | none => exact hsound
                      | some entry =>
                          obtain ⟨index, challenge⟩ := entry
                          dsimp only
                          split_ifs
                          · exact hsound
                          · exact (hsound.close hsteady hentry (isEnd_of_outcomeOf houtcome)
                              "human_decision" actor none
                              fun _ => hcurrent rfl index challenge hentry).1
      | null | bool | int | float | arr | obj => exact h

theorem Sound.stop (hsteady : env.Steady) {counted : Prop} {base : Int} {s : ScheduledMfa W} (h : env.Sound counted base s) :
    env.Sound counted base (env.stop s).2 := by
  unfold Mfa.stop
  rw [Raising.gets_bind_apply]
  cases hentry : pendingEntry s with
  | none => exact h
  | some entry =>
      obtain ⟨index, challenge⟩ := entry
      show env.Sound counted base (Mfa.clear (env.record index challenge .cancelled "fail_safe_stop" [] none s).2)
      rcases record_outcome hsteady h.referenced index challenge .cancelled "fail_safe_stop" [] none
        with ⟨e, u, hrefused⟩ | ⟨t, hok, hrecorded⟩
      · rw [hrefused]
        exact (h.withBuildState u).clear
      · rw [hok]
        exact h.ended hentry hrecorded ⟨by decide, by decide⟩ fun heq => by cases heq

/-- A change of the identity state by another component leaves the number of challenges alone. -/
def KeepsPushes (change : env.Change) : Prop :=
  ∀ state, env.pushes (change.apply state).toIdentitySections = env.pushes state.toIdentitySections

theorem sound_perform (hsteady : env.Steady) {counted : Prop} {base : Int} {op : env.Operation}
    (hop : counted → ∀ change, op = .identity change → KeepsPushes change) {s : ScheduledMfa W}
    (h : env.Sound counted base s) : env.Sound counted base (env.perform op s) := by
  cases op with
  | advance => exact (h.advance hsteady).1
  | deliver item run_id => exact h.deliver hsteady item run_id
  | decide challenge_id decision actor => exact h.decide hsteady challenge_id decision actor
  | stop => exact h.stop hsteady
  | world f => exact ⟨h.tracked.congr rfl rfl rfl, h.referenced, h.balanced⟩
  | identity change =>
      refine ⟨h.tracked.congr rfl rfl rfl, change.keeps s.identity h.referenced, fun hcounted => ?_⟩
      exact (hop hcounted change rfl s.identity).trans (h.balanced hcounted)

theorem sound_runAll (hsteady : env.Steady) {counted : Prop} {base : Int} {ops : List env.Operation}
    (hops : counted → ∀ change, .identity change ∈ ops → KeepsPushes change) {s : ScheduledMfa W}
    (h : env.Sound counted base s) : env.Sound counted base (runAll env.perform ops s) := by
  induction ops generalizing s with
  | nil => exact h
  | cons op ops ih =>
      refine ih (fun hcounted change hchange =>
        hops hcounted change (List.mem_cons_of_mem _ hchange)) ?_
      exact sound_perform hsteady
        (fun hcounted change heq => hops hcounted change (heq ▸ List.mem_cons_self)) h

/-! ## Runs -/

variable (env)

theorem sound_init (counted : Prop) (exercise_id : String) (identity : SyntheticIdentityState) (world : W)
    (h : env.Referenced identity.toIdentitySections) :
    env.Sound counted (env.pushes identity.toIdentitySections)
      (env.init exercise_id identity world) where
  tracked := {
    lifecycle := fun _ => .unaudited
    settled := fun index challenge hentry => by cases hentry
    fresh := fun _ _ => rfl
    pending := fun index hopen => by cases hopen
    timely := List.forall_mem_nil _ }
  referenced := h
  balanced := by
    intro _
    show env.pushes identity.toIdentitySections = _ + ((0 : Nat) : Int)
    omega

/-- **Each challenge has one lifecycle**, in every order of deliveries, decisions, expiry steps, stops
and changes by other components, and whatever the sink refuses: it was blocked, or it was delivered
and ended at most once, and the history shows the last outcome. The pending challenge is delivered and
has not ended. An approval is in time and not against containment. Once an expiry step returns, the
pending challenge is in time and not contained. Where no other component counts requests, the identity
was asked once for each delivery. -/
theorem challenges_have_one_lifecycle (hsteady : env.Steady) (exercise_id : String)
    (identity : SyntheticIdentityState) (world : W)
    (hreferenced : env.Referenced identity.toIdentitySections) (ops : List env.Operation)
    (t : ScheduledMfa W) (ht : runAll env.perform ops (env.init exercise_id identity world) = t) :
    (∀ index, Lifecycle (outcomes index t)) ∧
    (∀ index challenge, t.history[index]? = some challenge →
      challenge.settlement.map MfaSettlement.outcome = (outcomes index t).getLast?) ∧
    (∀ index, t.pending = some index →
      index < t.history.length ∧ outcomes index t = [.delivered]) ∧
    (∀ mark ∈ t.journal, Timely mark) ∧
    ((env.advance t).1 = .ok () → env.Current (env.advance t).2) ∧
    ((∀ change, .identity change ∈ ops → KeepsPushes change) →
      env.pushes t.identity.toIdentitySections =
        env.pushes identity.toIdentitySections + deliveries t) := by
  have hsound : env.Sound (∀ change, .identity change ∈ ops → KeepsPushes change)
      (env.pushes identity.toIdentitySections) t :=
    ht ▸ sound_runAll hsteady (fun h => h) (env.sound_init _ exercise_id identity world hreferenced)
  exact ⟨hsound.tracked.lifecycle, hsound.tracked.settled, hsound.tracked.pending,
    hsound.tracked.timely, (hsound.advance hsteady).2, hsound.balanced⟩

theorem steady_sample (answer : Except Exn Unit) : (sample answer).Steady where
  sequence_factory := fun _ h => by cases h
  clock := fun _ => rfl
  event_id_factory := fun _ => rfl
  event_sink := fun _ _ => rfl

/-- A challenge of the reviewed configuration is delivered and approved. -/
theorem approved_challenge_has_one_lifecycle :
    Lifecycle (outcomes 0 (runAll (sample (.ok ())).perform
      [.deliver sampleChallenge "run-1",
        .decide (.str "mfa-6f1c0e0a-0000-4000-8000-000000000003") (.str "approve")
          [("role", .str "simulated_user")]] (sampleStart (.ok ())))) :=
  (challenges_have_one_lifecycle (sample (.ok ())) (steady_sample (.ok ())) "sample"
    (SyntheticIdentityState.baseline []) () ⟨by decide, by decide, by decide, by decide⟩
    [.deliver sampleChallenge "run-1",
      .decide (.str "mfa-6f1c0e0a-0000-4000-8000-000000000003") (.str "approve")
        [("role", .str "simulated_user")]] _ rfl).1 0

end NetStrike.Orchestrator.Mfa
