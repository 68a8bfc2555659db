import NetStrike.Shared.Events

/-!
# Runs over one shared sequencer

A `SharedRun` is a set of event builders that share one `EventSequencer`, with the ledger of the
events they returned. `performBuild` is one `build` call; the answers of the clock and of the id
factory are part of the call.

A build that raises after its number was reserved leaves a gap that no later build closes
(`owed_performBuild`), so the ledger is gap-free exactly when every build of the run is settled
(`gapFree_iff`).
-/

set_option autoImplicit false

namespace NetStrike.Shared

open NetStrike.Foundation

variable {ι : Type}

/-- Builders that share a sequencer, and the events persisted so far. -/
structure SharedRun (ι : Type) where
  sequencer : EventSequencer
  builders : ι → EventBuilder
  ledger : List Event

/-- A fresh run: nothing reserved, nothing persisted. -/
def SharedRun.start (builders : ι → EventBuilder) : SharedRun ι := ⟨⟨0⟩, builders, []⟩

/-- One `build` call with what the clock and the id factory answer during it. -/
structure BuildStep (ι : Type) where
  builder : ι
  call : EventCall
  now : DateTime
  event_id : String

/-- The collaborators during the call: numbers come from the shared sequencer. -/
def BuildStep.sources (op : BuildStep ι) : EventSources EventSequencer where
  sequence_factory := some EventSequencer.next
  clock := fun s => (op.now, s)
  event_id_factory := fun s => (op.event_id, s)

/-- Perform the call and persist the event it returns. -/
def performBuild [DecidableEq ι] (formats : FormatChecker) (op : BuildStep ι)
    (run : SharedRun ι) : SharedRun ι :=
  let result := EventBuilder.build formats op.sources op.call
    (run.builders op.builder, run.sequencer)
  { sequencer := result.2.2
    builders := Function.update run.builders op.builder result.2.1
    ledger := match result.1 with
      | .ok event => run.ledger ++ [event]
      | .error _ => run.ledger }

/-- The persisted numbers are `1, 2, ..., n` and the sequencer stands at `n`. -/
def SharedRun.GapFree (run : SharedRun ι) : Prop :=
  run.ledger.map Event.sequence = (List.range run.ledger.length).map (fun k : Nat => (k : Int) + 1) ∧
    run.sequencer.sequence = run.ledger.length

instance (run : SharedRun ι) : Decidable run.GapFree :=
  inferInstanceAs (Decidable (_ ∧ _))

/-- The time an event of the call carries. -/
def BuildStep.moment (op : BuildStep ι) : DateTime := op.call.timestamp.getD op.now

/-- The id an event of the call carries. -/
def BuildStep.id (op : BuildStep ι) : String := (truthy op.call.event_id).getD op.event_id

/-- The call is refused before a number is reserved, or nothing after the reservation refuses it:
the private counter of the builder is not ahead of the sequencer, the time is aware and the schema
accepts the arguments. -/
def BuildStep.Settled (formats : FormatChecker) (op : BuildStep ι) (run : SharedRun ι) : Prop :=
  op.call.Paired →
    (run.builders op.builder).sequence ≤ run.sequencer.sequence ∧ op.moment.aware = true ∧
      op.call.Accepted formats (run.builders op.builder).context op.id op.moment.isoformat

section Builds

variable (formats : FormatChecker) (op : BuildStep ι) (run : SharedRun ι)

theorem eventId_sources (s : EventSequencer) :
    EventBuilder.eventId op.sources op.call s = (op.id, s) := by
  unfold EventBuilder.eventId BuildStep.id
  cases truthy op.call.event_id with
  | none => rfl
  | some _ => rfl

theorem now_sources (s : EventSequencer) :
    EventBuilder.now op.sources op.call s = (op.moment, s) := by
  unfold EventBuilder.now BuildStep.moment
  cases op.call.timestamp with
  | none => rfl
  | some _ => rfl

/-- A paired call builds an event exactly when it is settled. -/
theorem builds_iff :
    EventBuilder.Builds formats op.sources op.call (run.builders op.builder) run.sequencer ↔
      op.call.Paired ∧ op.Settled formats run := by
  have hnext : EventBuilder.nextSequence op.sources (run.builders op.builder) run.sequencer =
      (run.sequencer.sequence + 1, ⟨run.sequencer.sequence + 1⟩) := rfl
  constructor
  · rintro ⟨hpaired, hlt, haware, hacc⟩
    rw [hnext] at hlt haware hacc
    rw [eventId_sources, now_sources] at haware hacc
    exact ⟨hpaired, fun _ => ⟨Nat.le_of_lt_succ hlt, haware, hacc⟩⟩
  · rintro ⟨hpaired, hsettled⟩
    obtain ⟨hle, haware, hacc⟩ := hsettled hpaired
    refine ⟨hpaired, ?_, ?_, ?_⟩
    · rw [hnext]
      exact Nat.lt_succ_of_le hle
    · rwa [hnext, eventId_sources, now_sources]
    · rwa [hnext, eventId_sources, now_sources]

variable [DecidableEq ι]

/-- A settled call with paired fields takes one number and persists one event under it. -/
theorem performBuild_of_settled (hpaired : op.call.Paired) (h : op.Settled formats run) :
    ∃ event : Event, event.sequence = (run.sequencer.sequence : Int) + 1 ∧
      (performBuild formats op run).sequencer.sequence = run.sequencer.sequence + 1 ∧
      (performBuild formats op run).ledger = run.ledger ++ [event] := by
  have hbuild := EventBuilder.build_of_builds formats op.sources
    ((builds_iff formats op run).mpr ⟨hpaired, h⟩)
  unfold performBuild
  rw [hbuild, eventId_sources, now_sources]
  exact ⟨_, rfl, rfl, rfl⟩

/-- Unpaired attack fields are refused before anything changes. -/
theorem performBuild_of_not_paired (hpaired : ¬ op.call.Paired) :
    performBuild formats op run = run := by
  obtain ⟨e, w', hbuild, -, hw⟩ := EventBuilder.build_of_not_builds formats op.sources
    (fun h => hpaired ((builds_iff formats op run).mp h).1)
  rw [if_neg hpaired] at hw
  subst hw
  unfold performBuild
  rw [hbuild]
  simp

/-- A call that is not settled takes a number and persists nothing. -/
theorem performBuild_of_not_settled (h : ¬ op.Settled formats run) :
    (performBuild formats op run).sequencer.sequence = run.sequencer.sequence + 1 ∧
      (performBuild formats op run).ledger = run.ledger := by
  have hpaired : op.call.Paired := by
    by_contra hn
    exact h fun hp => absurd hp hn
  obtain ⟨e, w', hbuild, -, hw⟩ := EventBuilder.build_of_not_builds formats op.sources
    (fun hb => h ((builds_iff formats op run).mp hb).2)
  rw [if_pos hpaired, eventId_sources, now_sources, ite_self] at hw
  unfold performBuild
  rw [hbuild]
  exact ⟨by rw [hw]; rfl, rfl⟩

end Builds

/-! ## Numbers owed to the ledger -/

/-- `k` numbers were reserved and never persisted. -/
def SharedRun.Owes (run : SharedRun ι) (k : Nat) : Prop :=
  run.sequencer.sequence = run.ledger.length + k

theorem gapFree_start (builders : ι → EventBuilder) : (SharedRun.start builders).GapFree :=
  ⟨rfl, rfl⟩

variable [DecidableEq ι] (formats : FormatChecker)

/-- A settled call keeps what is owed. -/
theorem owes_performBuild_of_settled {op : BuildStep ι} {run : SharedRun ι} {k : Nat}
    (h : op.Settled formats run) (hk : run.Owes k) : (performBuild formats op run).Owes k := by
  by_cases hpaired : op.call.Paired
  · obtain ⟨event, -, hseq, hledger⟩ := performBuild_of_settled formats op run hpaired h
    unfold SharedRun.Owes at hk ⊢
    rw [hseq, hledger, hk, List.length_append, List.length_singleton]
    omega
  · rwa [performBuild_of_not_paired formats op run hpaired]

/-- A call that is not settled adds one number to what is owed. -/
theorem owes_performBuild_of_not_settled {op : BuildStep ι} {run : SharedRun ι} {k : Nat}
    (h : ¬ op.Settled formats run) (hk : run.Owes k) :
    (performBuild formats op run).Owes (k + 1) := by
  obtain ⟨hseq, hledger⟩ := performBuild_of_not_settled formats op run h
  unfold SharedRun.Owes at hk ⊢
  rw [hseq, hledger, hk, Nat.add_assoc]

/-- What is owed is never paid back, and stays the same only in a run of settled calls. -/
theorem owes_runAll (ops : List (BuildStep ι)) :
    ∀ {run : SharedRun ι} {k : Nat}, run.Owes k →
      ∃ j, (runAll (performBuild formats) ops run).Owes (k + j) ∧
        (j = 0 → EachMeets (performBuild formats) (BuildStep.Settled formats) ops run) := by
  induction ops with
  | nil => exact fun {run k} hk => ⟨0, hk, fun _ => trivial⟩
  | cons op ops ih =>
      intro run k hk
      by_cases h : op.Settled formats run
      · obtain ⟨j, hj, hsettled⟩ := ih (owes_performBuild_of_settled formats h hk)
        exact ⟨j, hj, fun h0 => ⟨h, hsettled h0⟩⟩
      · obtain ⟨j, hj, -⟩ := ih (owes_performBuild_of_not_settled formats h hk)
        refine ⟨j + 1, ?_, fun h0 => absurd h0 (Nat.succ_ne_zero j)⟩
        rwa [Nat.add_assoc, Nat.add_comm 1 j] at hj

/-- No later call closes the gap of a call that is not settled. -/
theorem not_gapFree_of_not_settled {op : BuildStep ι} {ops : List (BuildStep ι)}
    {run : SharedRun ι} (hrun : run.Owes 0) (h : ¬ op.Settled formats run) :
    ¬ (runAll (performBuild formats) (op :: ops) run).GapFree := by
  obtain ⟨j, hj, -⟩ := owes_runAll formats ops
    (owes_performBuild_of_not_settled formats h hrun)
  rintro ⟨-, hn⟩
  unfold SharedRun.Owes at hj
  rw [runAll_cons] at hn
  omega

/-- A settled call keeps the ledger gap-free. -/
theorem gapFree_performBuild {op : BuildStep ι} {run : SharedRun ι} (hrun : run.GapFree)
    (h : op.Settled formats run) : (performBuild formats op run).GapFree := by
  by_cases hpaired : op.call.Paired
  · obtain ⟨event, hevent, hseq, hledger⟩ := performBuild_of_settled formats op run hpaired h
    obtain ⟨hnumbers, hn⟩ := hrun
    refine ⟨?_, ?_⟩
    · rw [hledger, List.map_append, hnumbers, List.length_append, List.length_singleton,
        List.range_succ, List.map_append]
      simp [hevent, hn]
    · rw [hseq, hledger, hn, List.length_append, List.length_singleton]
  · rwa [performBuild_of_not_paired formats op run hpaired]

/-- For every set of builders over one sequencer and every interleaving of their calls, the ledger
is gap-free exactly when every call of the run is settled. -/
theorem gapFree_iff (builders : ι → EventBuilder) (ops : List (BuildStep ι)) :
    (runAll (performBuild formats) ops (SharedRun.start builders)).GapFree ↔
      EachMeets (performBuild formats) (BuildStep.Settled formats) ops
        (SharedRun.start builders) := by
  constructor
  · rintro ⟨-, hn⟩
    have hstart : (SharedRun.start builders).Owes 0 := rfl
    obtain ⟨j, hj, hsettled⟩ := owes_runAll formats ops hstart
    unfold SharedRun.Owes at hj
    exact hsettled (by omega)
  · exact invariant_runAll (fun _ _ hrun h => gapFree_performBuild formats hrun h)
      (gapFree_start builders)

/-! ## A rejected build -/

/-- The builder of a scenario controller. -/
def controllerBuilder : EventBuilder :=
  ⟨⟨"operation-silent-spider", "run-1", "controller", "scenario-controller", "1.0.0", none⟩, 0⟩

/-- A fail-safe stop of the controller with the given reason. -/
def stopBuild (reason : String) : BuildStep Unit where
  builder := ()
  call := {
    event_type := "scenario.run.stopped"
    phase := "control"
    actor := entity "system" "scenario-controller" none none
    action := "scenario.run.stopped"
    target := none
    outcome_status := "success"
    message := "Scenario fail-safe stop activated."
    outcome_reason := some reason }
  now := ⟨true, 0⟩
  event_id := "6f1c0e0a-0000-4000-8000-000000000001"

/-- A stop whose reason has more than 1024 characters is not settled. -/
theorem stopBuild_not_settled {reason : String} (h : 1024 < reason.length) (formats : FormatChecker)
    (run : SharedRun Unit) : ¬ (stopBuild reason).Settled formats run := by
  intro hsettled
  obtain ⟨-, -, hacc⟩ := hsettled rfl
  have hne : reason ≠ "" := by
    rintro rfl
    simp at h
  have hlength := ((EventCall.outcome_valid _).mp hacc.outcome).2 reason (if_neg hne)
  omega

theorem length_replicated (n : Nat) (c : Char) :
    (String.ofList (List.replicate n c)).length = n := by
  rw [String.length_ofList, List.length_replicate]

/-- A reason of 1025 characters. -/
def longReason : String := String.ofList (List.replicate 1025 'x')

/-- A stop with a reason of 1025 characters is rejected by the schema and takes the first number,
so the stop that follows is persisted as number 2. -/
theorem rejected_build_leaves_gap :
    ¬ (runAll (performBuild FormatChecker.lenient)
      [stopBuild longReason, stopBuild "End of exercise"]
      (SharedRun.start fun _ => controllerBuilder)).GapFree := by
  have hlength : longReason.length = 1025 := length_replicated 1025 'x'
  have hlong : 1024 < longReason.length := by omega
  exact not_gapFree_of_not_settled FormatChecker.lenient rfl
    (stopBuild_not_settled hlong FormatChecker.lenient _)

end NetStrike.Shared
