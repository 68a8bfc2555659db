import NetStrike.Foundation.Runs
import NetStrike.Orchestrator.ControllerFrames

/-!
# Atomic checkpoint resolution

`AtomicResolution` says of one call of `resolve_checkpoint` that it either returns with everything
done, or raises a `ControllerError` with nothing changed. `atomicResolution_iff` says when: the call
is refused by its own checks, or its event is accepted and every turn of the branch loop is
`Handled`. The loop raises after the result was recorded when an opposite branch is no longer open
(`skipped_branch_breaks_resolution`).
-/

set_option autoImplicit false

namespace NetStrike.Orchestrator.Controller

open NetStrike.Foundation NetStrike.Shared

variable {W : Type} (env : Controller W)

/-- The events emitted so far. -/
def emittedEvents (c : ScenarioController W) : List Event :=
  c.journal.filterMap fun e =>
    match e with
    | .emitted event => some event
    | _ => none

/-- A branch as a finished resolution leaves it. -/
structure SettledBranch (result : CheckpointOutcome) (branch : ScenarioItem)
    (c : ScenarioController W) : Prop where
  matching : branch.branchOutcome = some result → (c.items branch.item_id).status ≠ .pending
  opposite : branch.branchOutcome ≠ some result → (c.items branch.item_id).status = .skipped

/-- The resolution is recorded and every branch is settled. -/
structure Resolved (checkpoint_id : String) (result : CheckpointOutcome)
    (c : ScenarioController W) : Prop where
  recorded : c.checkpoint_results checkpoint_id = some result
  settled : ∀ branch ∈ env.branches checkpoint_id, SettledBranch result branch c

/-- Run state, statuses, results and emitted events are the same. -/
structure SameRecord (c c' : ScenarioController W) : Prop where
  state : c'.state = c.state
  statuses : ∀ id, (c'.items id).status = (c.items id).status
  checkpoint_results : c'.checkpoint_results = c.checkpoint_results
  events : emittedEvents c' = emittedEvents c

/-- The call returns resolved, or raises a `ControllerError` and changes nothing. -/
def AtomicResolution (checkpoint_id : String) (passed : Bool) (evidence_ids : List String)
    (reason : String) (checks : Option Json) (c : ScenarioController W) : Prop :=
  let r := env.resolveCheckpoint checkpoint_id passed evidence_ids reason checks c
  (r.1 = .ok () ∧ env.Resolved checkpoint_id (resultOf passed) r.2) ∨
    ∃ e, r.1 = .error e ∧ e.type = .ControllerError ∧ SameRecord c r.2

/-! ## Turns of the branch loop -/

/-- What each turn of the loop needs. After a stop nothing more is done, so the branch has to be
settled already; else a pending matching branch is made due, and an opposite branch is skipped,
without an exception. -/
structure Handled (checkpoint_id : String) (result : CheckpointOutcome) (branch : ScenarioItem)
    (_rest : List ScenarioItem) (c : ScenarioController W) : Prop where
  stopped : c.state = .stopped → SettledBranch result branch c
  matching : c.state ≠ .stopped → branch.branchOutcome = some result →
    (c.items branch.item_id).status = .pending → (env.makeDue branch c).1 = .ok ()
  opposite : c.state ≠ .stopped → branch.branchOutcome ≠ some result →
    env.CanSkip branch.item_id s!"opposite {checkpoint_id} branch selected" c ∧
      (env.skip branch.item_id s!"opposite {checkpoint_id} branch selected" c).1 = .ok ()

theorem SettledBranch.forward {result : CheckpointOutcome} {branch : ScenarioItem}
    {c c' : ScenarioController W} (h : SettledBranch result branch c) (hf : Forward c c') :
    SettledBranch result branch c' := by
  have hlater := hf branch.item_id
  constructor
  · intro hm hpending
    have hstart := h.matching hm
    rw [hpending] at hlater
    revert hlater hstart
    cases (c.items branch.item_id).status <;> simp [Later]
  · intro ho
    rw [h.opposite ho] at hlater
    exact hlater

/-- A due item is no longer pending. -/
theorem makeDue_not_pending (item : ScenarioItem) (c : ScenarioController W) :
    ((env.makeDue item c).2.items item.item_id).status ≠ .pending := by
  by_cases hpending : (c.items item.item_id).status = .pending
  · by_cases hw : item.Waits
    · rw [env.makeDue_of_waits hpending hw]
      obtain ⟨runtime, hready, hsame, -⟩ := env.readyItem_frame item c
      rw [hsame.items]
      show (Function.update c.items item.item_id runtime item.item_id).status ≠ .pending
      rw [Function.update_self, hready]
      decide
    · rw [env.makeDue_of_automatic hpending hw]
      have hd := env.delivery_deliverItem item "controller" c
      by_cases hsucc : env.Succeeds item c
      · rw [hd.delivered hsucc]
        decide
      · rw [hd.failed hsucc]
        decide
  · rw [env.makeDue_of_not_pending hpending]
    exact hpending

theorem skip_skipped {item_id reason : String} {c : ScenarioController W}
    (h : env.CanSkip item_id reason c) :
    ((env.skip item_id reason c).2.items item_id).status = .skipped := by
  obtain ⟨runtime, hskipped, hsame, -⟩ := env.skip_frame h
  rw [hsame.items]
  show (Function.update c.items item_id runtime item_id).status = .skipped
  rw [Function.update_self, hskipped]

/-- A handled turn returns with its branch settled. -/
theorem settled_of_handled {checkpoint_id : String} {result : CheckpointOutcome}
    {branch : ScenarioItem} {rest : List ScenarioItem} {c : ScenarioController W}
    (h : env.Handled checkpoint_id result branch rest c) :
    (env.resolveBranch checkpoint_id result branch c).1 = .ok () ∧
      SettledBranch result branch (env.resolveBranch checkpoint_id result branch c).2 := by
  unfold resolveBranch
  rw [Raising.gets_bind_apply]
  split_ifs with hstopped hmatch
  · exact ⟨rfl, h.stopped hstopped⟩
  · refine ⟨?_, fun _ => env.makeDue_not_pending branch c, fun ho => absurd hmatch ho⟩
    by_cases hpending : (c.items branch.item_id).status = .pending
    · exact h.matching hstopped hmatch hpending
    · rw [env.makeDue_of_not_pending hpending]
  · obtain ⟨hcan, hok⟩ := h.opposite hstopped hmatch
    exact ⟨hok, fun hm => absurd hm hmatch, fun _ => env.skip_skipped hcan⟩

/-- A turn that returns is handled, if after a stop its branch is settled. -/
theorem handled_of_returns {checkpoint_id : String} {result : CheckpointOutcome}
    {branch : ScenarioItem} (rest : List ScenarioItem) {c : ScenarioController W}
    (hok : (env.resolveBranch checkpoint_id result branch c).1 = .ok ())
    (hstop : c.state = .stopped → SettledBranch result branch c) :
    env.Handled checkpoint_id result branch rest c := by
  unfold resolveBranch at hok
  rw [Raising.gets_bind_apply] at hok
  refine ⟨hstop, fun hs hm _ => ?_, fun hs hm => ?_⟩
  · rwa [if_neg hs, if_pos hm] at hok
  · rw [if_neg hs, if_neg hm] at hok
    refine ⟨?_, hok⟩
    by_contra hcan
    obtain ⟨e, heq, -⟩ := env.skip_refused hcan
    rw [heq] at hok
    cases hok

/-- After a stop the loop does nothing. -/
theorem resolveLoop_of_stopped (checkpoint_id : String) (result : CheckpointOutcome)
    {c : ScenarioController W} (h : c.state = .stopped) :
    ∀ bs, Raising.forEach (env.resolveBranch checkpoint_id result) bs c = (.ok (), c)
  | [] => rfl
  | b :: bs => by
      have hturn : env.resolveBranch checkpoint_id result b c = (.ok (), c) := by
        unfold resolveBranch
        rw [Raising.gets_bind_apply, if_pos h]
        rfl
      rw [Raising.forEach_cons, Raising.bind_of_ok hturn]
      exact resolveLoop_of_stopped checkpoint_id result h bs

/-- The loop returns with every branch settled exactly when each of its turns is handled. -/
theorem resolveLoop_settled_iff (checkpoint_id : String) (result : CheckpointOutcome) :
    ∀ {bs : List ScenarioItem} {c : ScenarioController W},
      ((Raising.forEach (env.resolveBranch checkpoint_id result) bs c).1 = .ok () ∧
        ∀ b ∈ bs, SettledBranch result b
          (Raising.forEach (env.resolveBranch checkpoint_id result) bs c).2) ↔
      Raising.LoopMeets (env.resolveBranch checkpoint_id result)
        (env.Handled checkpoint_id result) bs c := by
  intro bs
  induction bs with
  | nil => exact fun {c} => ⟨fun _ => trivial, fun _ => ⟨rfl, fun _ h => absurd h List.not_mem_nil⟩⟩
  | cons b bs ih =>
      intro c
      unfold Raising.LoopMeets
      rw [Raising.forEach_cons]
      constructor
      · rintro ⟨hok, hsettled⟩
        have hturn : env.Handled checkpoint_id result b bs c := by
          refine env.handled_of_returns bs ?_ fun hstop => ?_
          · by_contra hne
            cases hr : env.resolveBranch checkpoint_id result b c with
            | mk r c' =>
                rw [hr] at hne
                cases r with
                | ok _ => exact hne rfl
                | error e =>
                    rw [Raising.bind_of_error hr] at hok
                    cases hok
          · have hend := hsettled b List.mem_cons_self
            rw [← Raising.forEach_cons, env.resolveLoop_of_stopped checkpoint_id result hstop]
              at hend
            exact hend
        refine ⟨hturn, ?_⟩
        cases hr : env.resolveBranch checkpoint_id result b c with
        | mk r c' =>
            cases r with
            | ok _ =>
                rw [Raising.bind_of_ok hr] at hok hsettled
                exact ih.mp ⟨hok, fun b' hb' => hsettled b' (List.mem_cons_of_mem b hb')⟩
            | error e => trivial
      · rintro ⟨hturn, hrest⟩
        obtain ⟨hok, hsettled⟩ := env.settled_of_handled hturn
        cases hr : env.resolveBranch checkpoint_id result b c with
        | mk r c' =>
            rw [hr] at hok hsettled hrest
            cases r with
            | ok _ =>
                rw [Raising.bind_of_ok hr]
                obtain ⟨hloop, hall⟩ := ih.mpr hrest
                refine ⟨hloop, fun b' hb' => ?_⟩
                rcases List.mem_cons.mp hb' with rfl | hb'
                · exact hsettled.forward (env.forward_resolveLoop checkpoint_id result bs c')
                · exact hall b' hb'
            | error e => cases hok

/-! ## The call -/

/-- The call is accepted, its event is published, and every branch is handled. -/
structure Resolves (checkpoint_id : String) (passed : Bool) (evidence_ids : List String)
    (reason : String) (checks : Option Json) (c : ScenarioController W) (item : ScenarioItem)
    (c' : ScenarioController W) : Prop where
  accepted : env.CanResolve checkpoint_id reason checks item c
  published : env.emitResolution item checkpoint_id passed evidence_ids reason checks
    (recordResult checkpoint_id (resultOf passed) c) = (.ok (), c')
  handled : Raising.LoopMeets (env.resolveBranch checkpoint_id (resultOf passed))
    (env.Handled checkpoint_id (resultOf passed)) (env.branches checkpoint_id) c'

/-- The resolution event and the loop after an accepted call. -/
theorem resolveCheckpoint_published {checkpoint_id : String} {passed : Bool}
    {evidence_ids : List String} {reason : String} {checks : Option Json} {item : ScenarioItem}
    {c c' : ScenarioController W} (hcan : env.CanResolve checkpoint_id reason checks item c)
    (hemit : env.emitResolution item checkpoint_id passed evidence_ids reason checks
      (recordResult checkpoint_id (resultOf passed) c) = (.ok (), c')) :
    env.resolveCheckpoint checkpoint_id passed evidence_ids reason checks c =
      Raising.forEach (env.resolveBranch checkpoint_id (resultOf passed))
        (env.branches checkpoint_id) c' := by
  rw [env.resolveCheckpoint_accepted hcan, Raising.bind_of_ok hemit]

theorem results_resolveLoop (checkpoint_id : String) (result : CheckpointOutcome)
    (bs : List ScenarioItem) :
    (Raising.forEach (env.resolveBranch checkpoint_id result) bs).Keeps
      fun c c' => c'.checkpoint_results = c.checkpoint_results := by
  have : Std.Refl fun c c' : ScenarioController W =>
      c'.checkpoint_results = c.checkpoint_results := ⟨fun _ => rfl⟩
  have : IsTrans (ScenarioController W) fun c c' =>
      c'.checkpoint_results = c.checkpoint_results := ⟨fun _ _ _ h h' => h'.trans h⟩
  exact Raising.Keeps.forEach fun branch _ =>
    env.results_resolveBranch checkpoint_id result branch

/-- An accepted call leaves the checkpoint delivered, however it ends. -/
theorem resolveCheckpoint_delivers {checkpoint_id reason : String} {checks : Option Json}
    {item : ScenarioItem} {c : ScenarioController W}
    (hcan : env.CanResolve checkpoint_id reason checks item c) (passed : Bool)
    (evidence_ids : List String) :
    ((env.resolveCheckpoint checkpoint_id passed evidence_ids reason checks c).2.items
      checkpoint_id).status = .delivered := by
  have hset : ((recordResult checkpoint_id (resultOf passed) c).items checkpoint_id).status =
      .delivered := by
    simp [recordResult, setItem]
  have hframe := (env.emitResolution_frame item checkpoint_id passed evidence_ids reason checks
    (recordResult checkpoint_id (resultOf passed) c)).1
  cases hemit : env.emitResolution item checkpoint_id passed evidence_ids reason checks
      (recordResult checkpoint_id (resultOf passed) c) with
  | mk r c' =>
      rw [hemit] at hframe
      have hdelivered : (c'.items checkpoint_id).status = .delivered := by
        rw [hframe.items, hset]
      cases r with
      | ok _ =>
          rw [env.resolveCheckpoint_published hcan hemit]
          have hlater := env.forward_resolveLoop checkpoint_id (resultOf passed)
            (env.branches checkpoint_id) c' checkpoint_id
          rw [hdelivered] at hlater
          exact hlater
      | error e =>
          rw [env.resolveCheckpoint_accepted hcan, Raising.bind_of_error hemit]
          exact hdelivered

/-- An accepted call has changed the checkpoint, so to be atomic it has to return resolved. -/
theorem resolved_of_accepted {checkpoint_id reason : String} {passed : Bool}
    {evidence_ids : List String} {checks : Option Json} {item : ScenarioItem}
    {c : ScenarioController W} (hcan : env.CanResolve checkpoint_id reason checks item c)
    (h : env.AtomicResolution checkpoint_id passed evidence_ids reason checks c) :
    (env.resolveCheckpoint checkpoint_id passed evidence_ids reason checks c).1 = .ok () ∧
      env.Resolved checkpoint_id (resultOf passed)
        (env.resolveCheckpoint checkpoint_id passed evidence_ids reason checks c).2 := by
  rcases h with hdone | ⟨e, -, -, hsame⟩
  · exact hdone
  · have hdelivered := env.resolveCheckpoint_delivers hcan passed evidence_ids
    rw [hsame.statuses checkpoint_id] at hdelivered
    have hopen := hcan.isOpen
    rw [hdelivered] at hopen
    exact absurd hopen (by decide)

/-- A call of `resolve_checkpoint` is atomic exactly when its own checks refuse it, or its event is
published and every turn of its branch loop is handled. -/
theorem atomicResolution_iff (checkpoint_id : String) (passed : Bool)
    (evidence_ids : List String) (reason : String) (checks : Option Json)
    (c : ScenarioController W) :
    env.AtomicResolution checkpoint_id passed evidence_ids reason checks c ↔
      (∀ item, ¬ env.CanResolve checkpoint_id reason checks item c) ∨
        ∃ item c', env.Resolves checkpoint_id passed evidence_ids reason checks c item c' := by
  constructor
  · intro h
    by_cases hcan : ∃ item, env.CanResolve checkpoint_id reason checks item c
    · right
      obtain ⟨item, hcan⟩ := hcan
      obtain ⟨hok, hresolved⟩ := env.resolved_of_accepted hcan h
      cases hemit : env.emitResolution item checkpoint_id passed evidence_ids reason checks
          (recordResult checkpoint_id (resultOf passed) c) with
      | mk r c' =>
          cases r with
          | ok _ =>
              rw [env.resolveCheckpoint_published hcan hemit] at hok hresolved
              have hloop := (env.resolveLoop_settled_iff checkpoint_id (resultOf passed)).mp
                ⟨hok, hresolved.settled⟩
              exact ⟨item, c', hcan, hemit, hloop⟩
          | error e =>
              rw [env.resolveCheckpoint_accepted hcan, Raising.bind_of_error hemit] at hok
              cases hok
    · left
      exact fun item hitem => hcan ⟨item, hitem⟩
  · rintro (hrefused | ⟨item, c', hcan, hemit, hloop⟩)
    · right
      obtain ⟨e, heq, htype⟩ := env.resolveCheckpoint_refused hrefused passed evidence_ids
      rw [heq]
      exact ⟨e, rfl, htype, rfl, fun _ => rfl, rfl, rfl⟩
    · left
      obtain ⟨hok, hsettled⟩ :=
        (env.resolveLoop_settled_iff checkpoint_id (resultOf passed)).mpr hloop
      rw [env.resolveCheckpoint_published hcan hemit]
      refine ⟨hok, ?_, hsettled⟩
      have hresults := env.results_resolveLoop checkpoint_id (resultOf passed)
        (env.branches checkpoint_id) c'
      have hframe := (env.emitResolution_frame item checkpoint_id passed evidence_ids reason checks
        (recordResult checkpoint_id (resultOf passed) c)).1
      rw [hemit] at hframe
      rw [hresults, hframe.checkpoint_results]
      simp [recordResult]

/-- A call that raises after the result was recorded is not atomic. -/
theorem not_atomicResolution {checkpoint_id : String} {passed : Bool} {evidence_ids : List String}
    {reason : String} {checks : Option Json} {c : ScenarioController W}
    (hraises : (env.resolveCheckpoint checkpoint_id passed evidence_ids reason checks c).1 ≠ .ok ())
    (hrecorded :
      (env.resolveCheckpoint checkpoint_id passed evidence_ids reason checks c).2.checkpoint_results
        checkpoint_id ≠ c.checkpoint_results checkpoint_id) :
    ¬ env.AtomicResolution checkpoint_id passed evidence_ids reason checks c := by
  rintro (⟨hok, -⟩ | ⟨e, -, -, hsame⟩)
  · exact hraises hok
  · exact hrecorded (congrFun hsame.checkpoint_results checkpoint_id)

/-- Staff skips the miss branch of `DP1`, then resolves `DP1` as passed: the call raises and leaves
the result recorded. -/
theorem skipped_branch_breaks_resolution :
    ¬ (sample .automatic).AtomicResolution "DP1" true [] "Credentials were reset" none
      (runAll (sample .automatic).perform [.start, .skip "MISS-1" "Not needed today"]
        ((sample .automatic).init "RUN-1" ())) := by
  -- The call is evaluated once for both facts.
  obtain ⟨hraises, hrecorded⟩ : ((sample .automatic).resolveCheckpoint "DP1" true []
      "Credentials were reset" none
      (runAll (sample .automatic).perform [.start, .skip "MISS-1" "Not needed today"]
        ((sample .automatic).init "RUN-1" ()))).1 ≠ .ok () ∧
      ((sample .automatic).resolveCheckpoint "DP1" true [] "Credentials were reset" none
        (runAll (sample .automatic).perform [.start, .skip "MISS-1" "Not needed today"]
          ((sample .automatic).init "RUN-1" ()))).2.checkpoint_results "DP1" ≠
        (runAll (sample .automatic).perform [.start, .skip "MISS-1" "Not needed today"]
          ((sample .automatic).init "RUN-1" ())).checkpoint_results "DP1" := by
    decide +kernel
  exact (sample .automatic).not_atomicResolution hraises hrecorded

end NetStrike.Orchestrator.Controller
