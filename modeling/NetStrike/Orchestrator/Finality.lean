import NetStrike.Foundation.Runs
import NetStrike.Orchestrator.ControllerFrames

/-!
# Stop and completion are final

`Finality` says of the journal that nothing is played after the state became stopped or completed,
and of the state that it still is that final state. `SmoothStep` is the condition on one operation
under which it keeps `Finality` (`finality_perform`): no handler it runs stops the run, and no end
item that it delivers on its own is followed by an item that it would still process. Over runs this
is `finality_of_smooth`.

Without the condition the loops of `advance_to`, `prepare` and `resolve_checkpoint` go on after the
run ended (`play_goes_on_after_end`).
-/

set_option autoImplicit false

namespace NetStrike.Orchestrator

open NetStrike.Foundation NetStrike.Shared

/-- The states that only a reset leaves. -/
def RunState.Final (s : RunState) : Prop := s = .stopped ∨ s = .completed

instance (s : RunState) : Decidable s.Final := inferInstanceAs (Decidable (_ ∨ _))

/-- The entry is allowed after the final state was reached. -/
def JournalEntry.Quiet (final : RunState) : JournalEntry → Prop
  | .stateSet state => state = final
  | .statusSet _ _ => False
  | .processed _ _ => False
  | .handlerInvoked _ => False
  | .emitted event => event.event_type ≠ "scenario.item.delivered"

instance (final : RunState) (e : JournalEntry) : Decidable (e.Quiet final) := by
  unfold JournalEntry.Quiet
  split <;> infer_instance

/-- After an assignment of a final state all entries are quiet. -/
def FinalRespected : List JournalEntry → Prop
  | [] => True
  | .stateSet s :: es => (s.Final → ∀ e ∈ es, e.Quiet s) ∧ FinalRespected es
  | .statusSet _ _ :: es => FinalRespected es
  | .processed _ _ :: es => FinalRespected es
  | .handlerInvoked _ :: es => FinalRespected es
  | .emitted _ :: es => FinalRespected es

instance decidableFinalRespected : DecidablePred FinalRespected
  | [] => isTrue trivial
  | .stateSet s :: es =>
      have := decidableFinalRespected es
      inferInstanceAs (Decidable ((s.Final → ∀ e ∈ es, e.Quiet s) ∧ FinalRespected es))
  | .statusSet _ _ :: es => decidableFinalRespected es
  | .processed _ _ :: es => decidableFinalRespected es
  | .handlerInvoked _ :: es => decidableFinalRespected es
  | .emitted _ :: es => decidableFinalRespected es

theorem finalRespected_append (as bs : List JournalEntry) :
    FinalRespected (as ++ bs) ↔ FinalRespected as ∧ FinalRespected bs ∧
      ∀ s, .stateSet s ∈ as → s.Final → ∀ e ∈ bs, e.Quiet s := by
  induction as with
  | nil => simp [FinalRespected]
  | cons a as ih =>
      cases a with
      | stateSet s =>
          simp only [List.cons_append, FinalRespected, ih, List.mem_append, List.mem_cons,
            JournalEntry.stateSet.injEq]
          constructor
          · rintro ⟨hs, has, hbs, hall⟩
            refine ⟨⟨fun hf e he => hs hf e (Or.inl he), has⟩, hbs, ?_⟩
            rintro s' (rfl | hs') hf e he
            · exact hs hf e (Or.inr he)
            · exact hall s' hs' hf e he
          · rintro ⟨⟨hs, has⟩, hbs, hall⟩
            refine ⟨?_, has, hbs, fun s' hs' => hall s' (Or.inr hs')⟩
            rintro hf e (he | he)
            · exact hs hf e he
            · exact hall s (Or.inl rfl) hf e he
      | statusSet _ _ => simpa [FinalRespected] using ih
      | processed _ _ => simpa [FinalRespected] using ih
      | handlerInvoked _ => simpa [FinalRespected] using ih
      | emitted _ => simpa [FinalRespected] using ih

theorem finalRespected_of_no_stateSet {es : List JournalEntry}
    (h : ∀ e ∈ es, ∀ s, e ≠ .stateSet s) : FinalRespected es := by
  induction es with
  | nil => trivial
  | cons e es ih =>
      have hes := ih fun e' he' => h e' (List.mem_cons_of_mem e he')
      cases e with
      | stateSet s => exact absurd rfl (h (.stateSet s) List.mem_cons_self s)
      | statusSet _ _ => exact hes
      | processed _ _ => exact hes
      | handlerInvoked _ => exact hes
      | emitted _ => exact hes

namespace Controller

variable {W : Type}

/-- A final state, once assigned, is kept, and nothing is played after it. -/
structure Finality (c : ScenarioController W) : Prop where
  quiet : FinalRespected c.journal
  latched : ∀ s, .stateSet s ∈ c.journal → s.Final → c.state = s

theorem not_finality {c : ScenarioController W} (h : ¬ FinalRespected c.journal) : ¬ Finality c :=
  fun hc => h hc.quiet

/-! ## Steps that keep finality -/

section Steps

variable {c c' : ScenarioController W}

/-- Entries that assign no state and, in a final state, are quiet. -/
theorem Finality.adds {P : JournalEntry → Prop} (h : Finality c) (hadds : Adds P c c')
    (hstate : c'.state = c.state) (hP : ∀ e, P e → ∀ s, e ≠ .stateSet s)
    (hquiet : c.state.Final → ∀ e, P e → e.Quiet c.state) : Finality c' := by
  obtain ⟨es, hes, hall⟩ := hadds
  constructor
  · rw [hes, finalRespected_append]
    refine ⟨h.quiet, finalRespected_of_no_stateSet fun e he => hP e (hall e he), ?_⟩
    intro s hs hf e he
    obtain rfl := h.latched s hs hf
    exact hquiet hf e (hall e he)
  · intro s hs hf
    rw [hes] at hs
    rcases List.mem_append.mp hs with hs | hs
    · exact hstate.trans (h.latched s hs hf)
    · exact absurd rfl (hP _ (hall _ hs) s)

theorem Finality.of_samePlay (h : Finality c) (hsame : SamePlay c c') : Finality c' := by
  constructor
  · rw [hsame.journal]
    exact h.quiet
  · rw [hsame.journal, hsame.state]
    exact h.latched

/-- A state may be assigned while the run is not over. -/
theorem Finality.setState (h : Finality c) (hlive : ¬ c.state.Final) (s : RunState) :
    Finality (setState s c) := by
  have hnone : ∀ s', .stateSet s' ∈ c.journal → ¬ s'.Final := by
    intro s' hs' hf
    exact hlive (h.latched s' hs' hf ▸ hf)
  constructor
  · show FinalRespected (c.journal ++ [.stateSet s])
    rw [finalRespected_append]
    exact ⟨h.quiet, ⟨fun _ _ he => absurd he List.not_mem_nil, trivial⟩,
      fun s' hs' hf => absurd hf (hnone s' hs')⟩
  · intro s' hs' hf
    rcases List.mem_append.mp hs' with hs' | hs'
    · exact absurd hf (hnone s' hs')
    · rw [List.mem_singleton, JournalEntry.stateSet.injEq] at hs'
      exact hs'.symm

theorem Finality.setItem (h : Finality c) (hlive : ¬ c.state.Final) (id : String)
    (runtime : ItemRuntime) : Finality (setItem id runtime c) :=
  h.adds (Adds.one (P := fun e => ∃ i r, e = .statusSet i r) rfl ⟨_, _, rfl⟩) rfl
    (by rintro e ⟨i, r, rfl⟩ s ⟨⟩) (fun hf => absurd hf hlive)

theorem Finality.note_processed (h : Finality c) (hlive : ¬ c.state.Final) (item : ScenarioItem)
    (role : String) : Finality (note (.processed item role) c) :=
  h.adds (Adds.one (P := fun e => ∃ i r, e = .processed i r) rfl ⟨_, _, rfl⟩) rfl
    (by rintro e ⟨i, r, rfl⟩ s ⟨⟩) (fun hf => absurd hf hlive)

/-- Emitting keeps finality, except for a delivered event after the end. -/
theorem Finality.emitted {t : String} (h : Finality c) (hsame : c'.state = c.state)
    (hadds : Adds (EmittedType t) c c') (ht : t ≠ "scenario.item.delivered" ∨ ¬ c.state.Final) :
    Finality c' := by
  refine h.adds hadds hsame (by rintro e ⟨event, rfl, -⟩ s ⟨⟩) ?_
  rintro hf e ⟨event, rfl, htype⟩
  rcases ht with ht | hlive
  · show event.event_type ≠ _
    rwa [htype]
  · exact absurd hf hlive

end Steps

variable (env : Controller W)

theorem playable_of_not_final {s : RunState} (h : ¬ s.Final) : s ∈ playable := by
  cases s <;> simp_all [RunState.Final, playable]

theorem not_final_of_playable {s : RunState} (h : s ∈ playable) : ¬ s.Final := by
  cases s <;> simp_all [RunState.Final, playable]

theorem finality_emit {c : ScenarioController W} (h : Finality c)
    (event_type action message status : String) (item : Option ScenarioItem) (actor_role : String)
    (data : List (String × Json))
    (ht : event_type ≠ "scenario.item.delivered" ∨ ¬ c.state.Final) :
    Finality (env.emit event_type action message status item actor_role data c).2 := by
  obtain ⟨hsame, hadds⟩ := env.emit_frame event_type action message status item actor_role data c
  exact h.emitted hsame.state hadds ht

theorem finality_failSafeStop {c : ScenarioController W} (h : Finality c) (reason : String) :
    Finality (env.failSafeStop reason c).2 := by
  by_cases ha : c.state ∈ playable ∧ ¬ Blank reason
  · rw [env.failSafeStop_accepted ha]
    exact env.finality_emit (h.setState (not_final_of_playable ha.1) .stopped) _ _ _ _ _ _ _
      (Or.inl (by decide))
  · obtain ⟨e, heq, -⟩ := env.failSafeStop_refused ha
    rw [heq]
    exact h

theorem finality_skip {c : ScenarioController W} (h : Finality c) (item_id reason : String) :
    Finality (env.skip item_id reason c).2 := by
  by_cases ha : env.CanSkip item_id reason c
  · obtain ⟨runtime, -, hsame, hadds⟩ := env.skip_frame ha
    exact (h.setItem (not_final_of_playable ha.playing) item_id runtime).emitted hsame.state hadds
      (Or.inl (by decide))
  · obtain ⟨e, heq, -⟩ := env.skip_refused ha
    rw [heq]
    exact h

theorem finality_readyItem {c : ScenarioController W} (h : Finality c) (hlive : ¬ c.state.Final)
    (item : ScenarioItem) : Finality (env.readyItem item c).2 := by
  obtain ⟨runtime, -, hsame, hadds⟩ := env.readyItem_frame item c
  exact (h.setItem hlive item.item_id runtime).emitted hsame.state hadds (Or.inl (by decide))

/-- A delivery in a run that is not over keeps finality when the handler does not stop the run. -/
theorem finality_deliverItem {c : ScenarioController W} (h : Finality c) (hlive : ¬ c.state.Final)
    {item : ScenarioItem} (hcalm : ¬ env.Stops item c) (actor_role : String) :
    Finality (env.deliverItem item actor_role c).2 := by
  obtain ⟨hstate, hadds⟩ := env.execute_calm hcalm
  obtain ⟨outcome, c₁, hexec, -⟩ := env.execute_spec item c
  rw [hexec] at hstate hadds
  have h₁ : Finality c₁ := h.adds hadds hstate (by rintro e ⟨id, rfl⟩ s ⟨⟩)
    (fun hf => absurd hf hlive)
  have hlive₁ : ¬ c₁.state.Final := hstate ▸ hlive
  have h₂ := h₁.note_processed hlive₁ item actor_role
  cases outcome with
  | ok m =>
      rw [env.deliverItem_of_ok actor_role hexec]
      obtain ⟨c₂, hsame, hemitted, hcases⟩ := env.completeItem_cases item actor_role m.1 m.2
        (note (.processed item actor_role) c₁)
      have h₃ : Finality c₂ :=
        (h₂.setItem hlive₁ item.item_id _).emitted hsame.state hemitted (Or.inr hlive₁)
      have hlive₂ : ¬ c₂.state.Final := by
        rw [hsame.state]
        exact hlive₁
      rcases hcases with ⟨e, heq⟩ | heq
      · rw [heq]
        exact h₃
      · rw [heq]
        split_ifs
        · exact h₃.setState hlive₂ .completed
        · exact h₃
  | error m =>
      rw [env.deliverItem_of_error actor_role hexec]
      obtain ⟨runtime, -, hsame, hemitted⟩ := env.failItem_frame item m.1 m.2
        (note (.processed item actor_role) c₁)
      exact (h₂.setItem hlive₁ item.item_id runtime).emitted hsame.state hemitted
        (Or.inl (by decide))

/-! ## Loops -/

/-- If the run is over, the items left have nothing to do. -/
structure Settled (rest : List ScenarioItem) (c : ScenarioController W) : Prop where
  finality : Finality c
  done : c.state.Final → ∀ j ∈ rest, (c.items j.item_id).status ≠ .pending

/-- A pending item that is delivered on its own does not stop the run through its handler, and if it
is an end item that succeeds, no item left is pending. -/
def Smooth (item : ScenarioItem) (rest : List ScenarioItem) (c : ScenarioController W) : Prop :=
  (c.items item.item_id).status = .pending → ¬ item.Waits →
    ¬ env.Stops item c ∧
      (item.kind = .endMarker → env.Succeeds item c →
        ∀ j ∈ rest, (c.items j.item_id).status ≠ .pending)

/-- One turn of a loop over due items. -/
theorem settled_makeDue {item : ScenarioItem} {rest : List ScenarioItem}
    {c : ScenarioController W} (h : Settled (item :: rest) c) (hsmooth : env.Smooth item rest c) :
    Settled rest (env.makeDue item c).2 := by
  by_cases hpending : (c.items item.item_id).status = .pending
  · have hlive : ¬ c.state.Final := fun hf => h.done hf item List.mem_cons_self hpending
    by_cases hw : item.Waits
    · rw [env.makeDue_of_waits hpending hw]
      obtain ⟨runtime, -, hsame, -⟩ := env.readyItem_frame item c
      refine ⟨env.finality_readyItem h.finality hlive item, fun hf => absurd ?_ hlive⟩
      rwa [hsame.state] at hf
    · rw [env.makeDue_of_automatic hpending hw]
      obtain ⟨hcalm, hend⟩ := hsmooth hpending hw
      have hd := env.delivery_deliverItem item "controller" c
      refine ⟨env.finality_deliverItem h.finality hlive hcalm "controller", ?_⟩
      intro hf j hj
      rcases hd.state with hstate | ⟨-, hkind, hsucc⟩
      · rw [hstate, (env.execute_calm hcalm).1] at hf
        exact absurd hf hlive
      · by_cases hid : j.item_id = item.item_id
        · rw [hid, hd.delivered hsucc]
          decide
        · rw [hd.others j.item_id hid]
          exact hend hkind hsucc j hj
  · rw [env.makeDue_of_not_pending hpending]
    exact ⟨h.finality, fun hf j hj => h.done hf j (List.mem_cons_of_mem item hj)⟩

/-- Only the items a loop still processes matter once the run is over. -/
theorem Settled.of_live {rest : List ScenarioItem} {c : ScenarioController W} (h : Finality c)
    (hlive : ¬ c.state.Final) : Settled rest c :=
  ⟨h, fun hf => absurd hf hlive⟩

/-- A loop whose turns keep finality, and `I` of the items left unless they raise, ends in a state
with finality. -/
theorem finality_forEach {body : ScenarioItem → Py (ScenarioController W) Unit}
    {C : ScenarioItem → List ScenarioItem → ScenarioController W → Prop}
    {I : List ScenarioItem → ScenarioController W → Prop}
    (hI : ∀ c, I [] c → Finality c)
    (hturn : ∀ b bs c, I (b :: bs) c → C b bs c →
      Finality (body b c).2 ∧ ((body b c).1 = .ok () → I bs (body b c).2))
    {items : List ScenarioItem} {c : ScenarioController W} (h : I items c)
    (hC : Raising.LoopMeets body C items c) : Finality (Raising.forEach body items c).2 := by
  have hloop := Raising.forEach_of_loopMeets (C := C) (I := I) (J := Finality)
    (fun b bs c hb hCb => by
      obtain ⟨hfinal, hok⟩ := hturn b bs c hb hCb
      split
      · next heq =>
          rw [heq] at hok
          exact hok rfl
      · next heq =>
          rw [heq] at hfinal
          exact hfinal) h hC
  split at hloop
  · next heq =>
      rw [heq]
      exact hI _ hloop
  · next heq =>
      rw [heq]
      exact hloop

/-- The condition on a call of `prepare`. -/
def SmoothPrepare (c : ScenarioController W) : Prop :=
  c.state = .ready → Raising.LoopMeets env.makeDue env.Smooth env.preExercise c

theorem finality_prepare {c : ScenarioController W} (h : Finality c)
    (hsmooth : env.SmoothPrepare c) : Finality (env.prepare c).2 := by
  unfold prepare
  rw [requireState_bind]
  split_ifs with hstate
  · have hready : c.state = .ready := List.mem_singleton.mp hstate
    refine finality_forEach (I := Settled) (fun _ hs => hs.finality)
      (fun _ _ _ hs hC => ?_) (Settled.of_live h (by rw [hready]; decide)) (hsmooth hready)
    have hturn := env.settled_makeDue hs hC
    exact ⟨hturn.finality, fun _ => hturn⟩
  · exact h

/-- The condition on one due item of `advance_to`: the clock moves first. -/
def SmoothDue (item : ScenarioItem) (rest : List ScenarioItem) (c : ScenarioController W) : Prop :=
  env.Smooth item rest (env.advanceClock ((seconds item).getD 0) c).2

theorem settled_advanceItem {item : ScenarioItem} {rest : List ScenarioItem}
    {c : ScenarioController W} (h : Settled (item :: rest) c)
    (hsmooth : env.SmoothDue item rest c) : Settled rest (env.advanceItem item c).2 := by
  have hsame := env.samePlay_advanceClock ((seconds item).getD 0) c
  have hsettled : Settled (item :: rest) (env.advanceClock ((seconds item).getD 0) c).2 := by
    refine ⟨h.finality.of_samePlay hsame, ?_⟩
    rw [hsame.state, hsame.items]
    exact h.done
  unfold advanceItem
  unfold SmoothDue at hsmooth
  cases hr : env.advanceClock ((seconds item).getD 0) c with
  | mk r c' =>
      rw [hr] at hsettled hsmooth
      cases r with
      | ok _ =>
          rw [Raising.bind_of_ok hr]
          exact env.settled_makeDue hsettled hsmooth
      | error e =>
          rw [Raising.bind_of_error hr]
          exact ⟨hsettled.finality, fun hf j hj => hsettled.done hf j (List.mem_cons_of_mem _ hj)⟩

/-- The condition on a call of `advance_to`. -/
def SmoothAdvance (elapsed_seconds : Int) (c : ScenarioController W) : Prop :=
  c.state = .running → c.elapsed_seconds ≤ elapsed_seconds →
    Raising.LoopMeets env.advanceItem env.SmoothDue (env.due elapsed_seconds c) c

theorem finality_advanceTo {c : ScenarioController W} (h : Finality c) (elapsed_seconds : Int)
    (hsmooth : env.SmoothAdvance elapsed_seconds c) :
    Finality (env.advanceTo elapsed_seconds c).2 := by
  unfold advanceTo
  rw [requireState_bind]
  split_ifs with hstate
  · have hrunning : c.state = .running := List.mem_singleton.mp hstate
    rw [Raising.require_bind_apply]
    split_ifs with htime
    · rw [Raising.gets_bind_apply]
      have hloop : Finality (Raising.forEach env.advanceItem (env.due elapsed_seconds c) c).2 := by
        refine finality_forEach (I := Settled) (fun _ hs => hs.finality)
          (fun _ _ _ hs hC => ?_) (Settled.of_live h (by rw [hrunning]; decide))
          (hsmooth hrunning htime)
        have hturn := env.settled_advanceItem hs hC
        exact ⟨hturn.finality, fun _ => hturn⟩
      cases hr : Raising.forEach env.advanceItem (env.due elapsed_seconds c) c with
      | mk r c' =>
          rw [hr] at hloop
          cases r with
          | ok _ =>
              rw [Raising.bind_of_ok hr]
              exact hloop.of_samePlay (env.samePlay_advanceClock elapsed_seconds c')
          | error e =>
              rw [Raising.bind_of_error hr]
              exact hloop
    · exact h
  · exact h

theorem finality_changeState {c : ScenarioController W} (h : Finality c) {before : RunState}
    (hlive : ¬ before.Final) (after : RunState) {event_type : String} (action message : String)
    (ht : event_type ≠ "scenario.item.delivered") :
    Finality (env.changeState before after event_type action message c).2 := by
  unfold changeState
  rw [requireState_bind]
  split_ifs with hstate
  · have hbefore : c.state = before := List.mem_singleton.mp hstate
    rw [Raising.modify_bind_apply]
    exact env.finality_emit (h.setState (hbefore ▸ hlive) after) _ _ _ _ _ _ _ (Or.inl ht)
  · exact h

/-- The condition on a call of `start`, which ends with `advance_to(0)`. -/
def SmoothStart (c : ScenarioController W) : Prop :=
  ∀ c', env.beginPlay c = (.ok (), c') → env.SmoothAdvance 0 c'

theorem finality_start {c : ScenarioController W} (h : Finality c) (hsmooth : env.SmoothStart c) :
    Finality (env.start c).2 := by
  have hbegin : Finality (env.beginPlay c).2 :=
    env.finality_changeState h (by decide) .running _ _ (by decide)
  unfold start
  cases hr : env.beginPlay c with
  | mk r c' =>
      rw [hr] at hbegin
      cases r with
      | ok _ =>
          rw [Raising.bind_of_ok hr]
          exact env.finality_advanceTo hbegin 0 (hsmooth c' hr)
      | error e =>
          rw [Raising.bind_of_error hr]
          exact hbegin

/-! ## Checkpoint resolution -/

/-- The branches before the first opposite one. -/
def untilOpposite (result : CheckpointOutcome) (branches : List ScenarioItem) : List ScenarioItem :=
  branches.takeWhile fun branch => branch.branchOutcome = some result

/-- If an end item completed the run, the loop meets nothing pending before the first opposite
branch, which it cannot skip any more. -/
structure BranchesSettled (result : CheckpointOutcome) (rest : List ScenarioItem)
    (c : ScenarioController W) : Prop where
  finality : Finality c
  done : c.state = .completed →
    ∀ j ∈ untilOpposite result rest, (c.items j.item_id).status ≠ .pending

/-- The condition on one branch of a checkpoint. -/
def SmoothBranch (result : CheckpointOutcome) (branch : ScenarioItem) (rest : List ScenarioItem)
    (c : ScenarioController W) : Prop :=
  c.state ≠ .stopped → branch.branchOutcome = some result →
    env.Smooth branch (untilOpposite result rest) c

theorem untilOpposite_cons_of_pos {result : CheckpointOutcome} {branch : ScenarioItem}
    (h : branch.branchOutcome = some result) (rest : List ScenarioItem) :
    untilOpposite result (branch :: rest) = branch :: untilOpposite result rest := by
  simp [untilOpposite, h]

theorem branchesSettled_resolveBranch {checkpoint_id : String} {result : CheckpointOutcome}
    {branch : ScenarioItem} {rest : List ScenarioItem} {c : ScenarioController W}
    (h : BranchesSettled result (branch :: rest) c)
    (hsmooth : env.SmoothBranch result branch rest c) :
    Finality (env.resolveBranch checkpoint_id result branch c).2 ∧
      ((env.resolveBranch checkpoint_id result branch c).1 = .ok () →
        BranchesSettled result rest (env.resolveBranch checkpoint_id result branch c).2) := by
  unfold resolveBranch
  rw [Raising.gets_bind_apply]
  by_cases hstopped : c.state = .stopped
  · rw [if_pos hstopped]
    refine ⟨h.finality, fun _ => ⟨h.finality, fun hcompleted => ?_⟩⟩
    rw [Raising.pure_apply, hstopped] at hcompleted
    cases hcompleted
  · rw [if_neg hstopped]
    by_cases hbranch : branch.branchOutcome = some result
    · rw [if_pos hbranch]
      have hsettled : Settled (branch :: untilOpposite result rest) c := by
        refine ⟨h.finality, ?_⟩
        rw [← untilOpposite_cons_of_pos hbranch]
        intro hf
        rcases hf with hf | hf
        · exact absurd hf hstopped
        · exact h.done hf
      have hturn := env.settled_makeDue hsettled (hsmooth hstopped hbranch)
      exact ⟨hturn.finality, fun _ => ⟨hturn.finality, fun hc => hturn.done (Or.inr hc)⟩⟩
    · rw [if_neg hbranch]
      have hfinal := env.finality_skip h.finality branch.item_id
        s!"opposite {checkpoint_id} branch selected"
      refine ⟨hfinal, fun hok => ⟨hfinal, fun hcompleted => ?_⟩⟩
      by_cases ha : env.CanSkip branch.item_id s!"opposite {checkpoint_id} branch selected" c
      · -- A skip that goes through leaves the run in play.
        obtain ⟨runtime, -, hsame, -⟩ := env.skip_frame ha
        rw [hsame.state] at hcompleted
        exact absurd (Or.inr hcompleted) (not_final_of_playable ha.playing)
      · obtain ⟨e, heq, -⟩ := env.skip_refused ha
        rw [heq] at hok
        cases hok

/-- The condition on a call of `resolve_checkpoint`. -/
def SmoothResolve (checkpoint_id : String) (passed : Bool) (evidence_ids : List String)
    (reason : String) (checks : Option Json) (c : ScenarioController W) : Prop :=
  ∀ item c', env.CanResolve checkpoint_id reason checks item c →
    env.emitResolution item checkpoint_id passed evidence_ids reason checks
      (recordResult checkpoint_id (resultOf passed) c) = (.ok (), c') →
    Raising.LoopMeets (env.resolveBranch checkpoint_id (resultOf passed))
      (env.SmoothBranch (resultOf passed)) (env.branches checkpoint_id) c'

theorem finality_resolveCheckpoint {checkpoint_id : String} {passed : Bool}
    {evidence_ids : List String} {reason : String} {checks : Option Json}
    {c : ScenarioController W} (h : Finality c)
    (hsmooth : env.SmoothResolve checkpoint_id passed evidence_ids reason checks c) :
    Finality (env.resolveCheckpoint checkpoint_id passed evidence_ids reason checks c).2 := by
  by_cases ha : ∃ item, env.CanResolve checkpoint_id reason checks item c
  · obtain ⟨item, ha⟩ := ha
    have hlive : ¬ c.state.Final := by
      have := ha.playing
      simp only [List.mem_cons, List.not_mem_nil, or_false] at this
      rcases this with hs | hs <;> rw [hs] <;> decide
    have hset := h.setItem hlive checkpoint_id { c.items checkpoint_id with
      status := .delivered, delivered_at_seconds := some c.elapsed_seconds }
    have hrecord : Finality (recordResult checkpoint_id (resultOf passed) c) :=
      ⟨hset.quiet, hset.latched⟩
    obtain ⟨hsame, hadds⟩ := env.emitResolution_frame item checkpoint_id passed evidence_ids reason
      checks (recordResult checkpoint_id (resultOf passed) c)
    have hemit := hrecord.emitted hsame.state hadds (Or.inl (by decide))
    rw [env.resolveCheckpoint_accepted ha]
    cases hr : env.emitResolution item checkpoint_id passed evidence_ids reason checks
        (recordResult checkpoint_id (resultOf passed) c) with
    | mk r c' =>
        rw [hr] at hsame hemit
        cases r with
        | ok _ =>
            rw [Raising.bind_of_ok hr]
            refine finality_forEach (I := BranchesSettled (resultOf passed))
              (fun _ hs => hs.finality)
              (fun _ _ _ hs hC => env.branchesSettled_resolveBranch hs hC)
              ⟨hemit, fun hcompleted => ?_⟩ (hsmooth item c' ha hr)
            have hstate : c'.state = c.state := hsame.state
            rw [hstate] at hcompleted
            exact absurd (Or.inr hcompleted) hlive
        | error e =>
            rw [Raising.bind_of_error hr]
            exact hemit
  · obtain ⟨e, heq, -⟩ := env.resolveCheckpoint_refused (not_exists.mp ha) passed evidence_ids
    rw [heq]
    exact h

/-! ## Runs -/

theorem finality_init (run_id : String) (world : W) : Finality (env.init run_id world) :=
  ⟨trivial, fun _ hs => absurd hs List.not_mem_nil⟩

theorem finality_reset {c : ScenarioController W} (h : Finality c) (new_run_id : Option String) :
    Finality (env.reset new_run_id c).2 := by
  unfold reset
  rw [requireState_bind]
  split_ifs with hstate
  · rw [Raising.gets_bind_apply, Raising.step_bind_apply, Raising.modify_bind_apply]
    exact env.finality_emit (env.finality_init _ _) _ _ _ _ _ _ _ (Or.inl (by decide))
  · exact h

/-- The condition on one operation in the state it is performed in. -/
def SmoothStep (op : Operation) (c : ScenarioController W) : Prop :=
  match op with
  | .prepare => env.SmoothPrepare c
  | .start => env.SmoothStart c
  | .advance_to elapsed_seconds => env.SmoothAdvance elapsed_seconds c
  | .deliver item_id =>
      ∀ item, env.find item_id = .ok item → c.state ∈ playable → (c.items item_id).status.Open →
        ¬ env.Stops item c
  | .resolve_checkpoint checkpoint_id passed evidence_ids reason checks =>
      env.SmoothResolve checkpoint_id passed evidence_ids reason checks c
  | .pause => True
  | .resume => True
  | .skip _ _ => True
  | .fail_safe_stop _ => True
  | .reset _ => True

theorem finality_deliver {c : ScenarioController W} (h : Finality c) {item_id : String}
    (hsmooth : env.SmoothStep (.deliver item_id) c) : Finality (env.deliver item_id c).2 := by
  unfold deliver
  rw [requireState_bind]
  split_ifs with hstate
  · rw [Raising.ofExcept_bind_apply]
    cases hf : env.find item_id with
    | error e => exact h
    | ok item =>
        dsimp only
        rw [Raising.require_bind_apply]
        split_ifs with hopen
        · exact env.finality_deliverItem h (not_final_of_playable hstate)
            (hsmooth item hf hstate hopen) "facilitator"
        · exact h
  · exact h

/-- Every operation that meets its condition keeps finality. -/
theorem finality_perform (op : Operation) {c : ScenarioController W} (h : Finality c)
    (hsmooth : env.SmoothStep op c) : Finality (env.perform op c) := by
  cases op with
  | prepare => exact env.finality_prepare h hsmooth
  | start => exact env.finality_start h hsmooth
  | pause =>
      exact env.finality_changeState h (by decide) .paused _ _ (by decide)
  | resume =>
      exact env.finality_changeState h (by decide) .running _ _ (by decide)
  | advance_to elapsed_seconds => exact env.finality_advanceTo h elapsed_seconds hsmooth
  | deliver item_id => exact env.finality_deliver h hsmooth
  | skip item_id reason => exact env.finality_skip h item_id reason
  | resolve_checkpoint checkpoint_id passed evidence_ids reason checks =>
      exact env.finality_resolveCheckpoint h hsmooth
  | fail_safe_stop reason => exact env.finality_failSafeStop h reason
  | reset new_run_id => exact env.finality_reset h new_run_id

/-- In every run whose operations all meet their condition, every state reached has finality. -/
theorem finality_of_smooth (run_id : String) (world : W) (ops : List Operation)
    (hsmooth : EachMeets env.perform env.SmoothStep ops (env.init run_id world)) :
    ∀ c, Passes env.perform ops (env.init run_id world) c → Finality c :=
  fun _ hc => invariant_of_eachMeets (fun op _ h hC => env.finality_perform op h hC)
    (env.finality_init run_id world) hsmooth hc

/-! ## A scenario whose runs are smooth, and one whose are not -/

theorem not_stops_of_no_action {item : ScenarioItem} (h : item.action_id = none)
    (c : ScenarioController W) : ¬ env.Stops item c := by
  have hexec : env.execute item c = (.ok (.ok (item.summary, [])), c) := by
    unfold execute
    rw [h]
    rfl
  unfold Stops
  rw [hexec]
  exact not_not.mpr rfl

/-- Without handlers, and with every end item delivered by a facilitator, every operation is
smooth. -/
theorem smoothStep_of_inert (h : ∀ item ∈ env.definition.items,
      item.action_id = none ∧ (item.kind = .endMarker → item.Waits))
    (op : Operation) (c : ScenarioController W) : env.SmoothStep op c := by
  have hsmooth : ∀ item ∈ env.definition.items, ∀ rest c, env.Smooth item rest c :=
    fun item hitem rest c _ hw =>
      ⟨env.not_stops_of_no_action (h item hitem).1 c,
        fun hkind => absurd ((h item hitem).2 hkind) hw⟩
  have hadvance : ∀ t c, env.SmoothAdvance t c := by
    intro t c _ _
    refine Raising.LoopMeets.of_forall (fun item hitem rest c' => ?_) c
    exact hsmooth item (by simp [due, sortItems] at hitem; exact hitem.1) rest _
  cases op with
  | prepare =>
      intro _
      refine Raising.LoopMeets.of_forall (fun item hitem rest c' => ?_) c
      exact hsmooth item (by simp [preExercise, sortItems] at hitem; exact hitem.1) rest c'
  | start => exact fun c' _ => hadvance 0 c'
  | advance_to t => exact hadvance t c
  | deliver item_id =>
      intro item hf _ _
      exact env.not_stops_of_no_action (h item (env.find_eq_ok hf).2).1 c
  | resolve_checkpoint checkpoint_id passed evidence_ids reason checks =>
      intro item c' _ _
      refine Raising.LoopMeets.of_forall (fun branch hbranch rest c'' _ _ => ?_) c'
      exact hsmooth branch (env.mem_branches.mp hbranch).1 _ c''
  | pause | resume | skip _ _ | fail_safe_stop _ | reset _ => trivial

theorem sample_inert : ∀ item ∈ (sample .facilitator).definition.items,
    item.action_id = none ∧ (item.kind = .endMarker → item.Waits) := by
  decide

/-- A run of the small scenario with its end item in the hands of the facilitator. -/
theorem finality_of_smooth_sample :
    Finality (runAll (sample .facilitator).perform
      [.prepare, .start, .resolve_checkpoint "DP1" true [] "Contained" none, .advance_to 10,
        .deliver "END-1", .deliver "INJ-1", .fail_safe_stop "Too late"]
      ((sample .facilitator).init "run-1" ())) :=
  finality_of_smooth (sample .facilitator) "run-1" () _
    (EachMeets.of_forall _ (smoothStep_of_inert (sample .facilitator) sample_inert) _ _) _
    (Passes.last _ _ _)

/-- With an automatic end item, `advance_to` completes the run and then delivers the inject that is
due at the same time. -/
theorem play_goes_on_after_end :
    ¬ Finality (runAll (sample .automatic).perform [.start, .advance_to 10]
      ((sample .automatic).init "run-1" ())) := by
  have hjournal : ¬ FinalRespected (runAll (sample .automatic).perform [.start, .advance_to 10]
      ((sample .automatic).init "run-1" ())).journal := by
    decide +kernel
  exact not_finality hjournal

end Controller

end NetStrike.Orchestrator
