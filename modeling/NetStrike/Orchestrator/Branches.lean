import NetStrike.Foundation.Runs
import NetStrike.Orchestrator.ControllerFrames

/-!
# Exclusive branches

`Exclusive` relates the item statuses, the recorded results and the journal: a checkpoint item is
delivered exactly when its result is recorded, no checkpoint has delivered branches of both outcomes,
and a branch that was processed automatically has the recorded outcome.

An operation keeps `Exclusive` exactly when it meets `FairStep` (`exclusive_perform_iff`), so a run
keeps it in every state exactly when all its operations do (`exclusive_iff_fair`). Manual deliveries
do not ask for a recorded outcome and break it (`manual_delivery_of_both_branches`).
-/

set_option autoImplicit false

namespace NetStrike.Orchestrator

open NetStrike.Foundation NetStrike.Shared

/-- The opposite outcome. -/
def CheckpointOutcome.other : CheckpointOutcome → CheckpointOutcome
  | pass => miss
  | miss => pass

@[simp] theorem CheckpointOutcome.other_other (o : CheckpointOutcome) : o.other.other = o := by
  cases o <;> rfl

theorem CheckpointOutcome.ne_iff {o p : CheckpointOutcome} : o ≠ p ↔ o = p.other := by
  cases o <;> cases p <;> simp [other]

/-- The trigger of a branch. -/
def ScenarioItem.IsBranch (item : ScenarioItem) (checkpoint_id : String)
    (outcome : CheckpointOutcome) : Prop :=
  item.trigger.trigger_type = .checkpoint checkpoint_id outcome

theorem ScenarioItem.isBranchOf_iff (item : ScenarioItem) (checkpoint_id : String) :
    item.isBranchOf checkpoint_id = true ↔ ∃ outcome, item.IsBranch checkpoint_id outcome := by
  unfold isBranchOf IsBranch
  split
  · next id outcome h => simp [h]
  · next h =>
      constructor
      · intro hf
        cases hf
      · rintro ⟨outcome, ho⟩
        exact absurd ho (h checkpoint_id outcome)

theorem ScenarioItem.branchOutcome_iff {item : ScenarioItem} {checkpoint_id : String}
    {outcome result : CheckpointOutcome} (h : item.IsBranch checkpoint_id outcome) :
    item.branchOutcome = some result ↔ outcome = result := by
  unfold IsBranch at h
  simp [branchOutcome, h]

namespace Controller

variable {W : Type} (env : Controller W)

/-- The item with the given id is delivered. -/
def DeliveredIn (c : ScenarioController W) (item_id : String) : Prop :=
  (c.items item_id).status = .delivered

/-- Delivered branches of both outcomes of one checkpoint. -/
def Clash (c : ScenarioController W) : Prop :=
  ∃ p ∈ env.definition.items, ∃ m ∈ env.definition.items, ∃ id,
    p.IsBranch id .pass ∧ m.IsBranch id .miss ∧ DeliveredIn c p.item_id ∧ DeliveredIn c m.item_id

/-- Checkpoint results and branches agree. -/
structure Exclusive (c : ScenarioController W) : Prop where
  resolved : ∀ item ∈ env.definition.items, item.kind = .checkpoint →
    (DeliveredIn c item.item_id ↔ c.checkpoint_results item.item_id ≠ none)
  exclusive : ¬ env.Clash c
  automatic : ∀ item, .processed item "controller" ∈ c.journal → ∀ id outcome,
    item.IsBranch id outcome → c.checkpoint_results id = some outcome

theorem eq_of_item_id {item item' : ScenarioItem} (h : item ∈ env.definition.items)
    (h' : item' ∈ env.definition.items) (hid : item.item_id = item'.item_id) : item = item' :=
  List.inj_on_of_nodup_map env.definition.ids_unique h h' hid

/-! ## Steps that deliver no checkpoint and no branch -/

/-- The item is a checkpoint or a branch. -/
def Special (item : ScenarioItem) : Prop :=
  item.kind = .checkpoint ∨ ∃ id outcome, item.IsBranch id outcome

/-- An automatically processed branch has the recorded outcome. -/
def AgreedEntry (c : ScenarioController W) (e : JournalEntry) : Prop :=
  ∀ item, e = .processed item "controller" → ∀ id outcome, item.IsBranch id outcome →
    c.checkpoint_results id = some outcome

/-- Checkpoints and branches are delivered as before, and the branches that were processed
automatically have the recorded outcome. -/
structure Inert (c c' : ScenarioController W) : Prop where
  kept : ∀ item ∈ env.definition.items, Special item →
    (DeliveredIn c' item.item_id ↔ DeliveredIn c item.item_id)
  results : c'.checkpoint_results = c.checkpoint_results
  journal : Adds (AgreedEntry c) c c'

theorem Inert.trans {env : Controller W} {a b c : ScenarioController W} (h : env.Inert a b)
    (h' : env.Inert b c) : env.Inert a c := by
  refine ⟨fun item hi hs => (h'.kept item hi hs).trans (h.kept item hi hs),
    h'.results.trans h.results, h.journal.trans (h'.journal.mono ?_)⟩
  intro e he item hitem id outcome hbranch
  rw [← h.results]
  exact he item hitem id outcome hbranch

instance : Std.Refl env.Inert := ⟨fun _ => ⟨fun _ _ _ => Iff.rfl, rfl, Adds.refl _ _⟩⟩

instance : IsTrans (ScenarioController W) env.Inert := ⟨fun _ _ _ => Inert.trans⟩

section Inert

variable {env} {c c' : ScenarioController W}

theorem Inert.clash_iff (h : env.Inert c c') : env.Clash c' ↔ env.Clash c := by
  constructor
  · rintro ⟨p, hp, m, hm, id, hpass, hmiss, hdp, hdm⟩
    exact ⟨p, hp, m, hm, id, hpass, hmiss, (h.kept p hp (Or.inr ⟨_, _, hpass⟩)).mp hdp,
      (h.kept m hm (Or.inr ⟨_, _, hmiss⟩)).mp hdm⟩
  · rintro ⟨p, hp, m, hm, id, hpass, hmiss, hdp, hdm⟩
    exact ⟨p, hp, m, hm, id, hpass, hmiss, (h.kept p hp (Or.inr ⟨_, _, hpass⟩)).mpr hdp,
      (h.kept m hm (Or.inr ⟨_, _, hmiss⟩)).mpr hdm⟩

/-- Inert steps keep `Exclusive`. -/
theorem Exclusive.of_inert (hc : env.Exclusive c) (h : env.Inert c c') : env.Exclusive c' := by
  constructor
  · intro item hi hkind
    rw [h.kept item hi (Or.inl hkind), h.results]
    exact hc.resolved item hi hkind
  · rw [h.clash_iff]
    exact hc.exclusive
  · intro item hitem id outcome hbranch
    obtain ⟨es, hes, hall⟩ := h.journal
    rw [hes] at hitem
    rcases List.mem_append.mp hitem with hitem | hitem
    · rw [h.results]
      exact hc.automatic item hitem id outcome hbranch
    · rw [h.results]
      exact hall _ hitem item rfl id outcome hbranch

theorem Inert.of_items (hitems : c'.items = c.items)
    (hresults : c'.checkpoint_results = c.checkpoint_results) (hjournal : Adds (AgreedEntry c) c c') :
    env.Inert c c' :=
  ⟨fun item _ _ => by unfold DeliveredIn; rw [hitems], hresults, hjournal⟩

theorem agreedEntry_of_emitted {t : String} (h : Adds (EmittedType t) c c') :
    Adds (AgreedEntry c) c c' := by
  refine h.mono ?_
  rintro e ⟨event, rfl, -⟩ item ⟨⟩

theorem Inert.of_emitted {t : String} (hsame : SameRun c c') (h : Adds (EmittedType t) c c') :
    env.Inert c c' :=
  .of_items hsame.items hsame.checkpoint_results (agreedEntry_of_emitted h)

theorem Inert.setState (c : ScenarioController W) (state : RunState) :
    env.Inert c (Controller.setState state c) :=
  .of_items rfl rfl (Adds.one rfl (by rintro item ⟨⟩))

/-- A runtime that is not delivered takes the place of another such runtime. -/
theorem Inert.setItem {id : String} {runtime : ItemRuntime} (h : ¬ DeliveredIn c id)
    (hr : runtime.status ≠ .delivered) : env.Inert c (Controller.setItem id runtime c) := by
  refine ⟨fun item _ _ => ?_, rfl, Adds.one rfl (by rintro item ⟨⟩)⟩
  show (Function.update c.items id runtime item.item_id).status = .delivered ↔ _
  by_cases hid : item.item_id = id
  · subst hid
    rw [Function.update_self]
    exact ⟨fun hd => absurd hd hr, fun hd => absurd hd h⟩
  · rw [Function.update_of_ne hid]
    rfl

theorem Inert.of_samePlay (h : SamePlay c c') : env.Inert c c' :=
  .of_items h.items h.checkpoint_results (Adds.of_eq h.journal)

end Inert

theorem not_deliveredIn_of_open {c : ScenarioController W} {id : String}
    (h : (c.items id).status.Open) : ¬ DeliveredIn c id := by
  unfold DeliveredIn
  rcases h with h | h <;> rw [h] <;> decide

theorem inert_emit (event_type action message status : String) (item : Option ScenarioItem)
    (actor_role : String) (data : List (String × Json)) :
    (env.emit event_type action message status item actor_role data).Keeps env.Inert := by
  intro c
  obtain ⟨hsame, hadds⟩ := env.emit_frame event_type action message status item actor_role data c
  exact .of_emitted hsame hadds

theorem inert_failSafeStop (reason : String) : (env.failSafeStop reason).Keeps env.Inert := by
  intro c
  by_cases ha : c.state ∈ playable ∧ ¬ Blank reason
  · rw [env.failSafeStop_accepted ha]
    exact (Inert.setState c .stopped).trans (env.inert_emit _ _ _ _ _ _ _ _)
  · obtain ⟨e, heq, -⟩ := env.failSafeStop_refused ha
    rw [heq]
    exact Std.Refl.refl c

theorem inert_skip (item_id reason : String) : (env.skip item_id reason).Keeps env.Inert := by
  intro c
  by_cases ha : env.CanSkip item_id reason c
  · obtain ⟨runtime, hskipped, hsame, hadds⟩ := env.skip_frame ha
    exact (Inert.setItem (not_deliveredIn_of_open ha.isOpen) (by rw [hskipped]; decide)).trans
      (Inert.of_emitted hsame hadds)
  · obtain ⟨e, heq, -⟩ := env.skip_refused ha
    rw [heq]
    exact Std.Refl.refl c

theorem inert_changeState (before after : RunState) (event_type action message : String) :
    (env.changeState before after event_type action message).Keeps env.Inert := by
  unfold changeState
  refine Raising.Keeps.bind (Raising.Keeps.require _ _) fun _ => ?_
  exact Raising.Keeps.bind (Raising.Keeps.modify fun c => Inert.setState c after) fun _ =>
    env.inert_emit _ _ _ _ _ _ _

theorem inert_advanceClock (elapsed_seconds : Int) :
    (env.advanceClock elapsed_seconds).Keeps env.Inert :=
  fun c => .of_samePlay (env.samePlay_advanceClock elapsed_seconds c)

/-! ## Deliveries -/

section Delivery

variable {env} {item : ScenarioItem} {c c' : ScenarioController W} {r : Except Exn Unit}

/-- A failed delivery, whose automatic entry agrees with the results, is inert. -/
theorem Delivery.inert_of_failed {role : String} (h : env.Delivery item role c r c')
    (hfail : ¬ env.Succeeds item c) (hopen : ¬ DeliveredIn c item.item_id)
    (hagreed : role = "controller" → ∀ id outcome, item.IsBranch id outcome →
      c.checkpoint_results id = some outcome) : env.Inert c c' := by
  refine ⟨fun j _ _ => ?_, h.checkpoint_results, h.journal.mono ?_⟩
  · unfold DeliveredIn
    by_cases hid : j.item_id = item.item_id
    · rw [hid, h.failed hfail]
      exact ⟨fun hd => (by cases hd), fun hd => absurd hd hopen⟩
    · rw [h.others j.item_id hid]
  · intro e he i hi id outcome hbranch
    obtain ⟨rfl, hrole⟩ := he i "controller" hi
    exact hagreed hrole.symm id outcome hbranch

/-- A delivery of an item that is neither a checkpoint nor a branch is inert. -/
theorem Delivery.inert_of_plain {role : String} (h : env.Delivery item role c r c')
    (hitem : item ∈ env.definition.items) (hplain : ¬ Special item) : env.Inert c c' := by
  refine ⟨fun j hj hs => ?_, h.checkpoint_results, h.journal.mono ?_⟩
  · have hid : j.item_id ≠ item.item_id := fun hid =>
      hplain (env.eq_of_item_id hj hitem hid ▸ hs)
    unfold DeliveredIn
    rw [h.others j.item_id hid]
  · intro e he i hi id outcome hbranch
    obtain ⟨rfl, -⟩ := he i "controller" hi
    exact absurd (Or.inr ⟨id, outcome, hbranch⟩) hplain

/-- A successful delivery adds its item to the delivered ones. -/
theorem Delivery.plays {role : String} (h : env.Delivery item role c r c')
    (hsucc : env.Succeeds item c) (id : String) :
    DeliveredIn c' id ↔ DeliveredIn c id ∨ id = item.item_id := by
  unfold DeliveredIn
  by_cases hid : id = item.item_id
  · rw [hid, h.delivered hsucc]
    simp
  · rw [h.others id hid]
    simp [hid]

end Delivery

/-- No branch of the opposite outcome is delivered. -/
def Compatible (item : ScenarioItem) (c : ScenarioController W) : Prop :=
  ∀ id outcome, item.IsBranch id outcome → ∀ j ∈ env.definition.items,
    j.IsBranch id outcome.other → ¬ DeliveredIn c j.item_id

/-- One more delivered item clashes exactly when it is not compatible. -/
theorem clash_iff_of_plays {item : ScenarioItem} {c c' : ScenarioController W}
    (hitem : item ∈ env.definition.items) (hclash : ¬ env.Clash c)
    (hplays : ∀ id, DeliveredIn c' id ↔ DeliveredIn c id ∨ id = item.item_id) :
    env.Clash c' ↔ ¬ env.Compatible item c := by
  constructor
  · rintro ⟨p, hp, m, hm, id, hpass, hmiss, hdp, hdm⟩ hcomp
    rcases (hplays p.item_id).mp hdp with hdp | hid
    · rcases (hplays m.item_id).mp hdm with hdm | hid
      · exact hclash ⟨p, hp, m, hm, id, hpass, hmiss, hdp, hdm⟩
      · obtain rfl := env.eq_of_item_id hm hitem hid
        exact hcomp id .miss hmiss p hp hpass hdp
    · obtain rfl := env.eq_of_item_id hp hitem hid
      rcases (hplays m.item_id).mp hdm with hdm | hid'
      · exact hcomp id .pass hpass m hm hmiss hdm
      · -- One item has one trigger.
        obtain rfl := env.eq_of_item_id hm hitem hid'
        unfold ScenarioItem.IsBranch at hpass hmiss
        rw [hpass] at hmiss
        cases hmiss
  · intro hcomp
    unfold Compatible at hcomp
    push Not at hcomp
    obtain ⟨id, outcome, hbranch, j, hj, hother, hdj⟩ := hcomp
    have hself : DeliveredIn c' item.item_id := (hplays _).mpr (Or.inr rfl)
    have hj' : DeliveredIn c' j.item_id := (hplays _).mpr (Or.inl hdj)
    cases outcome with
    | pass => exact ⟨item, hitem, j, hj, id, hbranch, hother, hself, hj'⟩
    | miss => exact ⟨j, hj, item, hitem, id, hother, hbranch, hj', hself⟩

/-- A staff delivery of a checkpoint or branch keeps `Exclusive` exactly when it is no checkpoint
and no opposite branch is delivered. -/
theorem exclusive_delivered_iff {item : ScenarioItem} {c c' : ScenarioController W}
    {r : Except Exn Unit} (hc : env.Exclusive c) (hitem : item ∈ env.definition.items)
    (hopen : ¬ DeliveredIn c item.item_id) (hsucc : env.Succeeds item c) {role : String}
    (hd : env.Delivery item role c r c')
    (hagreed : role = "controller" → ∀ id outcome, item.IsBranch id outcome →
      c.checkpoint_results id = some outcome) :
    env.Exclusive c' ↔ item.kind ≠ .checkpoint ∧ env.Compatible item c := by
  have hclash := env.clash_iff_of_plays hitem hc.exclusive (hd.plays hsucc)
  constructor
  · intro h
    refine ⟨fun hkind => ?_, not_not.mp fun hn => h.exclusive (hclash.mpr hn)⟩
    have hresult := (h.resolved item hitem hkind).mp (hd.delivered hsucc)
    rw [hd.checkpoint_results] at hresult
    exact hopen ((hc.resolved item hitem hkind).mpr hresult)
  · rintro ⟨hkind, hcomp⟩
    refine ⟨fun j hj hjkind => ?_, fun h => hclash.mp h hcomp, ?_⟩
    · have hid : j.item_id ≠ item.item_id := fun hid =>
        hkind (env.eq_of_item_id hj hitem hid ▸ hjkind)
      rw [hd.plays hsucc, or_iff_left hid, hd.checkpoint_results]
      exact hc.resolved j hj hjkind
    · intro i hi id outcome hbranch
      obtain ⟨es, hes, hall⟩ := hd.journal
      rw [hd.checkpoint_results]
      rw [hes] at hi
      rcases List.mem_append.mp hi with hi | hi
      · exact hc.automatic i hi id outcome hbranch
      · obtain ⟨rfl, hrole⟩ := hall _ hi i "controller" rfl
        exact hagreed hrole.symm id outcome hbranch

/-! ## Due items -/

theorem inert_readyItem {item : ScenarioItem} {c : ScenarioController W}
    (hopen : ¬ DeliveredIn c item.item_id) : env.Inert c (env.readyItem item c).2 := by
  obtain ⟨runtime, hready, hsame, hadds⟩ := env.readyItem_frame item c
  exact (Inert.setItem hopen (by rw [hready]; decide)).trans (Inert.of_emitted hsame hadds)

theorem not_deliveredIn_of_pending {c : ScenarioController W} {id : String}
    (h : (c.items id).status = .pending) : ¬ DeliveredIn c id :=
  not_deliveredIn_of_open (Or.inl h)

/-- Making an item due that is no branch is inert: a checkpoint only becomes ready. -/
theorem inert_makeDue {item : ScenarioItem} (hitem : item ∈ env.definition.items)
    (hbranch : ∀ id outcome, ¬ item.IsBranch id outcome) :
    (env.makeDue item).Keeps env.Inert := by
  intro c
  by_cases hpending : (c.items item.item_id).status = .pending
  · by_cases hw : item.Waits
    · rw [env.makeDue_of_waits hpending hw]
      exact env.inert_readyItem (not_deliveredIn_of_pending hpending)
    · rw [env.makeDue_of_automatic hpending hw]
      refine (env.delivery_deliverItem item "controller" c).inert_of_plain hitem ?_
      rintro (hkind | ⟨id, outcome, h⟩)
      · exact hw (Or.inr hkind)
      · exact hbranch id outcome h
  · rw [env.makeDue_of_not_pending hpending]
    exact Std.Refl.refl c

theorem mem_preExercise {item : ScenarioItem} (h : item ∈ env.preExercise) :
    item ∈ env.definition.items ∧ ∀ id outcome, ¬ item.IsBranch id outcome := by
  simp only [preExercise, sortItems, List.mem_insertionSort, List.mem_filter,
    decide_eq_true_eq] at h
  refine ⟨h.1, fun id outcome hb => ?_⟩
  unfold ScenarioItem.IsBranch at hb
  rw [h.2] at hb
  cases hb

theorem mem_due {item : ScenarioItem} {t : Int} {c : ScenarioController W}
    (h : item ∈ env.due t c) :
    item ∈ env.definition.items ∧ ∀ id outcome, ¬ item.IsBranch id outcome := by
  simp only [due, sortItems, List.mem_insertionSort, List.mem_filter] at h
  refine ⟨h.1, fun id outcome hb => ?_⟩
  unfold ScenarioItem.IsBranch at hb
  have h2 := h.2
  simp [seconds, hb] at h2

theorem inert_prepare : env.prepare.Keeps env.Inert := by
  unfold prepare
  refine Raising.Keeps.bind (Raising.Keeps.require _ _) fun _ => ?_
  exact Raising.Keeps.forEach fun item hi =>
    env.inert_makeDue (env.mem_preExercise hi).1 (env.mem_preExercise hi).2

theorem inert_advanceTo (elapsed_seconds : Int) :
    (env.advanceTo elapsed_seconds).Keeps env.Inert := by
  intro c
  unfold advanceTo
  rw [requireState_bind]
  split_ifs
  · rw [Raising.require_bind_apply]
    split_ifs
    · rw [Raising.gets_bind_apply]
      have hkeeps : (Raising.forEach env.advanceItem (env.due elapsed_seconds c) >>= fun _ =>
          env.advanceClock elapsed_seconds).Keeps env.Inert := by
        refine Raising.Keeps.bind (Raising.Keeps.forEach fun item hi => ?_) fun _ =>
          env.inert_advanceClock _
        exact Raising.Keeps.bind (env.inert_advanceClock _) fun _ =>
          env.inert_makeDue (env.mem_due hi).1 (env.mem_due hi).2
      exact hkeeps c
    · exact Std.Refl.refl c
  · exact Std.Refl.refl c

/-! ## Resolutions -/

theorem plays_recordResult (checkpoint_id : String) (result : CheckpointOutcome)
    (c : ScenarioController W) (id : String) :
    DeliveredIn (recordResult checkpoint_id result c) id ↔
      DeliveredIn c id ∨ id = checkpoint_id := by
  show (Function.update c.items checkpoint_id _ id).status = .delivered ↔ _
  by_cases hid : id = checkpoint_id
  · rw [hid, Function.update_self]
    simp
  · rw [Function.update_of_ne hid, or_iff_left hid]
    rfl

/-- Recording the result of an open checkpoint keeps `Exclusive` when the checkpoint, where it is
itself a branch, is compatible. -/
theorem exclusive_recordResult {item : ScenarioItem} {c : ScenarioController W}
    (result : CheckpointOutcome) (hc : env.Exclusive c) (hitem : item ∈ env.definition.items)
    (hkind : item.kind = .checkpoint) (hopen : ¬ DeliveredIn c item.item_id)
    (hcomp : env.Compatible item c) : env.Exclusive (recordResult item.item_id result c) := by
  have hnone : c.checkpoint_results item.item_id = none := by
    by_contra hsome
    exact hopen ((hc.resolved item hitem hkind).mpr hsome)
  have hplays := plays_recordResult item.item_id result c
  have hother : ∀ id, id ≠ item.item_id →
      (recordResult item.item_id result c).checkpoint_results id = c.checkpoint_results id :=
    fun id hid => Function.update_of_ne hid _ _
  refine ⟨fun j hj hjkind => ?_,
    fun h => (env.clash_iff_of_plays hitem hc.exclusive hplays).mp h hcomp, ?_⟩
  · by_cases hid : j.item_id = item.item_id
    · rw [hplays, hid]
      refine ⟨fun _ => ?_, fun _ => Or.inr rfl⟩
      show Function.update c.checkpoint_results item.item_id (some result) item.item_id ≠ none
      rw [Function.update_self]
      exact Option.some_ne_none result
    · rw [hplays, or_iff_left hid, hother j.item_id hid]
      exact hc.resolved j hj hjkind
  · intro i hi id outcome hbranch
    have hi' : .processed i "controller" ∈ c.journal := by
      have : JournalEntry.processed i "controller" ∈
          c.journal ++ [.statusSet item.item_id .delivered] := hi
      simpa using this
    have hsome := hc.automatic i hi' id outcome hbranch
    rw [hother id (fun hid => by rw [hid, hnone] at hsome; cases hsome)]
    exact hsome

/-- A branch that the loop delivers on its own finds no opposite branch delivered. -/
def FairBranch (result : CheckpointOutcome) (branch : ScenarioItem) (_rest : List ScenarioItem)
    (c : ScenarioController W) : Prop :=
  c.state ≠ .stopped → branch.branchOutcome = some result →
    (c.items branch.item_id).status = .pending → ¬ branch.Waits → env.Succeeds branch c →
      env.Compatible branch c

/-- What only moves items forward takes no delivery back. -/
theorem clash_of_forward {c c' : ScenarioController W} (h : Forward c c') (hclash : env.Clash c) :
    env.Clash c' := by
  have hkept : ∀ id, DeliveredIn c id → DeliveredIn c' id := by
    intro id hid
    have hlater := h id
    unfold DeliveredIn at hid ⊢
    rw [hid] at hlater
    exact hlater
  obtain ⟨p, hp, m, hm, id, hpass, hmiss, hdp, hdm⟩ := hclash
  exact ⟨p, hp, m, hm, id, hpass, hmiss, hkept _ hdp, hkept _ hdm⟩

/-- One turn of the resolution loop. -/
theorem exclusive_resolveBranch_iff {checkpoint_id : String} {result : CheckpointOutcome}
    {branch : ScenarioItem} {rest : List ScenarioItem} {c : ScenarioController W}
    (hbranch : branch ∈ env.branches checkpoint_id) (hc : env.Exclusive c)
    (hresult : c.checkpoint_results checkpoint_id = some result) :
    env.Exclusive (env.resolveBranch checkpoint_id result branch c).2 ↔
      env.FairBranch result branch rest c := by
  obtain ⟨hitem, hof⟩ := env.mem_branches.mp hbranch
  obtain ⟨outcome, houtcome⟩ := (branch.isBranchOf_iff checkpoint_id).mp hof
  unfold resolveBranch FairBranch
  rw [Raising.gets_bind_apply]
  split_ifs with hstopped hmatch
  · exact ⟨fun _ h => absurd hstopped h, fun _ => hc⟩
  · have hagreed : ∀ id outcome, branch.IsBranch id outcome →
        c.checkpoint_results id = some outcome := by
      intro id outcome' h'
      obtain rfl := (ScenarioItem.branchOutcome_iff h').mp hmatch
      unfold ScenarioItem.IsBranch at houtcome h'
      rw [houtcome] at h'
      injection h' with hid _
      rw [← hid]
      exact hresult
    by_cases hpending : (c.items branch.item_id).status = .pending
    · have hopen := not_deliveredIn_of_pending hpending
      by_cases hw : branch.Waits
      · rw [env.makeDue_of_waits hpending hw]
        exact ⟨fun _ _ _ _ h => absurd hw h, fun _ => hc.of_inert (env.inert_readyItem hopen)⟩
      · rw [env.makeDue_of_automatic hpending hw]
        have hd := env.delivery_deliverItem branch "controller" c
        by_cases hsucc : env.Succeeds branch c
        · rw [env.exclusive_delivered_iff hc hitem hopen hsucc hd fun _ => hagreed]
          have hkind : branch.kind ≠ .checkpoint := fun h => hw (Or.inr h)
          exact ⟨fun h _ _ _ _ _ => h.2, fun h => ⟨hkind, h hstopped hmatch hpending hw hsucc⟩⟩
        · exact ⟨fun _ _ _ _ _ h => absurd h hsucc,
            fun _ => hc.of_inert (hd.inert_of_failed hsucc hopen fun _ => hagreed)⟩
    · rw [env.makeDue_of_not_pending hpending]
      exact ⟨fun _ _ _ h => absurd h hpending, fun _ => hc⟩
  · exact ⟨fun _ _ h => absurd h hmatch, fun _ => hc.of_inert (env.inert_skip _ _ c)⟩

/-- A turn that is not fair delivers a branch next to a delivered opposite one. -/
theorem clash_of_not_fair {checkpoint_id : String} {result : CheckpointOutcome}
    {branch : ScenarioItem} {rest : List ScenarioItem} {c : ScenarioController W}
    (hitem : branch ∈ env.definition.items) (hc : env.Exclusive c)
    (hfair : ¬ env.FairBranch result branch rest c) :
    env.Clash (env.resolveBranch checkpoint_id result branch c).2 := by
  unfold FairBranch at hfair
  push Not at hfair
  obtain ⟨hstopped, hmatch, hpending, hw, hsucc, hcomp⟩ := hfair
  unfold resolveBranch
  rw [Raising.gets_bind_apply, if_neg hstopped, if_pos hmatch,
    env.makeDue_of_automatic hpending hw]
  exact (env.clash_iff_of_plays hitem hc.exclusive
    ((env.delivery_deliverItem branch "controller" c).plays hsucc)).mpr hcomp

/-- The loop keeps `Exclusive` exactly when each of its turns is fair. -/
theorem exclusive_resolveLoop_iff {checkpoint_id : String} {result : CheckpointOutcome} :
    ∀ {bs : List ScenarioItem} {c : ScenarioController W},
      (∀ b ∈ bs, b ∈ env.branches checkpoint_id) → env.Exclusive c →
      c.checkpoint_results checkpoint_id = some result →
      (env.Exclusive (Raising.forEach (env.resolveBranch checkpoint_id result) bs c).2 ↔
        Raising.LoopMeets (env.resolveBranch checkpoint_id result) (env.FairBranch result) bs c) := by
  intro bs
  induction bs with
  | nil => exact fun _ hc _ => ⟨fun _ => trivial, fun _ => hc⟩
  | cons b bs ih =>
      intro c hbs hc hresult
      have hturn : env.Exclusive (env.resolveBranch checkpoint_id result b c).2 ↔
          env.FairBranch result b bs c :=
        env.exclusive_resolveBranch_iff (hbs b List.mem_cons_self) hc hresult
      have hresults := env.results_resolveBranch checkpoint_id result b c
      unfold Raising.LoopMeets
      rw [Raising.forEach_cons]
      by_cases hfair : env.FairBranch result b bs c
      · have hnext := hturn.mpr hfair
        cases hr : env.resolveBranch checkpoint_id result b c with
        | mk r c' =>
            rw [hr] at hnext hresults
            cases r with
            | ok _ =>
                rw [Raising.bind_of_ok hr]
                have hrest := ih (fun b' hb' => hbs b' (List.mem_cons_of_mem b hb')) hnext
                  ((congrFun hresults checkpoint_id).trans hresult)
                exact hrest.trans ⟨fun h => ⟨hfair, h⟩, fun h => h.2⟩
            | error e =>
                rw [Raising.bind_of_error hr]
                exact ⟨fun _ => ⟨hfair, trivial⟩, fun _ => hnext⟩
      · -- Delivered branches stay delivered, so the clash outlasts the rest of the loop.
        refine ⟨fun h => absurd ?_ h.exclusive, fun h => absurd h.1 hfair⟩
        have hbroken : env.Clash (env.resolveBranch checkpoint_id result b c).2 :=
          env.clash_of_not_fair (env.mem_branches.mp (hbs b List.mem_cons_self)).1 hc hfair
        cases hr : env.resolveBranch checkpoint_id result b c with
        | mk r c' =>
            rw [hr] at hbroken
            cases r with
            | ok _ =>
                rw [Raising.bind_of_ok hr]
                exact env.clash_of_forward (env.forward_resolveLoop checkpoint_id result bs c') hbroken
            | error e =>
                rw [Raising.bind_of_error hr]
                exact hbroken

/-- The condition on a call of `resolve_checkpoint`. -/
def FairResolve (checkpoint_id : String) (passed : Bool) (evidence_ids : List String)
    (reason : String) (checks : Option Json) (c : ScenarioController W) : Prop :=
  ∀ item, env.CanResolve checkpoint_id reason checks item c →
    env.Compatible item c ∧
      ∀ c', env.emitResolution item checkpoint_id passed evidence_ids reason checks
          (recordResult checkpoint_id (resultOf passed) c) = (.ok (), c') →
        Raising.LoopMeets (env.resolveBranch checkpoint_id (resultOf passed))
          (env.FairBranch (resultOf passed)) (env.branches checkpoint_id) c'

theorem exclusive_resolveCheckpoint_iff {checkpoint_id : String} {passed : Bool}
    {evidence_ids : List String} {reason : String} {checks : Option Json}
    {c : ScenarioController W} (hc : env.Exclusive c) :
    env.Exclusive (env.resolveCheckpoint checkpoint_id passed evidence_ids reason checks c).2 ↔
      env.FairResolve checkpoint_id passed evidence_ids reason checks c := by
  by_cases ha : ∃ item, env.CanResolve checkpoint_id reason checks item c
  · obtain ⟨item, ha⟩ := ha
    obtain ⟨rfl, hitem⟩ := env.find_eq_ok ha.found
    have hunique : ∀ item', env.CanResolve item.item_id reason checks item' c → item' = item := by
      intro item' ha'
      have h := ha'.found.symm.trans ha.found
      injection h
    have hopen := not_deliveredIn_of_open ha.isOpen
    obtain ⟨hsame, hadds⟩ := env.emitResolution_frame item item.item_id passed evidence_ids reason
      checks (recordResult item.item_id (resultOf passed) c)
    have hinert : env.Inert (recordResult item.item_id (resultOf passed) c) _ :=
      Inert.of_emitted hsame hadds
    have hresult : (recordResult item.item_id (resultOf passed) c).checkpoint_results
        item.item_id = some (resultOf passed) := Function.update_self ..
    rw [env.resolveCheckpoint_accepted ha]
    unfold FairResolve
    by_cases hcomp : env.Compatible item c
    · have hrecord := (env.exclusive_recordResult (resultOf passed) hc hitem ha.kind hopen
        hcomp).of_inert hinert
      cases hr : env.emitResolution item item.item_id passed evidence_ids reason checks
          (recordResult item.item_id (resultOf passed) c) with
      | mk r c' =>
          rw [hr] at hinert hrecord
          cases r with
          | ok _ =>
              rw [Raising.bind_of_ok hr, env.exclusive_resolveLoop_iff (fun _ hb => hb) hrecord
                ((congrFun hinert.results item.item_id).trans hresult)]
              constructor
              · intro hloop item' ha'
                obtain rfl := hunique item' ha'
                refine ⟨hcomp, fun c'' hr' => ?_⟩
                rw [hr] at hr'
                injection hr' with _ hcc
                exact hcc ▸ hloop
              · exact fun h => (h item ha).2 c' hr
          | error e =>
              rw [Raising.bind_of_error hr]
              refine ⟨fun _ item' ha' => ?_, fun _ => hrecord⟩
              obtain rfl := hunique item' ha'
              refine ⟨hcomp, fun c'' hr' => ?_⟩
              rw [hr] at hr'
              injection hr' with h _
              cases h
    · -- The clash of the recorded checkpoint outlasts the loop.
      refine ⟨fun h => absurd ?_ h.exclusive, fun h => absurd (h item ha).1 hcomp⟩
      have hclash := hinert.clash_iff.mpr ((env.clash_iff_of_plays hitem hc.exclusive
        (plays_recordResult item.item_id (resultOf passed) c)).mpr hcomp)
      cases hr : env.emitResolution item item.item_id passed evidence_ids reason checks
          (recordResult item.item_id (resultOf passed) c) with
      | mk r c' =>
          rw [hr] at hclash
          cases r with
          | ok _ =>
              rw [Raising.bind_of_ok hr]
              exact env.clash_of_forward (env.forward_resolveLoop _ _ _ c') hclash
          | error e =>
              rw [Raising.bind_of_error hr]
              exact hclash
  · obtain ⟨e, heq, -⟩ := env.resolveCheckpoint_refused (not_exists.mp ha) passed evidence_ids
    rw [heq]
    exact ⟨fun _ item hitem => absurd ⟨item, hitem⟩ ha, fun _ => hc⟩

/-! ## Runs -/

/-- The condition on one operation in the state it is performed in. -/
def FairStep (op : Operation) (c : ScenarioController W) : Prop :=
  match op with
  | .deliver item_id =>
      ∀ item, env.find item_id = .ok item → c.state ∈ playable → (c.items item_id).status.Open →
        env.Succeeds item c → item.kind ≠ .checkpoint ∧ env.Compatible item c
  | .resolve_checkpoint checkpoint_id passed evidence_ids reason checks =>
      env.FairResolve checkpoint_id passed evidence_ids reason checks c
  | .prepare => True
  | .start => True
  | .advance_to _ => True
  | .pause => True
  | .resume => True
  | .skip _ _ => True
  | .fail_safe_stop _ => True
  | .reset _ => True

theorem exclusive_deliver_iff {item_id : String} {c : ScenarioController W}
    (hc : env.Exclusive c) :
    env.Exclusive (env.deliver item_id c).2 ↔ env.FairStep (.deliver item_id) c := by
  unfold deliver FairStep
  rw [requireState_bind]
  split_ifs with hstate
  · rw [Raising.ofExcept_bind_apply]
    cases hf : env.find item_id with
    | error e =>
        refine ⟨fun _ item h => ?_, fun _ => hc⟩
        rw [hf] at h
        cases h
    | ok item =>
        dsimp only
        rw [Raising.require_bind_apply]
        obtain ⟨rfl, hitem⟩ := env.find_eq_ok hf
        split_ifs with hopen
        · have hd := env.delivery_deliverItem item "facilitator" c
          have hrole : ("facilitator" : String) ≠ "controller" := by decide
          by_cases hsucc : env.Succeeds item c
          · rw [env.exclusive_delivered_iff hc hitem (not_deliveredIn_of_open hopen) hsucc hd
              fun h => absurd h hrole]
            constructor
            · intro h item' hitem' _ _ _
              have heq := hf.symm.trans hitem'
              injection heq with heq
              exact heq ▸ h
            · exact fun h => h item hf hstate hopen hsucc
          · refine ⟨fun _ item' hitem' _ _ hs => ?_, fun _ => hc.of_inert
              (hd.inert_of_failed hsucc (not_deliveredIn_of_open hopen) fun h => absurd h hrole)⟩
            have heq := hf.symm.trans hitem'
            injection heq with heq
            exact absurd (heq ▸ hs) hsucc
        · exact ⟨fun _ _ _ _ h => absurd h hopen, fun _ => hc⟩
  · exact ⟨fun _ _ _ h => absurd h hstate, fun _ => hc⟩

theorem exclusive_init (run_id : String) (world : W) : env.Exclusive (env.init run_id world) := by
  refine ⟨fun item _ _ => ?_, ?_, fun item hi => absurd hi List.not_mem_nil⟩
  · exact ⟨fun h => (by cases h), fun h => absurd rfl h⟩
  · rintro ⟨p, -, m, -, id, -, -, hdp, -⟩
    cases hdp

theorem exclusive_reset {c : ScenarioController W} (hc : env.Exclusive c)
    (new_run_id : Option String) : env.Exclusive (env.reset new_run_id c).2 := by
  unfold reset
  rw [requireState_bind]
  split_ifs
  · rw [Raising.gets_bind_apply, Raising.step_bind_apply, Raising.modify_bind_apply]
    exact (env.exclusive_init _ _).of_inert (env.inert_emit _ _ _ _ _ _ _ _)
  · exact hc

theorem inert_start : env.start.Keeps env.Inert :=
  Raising.Keeps.bind (env.inert_changeState _ _ _ _ _) fun _ => env.inert_advanceTo 0

/-- An operation keeps `Exclusive` exactly when it meets its condition. -/
theorem exclusive_perform_iff (op : Operation) (c : ScenarioController W) (hc : env.Exclusive c) :
    env.Exclusive (env.perform op c) ↔ env.FairStep op c := by
  have of_inert : ∀ {m : Py (ScenarioController W) Unit}, m.Keeps env.Inert →
      (env.Exclusive (m c).2 ↔ True) :=
    fun hm => iff_of_true (hc.of_inert (hm c)) trivial
  cases op with
  | prepare => exact of_inert env.inert_prepare
  | start => exact of_inert env.inert_start
  | pause => exact of_inert (env.inert_changeState _ _ _ _ _)
  | resume => exact of_inert (env.inert_changeState _ _ _ _ _)
  | advance_to elapsed_seconds => exact of_inert (env.inert_advanceTo elapsed_seconds)
  | deliver item_id => exact env.exclusive_deliver_iff hc
  | skip item_id reason => exact of_inert (env.inert_skip item_id reason)
  | resolve_checkpoint checkpoint_id passed evidence_ids reason checks =>
      exact env.exclusive_resolveCheckpoint_iff hc
  | fail_safe_stop reason => exact of_inert (env.inert_failSafeStop reason)
  | reset new_run_id => exact iff_of_true (env.exclusive_reset hc new_run_id) trivial

/-- A run keeps checkpoints and branches exclusive in every state it reaches exactly when all its
operations meet their condition. -/
theorem exclusive_iff_fair (run_id : String) (world : W) (ops : List Operation) :
    (∀ c, Passes env.perform ops (env.init run_id world) c → env.Exclusive c) ↔
      EachMeets env.perform env.FairStep ops (env.init run_id world) :=
  passes_iff_eachMeets (K := fun _ => True) (fun _ _ _ _ => trivial)
    (fun op c _ hc => env.exclusive_perform_iff op c hc) trivial (env.exclusive_init run_id world)

/-! ## Both branches by hand -/

theorem sample_clash {endDelivery : DeliveryMode} {c : ScenarioController Unit}
    (h : DeliveredIn c "PASS-1" ∧ DeliveredIn c "MISS-1") : (sample endDelivery).Clash c :=
  ⟨_, .tail _ (.head _), _, .tail _ (.tail _ (.head _)), "DP1", rfl, rfl, h.1, h.2⟩

theorem not_exclusive {c : ScenarioController W} (h : env.Clash c) : ¬ env.Exclusive c :=
  fun hc => hc.exclusive h

/-- Staff deliver both branches of `DP1` before it is resolved. -/
theorem manual_delivery_of_both_branches :
    ¬ (sample .automatic).Exclusive (runAll (sample .automatic).perform
      [.start, .deliver "PASS-1", .deliver "MISS-1"] ((sample .automatic).init "run-1" ())) := by
  refine not_exclusive _ (sample_clash ?_)
  unfold DeliveredIn
  decide +kernel

end Controller

end NetStrike.Orchestrator
