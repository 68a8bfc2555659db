import NetStrike.Orchestrator.Branches
import NetStrike.Orchestrator.Resolution

/-!
# Elapsed time

What the operations of the controller do to its clock. `Instant` describes the parts that happen at
one second: the clock stands still, and what they deliver is stamped with its reading. Only
`advance_to` moves the clock, and it does so item by item; `OnTime` is the invariant of its loop,
which holds at every exception as well. `Timely` is what one call leaves, and `Punctual` what every
state of a run satisfies: no pending item lies behind the clock.
-/

set_option autoImplicit false

namespace NetStrike.Orchestrator.Controller

open NetStrike.Foundation NetStrike.Shared

variable {W : Type}

/-! ## Deliveries -/

/-- How often the item became delivered since the run began. -/
def deliveries (c : ScenarioController W) (item_id : String) : Nat :=
  c.journal.count (.statusSet item_id .delivered)

/-- The entry assigns no status. -/
def NoStatus (e : JournalEntry) : Prop := ∀ id status, e ≠ .statusSet id status

theorem deliveries_of_adds {c c' : ScenarioController W} (h : Adds NoStatus c c') (id : String) :
    deliveries c' id = deliveries c id := by
  obtain ⟨es, hes, hall⟩ := h
  have hnone : es.count (.statusSet id .delivered) = 0 := by
    rw [List.count_eq_zero]
    exact fun hmem => hall _ hmem id .delivered rfl
  rw [deliveries, hes, List.count_append, hnone]
  rfl

theorem noStatus_of_emitted {t : String} {c c' : ScenarioController W}
    (h : Adds (EmittedType t) c c') : Adds NoStatus c c' := by
  refine h.mono ?_
  rintro e ⟨event, rfl, -⟩ id status ⟨⟩

theorem noStatus_of_handler {c c' : ScenarioController W} (h : Adds HandlerEntry c c') :
    Adds NoStatus c c' := by
  refine h.mono ?_
  rintro e he id status rfl
  exact he

/-- Statuses move forward, delivered items keep their runtime, and an item becomes delivered once,
when it leaves the open statuses. -/
structure Played (c c' : ScenarioController W) : Prop where
  forward : Forward c c'
  kept : ∀ id, DeliveredIn c id → c'.items id = c.items id
  counted : ∀ id, deliveries c' id = deliveries c id ∨
    (c.items id).status.Open ∧ ¬ (c'.items id).status.Open ∧
      deliveries c' id ≤ deliveries c id + 1

theorem Forward.open_of_open {c c' : ScenarioController W} (h : Forward c c') {id : String}
    (hopen : (c'.items id).status.Open) : (c.items id).status.Open := by
  have hlater := h id
  revert hlater hopen
  cases (c.items id).status <;> cases (c'.items id).status <;> simp [Later, ItemStatus.Open]

theorem Played.refl (c : ScenarioController W) : Played c c :=
  ⟨Std.Refl.refl c, fun _ _ => rfl, fun _ => Or.inl rfl⟩

theorem Played.trans {a b c : ScenarioController W} (h : Played a b) (h' : Played b c) :
    Played a c := by
  refine ⟨Trans.trans h.forward h'.forward, ?_, ?_⟩
  · intro id hid
    have hb : DeliveredIn b id := by
      unfold DeliveredIn
      rw [h.kept id hid]
      exact hid
    rw [h'.kept id hb, h.kept id hid]
  · intro id
    rcases h.counted id with heq | ⟨hopen, hclosed, hle⟩
    · rcases h'.counted id with heq' | ⟨hopen', hclosed', hle'⟩
      · exact Or.inl (heq'.trans heq)
      · rw [heq] at hle'
        exact Or.inr ⟨h.forward.open_of_open hopen', hclosed', hle'⟩
    · rcases h'.counted id with heq' | ⟨hopen', -, -⟩
      · rw [← heq'] at hle
        exact Or.inr ⟨hopen, fun hc => hclosed (h'.forward.open_of_open hc), hle⟩
      · exact absurd hopen' hclosed

/-- Where no runtime and no status entry is written, nothing was played. -/
theorem Played.of_items {c c' : ScenarioController W} (hitems : c'.items = c.items)
    (h : Adds NoStatus c c') : Played c c' :=
  ⟨Forward.of_items hitems, fun id _ => by rw [hitems], fun id => Or.inl (deliveries_of_adds h id)⟩

theorem not_delivered_of_open {s : ItemStatus} (h : s.Open) : s ≠ .delivered := by
  rintro rfl
  exact absurd h (by decide)

/-- An open item gets a later runtime. -/
theorem Played.setItem {c : ScenarioController W} {id : String} {runtime : ItemRuntime}
    (hopen : (c.items id).status.Open) (hlater : runtime.status ≠ .pending) :
    Played c (setItem id runtime c) := by
  refine ⟨Forward.setItem hopen hlater rfl, ?_, ?_⟩
  · intro j hj
    have hne : j ≠ id := by
      rintro rfl
      exact not_delivered_of_open hopen hj
    exact Function.update_of_ne hne _ _
  · intro j
    have hcount : deliveries (Controller.setItem id runtime c) j = deliveries c j +
        [JournalEntry.statusSet id runtime.status].count (.statusSet j .delivered) :=
      List.count_append
    by_cases hj : id = j ∧ runtime.status = .delivered
    · obtain ⟨rfl, hdelivered⟩ := hj
      refine Or.inr ⟨hopen, ?_, ?_⟩
      · show ¬ (Function.update c.items id runtime id).status.Open
        rw [Function.update_self, hdelivered]
        decide
      · rw [hcount]
        exact Nat.add_le_add_left List.count_le_length _
    · left
      rw [hcount, List.count_eq_zero.mpr, Nat.add_zero]
      rw [List.mem_singleton]
      rintro heq
      injection heq with hid hstatus
      exact hj ⟨hid.symm, hstatus.symm⟩

/-! ## One second -/

/-- What happens at one second: the clock stands still and stamps what is delivered. -/
structure Instant (c c' : ScenarioController W) : Prop extends Played c c' where
  elapsed_seconds : c'.elapsed_seconds = c.elapsed_seconds
  stamped : ∀ id, ¬ DeliveredIn c id → DeliveredIn c' id →
    (c'.items id).delivered_at_seconds = some c.elapsed_seconds

instance : Std.Refl (Instant (W := W)) :=
  ⟨fun c => ⟨Played.refl c, rfl, fun _ hc hc' => absurd hc' hc⟩⟩

instance : IsTrans (ScenarioController W) Instant := by
  refine ⟨fun a b c h h' => ⟨h.toPlayed.trans h'.toPlayed,
    h'.elapsed_seconds.trans h.elapsed_seconds, ?_⟩⟩
  intro id ha hc
  by_cases hb : DeliveredIn b id
  · rw [h'.kept id hb]
    exact h.stamped id ha hb
  · rw [← h.elapsed_seconds]
    exact h'.stamped id hb hc

/-- Where no runtime and no status entry is written, the second passes without a delivery. -/
theorem Instant.of_items {c c' : ScenarioController W}
    (helapsed : c'.elapsed_seconds = c.elapsed_seconds) (hitems : c'.items = c.items)
    (h : Adds NoStatus c c') : Instant c c' := by
  refine ⟨Played.of_items hitems h, helapsed, fun id hc hc' => absurd ?_ hc⟩
  unfold DeliveredIn at hc' ⊢
  rwa [hitems] at hc'

theorem Instant.of_emitted {t : String} {c c' : ScenarioController W} (hsame : SameRun c c')
    (h : Adds (EmittedType t) c c') : Instant c c' :=
  Instant.of_items hsame.elapsed_seconds hsame.items (noStatus_of_emitted h)

theorem Instant.setState (state : RunState) (c : ScenarioController W) :
    Instant c (setState state c) :=
  Instant.of_items rfl rfl (Adds.one rfl fun _ _ h => nomatch h)

/-- An open item gets a later runtime; a delivery carries the reading of the clock. -/
theorem Instant.setItem {c : ScenarioController W} {id : String} {runtime : ItemRuntime}
    (hopen : (c.items id).status.Open) (hlater : runtime.status ≠ .pending)
    (hstamp : runtime.status = .delivered →
      runtime.delivered_at_seconds = some c.elapsed_seconds) :
    Instant c (setItem id runtime c) := by
  refine ⟨Played.setItem hopen hlater, rfl, ?_⟩
  intro j hj hj'
  by_cases hid : j = id
  · subst hid
    unfold DeliveredIn Controller.setItem at hj'
    simp only [Function.update_self] at hj'
    show (Function.update c.items j runtime j).delivered_at_seconds = _
    rw [Function.update_self]
    exact hstamp hj'
  · unfold DeliveredIn Controller.setItem at hj'
    simp only [Function.update_of_ne hid] at hj'
    exact absurd hj' hj

variable (env : Controller W)

theorem instant_emit (event_type action message status : String) (item : Option ScenarioItem)
    (actor_role : String) (data : List (String × Json)) :
    (env.emit event_type action message status item actor_role data).Keeps Instant :=
  fun c =>
    have h := env.emit_frame event_type action message status item actor_role data c
    Instant.of_emitted h.1 h.2

theorem instant_failSafeStop (reason : String) : (env.failSafeStop reason).Keeps Instant := by
  unfold failSafeStop
  refine Raising.Keeps.bind (Raising.Keeps.require _ _) fun _ => ?_
  refine Raising.Keeps.bind (Raising.Keeps.require _ _) fun _ => ?_
  exact Raising.Keeps.bind (Raising.Keeps.modify (Instant.setState .stopped)) fun _ =>
    env.instant_emit _ _ _ _ _ _ _

/-- The handler of an item delivers nothing by itself. -/
theorem instant_execute (item : ScenarioItem) : (env.execute item).Keeps Instant := by
  intro c
  obtain ⟨outcome, c', heq, hboard, hadds, -⟩ := env.execute_spec item c
  rw [heq]
  exact Instant.of_items hboard.elapsed_seconds hboard.items (noStatus_of_handler hadds)

theorem instant_completeItem {item : ScenarioItem} {c : ScenarioController W}
    (hopen : (c.items item.item_id).status.Open) (actor_role message : String)
    (data : List (String × Json)) :
    Instant c (env.completeItem item actor_role message data c).2 := by
  obtain ⟨c', hsame, hadds, hcases⟩ := env.completeItem_cases item actor_role message data c
  have hset : Instant c (setItem item.item_id ⟨.delivered, some c.elapsed_seconds, none⟩ c) :=
    Instant.setItem hopen (fun h => nomatch h) fun _ => rfl
  have hemitted := Trans.trans hset (Instant.of_emitted hsame hadds)
  rcases hcases with ⟨e, heq⟩ | heq
  · rw [heq]
    exact hemitted
  · rw [heq]
    split_ifs
    · exact Trans.trans hemitted (Instant.setState .completed c')
    · exact hemitted

theorem instant_failItem {item : ScenarioItem} {c : ScenarioController W}
    (hopen : (c.items item.item_id).status.Open) (reason : String) (data : List (String × Json)) :
    Instant c (env.failItem item reason data c).2 := by
  obtain ⟨runtime, hfailed, hsame, hadds⟩ := env.failItem_frame item reason data c
  have hset : Instant c (setItem item.item_id runtime c) := by
    refine Instant.setItem hopen ?_ ?_
    · rw [hfailed]
      decide
    · rw [hfailed]
      exact fun h => nomatch h
  exact Trans.trans hset (Instant.of_emitted hsame hadds)

/-- To deliver an open item takes no time. -/
theorem instant_deliverItem {item : ScenarioItem} {c : ScenarioController W} (actor_role : String)
    (hopen : (c.items item.item_id).status.Open) :
    Instant c (env.deliverItem item actor_role c).2 := by
  obtain ⟨outcome, c', heq, hboard, hadds, -⟩ := env.execute_spec item c
  have hexecute : Instant c c' := by
    have := env.instant_execute item c
    rwa [heq] at this
  have hnote : Instant c' (note (.processed item actor_role) c') :=
    Instant.of_items rfl rfl (Adds.one rfl fun _ _ h => nomatch h)
  have hopen' : ((note (.processed item actor_role) c').items item.item_id).status.Open := by
    show (c'.items item.item_id).status.Open
    rwa [hboard.items]
  have hstart := Trans.trans hexecute hnote
  cases outcome with
  | ok m =>
      rw [env.deliverItem_of_ok actor_role heq]
      exact Trans.trans hstart (env.instant_completeItem hopen' _ _ _)
  | error m =>
      rw [env.deliverItem_of_error actor_role heq]
      exact Trans.trans hstart (env.instant_failItem hopen' _ _)

theorem instant_makeDue (item : ScenarioItem) : (env.makeDue item).Keeps Instant := by
  intro c
  by_cases hpending : (c.items item.item_id).status = .pending
  · by_cases hwaits : item.Waits
    · rw [env.makeDue_of_waits hpending hwaits]
      obtain ⟨runtime, hready, hsame, hadds⟩ := env.readyItem_frame item c
      have hset : Instant c (setItem item.item_id runtime c) := by
        refine Instant.setItem (Or.inl hpending) ?_ ?_
        · rw [hready]
          decide
        · rw [hready]
          exact fun h => nomatch h
      exact Trans.trans hset (Instant.of_emitted hsame hadds)
    · rw [env.makeDue_of_automatic hpending hwaits]
      exact env.instant_deliverItem "controller" (Or.inl hpending)
  · rw [env.makeDue_of_not_pending hpending]
    exact Std.Refl.refl c

theorem instant_skip (item_id reason : String) : (env.skip item_id reason).Keeps Instant := by
  intro c
  by_cases hcan : env.CanSkip item_id reason c
  · obtain ⟨runtime, hskipped, hsame, hadds⟩ := env.skip_frame hcan
    have hset : Instant c (setItem item_id runtime c) := by
      refine Instant.setItem hcan.isOpen ?_ ?_
      · rw [hskipped]
        decide
      · rw [hskipped]
        exact fun h => nomatch h
    exact Trans.trans hset (Instant.of_emitted hsame hadds)
  · obtain ⟨e, heq, -⟩ := env.skip_refused hcan
    rw [heq]
    exact Std.Refl.refl c

theorem instant_changeState (before after : RunState) (event_type action message : String) :
    (env.changeState before after event_type action message).Keeps Instant := by
  unfold changeState
  refine Raising.Keeps.bind (Raising.Keeps.require _ _) fun _ => ?_
  exact Raising.Keeps.bind (Raising.Keeps.modify (Instant.setState after)) fun _ =>
    env.instant_emit _ _ _ _ _ _ _

theorem instant_deliver (item_id : String) : (env.deliver item_id).Keeps Instant := by
  intro c
  unfold deliver
  rw [requireState_bind]
  split_ifs
  · rw [Raising.ofExcept_bind_apply]
    cases hfind : env.find item_id with
    | error e => exact Std.Refl.refl c
    | ok item =>
        dsimp only
        rw [Raising.require_bind_apply]
        split_ifs with hopen
        · refine env.instant_deliverItem "facilitator" ?_
          rwa [(env.find_eq_ok hfind).1]
        · exact Std.Refl.refl c
  · exact Std.Refl.refl c

theorem instant_recordResult {checkpoint_id : String} {c : ScenarioController W}
    (hopen : (c.items checkpoint_id).status.Open) (result : CheckpointOutcome) :
    Instant c (recordResult checkpoint_id result c) := by
  have hset : Instant c (setItem checkpoint_id { c.items checkpoint_id with
      status := .delivered, delivered_at_seconds := some c.elapsed_seconds } c) :=
    Instant.setItem hopen (by simp) fun _ => rfl
  exact Trans.trans hset (Instant.of_items rfl rfl (Adds.of_eq rfl))

theorem instant_resolveBranch (checkpoint_id : String) (result : CheckpointOutcome)
    (branch : ScenarioItem) :
    (env.resolveBranch checkpoint_id result branch).Keeps Instant := by
  intro c
  unfold resolveBranch
  rw [Raising.gets_bind_apply]
  split_ifs
  · exact Std.Refl.refl c
  · exact env.instant_makeDue branch c
  · exact env.instant_skip _ _ c

theorem instant_resolveCheckpoint (checkpoint_id : String) (passed : Bool)
    (evidence_ids : List String) (reason : String) (checks : Option Json) :
    (env.resolveCheckpoint checkpoint_id passed evidence_ids reason checks).Keeps Instant := by
  intro c
  by_cases hcan : ∃ item, env.CanResolve checkpoint_id reason checks item c
  · obtain ⟨item, hcan⟩ := hcan
    rw [env.resolveCheckpoint_accepted hcan]
    have hrest : (env.emitResolution item checkpoint_id passed evidence_ids reason checks >>=
        fun _ => Raising.forEach (env.resolveBranch checkpoint_id (resultOf passed))
          (env.branches checkpoint_id)).Keeps Instant :=
      Raising.Keeps.bind (env.instant_emit _ _ _ _ _ _ _) fun _ =>
        Raising.Keeps.forEach fun branch _ => env.instant_resolveBranch _ _ branch
    exact Trans.trans (instant_recordResult hcan.isOpen _) (hrest _)
  · obtain ⟨e, heq, -⟩ := env.resolveCheckpoint_refused
      (fun item h => hcan ⟨item, h⟩) passed evidence_ids
    rw [heq]
    exact Std.Refl.refl c

theorem instant_prepare : env.prepare.Keeps Instant := by
  unfold prepare
  refine Raising.Keeps.bind (Raising.Keeps.require _ _) fun _ => ?_
  exact Raising.Keeps.forEach fun item _ => env.instant_makeDue item

/-! ## Punctuality -/

/-- No pending item lies behind the clock. -/
def Punctual (c : ScenarioController W) : Prop :=
  ∀ item ∈ env.definition.items, ∀ s, seconds item = some s →
    (c.items item.item_id).status = .pending → c.elapsed_seconds ≤ s

theorem pending_of_forward {c c' : ScenarioController W} (h : Forward c c') {id : String}
    (hpending : (c'.items id).status = .pending) : (c.items id).status = .pending := by
  have hlater := h id
  rw [hpending] at hlater
  revert hlater
  cases (c.items id).status <;> simp [Later]

theorem Instant.punctual {env : Controller W} {c c' : ScenarioController W} (h : Instant c c')
    (hc : env.Punctual c) : env.Punctual c' := by
  intro item hitem s hs hpending
  rw [h.elapsed_seconds]
  exact hc item hitem s hs (pending_of_forward h.forward hpending)

/-- What is newly delivered is an automatic elapsed item, stamped with its own second. -/
def AtOwnSecond (c c' : ScenarioController W) : Prop :=
  ∀ id, ¬ DeliveredIn c id → DeliveredIn c' id →
    ∃ item ∈ env.definition.items, item.item_id = id ∧ ¬ item.Waits ∧
      ∃ s, seconds item = some s ∧ (c'.items id).delivered_at_seconds = some s

/-- What a call of `advance_to` leaves, whether it returned or raised. -/
structure Timely (c c' : ScenarioController W) : Prop extends Played c c' where
  elapsed_seconds : c.elapsed_seconds ≤ c'.elapsed_seconds
  stamped : env.AtOwnSecond c c'
  punctual : env.Punctual c'

/-- Where nothing but the journal and the clock's surroundings changed, the call was timely. -/
theorem Timely.of_items {env : Controller W} {c c' : ScenarioController W} (h : Instant c c')
    (hitems : c'.items = c.items) (hc : env.Punctual c) : env.Timely c c' := by
  refine ⟨h.toPlayed, h.elapsed_seconds.ge, fun id hid hid' => absurd ?_ hid, h.punctual hc⟩
  unfold DeliveredIn at hid' ⊢
  rwa [hitems] at hid'

theorem elapsed_advanceClock (elapsed_seconds : Int) (c : ScenarioController W) :
    (env.advanceClock elapsed_seconds c).2.elapsed_seconds = elapsed_seconds := by
  have hkeeps : (Raising.forEach (fun observer : Int → W → Except Exn Unit × W => do
      let outcome ← Raising.step fun c : ScenarioController W =>
        ((observer elapsed_seconds c.world).1,
          { c with world := (observer elapsed_seconds c.world).2 })
      Raising.ofExcept outcome) env.time_observers).Keeps
        (Raising.Same ScenarioController.elapsed_seconds) := by
    refine Raising.Keeps.forEach fun observer _ => ?_
    exact Raising.Keeps.bind (Raising.Keeps.step fun _ => rfl) fun r => Raising.Keeps.ofExcept r
  exact hkeeps { c with elapsed_seconds := elapsed_seconds }

theorem played_advanceClock (elapsed_seconds : Int) (c : ScenarioController W) :
    Played c (env.advanceClock elapsed_seconds c).2 :=
  have h := env.samePlay_advanceClock elapsed_seconds c
  Played.of_items h.items (Adds.of_eq h.journal)

/-! ## The due items of one call -/

/-- A due item that becomes delivered is the item itself, and an automatic one. -/
theorem makeDue_delivers {item : ScenarioItem} {c : ScenarioController W} {id : String}
    (hid : ¬ DeliveredIn c id) (hid' : DeliveredIn (env.makeDue item c).2 id) :
    id = item.item_id ∧ ¬ item.Waits := by
  unfold DeliveredIn at hid hid'
  by_cases hpending : (c.items item.item_id).status = .pending
  · by_cases hwaits : item.Waits
    · rw [env.makeDue_of_waits hpending hwaits] at hid'
      obtain ⟨runtime, hready, hsame, -⟩ := env.readyItem_frame item c
      rw [hsame.items] at hid'
      change (Function.update c.items item.item_id runtime id).status = .delivered at hid'
      by_cases heq : id = item.item_id
      · rw [heq, Function.update_self, hready] at hid'
        cases hid'
      · rw [Function.update_of_ne heq] at hid'
        exact absurd hid' hid
    · rw [env.makeDue_of_automatic hpending hwaits] at hid'
      refine ⟨?_, hwaits⟩
      by_contra hne
      rw [(env.delivery_deliverItem item "controller" c).others id hne] at hid'
      exact hid hid'
  · rw [env.makeDue_of_not_pending hpending] at hid'
    exact absurd hid' hid

/-- The invariant of the loop of `advance_to`, before the turns of the items `rest`: they are sorted
and lie between the clock and the limit, and no other pending item does. -/
structure OnTime (limit : Int) (start : ScenarioController W) (rest : List ScenarioItem)
    (c : ScenarioController W) : Prop extends env.Timely start c where
  sorted : rest.Pairwise fun a b => (seconds a).getD 0 ≤ (seconds b).getD 0
  ahead : ∀ item ∈ rest, item ∈ env.definition.items ∧
    ∃ s, seconds item = some s ∧ c.elapsed_seconds ≤ s ∧ s ≤ limit
  within : c.elapsed_seconds ≤ limit
  remaining : ∀ item ∈ env.definition.items, ∀ s, seconds item = some s →
    (c.items item.item_id).status = .pending → s ≤ limit → item ∈ rest

section Loop

variable {env} {limit : Int} {start c : ScenarioController W} {item : ScenarioItem}
  {rest : List ScenarioItem}

/-- To set the clock, and to notify its observers, keeps the invariant of any clock reading up to
which nothing is pending. -/
theorem Timely.clock (h : env.Timely start c) {s : Int} (hs : c.elapsed_seconds ≤ s)
    (hpunctual : ∀ i ∈ env.definition.items, ∀ s', seconds i = some s' →
      (c.items i.item_id).status = .pending → s ≤ s') :
    env.Timely start (env.advanceClock s c).2 := by
  have hitems := (env.samePlay_advanceClock s c).items
  refine ⟨h.toPlayed.trans (env.played_advanceClock s c), ?_, ?_, ?_⟩
  · rw [env.elapsed_advanceClock]
    exact h.elapsed_seconds.trans hs
  · intro id hid hid'
    unfold DeliveredIn at hid'
    rw [hitems] at hid' ⊢
    exact h.stamped id hid hid'
  · intro i hi s' hs' hpending
    rw [hitems] at hpending
    rw [env.elapsed_advanceClock]
    exact hpunctual i hi s' hs' hpending

/-- The clock moves to the second of the next item. -/
theorem OnTime.clock (h : env.OnTime limit start (item :: rest) c) {s : Int}
    (hs : seconds item = some s) :
    env.OnTime limit start (item :: rest) (env.advanceClock s c).2 := by
  obtain ⟨-, s₁, hs₁, hle, hlimit⟩ := h.ahead item List.mem_cons_self
  obtain rfl : s = s₁ := Option.some.inj (hs.symm.trans hs₁)
  have hsorted := List.pairwise_cons.mp h.sorted
  have hitems := (env.samePlay_advanceClock s c).items
  have hbefore : ∀ i ∈ rest, ∀ s', seconds i = some s' → s ≤ s' := by
    intro i hi s' hs'
    have := hsorted.1 i hi
    rwa [hs, hs'] at this
  refine ⟨h.toTimely.clock hle ?_, h.sorted, ?_, ?_, ?_⟩
  · intro i hi s' hs' hpending
    by_cases hfar : s' ≤ limit
    · rcases List.mem_cons.mp (h.remaining i hi s' hs' hpending hfar) with rfl | hrest
      · rw [hs] at hs'
        exact (Option.some.inj hs').le
      · exact hbefore i hrest s' hs'
    · exact hlimit.trans (not_le.mp hfar).le
  · intro i hi
    obtain ⟨hmem, s', hs', -, hlimit'⟩ := h.ahead i hi
    refine ⟨hmem, s', hs', ?_, hlimit'⟩
    rw [env.elapsed_advanceClock]
    rcases List.mem_cons.mp hi with rfl | hrest
    · rw [hs] at hs'
      exact (Option.some.inj hs').le
    · exact hbefore i hrest s' hs'
  · rw [env.elapsed_advanceClock]
    exact hlimit
  · intro i hi s' hs' hpending hfar
    rw [hitems] at hpending
    exact h.remaining i hi s' hs' hpending hfar

/-- At its own second the next item is made due. -/
theorem OnTime.due (h : env.OnTime limit start (item :: rest) c)
    (hs : seconds item = some c.elapsed_seconds) :
    env.OnTime limit start rest (env.makeDue item c).2 := by
  have hinstant := env.instant_makeDue item c
  refine ⟨⟨h.toPlayed.trans hinstant.toPlayed, ?_, ?_, hinstant.punctual h.punctual⟩,
    (List.pairwise_cons.mp h.sorted).2, ?_, ?_, ?_⟩
  · rw [hinstant.elapsed_seconds]
    exact h.elapsed_seconds
  · intro id hid hid'
    by_cases hdelivered : DeliveredIn c id
    · rw [hinstant.kept id hdelivered]
      exact h.stamped id hid hdelivered
    · obtain ⟨rfl, hwaits⟩ := env.makeDue_delivers hdelivered hid'
      exact ⟨item, (h.ahead item List.mem_cons_self).1, rfl, hwaits, c.elapsed_seconds, hs,
        hinstant.stamped _ hdelivered hid'⟩
  · intro i hi
    rw [hinstant.elapsed_seconds]
    exact h.ahead i (List.mem_cons_of_mem item hi)
  · rw [hinstant.elapsed_seconds]
    exact h.within
  · intro i hi s hs' hpending hfar
    have hbefore := pending_of_forward hinstant.forward hpending
    rcases List.mem_cons.mp (h.remaining i hi s hs' hbefore hfar) with rfl | hrest
    · exact absurd hpending (env.makeDue_not_pending i c)
    · exact hrest

/-- One turn of the loop; an observer or the sink may cut it short. -/
theorem OnTime.turn (h : env.OnTime limit start (item :: rest) c) :
    env.Timely start (env.advanceItem item c).2 ∧
      ((env.advanceItem item c).1 = .ok () →
        env.OnTime limit start rest (env.advanceItem item c).2) := by
  obtain ⟨-, s, hs, -, -⟩ := h.ahead item List.mem_cons_self
  have hclock := h.clock hs
  have helapsed := env.elapsed_advanceClock s c
  unfold advanceItem
  rw [hs, Option.getD_some]
  cases hr : env.advanceClock s c with
  | mk r c₁ =>
      rw [hr] at hclock helapsed
      cases r with
      | error e =>
          rw [Raising.bind_of_error hr]
          exact ⟨hclock.toTimely, fun hok => nomatch hok⟩
      | ok _ =>
          rw [Raising.bind_of_ok hr]
          have hdue := hclock.due (hs.trans (congrArg some helapsed.symm))
          exact ⟨hdue.toTimely, fun _ => hdue⟩

end Loop

/-- The order in which `advance_to` processes its items. -/
theorem sorted_due (elapsed_seconds : Int) (c : ScenarioController W) :
    (env.due elapsed_seconds c).Pairwise fun a b => (seconds a).getD 0 ≤ (seconds b).getD 0 := by
  have htotal : Std.Total fun a b : ScenarioItem => decide ((seconds a).getD 0 < (seconds b).getD 0 ∨
      (seconds a).getD 0 = (seconds b).getD 0 ∧ a.trigger.order ≤ b.trigger.order) = true := by
    refine ⟨fun a b => ?_⟩
    simp only [decide_eq_true_eq]
    omega
  have htrans : IsTrans ScenarioItem fun a b => decide ((seconds a).getD 0 < (seconds b).getD 0 ∨
      (seconds a).getD 0 = (seconds b).getD 0 ∧ a.trigger.order ≤ b.trigger.order) = true := by
    refine ⟨fun a b c => ?_⟩
    simp only [decide_eq_true_eq]
    omega
  refine List.Pairwise.imp ?_ (List.pairwise_insertionSort _ _)
  intro a b hab
  simp only [decide_eq_true_eq] at hab
  omega

theorem mem_due_iff {item : ScenarioItem} {limit : Int} {c : ScenarioController W} :
    item ∈ env.due limit c ↔ item ∈ env.definition.items ∧
      (∃ s, seconds item = some s ∧ s ≤ limit) ∧ (c.items item.item_id).status = .pending := by
  simp only [due, sortItems, List.mem_insertionSort, List.mem_filter, Bool.and_eq_true,
    decide_eq_true_eq]
  cases hs : seconds item <;> simp

/-- The invariant holds before the first turn. -/
theorem onTime_due {limit : Int} {c : ScenarioController W} (hc : env.Punctual c)
    (hlimit : c.elapsed_seconds ≤ limit) : env.OnTime limit c (env.due limit c) c := by
  refine ⟨Timely.of_items (Std.Refl.refl c) rfl hc, env.sorted_due limit c, ?_, hlimit, ?_⟩
  · intro item hitem
    obtain ⟨hmem, ⟨s, hs, hle⟩, hpending⟩ := env.mem_due_iff.mp hitem
    exact ⟨hmem, s, hs, hc item hmem s hs hpending, hle⟩
  · intro item hitem s hs hpending hle
    exact env.mem_due_iff.mpr ⟨hitem, ⟨s, hs, hle⟩, hpending⟩

/-- A call of `advance_to` is timely, wherever an exception cuts it. -/
theorem timely_advanceTo {c : ScenarioController W} (hc : env.Punctual c) (limit : Int) :
    env.Timely c (env.advanceTo limit c).2 := by
  have hunchanged : env.Timely c c := Timely.of_items (Std.Refl.refl c) rfl hc
  unfold advanceTo
  rw [requireState_bind]
  split_ifs
  · rw [Raising.require_bind_apply]
    split_ifs with hlimit
    · rw [Raising.gets_bind_apply]
      have hloop := @Raising.forEach_of_loopMeets _ _ _ env.advanceItem (fun _ _ _ => True)
        (env.OnTime limit c) (env.Timely c)
        (fun _ _ _ h _ => by
          obtain ⟨htimely, hok⟩ := h.turn
          split
          · next heq =>
              rw [heq] at hok
              exact hok rfl
          · next heq =>
              rw [heq] at htimely
              exact htimely)
        _ _ (env.onTime_due hc hlimit)
        (Raising.LoopMeets.of_forall (fun _ _ _ _ => trivial) c)
      cases hr : Raising.forEach env.advanceItem (env.due limit c) c with
      | mk r c' =>
          rw [hr] at hloop
          cases r with
          | ok _ =>
              rw [Raising.bind_of_ok hr]
              refine hloop.toTimely.clock hloop.within ?_
              intro i hi s hs hpending
              by_contra hlt
              exact absurd (hloop.remaining i hi s hs hpending (not_le.mp hlt).le)
                List.not_mem_nil
          | error e =>
              rw [Raising.bind_of_error hr]
              exact hloop
    · exact hunchanged
  · exact hunchanged

theorem items_changeState (before after : RunState) (event_type action message : String) :
    (env.changeState before after event_type action message).Keeps
      (Raising.Same ScenarioController.items) := by
  unfold changeState
  refine Raising.Keeps.bind (Raising.Keeps.require _ _) fun _ => ?_
  exact Raising.Keeps.bind (Raising.Keeps.modify fun _ => rfl) fun _ c =>
    (env.emit_frame _ _ _ _ _ _ _ c).1.items

theorem timely_start {c : ScenarioController W} (hc : env.Punctual c) :
    env.Timely c (env.start c).2 := by
  have hinstant := env.instant_changeState .ready .running "scenario.run.started" "scenario.start"
    s!"Started {env.definition.name}" c
  have hitems := env.items_changeState .ready .running "scenario.run.started" "scenario.start"
    s!"Started {env.definition.name}" c
  have hbegin := Timely.of_items hinstant hitems hc
  unfold start beginPlay
  cases hr : env.changeState .ready .running "scenario.run.started" "scenario.start"
      s!"Started {env.definition.name}" c with
  | mk r c' =>
      rw [hr] at hinstant hitems hbegin
      cases r with
      | error e =>
          rw [Raising.bind_of_error hr]
          exact hbegin
      | ok _ =>
          rw [Raising.bind_of_ok hr]
          have hadvance := env.timely_advanceTo hbegin.punctual 0
          refine ⟨hbegin.toPlayed.trans hadvance.toPlayed,
            hbegin.elapsed_seconds.trans hadvance.elapsed_seconds, ?_, hadvance.punctual⟩
          intro id hid hid'
          refine hadvance.stamped id ?_ hid'
          unfold DeliveredIn at hid ⊢
          rwa [show c'.items = c.items from hitems]

/-! ## Runs -/

/-- The operations that process due items by time. -/
def Operation.Advances : Operation → Prop
  | .start => True
  | .advance_to _ => True
  | _ => False

/-- The operation begins a new run. -/
def Operation.Resets : Operation → Prop
  | .reset _ => True
  | _ => False

/-- What one operation within a run does to clock and deliveries. -/
structure Lasts (c c' : ScenarioController W) : Prop extends Played c c' where
  elapsed_seconds : c.elapsed_seconds ≤ c'.elapsed_seconds
  punctual : env.Punctual c'

theorem Instant.lasts {env : Controller W} {c c' : ScenarioController W} (h : Instant c c')
    (hc : env.Punctual c) : env.Lasts c c' :=
  ⟨h.toPlayed, h.elapsed_seconds.ge, h.punctual hc⟩

theorem Timely.lasts {env : Controller W} {c c' : ScenarioController W} (h : env.Timely c c') :
    env.Lasts c c' :=
  ⟨h.toPlayed, h.elapsed_seconds, h.punctual⟩

theorem lasts_perform {op : Operation} (hop : ¬ op.Resets) {c : ScenarioController W}
    (hc : env.Punctual c) : env.Lasts c (env.perform op c) := by
  cases op with
  | prepare => exact (env.instant_prepare c).lasts hc
  | start => exact (env.timely_start hc).lasts
  | pause => exact (env.instant_changeState _ _ _ _ _ c).lasts hc
  | resume => exact (env.instant_changeState _ _ _ _ _ c).lasts hc
  | advance_to limit => exact (env.timely_advanceTo hc limit).lasts
  | deliver item_id => exact (env.instant_deliver item_id c).lasts hc
  | skip item_id reason => exact (env.instant_skip item_id reason c).lasts hc
  | resolve_checkpoint checkpoint_id passed evidence_ids reason checks =>
      exact (env.instant_resolveCheckpoint _ _ _ _ _ c).lasts hc
  | fail_safe_stop reason => exact (env.instant_failSafeStop reason c).lasts hc
  | reset new_run_id => exact absurd trivial hop

/-- A run without a reset. -/
theorem lasts_runAll {ops : List Operation} :
    (∀ op ∈ ops, ¬ op.Resets) → ∀ {c : ScenarioController W}, env.Punctual c →
      env.Lasts c (runAll env.perform ops c) := by
  induction ops with
  | nil => exact fun _ c hc => (Instant.lasts (Std.Refl.refl c) hc)
  | cons op ops ih =>
      intro hops c hc
      have hfirst := env.lasts_perform (hops op List.mem_cons_self) hc
      have hrest := ih (fun o ho => hops o (List.mem_cons_of_mem op ho)) hfirst.punctual
      exact ⟨hfirst.toPlayed.trans hrest.toPlayed,
        hfirst.elapsed_seconds.trans hrest.elapsed_seconds, hrest.punctual⟩

/-- An open item was never delivered, and no item twice. -/
def DeliveredOnce (c : ScenarioController W) : Prop :=
  ∀ id, deliveries c id ≤ 1 ∧ ((c.items id).status.Open → deliveries c id = 0)

theorem Played.deliveredOnce {c c' : ScenarioController W} (h : Played c c')
    (hc : DeliveredOnce c) : DeliveredOnce c' := by
  intro id
  obtain ⟨hle, hzero⟩ := hc id
  rcases h.counted id with heq | ⟨hopen, hclosed, hgrows⟩
  · rw [heq]
    exact ⟨hle, fun hopen => hzero (h.forward.open_of_open hopen)⟩
  · rw [hzero hopen] at hgrows
    exact ⟨hgrows, fun hopen' => absurd hopen' hclosed⟩

/-- The invariant of all runs. -/
structure ClockSound (c : ScenarioController W) : Prop where
  punctual : env.Punctual c
  once : DeliveredOnce c

theorem clockSound_init {value : Json}
    (hload : ScenarioDefinition.fromDict value = .ok env.definition) (run_id : String) (world : W) :
    env.ClockSound (env.init run_id world) := by
  refine ⟨fun item hitem s hs _ => ?_, fun id => ⟨Nat.zero_le 1, fun _ => rfl⟩⟩
  have hparsed := ScenarioDefinition.fromDict_parsed value _ hload item hitem
  refine hparsed.seconds s ?_
  unfold seconds at hs
  split at hs
  · next heq =>
      rw [heq, Option.some.inj hs]
  · cases hs

theorem clockSound_perform {value : Json}
    (hload : ScenarioDefinition.fromDict value = .ok env.definition) (op : Operation)
    {c : ScenarioController W} (hc : env.ClockSound c) : env.ClockSound (env.perform op c) := by
  by_cases hop : op.Resets
  · cases op with
    | reset new_run_id =>
        show env.ClockSound (env.reset new_run_id c).2
        unfold reset
        rw [requireState_bind]
        split_ifs
        · rw [Raising.gets_bind_apply, Raising.step_bind_apply, Raising.modify_bind_apply]
          have hinit := env.clockSound_init hload
          have hemit := fun c' : ScenarioController W => env.instant_emit "scenario.run.reset"
            "scenario.reset" "Controller state reset for a new run" "success" none "controller"
            [("previous_run_id", .str c.run_id)] c'
          exact ⟨(hemit _).punctual (hinit _ _).punctual,
            (hemit _).toPlayed.deliveredOnce (hinit _ _).once⟩
        · exact hc
    | _ => exact hop.elim
  · have hlasts := env.lasts_perform hop hc.punctual
    exact ⟨hlasts.punctual, hlasts.toPlayed.deliveredOnce hc.once⟩

theorem timely_perform {op : Operation} (hop : op.Advances) {c : ScenarioController W}
    (hc : env.Punctual c) : env.Timely c (env.perform op c) := by
  cases op with
  | start => exact env.timely_start hc
  | advance_to limit => exact env.timely_advanceTo hc limit
  | _ => exact hop.elim

/-- The clock of an accepted scenario is sound in every run, however observers and sink raise: no
pending item lies behind it and no item was delivered twice. From there, as long as nothing resets
the run, the clock never goes back, and what `start` or `advance_to` delivers is and stays stamped
with its own second. -/
theorem clock_sound {value : Json}
    (hload : ScenarioDefinition.fromDict value = .ok env.definition) (run_id : String) (world : W)
    (ops : List Operation) :
    env.Punctual (runAll env.perform ops (env.init run_id world)) ∧
      (∀ id, deliveries (runAll env.perform ops (env.init run_id world)) id ≤ 1) ∧
      ∀ op later, (∀ o ∈ op :: later, ¬ o.Resets) →
        (runAll env.perform ops (env.init run_id world)).elapsed_seconds ≤
            (runAll env.perform (ops ++ op :: later) (env.init run_id world)).elapsed_seconds ∧
          (op.Advances → ∀ id,
            ¬ DeliveredIn (runAll env.perform ops (env.init run_id world)) id →
            DeliveredIn (runAll env.perform (ops ++ [op]) (env.init run_id world)) id →
              ∃ item ∈ env.definition.items, item.item_id = id ∧ ¬ item.Waits ∧
                ∃ s, seconds item = some s ∧
                  ((runAll env.perform (ops ++ op :: later) (env.init run_id world)).items
                    id).delivered_at_seconds = some s) := by
  have hsound : env.ClockSound (runAll env.perform ops (env.init run_id world)) :=
    invariant_runAll (C := fun _ _ => True)
      (fun op c hc _ => env.clockSound_perform hload op hc) (env.clockSound_init hload run_id world)
      (EachMeets.of_forall _ (fun _ _ => trivial) ops _)
  refine ⟨hsound.punctual, fun id => (hsound.once id).1, fun op later hlater => ?_⟩
  simp only [runAll_append]
  refine ⟨(env.lasts_runAll hlater hsound.punctual).elapsed_seconds, fun hop id hid hid' => ?_⟩
  have hfirst := env.timely_perform hop hsound.punctual
  have hrest := env.lasts_runAll (fun o ho => hlater o (List.mem_cons_of_mem op ho))
    hfirst.punctual
  obtain ⟨item, hitem, hitemid, hwaits, s, hs, hstamp⟩ := hfirst.stamped id hid hid'
  refine ⟨item, hitem, hitemid, hwaits, s, hs, ?_⟩
  rw [runAll_cons, hrest.kept id hid']
  exact hstamp

/-- The small scenario as it is loaded. -/
theorem clock_sound_sample :
    (sample .automatic).Punctual (runAll (sample .automatic).perform [.start, .advance_to 12]
      ((sample .automatic).init "run-1" ())) :=
  ((sample .automatic).clock_sound fromDict_sampleValue "run-1" () [.start, .advance_to 12]).1

end NetStrike.Orchestrator.Controller
