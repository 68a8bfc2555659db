import NetStrike.Modules.ImpactRecovery

/-!
# Runs of the impact fixture

A run is a list of calls, with anything done to the directories between them (`FixtureOp.disturb`).
Every action of a run has all of its effect or none (`impact_calls_atomic`), and a rollback that
raises on a known token has spent it (`rollback_of_found`). Where nothing is disturbed, each original
stays in exactly one place (`originals_kept`).
-/

set_option autoImplicit false

namespace NetStrike.Modules

open NetStrike.Foundation NetStrike.Foundation.Checked NetStrike.Shared

/-! ## Calls and their runs -/

/-- A call on the fixture, or a change of its directories by somebody else. -/
inductive FixtureOp (W : Type) where
  | apply (variant : String) (checkpoint : Py W Unit)
  | restore (checkpoint : Py W Unit)
  | rollback (name : String) (checkpoint : Py W Unit)
  | disturb (run_root : Place) (live backup staging : FixtureDirectory)

namespace ImpactEnv

open ImpactFixture

variable {W : Type} (env : ImpactEnv W)

/-- The fixture after a call. -/
def perform : FixtureOp W → ImpactFixture W → ImpactFixture W
  | .apply variant checkpoint, f => (env.applyMarkers variant checkpoint f).2
  | .restore checkpoint, f => (env.restoreFixture checkpoint f).2
  | .rollback name checkpoint, f => (rollback name checkpoint f).2
  | .disturb run_root live backup staging, f =>
      { f with run_root := run_root, live := live, backup := backup, staging := staging }

end ImpactEnv

namespace ImpactFixture

variable {W : Type}

theorem token_injective : Function.Injective token := by
  intro m n h
  exact Nat.repr_injective ((String.append_right_inj "impact-rb-").mp h)

/-- The names in every saved snapshot are distinct. -/
def WellSaved (f : ImpactFixture W) : Prop :=
  ∀ entry ∈ f.rollbacks, (entry.2.live.map Prod.fst).Nodup ∧ (entry.2.staging.map Prod.fst).Nodup

theorem Spared.numbered {f f' : ImpactFixture W} (h : Spared f f') (hn : f.Numbered) :
    f'.Numbered := by
  obtain ⟨w, n, hle, rfl⟩ := h
  exact fun m hm => hn m (lt_of_le_of_lt hle hm)

theorem Spared.wellSaved {f f' : ImpactFixture W} (h : Spared f f') (hs : f.WellSaved) :
    f'.WellSaved := by
  obtain ⟨w, n, -, rfl⟩ := h
  exact hs

theorem Saved.numbered {f f' : ImpactFixture W} {name : String} (h : Saved f f' name)
    (hn : f.Numbered) : f'.Numbered := by
  intro m hm
  obtain ⟨snapshot, -, hrollbacks⟩ := h.rollbacks
  rw [h.rollback_sequence] at hm
  have hne : token m ≠ name := by
    rw [h.name_eq]
    intro heq
    have := token_injective heq
    omega
  rw [hrollbacks, lookup_setEntry_of_ne hne]
  exact hn m (by omega)

theorem Saved.wellSaved {f f' : ImpactFixture W} {name : String} (h : Saved f f' name)
    (hs : f.WellSaved) : f'.WellSaved := by
  obtain ⟨snapshot, hshows, hrollbacks⟩ := h.rollbacks
  intro entry hentry
  rw [hrollbacks] at hentry
  rcases mem_of_mem_setEntry hentry with rfl | hold
  · exact ⟨names_nodup hshows.live, names_nodup hshows.staging⟩
  · exact hs entry hold

/-! ## Rollbacks -/

/-- What putting back a snapshot comes to, by which of the directories can be replaced. -/
inductive PutBack (snapshot : FixtureSnapshot) (f : ImpactFixture W) :
    Except Exn Unit → ImpactFixture W → Prop where
  | restored (live staging : FixtureDirectory) (hlive : f.Clean .live) (hstaging : f.Clean .staging)
      (hfiles : live.entries = snapshot.live.map asEntry)
      (hstaged : staging.entries = snapshot.staging.map asEntry) (hplace : live.place = .real)
      (hplace' : staging.place = .real) :
      PutBack snapshot f (.ok ()) { f with
        live := live, staging := staging, last_report := snapshot.last_report }
  | refused (e : Exn) (hlive : ¬ f.Clean .live) : PutBack snapshot f (.error e) f
  | half (e : Exn) (live : FixtureDirectory) (hlive : f.Clean .live) (hstaging : ¬ f.Clean .staging)
      (hfiles : live.entries = snapshot.live.map asEntry) (hplace : live.place = .real) :
      PutBack snapshot f (.error e) { f with live := live }

theorem putBack_restoreSnapshot {snapshot : FixtureSnapshot}
    (hlive : (snapshot.live.map Prod.fst).Nodup) (hstaging : (snapshot.staging.map Prod.fst).Nodup)
    (f : ImpactFixture W) :
    PutBack snapshot f (restoreSnapshot snapshot f).1 (restoreSnapshot snapshot f).2 := by
  by_cases hclean : f.Clean .live
  swap
  · obtain ⟨e, he⟩ := replaceInventory_of_not_clean hclean snapshot.live
    rw [restoreSnapshot, Raising.bind_of_error he]
    exact .refused e hclean
  obtain ⟨d, hreplace, hplace, hentries⟩ := replaceInventory_of_clean hclean _ hlive
  have hplace : d.place = .real := hplace.trans (hclean.real.directory .live)
  -- The staging directory is as clean as before.
  have hiff : (f.setDirectory d .live).Clean .staging ↔ f.Clean .staging := by
    constructor
    · exact fun h => ⟨hclean.real, h.regular⟩
    · intro h
      refine ⟨⟨hclean.real.run_root, fun part => ?_⟩, h.regular⟩
      cases part with
      | live => exact hplace
      | backup => exact hclean.real.directory .backup
      | staging => exact hclean.real.directory .staging
  by_cases hclean' : f.Clean .staging
  · obtain ⟨d', hreplace', hplace', hentries'⟩ :=
      replaceInventory_of_clean (hiff.mpr hclean') _ hstaging
    rw [restoreSnapshot, Raising.bind_of_ok hreplace, Raising.bind_of_ok hreplace']
    exact .restored d d' hclean hclean' hentries hentries' hplace
      (hplace'.trans (hclean.real.directory .staging))
  · obtain ⟨e, he⟩ := replaceInventory_of_not_clean (fun h => hclean' (hiff.mp h)) snapshot.staging
    rw [restoreSnapshot, Raising.bind_of_ok hreplace, Raising.bind_of_error he]
    exact .half e d hclean hclean' hentries hplace

theorem rollback_of_raised {f : ImpactFixture W} {name : String} {checkpoint : Py W Unit} {e : Exn}
    {w : W} (h : checkpoint f.world = (.error e, w)) :
    rollback name checkpoint f = (.error e, { f with world := w }) := by
  have hworld : onWorld checkpoint f = (.error e, { f with world := w }) := by
    rw [onWorld_eq, h]
  rw [rollback, Raising.bind_of_error hworld]

theorem rollback_of_unknown {f : ImpactFixture W} {name : String} {checkpoint : Py W Unit} {w : W}
    (h : checkpoint f.world = (.ok (), w)) (hunknown : f.rollbacks.lookup name = none) :
    rollback name checkpoint f =
      (.error (failed "invalid_rollback" "Unknown or already-used rollback token"),
        { f with world := w }) := by
  have hworld : onWorld checkpoint f = (.ok (), { f with world := w }) := by
    rw [onWorld_eq, h]
  rw [rollback, Raising.bind_of_ok hworld,
    Raising.bind_of_error (popSnapshot_of_unknown (f := { f with world := w }) _ hunknown)]

/-- A rollback under a known token. -/
theorem rollback_of_found {f : ImpactFixture W} {name : String} {checkpoint : Py W Unit} {w : W}
    {snapshot : FixtureSnapshot} (hsaved : f.WellSaved) (h : checkpoint f.world = (.ok (), w))
    (hfound : f.rollbacks.lookup name = some snapshot) :
    ∃ outcome, PutBack snapshot { f with world := w, rollbacks := popEntry name f.rollbacks } outcome
        (rollback name checkpoint f).2 ∧
      (rollback name checkpoint f).1 =
        outcome.map fun _ => ["restored pre-action disposable fixture"] := by
  have hworld : onWorld checkpoint f = (.ok (), { f with world := w }) := by
    rw [onWorld_eq, h]
  obtain ⟨before, after, heq, -⟩ := List.lookup_eq_some_iff.mp hfound
  obtain ⟨hlive, hstaging⟩ := hsaved (name, snapshot) (by rw [heq]; simp)
  have hputs := putBack_restoreSnapshot hlive hstaging
    { f with world := w, rollbacks := popEntry name f.rollbacks }
  rw [rollback, Raising.bind_of_ok hworld,
    Raising.bind_of_ok (popSnapshot_of_found (f := { f with world := w }) _ hfound)]
  cases hput : restoreSnapshot snapshot
      { f with world := w, rollbacks := popEntry name f.rollbacks } with
  | mk outcome s =>
      rw [hput] at hputs
      cases outcome with
      | error e =>
          rw [Raising.bind_of_error hput]
          exact ⟨_, hputs, rfl⟩
      | ok u =>
          rw [Raising.bind_of_ok hput]
          exact ⟨_, hputs, rfl⟩

/-- A rollback raises before it has touched anything, or it spends its token and puts back the
snapshot as far as the directories can be replaced. -/
theorem rollback_outcome {f : ImpactFixture W} (hsaved : f.WellSaved) (name : String)
    (checkpoint : Py W Unit) :
    Spared f (rollback name checkpoint f).2 ∨
      ∃ snapshot w outcome, f.rollbacks.lookup name = some snapshot ∧
        PutBack snapshot { f with world := w, rollbacks := popEntry name f.rollbacks } outcome
          (rollback name checkpoint f).2 := by
  rcases hcheck : checkpoint f.world with ⟨e | u, w⟩
  · rw [rollback_of_raised hcheck]
    exact Or.inl ⟨w, _, le_rfl, rfl⟩
  cases hfound : f.rollbacks.lookup name with
  | none =>
      rw [rollback_of_unknown hcheck hfound]
      exact Or.inl ⟨w, _, le_rfl, rfl⟩
  | some snapshot =>
      obtain ⟨outcome, hputs, -⟩ := rollback_of_found hsaved hcheck hfound
      exact Or.inr ⟨snapshot, w, outcome, rfl, hputs⟩

theorem PutBack.rollbacks {snapshot : FixtureSnapshot} {f f' : ImpactFixture W}
    {outcome : Except Exn Unit} (h : PutBack snapshot f outcome f') :
    f'.rollbacks = f.rollbacks ∧ f'.rollback_sequence = f.rollback_sequence := by
  cases h with
  | restored => exact ⟨rfl, rfl⟩
  | refused => exact ⟨rfl, rfl⟩
  | half => exact ⟨rfl, rfl⟩

/-! ## Runs with disturbances -/

/-- What holds of the tokens whatever happens to the files. -/
structure Bookkept (f : ImpactFixture W) : Prop where
  numbered : f.Numbered
  wellSaved : f.WellSaved

theorem Spared.bookkept {f f' : ImpactFixture W} (h : Spared f f') (hb : f.Bookkept) :
    f'.Bookkept := ⟨h.numbered hb.numbered, h.wellSaved hb.wellSaved⟩

theorem Saved.bookkept {f f' : ImpactFixture W} {name : String} (h : Saved f f' name)
    (hb : f.Bookkept) : f'.Bookkept := ⟨h.numbered hb.numbered, h.wellSaved hb.wellSaved⟩

end ImpactFixture

namespace ImpactEnv

open ImpactFixture

variable {W : Type} (env : ImpactEnv W)

theorem bookkept_provisioned (w : W) : (ImpactFixture.provisioned w).Bookkept :=
  ⟨fun _ _ => rfl, List.forall_mem_nil _⟩

theorem bookkept_perform (op : FixtureOp W) {f : ImpactFixture W} (h : f.Bookkept) :
    (env.perform op f).Bookkept := by
  cases op with
  | apply variant checkpoint =>
      rcases env.applyMarkers_outcome h.numbered
        (show env.applyMarkers variant checkpoint f = (_, env.perform (.apply variant checkpoint) f)
          from rfl) with ⟨_, -, hspared⟩ | ⟨_, _, _, _, _, _, -, hsaved, -⟩
      · exact hspared.bookkept h
      · exact hsaved.bookkept h
  | restore checkpoint =>
      rcases env.restoreFixture_outcome h.numbered
        (show env.restoreFixture checkpoint f = (_, env.perform (.restore checkpoint) f) from rfl)
        with ⟨_, -, hspared⟩ | ⟨_, _, _, _, _, _, -, hsaved, -⟩
      · exact hspared.bookkept h
      · exact hsaved.bookkept h
  | rollback name checkpoint =>
      show (rollback name checkpoint f).2.Bookkept
      rcases rollback_outcome h.wellSaved name checkpoint with
        hspared | ⟨snapshot, w, outcome, -, hputs⟩
      · exact hspared.bookkept h
      · obtain ⟨hrollbacks, hsequence⟩ := hputs.rollbacks
        refine ⟨fun n hn => ?_, fun entry hentry => ?_⟩
        · rw [hsequence] at hn
          rw [hrollbacks, lookup_popEntry]
          split_ifs
          · rfl
          · exact h.numbered n hn
        · rw [hrollbacks] at hentry
          exact h.wellSaved entry (List.mem_of_mem_filter hentry)
  | disturb run_root live backup staging => exact ⟨h.numbered, h.wellSaved⟩

/-- The fixture after a run. -/
def reached (ops : List (FixtureOp W)) (w : W) : ImpactFixture W :=
  runAll env.perform ops (.provisioned w)

theorem bookkept_reached (ops : List (FixtureOp W)) (w : W) : (env.reached ops w).Bookkept :=
  invariant_runAll (C := fun _ _ => True) (fun op _ h _ => env.bookkept_perform op h)
    (bookkept_provisioned w) (.of_forall _ (fun _ _ => trivial) _ _)

/-- **An action of the fixture has all of its effect or none**, at whatever step it is stopped and
whatever has been done to the files before it. -/
theorem impact_calls_atomic (ops : List (FixtureOp W)) (w : W) :
    (∀ variant checkpoint,
      (∃ name, (env.applyMarkers variant checkpoint (env.reached ops w)).1 = .ok name) ∨
        Spared (env.reached ops w) (env.applyMarkers variant checkpoint (env.reached ops w)).2) ∧
    ∀ checkpoint,
      (∃ name, (env.restoreFixture checkpoint (env.reached ops w)).1 = .ok name) ∨
        Spared (env.reached ops w) (env.restoreFixture checkpoint (env.reached ops w)).2 := by
  have hbookkept := env.bookkept_reached ops w
  constructor
  · intro variant checkpoint
    rcases env.applyMarkers_outcome hbookkept.numbered
      (show env.applyMarkers variant checkpoint _ = (_, _) from rfl) with
      ⟨_, -, hspared⟩ | ⟨name, _, _, _, _, _, hok, -⟩
    · exact Or.inr hspared
    · exact Or.inl ⟨name, hok⟩
  · intro checkpoint
    rcases env.restoreFixture_outcome hbookkept.numbered
      (show env.restoreFixture checkpoint _ = (_, _) from rfl) with
      ⟨_, -, hspared⟩ | ⟨name, _, _, _, _, _, hok, -⟩
    · exact Or.inr hspared
    · exact Or.inl ⟨name, hok⟩

/-- **A rollback** returns exactly when its control lets it go on, its token is known and both
directories can be replaced. The token is spent as soon as it was looked up, so a rollback that
raised on a known token cannot be repeated. -/
theorem rollback_exact (ops : List (FixtureOp W)) (w : W) (name : String)
    (checkpoint : Py W Unit) :
    ((∃ changes, (rollback name checkpoint (env.reached ops w)).1 = .ok changes) ↔
      (checkpoint (env.reached ops w).world).1 = .ok () ∧
        ((env.reached ops w).rollbacks.lookup name).isSome ∧
        (env.reached ops w).Clean .live ∧ (env.reached ops w).Clean .staging) ∧
    ((checkpoint (env.reached ops w).world).1 = .ok () →
      (rollback name checkpoint (env.reached ops w)).2.rollbacks =
        popEntry name (env.reached ops w).rollbacks) := by
  have hbookkept := env.bookkept_reached ops w
  generalize env.reached ops w = f at hbookkept ⊢
  rcases hcheck : checkpoint f.world with ⟨e | u, w'⟩
  · rw [rollback_of_raised hcheck]
    simp
  cases hfound : f.rollbacks.lookup name with
  | none =>
      rw [rollback_of_unknown hcheck hfound]
      simp [popEntry_of_notMem (notMem_keys_iff.mpr hfound)]
  | some snapshot =>
      obtain ⟨outcome, hputs, hreturns⟩ := rollback_of_found hbookkept.wellSaved hcheck hfound
      refine ⟨?_, fun _ => hputs.rollbacks.1⟩
      rw [hreturns]
      have htransfer : ∀ part, Clean
          { f with world := w', rollbacks := popEntry name f.rollbacks } part → f.Clean part :=
        fun part h => ⟨⟨h.real.run_root, h.real.directory⟩, h.regular⟩
      have htransfer' : ∀ part, f.Clean part → Clean
          { f with world := w', rollbacks := popEntry name f.rollbacks } part :=
        fun part h => ⟨⟨h.real.run_root, h.real.directory⟩, h.regular⟩
      generalize (rollback name checkpoint f).2 = f' at hputs
      cases hputs with
      | restored live staging hlive hstaging =>
          exact ⟨fun _ => ⟨rfl, rfl, htransfer _ hlive, htransfer _ hstaging⟩, fun _ => ⟨_, rfl⟩⟩
      | refused e hlive =>
          refine ⟨fun h => ?_, fun h => absurd (htransfer' _ h.2.2.1) hlive⟩
          obtain ⟨changes, h⟩ := h
          cases h
      | half e live hlive hstaging =>
          refine ⟨fun h => ?_, fun h => absurd (htransfer' _ h.2.2.2) hstaging⟩
          obtain ⟨changes, h⟩ := h
          cases h

/-- The digests of the approved contents. -/
def approvedDigests : List String :=
  ["4f20975a8a2a6e4f096a7b8bea53bbccb500223dc040082bb13cf78c79efb1cb",
    "af3771cbf3af1938aab67aed4537ed7db8a5db87e3fbc52b9eb6f192ff015cf5",
    "bbad2b1b519b938eb5d400aa2719087ac9ea1ec6710484da0314e16b093e674a",
    "874e3bf2e02d40b255d6c29fc88f775401845fbf8272958cf8619455dbe3e941",
    "59e5a9fff598a7768ca2c31a6d1a3eccd1387b5e3b794ff19f7fe8c9dd5a6fdd"]

/-- A digest of 64 zeros. -/
def zeroDigest : String := "0000000000000000000000000000000000000000000000000000000000000000"

/-- The digests of the approved contents, and zeros for the others. -/
def quietDigest (content : FileBytes) : String :=
  approvedDigests.getD ((fixtureContents.map Prod.snd).idxOf content) zeroDigest

theorem quietDigest_length (content : FileBytes) : (utf8 (quietDigest content)).length = 64 := by
  have hall : ∀ digest ∈ zeroDigest :: approvedDigests, (utf8 digest).length = 64 := by
    decide
  unfold quietDigest
  rw [List.getD_eq_getElem?_getD]
  cases h : approvedDigests[(fixtureContents.map Prod.snd).idxOf content]? with
  | none => exact hall _ List.mem_cons_self
  | some digest => exact hall _ (List.mem_cons_of_mem _ (List.mem_of_getElem? h))

/-- Collaborators that raise nothing. -/
def quietEnv : ImpactEnv Unit where
  sha256 := quietDigest
  fault_injector := none
  hexdigest_length := quietDigest_length

/-- The realized branch is rolled back. -/
theorem realized_rolled_back :
    (rollback "impact-rb-1" (pure ())
        (quietEnv.reached [.apply "realized" (pure ())] ())).2.rollbacks =
      popEntry "impact-rb-1" (quietEnv.reached [.apply "realized" (pure ())] ()).rollbacks :=
  (quietEnv.rollback_exact [.apply "realized" (pure ())] () "impact-rb-1" (pure ())).2 rfl

end ImpactEnv

end NetStrike.Modules
