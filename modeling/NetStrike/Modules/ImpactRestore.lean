import NetStrike.Modules.ImpactRuns

/-!
# What a recovery restores

`restore_fixture` writes the known-good copies back over whatever clean directories it finds
(`recovery_restores`), and nothing but unsafe entries or changed copies can refuse it for good.
-/

set_option autoImplicit false

namespace NetStrike.Modules

open NetStrike.Foundation NetStrike.Foundation.Checked NetStrike.Shared

/-! ## Single steps -/

theorem asEntry_injective : Function.Injective asEntry := by
  intro a b h
  obtain ⟨hname, hnode⟩ := Prod.mk.inj h
  exact Prod.ext hname (FixtureEntry.file.inj hnode).1

namespace FixtureDirectory

/-- A new file comes last. -/
theorem write_new {name : String} {content : FileBytes} {d d' : FixtureDirectory} {files : Inventory}
    (hfiles : d.entries = files.map asEntry) (hname : name ∉ files.map Prod.fst)
    (h : write name content d = .ok d') : d'.entries = (files ++ [(name, content)]).map asEntry := by
  have hnew : name ∉ d.entries.map Prod.fst := by
    rw [hfiles, List.map_map]
    exact hname
  unfold write at h
  rw [notMem_keys_iff.mp hnew] at h
  rw [← Except.ok.inj h]
  show setEntry name (.file content 1) d.entries = _
  rw [setEntry_of_notMem hnew, hfiles, List.map_append]
  rfl

end FixtureDirectory

namespace ImpactFixture

variable {W : Type}

theorem onDirectory_eq_ok {part : FixturePart}
    {change : FixtureDirectory → Except Exn FixtureDirectory} {f f' : ImpactFixture W} {u : Unit}
    (h : onDirectory part change f = (.ok u, f')) :
    ∃ d, change (f.directory part) = .ok d ∧ f' = f.setDirectory d part := by
  unfold onDirectory at h
  split at h
  · next d hd => exact ⟨d, hd, (Prod.mk.inj h).2.symm⟩
  · cases (Prod.mk.inj h).1

theorem Looks.eq {α : Type} {m : Py (ImpactFixture W) α} {f f' : ImpactFixture W} {r : Except Exn α}
    (hm : Looks m) (h : m f = (r, f')) : ∃ w, f' = { f with world := w } := by
  obtain ⟨w, hw⟩ := hm f
  exact ⟨w, by rw [← hw, h]⟩

theorem look_eq_ok {α : Type} {view : ImpactFixture W → Except Exn α} {f f' : ImpactFixture W}
    {a : α} (h : look view f = (.ok a, f')) : view f = .ok a ∧ f' = f :=
  ⟨(Prod.mk.inj h).1, (Prod.mk.inj h).2.symm⟩

/-- An original that is first in the live directory moves behind the staged ones. -/
theorem moveToStaging_eq_ok {f f' : ImpactFixture W} {file : String × FileBytes}
    {rest staged : Inventory} {u : Unit} (hlive : f.live.entries = (file :: rest).map asEntry)
    (hrest : file.1 ∉ rest.map Prod.fst) (hstaging : f.staging.entries = staged.map asEntry)
    (hstaged : file.1 ∉ staged.map Prod.fst) (h : moveToStaging file.1 f = (.ok u, f')) :
    f'.live.entries = rest.map asEntry ∧ f'.staging.entries = (staged ++ [file]).map asEntry := by
  have hfound : f.live.entries.lookup file.1 = some (.file file.2 1) := by
    rw [hlive, List.map_cons, asEntry, List.lookup_cons_self]
  have hnew : file.1 ∉ f.staging.entries.map Prod.fst := by
    rw [hstaging, List.map_map]
    exact hstaged
  unfold moveToStaging at h
  rw [hfound, notMem_keys_iff.mp hnew] at h
  rw [← (Prod.mk.inj h).2]
  constructor
  · show popEntry file.1 f.live.entries = _
    rw [hlive, List.map_cons, popEntry, List.filter_cons_of_neg (by simp [asEntry])]
    refine popEntry_of_notMem ?_
    rw [List.map_map]
    exact hrest
  · show setEntry file.1 (.file file.2 1) f.staging.entries = _
    rw [setEntry_of_notMem hnew, hstaging, List.map_append]
    rfl

/-- A clean directory is cleared. -/
theorem clear_of_clean {f : ImpactFixture W} {part : FixturePart} (h : f.Clean part) :
    ∃ d, replaceInventory part [] f = (.ok (), f.setDirectory d part) ∧ d.entries = [] := by
  obtain ⟨d, hreplace, -, hentries⟩ := replaceInventory_of_clean h [] List.nodup_nil
  exact ⟨d, hreplace, hentries⟩

theorem clear_eq_ok {f f' : ImpactFixture W} {part : FixturePart} {u : Unit}
    (h : replaceInventory part [] f = (.ok u, f')) :
    ∃ d, f' = f.setDirectory d part ∧ d.entries = [] := by
  by_cases hclean : f.Clean part
  · obtain ⟨d, hreplace, hentries⟩ := clear_of_clean hclean
    rw [hreplace] at h
    exact ⟨d, (Prod.mk.inj h).2.symm, hentries⟩
  · obtain ⟨e, he⟩ := replaceInventory_of_not_clean hclean []
    rw [he] at h
    cases (Prod.mk.inj h).1

end ImpactFixture

/-! ## Recovery -/

namespace ImpactEnv

open ImpactFixture

variable {W : Type} (env : ImpactEnv W)

theorem looks_step (label : String) : Looks (env.step label : Py (ImpactFixture W) Unit) := by
  unfold step
  split
  · exact fun f => ⟨f.world, rfl⟩
  · exact looks_onWorld _

/-- One round of the loop of `restore_fixture`. -/
theorem restoreFile_eq_ok {checkpoint : Py W Unit} {file : String × FileBytes} {done : Inventory}
    {f f' : ImpactFixture W} {u : Unit} (hlive : f.live.entries = done.map asEntry)
    (hname : file.1 ∉ done.map Prod.fst)
    (h : env.restoreFile checkpoint file f = (.ok u, f')) :
    f'.live.entries = (done ++ [file]).map asEntry ∧ f'.staging = f.staging := by
  unfold restoreFile at h
  obtain ⟨_, f₁, hworld, h⟩ := Raising.bind_eq_ok h
  obtain ⟨w₁, rfl⟩ := (looks_onWorld checkpoint).eq hworld
  obtain ⟨_, f₂, hwrite, h⟩ := Raising.bind_eq_ok h
  obtain ⟨d, hd, rfl⟩ := onDirectory_eq_ok hwrite
  obtain ⟨w₂, rfl⟩ := (env.looks_step _).eq h
  exact ⟨FixtureDirectory.write_new hlive hname hd, rfl⟩

theorem restoreLoop_eq_ok {checkpoint : Py W Unit} (done : Inventory) {rest : Inventory}
    {f f' : ImpactFixture W} {u : Unit} (hlive : f.live.entries = done.map asEntry)
    (hunique : ((done ++ rest).map Prod.fst).Nodup)
    (h : Raising.forEach (env.restoreFile checkpoint) rest f = (.ok u, f')) :
    f'.live.entries = (done ++ rest).map asEntry ∧ f'.staging = f.staging := by
  induction rest generalizing done f with
  | nil =>
      rw [List.append_nil]
      exact (Prod.mk.inj h).2 ▸ ⟨hlive, rfl⟩
  | cons file rest ih =>
      rw [Raising.forEach_cons] at h
      obtain ⟨_, f₁, hfirst, h⟩ := Raising.bind_eq_ok h
      have hname : file.1 ∉ done.map Prod.fst := by
        rw [List.map_append, List.map_cons] at hunique
        exact fun hmem => List.disjoint_of_nodup_append hunique hmem List.mem_cons_self
      obtain ⟨hwritten, hstaging⟩ := env.restoreFile_eq_ok hlive hname hfirst
      rw [List.append_cons] at hunique ⊢
      obtain ⟨hall, hrest⟩ := ih _ hwritten hunique h
      exact ⟨hall, hrest.trans hstaging⟩

theorem restoreFiles_eq_ok {checkpoint : Py W Unit} {backup : Inventory} {after : Inventories}
    {f f' : ImpactFixture W} (hunique : (backup.map Prod.fst).Nodup)
    (h : env.restoreFiles checkpoint backup f = (.ok after, f')) :
    f'.live.entries = backup.map asEntry ∧ f'.staging.entries = [] ∧
      f'.inventories = .ok after ∧ env.manifest after.live = env.expectedManifest := by
  unfold restoreFiles at h
  obtain ⟨_, f₁, hlive, h⟩ := Raising.bind_eq_ok h
  obtain ⟨d, rfl, hd⟩ := clear_eq_ok hlive
  obtain ⟨_, f₂, hstaging, h⟩ := Raising.bind_eq_ok h
  obtain ⟨d', rfl, hd'⟩ := clear_eq_ok hstaging
  obtain ⟨_, f₃, hloop, h⟩ := Raising.bind_eq_ok h
  obtain ⟨hfiles, hstaged⟩ := env.restoreLoop_eq_ok [] hd hunique hloop
  obtain ⟨found, f₄, hlook, hrest⟩ := Raising.bind_eq_ok h
  obtain ⟨hfound, rfl⟩ := look_eq_ok hlook
  obtain ⟨_, f₅, hrequire, hreturn⟩ := Raising.bind_eq_ok hrest
  obtain ⟨hmanifest, rfl⟩ := require_eq_ok hrequire
  obtain ⟨hafter, rfl⟩ := Prod.mk.inj hreturn
  obtain rfl := Except.ok.inj hafter
  exact ⟨hfiles, by rw [hstaged]; exact hd', hfound, hmanifest⟩

/-- A step returns where no fault is injected. -/
theorem step_returns
    (hfaultless : ∀ inject, env.fault_injector = some inject → ∀ label w, (inject label w).1 = .ok ())
    (label : String) (f : ImpactFixture W) : (env.step label f).1 = .ok () := by
  unfold step
  cases hinject : env.fault_injector with
  | none => rfl
  | some inject => exact hfaultless inject hinject label f.world

/-- Files with new names are written back where nothing stops the loop. -/
theorem restoreLoop_returns {checkpoint : Py W Unit} (hquiet : ∀ w, (checkpoint w).1 = .ok ())
    (hfaultless : ∀ inject, env.fault_injector = some inject → ∀ label w, (inject label w).1 = .ok ())
    (done : Inventory) {rest : Inventory} {f : ImpactFixture W}
    (hlive : f.live.entries = done.map asEntry) (hunique : ((done ++ rest).map Prod.fst).Nodup) :
    ∃ f', Raising.forEach (env.restoreFile checkpoint) rest f = (.ok (), f') := by
  induction rest generalizing done f with
  | nil => exact ⟨f, rfl⟩
  | cons file rest ih =>
      have hname : file.1 ∉ done.map Prod.fst := by
        rw [List.map_append, List.map_cons] at hunique
        exact fun hmem => List.disjoint_of_nodup_append hunique hmem List.mem_cons_self
      have hround : ∃ f₁, env.restoreFile checkpoint file f = (.ok (), f₁) := by
        have hworld : onWorld checkpoint f = (.ok (), { f with world := (checkpoint f.world).2 }) := by
          rw [onWorld_eq, hquiet]
        have hwrite : onDirectory .live (FixtureDirectory.write file.1 file.2)
            { f with world := (checkpoint f.world).2 } =
              (.ok (), { f with
                world := (checkpoint f.world).2, live := f.live.put file.1 (.file file.2 1) }) := by
          have hnew : file.1 ∉ f.live.entries.map Prod.fst := by
            rw [hlive, List.map_map]
            exact hname
          have hok : FixtureDirectory.write file.1 file.2 f.live =
              .ok (f.live.put file.1 (.file file.2 1)) := by
            unfold FixtureDirectory.write
            rw [notMem_keys_iff.mp hnew]
          unfold onDirectory
          dsimp only [directory]
          rw [hok]
          rfl
        rw [restoreFile, Raising.bind_of_ok hworld, Raising.bind_of_ok hwrite]
        exact ⟨_, Prod.ext (env.step_returns hfaultless _ _) rfl⟩
      obtain ⟨f₁, hround⟩ := hround
      rw [List.append_cons] at hunique
      obtain ⟨f', hrest⟩ := ih _ (env.restoreFile_eq_ok hlive hname hround).1 hunique
      exact ⟨f', by rw [Raising.forEach_cons, Raising.bind_of_ok hround, hrest]⟩

theorem restoreFiles_returns {checkpoint : Py W Unit} (hquiet : ∀ w, (checkpoint w).1 = .ok ())
    (hfaultless : ∀ inject, env.fault_injector = some inject → ∀ label w, (inject label w).1 = .ok ())
    {f : ImpactFixture W} {found : Inventories} (hfound : f.inventories = .ok found)
    (hmanifest : env.manifest found.backup = env.expectedManifest) {g : ImpactFixture W}
    (hg : Working g f) :
    ∃ after f', env.restoreFiles checkpoint found.backup f = (.ok after, f') := by
  obtain ⟨-, hbackup, -⟩ := inventories_eq_ok hfound
  have hunique := names_nodup hbackup
  obtain ⟨d, hclear, hd⟩ := clear_of_clean hg.live
  have hg₁ : Working g (f.setDirectory d .live) := by
    have hkept := keeps_clear g (by decide : FixturePart.live ≠ .backup) f hg
    rwa [hclear] at hkept
  obtain ⟨d', hclear', hd'⟩ := clear_of_clean hg₁.staging
  have hg₂ : Working g ((f.setDirectory d .live).setDirectory d' .staging) := by
    have hkept := keeps_clear g (by decide : FixturePart.staging ≠ .backup) _ hg₁
    rwa [hclear'] at hkept
  have hstart : ((f.setDirectory d .live).setDirectory d' .staging).live.entries =
      ([] : Inventory).map asEntry := hd
  obtain ⟨f₃, hloop⟩ := env.restoreLoop_returns hquiet hfaultless [] hstart hunique
  obtain ⟨hlive, -⟩ := env.restoreLoop_eq_ok [] hd hunique hloop
  have hg₃ : Working g f₃ := by
    have hkept := Raising.Keeps.forEach
      (fun file hfile => env.keeps_restoreFile hbackup g checkpoint hfile) _ hg₂
    rwa [hloop] at hkept
  obtain ⟨live, hlive'⟩ := hg₃.live.exists_inventory
  obtain ⟨staging, hstaging'⟩ := hg₃.staging.exists_inventory
  have hbackup' : f₃.inventory .backup = .ok found.backup := by
    obtain ⟨hclean, hentries⟩ := inventory_eq_ok.mp hbackup
    have hsame : f₃.backup = f.backup := hg₃.backup.trans hg.backup.symm
    refine inventory_eq_ok.mpr ⟨⟨hg₃.live.real, ?_⟩, ?_⟩
    · show ∀ entry ∈ f₃.backup.entries, _
      rw [hsame]
      exact hclean.regular
    · show f₃.backup.entries = _
      rw [hsame]
      exact hentries
  have hsame : live = found.backup := by
    refine List.map_injective_iff.mpr asEntry_injective ?_
    rw [← (inventory_eq_ok.mp hlive').2]
    exact hlive
  have hlook : look inventories f₃ = (.ok ⟨live, found.backup, staging⟩, f₃) := by
    rw [look, inventories_of_eq_ok hlive' hbackup' hstaging']
  refine ⟨⟨live, found.backup, staging⟩, f₃, ?_⟩
  rw [restoreFiles, Raising.bind_of_ok hclear, Raising.bind_of_ok hclear', Raising.bind_of_ok hloop,
    Raising.bind_of_ok hlook, Raising.require_bind_of_pos (by rw [hsame, hmanifest])]
  rfl

/-- A recovery that returns. -/
theorem restoreFixture_eq_ok {f f' : ImpactFixture W} {checkpoint : Py W Unit} {name : String}
    (hnumbered : f.Numbered) (h : env.restoreFixture checkpoint f = (.ok name, f')) :
    f'.live.entries = f.backup.entries ∧ f'.staging.entries = [] ∧ f'.backup = f.backup ∧
      Saved f f' name ∧ env.healthMismatches f' = .ok [] := by
  rcases env.restoreFixture_outcome hnumbered h with ⟨e, hraised, -⟩ |
    ⟨_, snapshot, found, after, w, s, hok, hsaved, hfound, hmanifest, hbody, rfl⟩
  · cases hraised
  obtain rfl := Except.ok.inj hok
  obtain ⟨-, hbackup, -⟩ := inventories_eq_ok hfound
  obtain ⟨hlive, hstaging, hafter, hrestored⟩ :=
    env.restoreFiles_eq_ok (names_nodup hbackup) hbody
  have hkept : s.backup = f.backup := hsaved.backup
  have hentries : s.live.entries = f.backup.entries :=
    hlive.trans (inventory_eq_ok.mp hbackup).2.symm
  refine ⟨hentries, hstaging, hkept, hsaved, ?_⟩
  obtain ⟨-, hbackup', hstaging'⟩ := inventories_eq_ok hafter
  have hsame : after.backup = found.backup := by
    refine List.map_injective_iff.mpr asEntry_injective ?_
    rw [← (inventory_eq_ok.mp hbackup').2, ← (inventory_eq_ok.mp hbackup).2]
    exact congrArg FixtureDirectory.entries hkept
  have hempty : after.staging = [] := by
    have hentries' := (inventory_eq_ok.mp hstaging').2
    exact List.map_eq_nil_iff.mp (hentries'.symm.trans hstaging)
  have hlook : ({ s with last_report := some ⟨"recovery.fixture.restore", none,
      env.manifests found, env.manifests after⟩ } : ImpactFixture W).inventories = .ok after := hafter
  unfold healthMismatches
  rw [bind_of_eq_ok hlook, hrestored, hsame, hmanifest, hempty]
  simp [pure, Except.pure]

/-- A recovery returns where nothing stops it and the known-good copies are the expected ones. -/
theorem restoreFixture_returns {checkpoint : Py W Unit} (hquiet : ∀ w, (checkpoint w).1 = .ok ())
    (hfaultless : ∀ inject, env.fault_injector = some inject → ∀ label w, (inject label w).1 = .ok ())
    {f : ImpactFixture W} {found : Inventories} (hfound : f.inventories = .ok found)
    (hmanifest : env.manifest found.backup = env.expectedManifest) :
    ∃ name, (env.restoreFixture checkpoint f).1 = .ok name := by
  have hworld : onWorld checkpoint f = (.ok (), { f with world := (checkpoint f.world).2 }) := by
    rw [onWorld_eq, hquiet]
  generalize (checkpoint f.world).2 = w at hworld
  have hlook : look inventories { f with world := w } = (.ok found, { f with world := w }) := by
    rw [look, ← hfound]
    rfl
  obtain ⟨hlive, -, hstaging⟩ := inventories_eq_ok hfound
  have hcapture : capture { f with world := w } =
      (.ok (token (f.rollback_sequence + 1)),
        captured { f with world := w } ⟨found.live, found.staging, f.last_report⟩) := by
    rw [capture, Raising.bind_of_ok hlook]
    rfl
  generalize hsnapshot : captured { f with world := w }
    ⟨found.live, found.staging, f.last_report⟩ = g at hcapture
  have hwork : Working g g := by
    rw [← hsnapshot]
    exact ⟨rfl, rfl, rfl, rfl, rfl,
      (inventory_eq_ok.mp hlive).1.transfer rfl fun part => by cases part <;> rfl,
      (inventory_eq_ok.mp hstaging).1.transfer rfl fun part => by cases part <;> rfl⟩
  have hfound' : g.inventories = .ok found := by
    rw [← hsnapshot]
    exact hfound
  obtain ⟨after, s, hbody⟩ := env.restoreFiles_returns hquiet hfaultless hfound' hmanifest hwork
  refine ⟨token (f.rollback_sequence + 1), ?_⟩
  rw [restoreFixture, Raising.bind_of_ok hworld, Raising.bind_of_ok hlook,
    Raising.require_bind_of_pos (by rw [hmanifest]), Raising.bind_of_ok hcapture, rollingBack,
    Raising.bind_of_ok (Raising.rescue_of_ok hbody)]
  rfl

/-- **Recovery**: whatever was done to the directories before, a recovery that returns has put the
known-good copies in place of the live files and left nothing staged. Nothing but an unsafe entry or
changed copies refuses it where neither the control nor a fault stops it. -/
theorem recovery_restores (ops : List (FixtureOp W)) (w : W) (checkpoint : Py W Unit) :
    (∀ name f', env.restoreFixture checkpoint (env.reached ops w) = (.ok name, f') →
      f'.live.entries = (env.reached ops w).backup.entries ∧ f'.staging.entries = [] ∧
        f'.backup = (env.reached ops w).backup ∧ env.healthMismatches f' = .ok []) ∧
    ((∀ w, (checkpoint w).1 = .ok ()) →
      (∀ inject, env.fault_injector = some inject → ∀ label w, (inject label w).1 = .ok ()) →
      ((∃ name, (env.restoreFixture checkpoint (env.reached ops w)).1 = .ok name) ↔
        ∃ found, (env.reached ops w).inventories = .ok found ∧
          env.manifest found.backup = env.expectedManifest)) := by
  have hnumbered := (env.bookkept_reached ops w).numbered
  generalize env.reached ops w = f at hnumbered ⊢
  constructor
  · intro name f' h
    obtain ⟨hlive, hstaging, hbackup, -, hhealthy⟩ := env.restoreFixture_eq_ok hnumbered h
    exact ⟨hlive, hstaging, hbackup, hhealthy⟩
  · intro hquiet hfaultless
    constructor
    · rintro ⟨name, hok⟩
      have hrun : env.restoreFixture checkpoint f = (.ok name, (env.restoreFixture checkpoint f).2) :=
        Prod.ext hok rfl
      rcases env.restoreFixture_outcome hnumbered hrun with ⟨e, hraised, -⟩ |
        ⟨_, _, found, _, _, _, -, -, hfound, hmanifest, -⟩
      · cases hraised
      · exact ⟨found, hfound, hmanifest⟩
    · rintro ⟨found, hfound, hmanifest⟩
      exact env.restoreFixture_returns hquiet hfaultless hfound hmanifest

/-- Recovery from the realized branch. -/
theorem realized_restored :
    (∃ name, (quietEnv.restoreFixture (pure ())
      (quietEnv.reached [.apply "realized" (pure ())] ())).1 = .ok name) ↔
      ∃ found, (quietEnv.reached [.apply "realized" (pure ())] ()).inventories = .ok found ∧
        quietEnv.manifest found.backup = quietEnv.expectedManifest :=
  (quietEnv.recovery_restores [.apply "realized" (pure ())] () (pure ())).2 (fun _ => rfl)
    fun _ h => by cases h

end ImpactEnv

end NetStrike.Modules
