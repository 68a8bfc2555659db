import NetStrike.Foundation.JsonText
import NetStrike.Modules.ImpactRestore

/-!
# The originals of the impact fixture

In a run that nobody disturbs the files are in one of three states (`MarkerState`): as provisioned,
with markers beside the originals, or with markers and the note in place of the originals, which are
then staged. So each original is in exactly one place, and the inspection finds all of them unchanged
(`originals_kept`).
-/

set_option autoImplicit false

namespace NetStrike.Modules

open NetStrike.Foundation NetStrike.Foundation.Checked NetStrike.Shared

/-! ## The states of the files -/

/-- What the impact has left in the directories. -/
inductive MarkerState where
  | baseline
  | blocked
  | realized
deriving DecidableEq

/-- The state that a branch of the impact leads to. -/
def MarkerState.after (realized : Bool) : MarkerState := if realized then .realized else .blocked

/-- The files in the staging directory. -/
def stagingFiles : MarkerState → Inventory
  | .realized => fixtureContents
  | _ => []

namespace ImpactEnv

open ImpactFixture

variable {W : Type} (env : ImpactEnv W)

/-- The markers of some originals. -/
def markers (files : Inventory) : Inventory :=
  files.map fun file => (markerName file.1, env.markerContent file.1)

/-- The files in the live directory. -/
def liveFiles : MarkerState → Inventory
  | .baseline => fixtureContents
  | .blocked => fixtureContents ++ env.markers fixtureContents
  | .realized => env.markers fixtureContents ++ [(noteName, noteContent)]

/-- The directories hold the files of a state, and the known-good copies are as provisioned. -/
structure Settled (m : MarkerState) (f : ImpactFixture W) : Prop where
  real : f.Real
  backup : f.backup = approvedDirectory
  live : f.live.entries = (env.liveFiles m).map asEntry
  staging : f.staging.entries = (stagingFiles m).map asEntry

/-- The names do not depend on the digests. -/
theorem names_liveFiles (m : MarkerState) : (env.liveFiles m).map Prod.fst =
    match m with
    | .baseline => originalNames
    | .blocked => originalNames ++ originalNames.map markerName
    | .realized => originalNames.map markerName ++ [noteName] := by
  have hnames : originalNames = fixtureContents.map Prod.fst := by decide
  have hmarkers : (env.markers fixtureContents).map Prod.fst = originalNames.map markerName := by
    rw [hnames, markers, List.map_map, List.map_map]
    rfl
  cases m with
  | baseline => exact hnames.symm
  | blocked =>
      show (fixtureContents ++ env.markers fixtureContents).map Prod.fst = _
      rw [List.map_append, hmarkers, ← hnames]
  | realized =>
      show (env.markers fixtureContents ++ [(noteName, noteContent)]).map Prod.fst = _
      rw [List.map_append, hmarkers]
      rfl

theorem fixtureContents_regular : ∀ file ∈ fixtureContents, Regular originalNames (asEntry file) := by
  have hsmall : ∀ file ∈ fixtureContents,
      file.1 ∈ originalNames ∧ file.2.length ≤ 64 * 1024 := by decide
  intro file hfile
  exact ⟨file.2, rfl, (hsmall file hfile).1, (hsmall file hfile).2⟩

theorem stagingFiles_regular (m : MarkerState) :
    ∀ entry ∈ (stagingFiles m).map asEntry, Regular originalNames entry := by
  intro entry hentry
  obtain ⟨file, hfile, rfl⟩ := List.mem_map.mp hentry
  cases m with
  | baseline => cases hfile
  | blocked => cases hfile
  | realized => exact fixtureContents_regular file hfile

theorem liveFiles_regular (m : MarkerState) :
    ∀ entry ∈ (env.liveFiles m).map asEntry, Regular liveNames entry := by
  have horiginal : ∀ file ∈ fixtureContents, Regular liveNames (asEntry file) := by
    intro file hfile
    obtain ⟨content, hnode, hname, hlength⟩ := fixtureContents_regular file hfile
    exact ⟨content, hnode, originalNames_live _ hname, hlength⟩
  have hmarker : ∀ file ∈ env.markers fixtureContents, Regular liveNames (asEntry file) := by
    intro file hfile
    obtain ⟨original, horiginal, rfl⟩ := List.mem_map.mp hfile
    obtain ⟨-, -, hname, -⟩ := fixtureContents_regular original horiginal
    exact ⟨_, rfl, markerName_live _ hname, env.markerContent_short hname⟩
  have hnote : Regular liveNames (asEntry (noteName, noteContent)) :=
    ⟨noteContent, rfl, List.mem_append_right _ (List.mem_singleton_self _), by decide +kernel⟩
  intro entry hentry
  obtain ⟨file, hfile, rfl⟩ := List.mem_map.mp hentry
  cases m with
  | baseline => exact horiginal file hfile
  | blocked => exact (List.mem_append.mp hfile).elim (horiginal file) (hmarker file)
  | realized =>
      rcases List.mem_append.mp hfile with hfile | hfile
      · exact hmarker file hfile
      · rw [List.mem_singleton.mp hfile]
        exact hnote

variable {env}

/-- The inventories of a settled fixture. -/
theorem Settled.inventories {m : MarkerState} {f : ImpactFixture W} (h : env.Settled m f) :
    f.inventories = .ok ⟨env.liveFiles m, fixtureContents, stagingFiles m⟩ := by
  refine inventories_of_eq_ok (inventory_eq_ok.mpr ⟨⟨h.real, ?_⟩, h.live⟩)
    (inventory_eq_ok.mpr ⟨⟨h.real, ?_⟩, ?_⟩) (inventory_eq_ok.mpr ⟨⟨h.real, ?_⟩, h.staging⟩)
  · show ∀ entry ∈ f.live.entries, _
    rw [h.live]
    exact env.liveFiles_regular m
  · show ∀ entry ∈ f.backup.entries, _
    rw [h.backup]
    intro entry hentry
    obtain ⟨file, hfile, rfl⟩ := List.mem_map.mp hentry
    exact fixtureContents_regular file hfile
  · show f.backup.entries = _
    rw [h.backup]
    rfl
  · show ∀ entry ∈ f.staging.entries, _
    rw [h.staging]
    exact stagingFiles_regular m

theorem Settled.transfer {m : MarkerState} {f g : ImpactFixture W} (h : env.Settled m f)
    (hroot : g.run_root = f.run_root) (hdirectory : ∀ part, g.directory part = f.directory part) :
    env.Settled m g where
  real := ⟨hroot.trans h.real.run_root, fun part => by
    rw [hdirectory part]
    exact h.real.directory part⟩
  backup := (hdirectory .backup).trans h.backup
  live := (congrArg FixtureDirectory.entries (hdirectory .live)).trans h.live
  staging := (congrArg FixtureDirectory.entries (hdirectory .staging)).trans h.staging

variable (env)

theorem length_manifest (files : Inventory) : (env.manifest files).length = files.length := by
  rw [manifest, List.length_insertionSort, List.length_map]

/-- Only the state as provisioned is at the baseline. -/
theorem healthMismatches_of_settled {m : MarkerState} {f : ImpactFixture W} (h : env.Settled m f) :
    env.healthMismatches f = .ok [] ↔ m = .baseline := by
  unfold healthMismatches
  rw [bind_of_eq_ok h.inventories]
  cases m with
  | baseline => simp [liveFiles, stagingFiles, expectedManifest, pure, Except.pure]
  | blocked =>
      have hlive : env.manifest (env.liveFiles .blocked) ≠ env.expectedManifest := by
        intro heq
        have hlength := congrArg List.length heq
        rw [expectedManifest, length_manifest, length_manifest, liveFiles, List.length_append,
          markers, List.length_map] at hlength
        exact absurd hlength (by decide)
      simp [hlive, pure, Except.pure]
  | realized =>
      have hstaging : fixtureContents ≠ [] := by decide
      simp [hstaging, stagingFiles, pure, Except.pure]

/-! ## The loop over the originals -/

/-- The originals in `done` have their markers, those in `rest` have not. -/
structure Marked (realized : Bool) (done rest : Inventory) (f : ImpactFixture W) : Prop where
  live : f.live.entries =
    ((if realized then rest else done ++ rest) ++ env.markers done).map asEntry
  staging : f.staging.entries = (if realized then done else []).map asEntry

/-- No name occurs twice. -/
def Distinct (done rest : Inventory) : Prop :=
  ((done ++ rest).map Prod.fst ++ (done ++ rest).map fun file => markerName file.1).Nodup

variable {env}

/-- One round of the loop. -/
theorem Marked.markFile {checkpoint : Py W Unit} {realized : Bool} {done rest : Inventory}
    {file : String × FileBytes} {f f' : ImpactFixture W} {u : Unit}
    (h : env.Marked realized done (file :: rest) f) (hnames : Distinct done (file :: rest))
    (hrun : env.markFile checkpoint realized file.1 f = (.ok u, f')) :
    env.Marked realized (done ++ [file]) rest f' := by
  have hmarkers : (env.markers done).map Prod.fst = done.map fun file => markerName file.1 := by
    rw [markers, List.map_map]
    rfl
  have hnext : env.markers (done ++ [file]) =
      env.markers done ++ [(markerName file.1, env.markerContent file.1)] := by
    rw [markers, List.map_append]
    rfl
  unfold Distinct at hnames
  simp only [List.map_append, List.map_cons] at hnames
  unfold ImpactEnv.markFile at hrun
  obtain ⟨_, f₁, hworld, hrun⟩ := Raising.bind_eq_ok hrun
  obtain ⟨w₁, rfl⟩ := (looks_onWorld checkpoint).eq hworld
  obtain ⟨_, f₂, hstage, hrun⟩ := Raising.bind_eq_ok hrun
  obtain ⟨_, f₃, hwrite, hrun⟩ := Raising.bind_eq_ok hrun
  obtain ⟨d, hd, rfl⟩ := onDirectory_eq_ok hwrite
  obtain ⟨w₂, rfl⟩ := (env.looks_step _).eq hrun
  cases realized with
  | false =>
      obtain rfl : f₂ = { f with world := w₁ } := (Prod.mk.inj hstage).2.symm
      have hfresh : markerName file.1 ∉
          ((done ++ file :: rest) ++ env.markers done).map Prod.fst := by
        rw [List.map_append, hmarkers]
        grind
      have hwritten := FixtureDirectory.write_new h.live hfresh hd
      refine ⟨?_, h.staging⟩
      show d.entries = _
      rw [hwritten, hnext]
      simp
  | true =>
      unfold stageOriginal at hstage
      rw [if_pos rfl] at hstage
      obtain ⟨_, f₄, hmove, hstep⟩ := Raising.bind_eq_ok hstage
      have hrest : file.1 ∉ (rest ++ env.markers done).map Prod.fst := by
        rw [List.map_append, hmarkers]
        grind
      have hdone : file.1 ∉ done.map Prod.fst := by grind
      obtain ⟨hlive, hstaging⟩ := moveToStaging_eq_ok (f := { f with world := w₁ }) h.live hrest
        h.staging hdone hmove
      obtain ⟨w₃, rfl⟩ := (env.looks_step _).eq hstep
      have hfresh : markerName file.1 ∉ (rest ++ env.markers done).map Prod.fst := by
        rw [List.map_append, hmarkers]
        grind
      have hwritten := FixtureDirectory.write_new hlive hfresh hd
      refine ⟨?_, hstaging⟩
      rw [hnext, ← List.append_assoc]
      exact hwritten

theorem Marked.forEach {checkpoint : Py W Unit} {realized : Bool} {done rest : Inventory}
    {f f' : ImpactFixture W} {u : Unit} (h : env.Marked realized done rest f)
    (hnames : Distinct done rest)
    (hrun : Raising.forEach (env.markFile checkpoint realized) (rest.map Prod.fst) f = (.ok u, f')) :
    env.Marked realized (done ++ rest) [] f' := by
  induction rest generalizing done f with
  | nil =>
      rw [List.append_nil]
      exact (Prod.mk.inj hrun).2 ▸ h
  | cons file rest ih =>
      rw [List.map_cons, Raising.forEach_cons] at hrun
      obtain ⟨_, f₁, hfirst, hrun⟩ := Raising.bind_eq_ok hrun
      have hmarked := h.markFile hnames hfirst
      unfold Distinct at hnames
      rw [List.append_cons] at hnames ⊢
      exact ih hmarked hnames hrun

variable (env)

theorem originals_distinct : Distinct [] fixtureContents := by
  unfold Distinct
  decide

/-- The body of `apply_markers` leads from the baseline to the state of its branch. -/
theorem markFiles_eq_ok {checkpoint : Py W Unit} {realized : Bool} {after : Inventories}
    {f f' : ImpactFixture W} (hlive : f.live.entries = fixtureContents.map asEntry)
    (hstaging : f.staging.entries = [])
    (h : env.markFiles checkpoint realized f = (.ok after, f')) :
    f'.live.entries = (env.liveFiles (.after realized)).map asEntry ∧
      f'.staging.entries = (stagingFiles (.after realized)).map asEntry := by
  have hnames : originalNames = fixtureContents.map Prod.fst := by decide
  unfold markFiles at h
  obtain ⟨_, f₁, hloop, h⟩ := Raising.bind_eq_ok h
  obtain ⟨_, f₂, hnote, h⟩ := Raising.bind_eq_ok h
  obtain ⟨-, rfl⟩ := look_eq_ok h
  rw [hnames] at hloop
  have hstart : env.Marked realized [] fixtureContents f := by
    cases realized with
    | false => exact ⟨by rw [hlive]; simp [markers], hstaging⟩
    | true => exact ⟨by rw [hlive]; simp [markers], hstaging⟩
  obtain ⟨hlive₁, hstaging₁⟩ := hstart.forEach originals_distinct hloop
  rw [List.nil_append] at hlive₁ hstaging₁
  cases realized with
  | false =>
      obtain rfl := (Prod.mk.inj hnote).2
      refine ⟨?_, hstaging₁⟩
      rw [hlive₁]
      simp [MarkerState.after, liveFiles]
  | true =>
      unfold leaveNote at hnote
      rw [if_pos rfl] at hnote
      obtain ⟨_, f₃, hwrite, hstep⟩ := Raising.bind_eq_ok hnote
      obtain ⟨d, hd, rfl⟩ := onDirectory_eq_ok hwrite
      obtain ⟨w, rfl⟩ := (env.looks_step _).eq hstep
      have hfresh : noteName ∉ (env.markers fixtureContents).map Prod.fst := by
        have hmarkers : (env.markers fixtureContents).map Prod.fst =
            originalNames.map markerName := by
          rw [hnames, markers, List.map_map, List.map_map]
          rfl
        rw [hmarkers]
        decide
      exact ⟨FixtureDirectory.write_new hlive₁ hfresh hd, hstaging₁⟩

/-! ## Runs that nobody disturbs -/

/-- The files are in one of the states, and so is each snapshot. -/
structure Sound (f : ImpactFixture W) : Prop where
  bookkept : f.Bookkept
  settled : ∃ m, env.Settled m f
  saved : ∀ entry ∈ f.rollbacks, ∃ m,
    entry.2.live = env.liveFiles m ∧ entry.2.staging = stagingFiles m

variable {env}

theorem Sound.of_spared {f f' : ImpactFixture W} (h : env.Sound f) (hspared : Spared f f') :
    env.Sound f' := by
  have hbookkept := hspared.bookkept h.bookkept
  obtain ⟨w, n, -, rfl⟩ := hspared
  obtain ⟨m, hm⟩ := h.settled
  exact ⟨hbookkept, ⟨m, hm.transfer rfl fun part => by cases part <;> rfl⟩, h.saved⟩

/-- An action that returns has saved a snapshot of one of the states. -/
theorem Sound.of_saved {f f' : ImpactFixture W} {name : String} {m : MarkerState} (h : env.Sound f)
    (hsaved : Saved f f' name) (hlive : f'.live.entries = (env.liveFiles m).map asEntry)
    (hstaging : f'.staging.entries = (stagingFiles m).map asEntry) : env.Sound f' := by
  obtain ⟨old, hold⟩ := h.settled
  refine ⟨hsaved.bookkept h.bookkept,
    ⟨m, hsaved.live.real, hsaved.backup.trans hold.backup, hlive, hstaging⟩, ?_⟩
  obtain ⟨snapshot, hshows, hrollbacks⟩ := hsaved.rollbacks
  obtain ⟨hfoundLive, -, hfoundStaging⟩ := inventories_eq_ok hold.inventories
  intro entry hentry
  rw [hrollbacks] at hentry
  rcases mem_of_mem_setEntry hentry with rfl | hentry
  · exact ⟨old, Except.ok.inj (hshows.live.symm.trans hfoundLive),
      Except.ok.inj (hshows.staging.symm.trans hfoundStaging)⟩
  · exact h.saved entry hentry

variable (env)

/-- A call of the fixture, as against a change by somebody else. -/
def IsCall : FixtureOp W → Prop
  | .disturb .. => False
  | _ => True

theorem sound_provisioned (w : W) : env.Sound (ImpactFixture.provisioned w) where
  bookkept := bookkept_provisioned w
  settled := ⟨.baseline, ⟨rfl, fun part => by cases part <;> rfl⟩, rfl, rfl, rfl⟩
  saved := List.forall_mem_nil _

theorem sound_perform {op : FixtureOp W} (hcall : IsCall op) {f : ImpactFixture W}
    (h : env.Sound f) : env.Sound (env.perform op f) := by
  cases op with
  | apply variant checkpoint =>
      rcases env.applyMarkers_outcome h.bookkept.numbered
        (show env.applyMarkers variant checkpoint f = (_, env.perform (.apply variant checkpoint) f)
          from rfl) with
        ⟨_, -, hspared⟩ | ⟨name, snapshot, before, after, w, s, -, hsaved, -, -, hhealth, hbody, heq⟩
      · exact h.of_spared hspared
      · obtain ⟨m, hm⟩ := h.settled
        obtain rfl := (env.healthMismatches_of_settled hm).mp hhealth
        obtain ⟨hlive, hstaging⟩ := env.markFiles_eq_ok
          (f := { f.captured snapshot with world := w }) hm.live hm.staging hbody
        refine h.of_saved hsaved (m := .after (variant == "realized")) ?_ ?_
        · rw [heq]
          exact hlive
        · rw [heq]
          exact hstaging
  | restore checkpoint =>
      cases hrun : env.restoreFixture checkpoint f with
      | mk outcome f' =>
          have hperform : env.perform (.restore checkpoint) f = f' := congrArg Prod.snd hrun
          rw [hperform]
          cases outcome with
          | error e =>
              rcases env.restoreFixture_outcome h.bookkept.numbered hrun with
                ⟨_, -, hspared⟩ | ⟨_, _, _, _, _, _, hok, -⟩
              · exact h.of_spared hspared
              · cases hok
          | ok name =>
              obtain ⟨hlive, hstaging, -, hsaved, -⟩ :=
                env.restoreFixture_eq_ok h.bookkept.numbered hrun
              obtain ⟨m, hm⟩ := h.settled
              refine h.of_saved hsaved (m := .baseline) ?_ hstaging
              rw [hlive, hm.backup]
              rfl
  | rollback name checkpoint =>
      have hbookkept := env.bookkept_perform (.rollback name checkpoint) h.bookkept
      rcases rollback_outcome h.bookkept.wellSaved name checkpoint with
        hspared | ⟨snapshot, w, outcome, hfound, hputs⟩
      · exact h.of_spared hspared
      obtain ⟨m, hm⟩ := h.settled
      obtain ⟨before, rest, hsplit, -⟩ := List.lookup_eq_some_iff.mp hfound
      obtain ⟨saved, hlive', hstaging'⟩ := h.saved (name, snapshot) (by rw [hsplit]; simp)
      have hlive := hm.transfer (g := { f with world := w, rollbacks := popEntry name f.rollbacks })
        rfl fun part => by cases part <;> rfl
      obtain ⟨hcleanLive, -, hcleanStaging⟩ := inventories_eq_ok hlive.inventories
      change (rollback name checkpoint f).2.Bookkept at hbookkept
      show env.Sound (rollback name checkpoint f).2
      have hrollbacks := hputs.rollbacks.1
      generalize (rollback name checkpoint f).2 = f' at hputs hbookkept hrollbacks ⊢
      refine ⟨hbookkept, ?_, fun entry hentry => ?_⟩
      · cases hputs with
        | restored live staging hclean hclean' hfiles hstaged hplace hplace' =>
            refine ⟨saved, ⟨hclean.real.run_root, fun part => ?_⟩, hm.backup, ?_, ?_⟩
            · cases part with
              | live => exact hplace
              | backup => exact hclean.real.directory .backup
              | staging => exact hplace'
            · rw [← hlive']
              exact hfiles
            · rw [← hstaging']
              exact hstaged
        | refused e hclean => exact absurd (inventory_eq_ok.mp hcleanLive).1 hclean
        | half e live hclean hclean' => exact absurd (inventory_eq_ok.mp hcleanStaging).1 hclean'
      · rw [hrollbacks] at hentry
        exact h.saved entry (List.mem_of_mem_filter hentry)
  | disturb run_root live backup staging => exact absurd hcall id

theorem sound_reached {ops : List (FixtureOp W)} (hcalls : ∀ op ∈ ops, IsCall op) (w : W) :
    env.Sound (env.reached ops w) :=
  invariant_runAll (C := fun op _ => IsCall op)
    (fun _ _ h hcall => env.sound_perform hcall h) (env.sound_provisioned w)
    (.of_invariant (I := fun _ => True) (fun op hop _ _ => ⟨hcalls op hop, trivial⟩) trivial)

/-! ## The inspection -/

/-- The digest under a name. -/
theorem lookup_manifest {files : Inventory} (hnames : (files.map Prod.fst).Nodup) (name : String) :
    (env.manifest files).lookup name = (files.lookup name).map env.sha256 := by
  have hdigests : ∀ files : Inventory,
      (files.map fun file => (file.1, env.sha256 file.2)).lookup name =
        (files.lookup name).map env.sha256 := by
    intro files
    induction files with
    | nil => rfl
    | cons file files ih =>
        obtain ⟨key, content⟩ := file
        rw [List.map_cons, List.lookup_cons, List.lookup_cons, ih]
        cases name == key <;> rfl
  rw [← hdigests, manifest]
  refine (Json.lookup_perm (List.perm_insertionSort _ _).symm ?_ name).symm
  rw [List.map_map]
  exact hnames

/-- A count of names does not depend on their order. -/
theorem countP_manifest (p : String → Bool) (files : Inventory) :
    (env.manifest files).countP (fun entry => p entry.1) = (files.map Prod.fst).countP p := by
  rw [manifest, (List.perm_insertionSort _ _).countP_eq, List.countP_map, List.countP_map]
  rfl

theorem names_liveFiles_nodup (m : MarkerState) : ((env.liveFiles m).map Prod.fst).Nodup := by
  rw [names_liveFiles]
  cases m <;> decide

/-- Where an original lies in a state. -/
theorem lookup_original (m : MarkerState) {file : String × FileBytes} (h : file ∈ fixtureContents) :
    (env.liveFiles m).lookup file.1 = (if m = .realized then none else some file.2) ∧
      (stagingFiles m).lookup file.1 = if m = .realized then some file.2 else none := by
  have hself : ∀ file ∈ fixtureContents, fixtureContents.lookup file.1 = some file.2 := by
    decide
  have hmoved : ∀ file ∈ fixtureContents,
      file.1 ∉ originalNames.map markerName ++ [noteName] := by decide
  cases m with
  | baseline => exact ⟨hself file h, rfl⟩
  | blocked =>
      refine ⟨?_, rfl⟩
      rw [liveFiles, List.lookup_append, hself file h]
      rfl
  | realized =>
      refine ⟨?_, hself file h⟩
      rw [if_pos rfl]
      refine notMem_keys_iff.mp ?_
      rw [names_liveFiles]
      exact hmoved file h

/-- The inspection and the check before an action agree on the baseline. -/
theorem baseline_verified_iff {f : ImpactFixture W} {found : Inventories}
    (h : f.inventories = .ok found) :
    (env.inspectionOf (env.manifests found)).baseline_verified = true ↔
      env.healthMismatches f = .ok [] := by
  have hstaging : env.manifest found.staging = [] ↔ found.staging = [] := by
    rw [← List.length_eq_zero_iff, length_manifest, List.length_eq_zero_iff]
  have hnone : env.manifest [] = [] := rfl
  unfold healthMismatches
  rw [bind_of_eq_ok h]
  by_cases hlive : env.manifest found.live = env.expectedManifest <;>
    by_cases hbackup : env.manifest found.backup = env.expectedManifest <;>
    by_cases hempty : found.staging = [] <;>
    simp [inspectionOf, manifests, hstaging, hlive, hbackup, hempty, hnone, pure, Except.pure]

/-- What the inspection of a settled fixture finds. -/
theorem inspect_of_settled {m : MarkerState} {f : ImpactFixture W} (h : env.Settled m f) :
    ∃ found, env.inspect f = .ok found ∧ found.originals_unchanged = true ∧
      found.backup_intact = true ∧ found.baseline_verified = decide (m = .baseline) ∧
      found.note_present = decide (m = .realized) ∧
      found.available_originals = (if m = .realized then 0 else 5) ∧
      found.marker_count = if m = .baseline then 0 else 5 := by
  have hstaged : ((stagingFiles m).map Prod.fst).Nodup := by
    cases m <;> decide
  have horiginal : ∀ entry ∈ env.expectedManifest, ∃ file ∈ fixtureContents,
      entry = (file.1, env.sha256 file.2) := by
    intro entry hentry
    rw [expectedManifest, manifest, List.mem_insertionSort] at hentry
    obtain ⟨file, hfile, rfl⟩ := List.mem_map.mp hentry
    exact ⟨file, hfile, rfl⟩
  have hlength : env.expectedManifest.length = 5 := by
    rw [expectedManifest, length_manifest]
    rfl
  refine ⟨_, by rw [inspect, bind_of_eq_ok h.inventories]; rfl, ?_, ?_, ?_, ?_, ?_, ?_⟩
  · show env.expectedManifest.all _ = true
    refine List.all_eq_true.mpr fun entry hentry => ?_
    obtain ⟨file, hfile, rfl⟩ := horiginal entry hentry
    obtain ⟨hlive, hstaging⟩ := env.lookup_original m hfile
    dsimp only [manifests]
    rw [env.lookup_manifest (env.names_liveFiles_nodup m), env.lookup_manifest hstaged, hlive,
      hstaging]
    cases m <;> simp
  · exact decide_eq_true rfl
  · rw [Bool.eq_iff_iff, decide_eq_true_iff, ← env.healthMismatches_of_settled h]
    exact env.baseline_verified_iff h.inventories
  · show ((env.manifest (env.liveFiles m)).lookup noteName).isSome = _
    have hnote : noteName ∈ (env.liveFiles m).map Prod.fst ↔ m = .realized := by
      rw [names_liveFiles]
      cases m <;> decide
    rw [Bool.eq_iff_iff, decide_eq_true_iff, ← hnote, Option.isSome_iff_ne_none, ne_eq,
      env.lookup_manifest (env.names_liveFiles_nodup m), Option.map_eq_none_iff, ← notMem_keys_iff,
      not_not]
  · show env.expectedManifest.countP _ = _
    have hall : ∀ entry ∈ env.expectedManifest,
        ((env.manifests ⟨env.liveFiles m, fixtureContents, stagingFiles m⟩).live.lookup entry.1 ==
          some entry.2) = decide (m ≠ .realized) := by
      intro entry hentry
      obtain ⟨file, hfile, rfl⟩ := horiginal entry hentry
      dsimp only [manifests]
      rw [env.lookup_manifest (env.names_liveFiles_nodup m), (env.lookup_original m hfile).1]
      cases m <;> simp
    rw [List.countP_congr fun entry hentry => by rw [hall entry hentry], ← hlength]
    cases m <;> simp
  · show (env.manifest (env.liveFiles m)).countP _ = _
    rw [env.countP_manifest (fun name => markerSuffix.toList.isSuffixOf name.toList),
      names_liveFiles]
    cases m <;> decide

/-- **The impact keeps the originals**: as long as nobody else touches the directories, each original
is in the live directory or in the staging directory with its content and not in both, the known-good
copies are as provisioned, and the inspection says so. -/
theorem originals_kept (ops : List (FixtureOp W)) (w : W) (hcalls : ∀ op ∈ ops, IsCall op) :
    (env.reached ops w).backup = approvedDirectory ∧
    (∀ file ∈ fixtureContents,
      (asEntry file ∈ (env.reached ops w).live.entries ∧
        file.1 ∉ (env.reached ops w).staging.entries.map Prod.fst) ∨
      (asEntry file ∈ (env.reached ops w).staging.entries ∧
        file.1 ∉ (env.reached ops w).live.entries.map Prod.fst)) ∧
    ∃ found, env.inspect (env.reached ops w) = .ok found ∧ found.originals_unchanged = true ∧
      found.backup_intact = true ∧
      found.available_originals = (if found.note_present then 0 else 5) ∧
      found.marker_count = if found.baseline_verified then 0 else 5 := by
  obtain ⟨m, hm⟩ := (env.sound_reached hcalls w).settled
  generalize env.reached ops w = f at hm
  obtain ⟨found, hfound, hunchanged, hintact, hbaseline, hnote, havailable, hmarkers⟩ :=
    env.inspect_of_settled hm
  refine ⟨hm.backup, fun file hfile => ?_, found, hfound, hunchanged, hintact, ?_, ?_⟩
  · obtain ⟨hlive, hstaging⟩ := env.lookup_original m hfile
    have hkeys : ∀ files : Inventory, files.lookup file.1 = none →
        file.1 ∉ (files.map asEntry).map Prod.fst := by
      intro files hnone
      rw [List.map_map]
      exact notMem_keys_iff.mpr hnone
    have hmem : ∀ files : Inventory, files.lookup file.1 = some file.2 →
        asEntry file ∈ files.map asEntry := by
      intro files hsome
      obtain ⟨before, after, heq, -⟩ := List.lookup_eq_some_iff.mp hsome
      rw [heq]
      simp
    rw [hm.live, hm.staging]
    by_cases hrealized : m = .realized
    · rw [if_pos hrealized] at hlive hstaging
      exact Or.inr ⟨hmem _ hstaging, hkeys _ hlive⟩
    · rw [if_neg hrealized] at hlive hstaging
      exact Or.inl ⟨hmem _ hlive, hkeys _ hstaging⟩
  · rw [havailable, hnote]
    simp
  · rw [hmarkers, hbaseline]
    simp

/-- The realized branch keeps the originals in the staging directory. -/
theorem realized_originals_kept :
    ∃ found, quietEnv.inspect (quietEnv.reached [.apply "realized" (pure ())] ()) = .ok found ∧
      found.originals_unchanged = true ∧ found.backup_intact = true ∧
      found.available_originals = (if found.note_present then 0 else 5) ∧
      found.marker_count = if found.baseline_verified then 0 else 5 := by
  refine (quietEnv.originals_kept [.apply "realized" (pure ())] () fun op hop => ?_).2.2
  rw [List.mem_singleton.mp hop]
  trivial

end ImpactEnv

end NetStrike.Modules
