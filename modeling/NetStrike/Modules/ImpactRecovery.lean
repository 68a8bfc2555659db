import NetStrike.Foundation.Runs
import NetStrike.Modules.ImpactFixture
import NetStrike.Shared.TokenTable

/-!
# Impact and recovery

What `apply_markers`, `restore_fixture` and `rollback` do to the files. A directory is `Clean` when
its inventory can be taken, and the bodies of both actions keep the live and the staging directory
clean (`Working`), so what was captured can be put back wherever they raise: an action has all of
its effect or none (`impact_calls_atomic`), whatever was done to the files between the calls.

Where nobody else touches the files, each original is in exactly one place (`originals_kept`).
-/

set_option autoImplicit false

namespace NetStrike.Modules

open NetStrike.Foundation NetStrike.Foundation.Checked NetStrike.Shared

/-! ## Entries -/

theorem setEntry_of_notMem {α : Type} {key : String} {value : α} {entries : List (String × α)}
    (h : key ∉ entries.map Prod.fst) : setEntry key value entries = entries ++ [(key, value)] := by
  induction entries with
  | nil => rfl
  | cons entry entries ih =>
      obtain ⟨k, v⟩ := entry
      rw [List.map_cons, List.mem_cons, not_or] at h
      rw [setEntry, if_neg fun heq => h.1 heq.symm, ih h.2]
      rfl

theorem mem_of_mem_setEntry {α : Type} {key : String} {value : α} {entries : List (String × α)}
    {entry : String × α} (h : entry ∈ setEntry key value entries) :
    entry = (key, value) ∨ entry ∈ entries := by
  induction entries with
  | nil => exact Or.inl (List.mem_singleton.mp h)
  | cons first entries ih =>
      obtain ⟨k, v⟩ := first
      unfold setEntry at h
      split_ifs at h with hk
      · exact (List.mem_cons.mp h).imp id (List.mem_cons_of_mem _)
      · rcases List.mem_cons.mp h with rfl | h
        · exact Or.inr List.mem_cons_self
        · exact (ih h).imp id (List.mem_cons_of_mem _)

theorem popEntry_of_notMem {α : Type} {key : String} {entries : List (String × α)}
    (h : key ∉ entries.map Prod.fst) : popEntry key entries = entries := by
  refine List.filter_eq_self.mpr fun entry hentry => decide_eq_true fun heq => h ?_
  exact heq ▸ List.mem_map_of_mem hentry

theorem popEntry_setEntry {α : Type} {key : String} {value : α} {entries : List (String × α)}
    (h : key ∉ entries.map Prod.fst) : popEntry key (setEntry key value entries) = entries := by
  rw [setEntry_of_notMem h, popEntry, List.filter_append]
  have hrest : entries.filter (fun entry => decide (entry.1 ≠ key)) = entries :=
    popEntry_of_notMem h
  rw [hrest]
  simp

theorem notMem_keys_iff {α : Type} {key : String} {entries : List (String × α)} :
    key ∉ entries.map Prod.fst ↔ entries.lookup key = none := by
  rw [List.lookup_eq_none_iff]
  constructor
  · intro h entry hentry
    refine bne_iff_ne.mpr fun heq => h ?_
    rw [heq]
    exact List.mem_map_of_mem hentry
  · intro h hmem
    obtain ⟨entry, hentry, rfl⟩ := List.mem_map.mp hmem
    exact bne_iff_ne.mp (h entry hentry) rfl

/-! ## Inventories -/

/-- The entry of a file without further links. -/
def asEntry (file : String × FileBytes) : String × FixtureEntry := (file.1, .file file.2 1)

/-- The entry is a small regular file under one of the names. -/
def Regular (allowed : List String) (entry : String × FixtureEntry) : Prop :=
  ∃ content, entry.2 = .file content 1 ∧ entry.1 ∈ allowed ∧ content.length ≤ 64 * 1024

theorem inventoryEntry_eq_ok {allowed : List String} {entry : String × FixtureEntry}
    {file : String × FileBytes} :
    ImpactFixture.inventoryEntry allowed entry = .ok file ↔
      entry = asEntry file ∧ Regular allowed entry := by
  obtain ⟨name, node⟩ := entry
  cases node with
  | file content links =>
      unfold ImpactFixture.inventoryEntry
      dsimp only
      constructor
      · intro h
        split_ifs at h with hallowed
        obtain ⟨hname, rfl, hlength⟩ := hallowed
        rw [← Except.ok.inj h]
        exact ⟨rfl, content, rfl, hname, hlength⟩
      · rintro ⟨heq, content', hnode, hname, hlength⟩
        obtain ⟨rfl, rfl⟩ := FixtureEntry.file.inj hnode
        rw [if_pos ⟨hname, rfl, hlength⟩]
        obtain ⟨hfst, hsnd⟩ := Prod.mk.inj heq
        rw [show file = (name, content) from
          Prod.ext hfst.symm (FixtureEntry.file.inj hsnd).1.symm]
  | other =>
      constructor
      · intro h
        cases h
      · rintro ⟨-, content, hnode, -⟩
        cases hnode

theorem mapM_inventoryEntry {allowed : List String} {entries : List (String × FixtureEntry)}
    {files : Inventory} :
    entries.mapM (ImpactFixture.inventoryEntry allowed) = .ok files ↔
      entries = files.map asEntry ∧ ∀ entry ∈ entries, Regular allowed entry := by
  induction entries generalizing files with
  | nil =>
      constructor
      · intro h
        rw [← Except.ok.inj h]
        exact ⟨rfl, List.forall_mem_nil _⟩
      · rintro ⟨h, -⟩
        rw [List.map_eq_nil_iff.mp h.symm]
        rfl
  | cons entry entries ih =>
      rw [List.mapM_cons]
      constructor
      · intro h
        obtain ⟨file, hfile, h⟩ := bind_eq_ok h
        obtain ⟨rest, hrest, h⟩ := bind_eq_ok h
        obtain ⟨hfirst, hregular⟩ := inventoryEntry_eq_ok.mp hfile
        obtain ⟨hentries, hall⟩ := ih.mp hrest
        rw [← Except.ok.inj h, List.map_cons, ← hfirst, ← hentries]
        exact ⟨rfl, List.forall_mem_cons.mpr ⟨hregular, hall⟩⟩
      · rintro ⟨heq, hall⟩
        rw [List.forall_mem_cons] at hall
        cases files with
        | nil => cases heq
        | cons file files =>
            obtain ⟨hfirst, hrest⟩ := List.cons.inj heq
            rw [bind_of_eq_ok (inventoryEntry_eq_ok.mpr ⟨hfirst, hall.1⟩),
              bind_of_eq_ok (ih.mpr ⟨hrest, hall.2⟩)]
            rfl

namespace ImpactFixture

variable {W : Type}

/-- Every directory is where it should be. -/
structure Real (f : ImpactFixture W) : Prop where
  run_root : f.run_root = .real
  directory : ∀ part, (f.directory part).place = .real

theorem validatePlace_eq_ok {unsound escape : String} {place : Place}
    (h : validatePlace unsound escape place = .ok ()) : place = .real := by
  cases place with
  | real => rfl
  | missing => cases h
  | escaped => cases h

theorem validateDirectories_eq_ok {f : ImpactFixture W} :
    f.validateDirectories = .ok () ↔ f.Real := by
  unfold validateDirectories
  constructor
  · intro h
    obtain ⟨_, hroot, h⟩ := bind_eq_ok h
    obtain ⟨_, hlive, h⟩ := bind_eq_ok h
    obtain ⟨_, hbackup, h⟩ := bind_eq_ok h
    obtain ⟨_, hstaging, -⟩ := bind_eq_ok h
    refine ⟨validatePlace_eq_ok hroot, fun part => ?_⟩
    cases part with
    | live => exact validatePlace_eq_ok hlive
    | backup => exact validatePlace_eq_ok hbackup
    | staging => exact validatePlace_eq_ok hstaging
  · rintro ⟨hroot, hdirectory⟩
    have hlive : f.live.place = .real := hdirectory .live
    have hbackup : f.backup.place = .real := hdirectory .backup
    have hstaging : f.staging.place = .real := hdirectory .staging
    simp [hroot, hlive, hbackup, hstaging, validatePlace, bind, Except.bind, pure, Except.pure]

/-- The inventory of a directory can be taken. -/
structure Clean (f : ImpactFixture W) (part : FixturePart) : Prop where
  real : f.Real
  regular : ∀ entry ∈ (f.directory part).entries, Regular part.allowed entry

theorem inventory_eq_ok {f : ImpactFixture W} {part : FixturePart} {files : Inventory} :
    f.inventory part = .ok files ↔
      f.Clean part ∧ (f.directory part).entries = files.map asEntry := by
  unfold inventory
  constructor
  · intro h
    obtain ⟨_, hreal, h⟩ := bind_eq_ok h
    cases hplaces : f.validateDirectories with
    | error e =>
        rw [hplaces] at hreal
        cases hreal
    | ok u =>
        obtain ⟨heq, hall⟩ := mapM_inventoryEntry.mp h
        exact ⟨⟨validateDirectories_eq_ok.mp hplaces, hall⟩, heq⟩
  · rintro ⟨⟨hreal, hall⟩, heq⟩
    rw [validateDirectories_eq_ok.mpr hreal]
    exact mapM_inventoryEntry.mpr ⟨heq, hall⟩

/-- Only the directories matter. -/
theorem Clean.transfer {f g : ImpactFixture W} {part : FixturePart} (h : f.Clean part)
    (hroot : g.run_root = f.run_root) (hdirectory : ∀ part, g.directory part = f.directory part) :
    g.Clean part := by
  refine ⟨⟨hroot.trans h.real.run_root, fun part => ?_⟩, ?_⟩
  · rw [hdirectory part]
    exact h.real.directory part
  · rw [hdirectory part]
    exact h.regular

/-- A clean directory has an inventory. -/
theorem Clean.exists_inventory {f : ImpactFixture W} {part : FixturePart} (h : f.Clean part) :
    ∃ files, f.inventory part = .ok files := by
  have hfiles : ∀ entries : List (String × FixtureEntry),
      (∀ entry ∈ entries, Regular part.allowed entry) →
        ∃ files : Inventory, entries = files.map asEntry := by
    intro entries
    induction entries with
    | nil => exact fun _ => ⟨[], rfl⟩
    | cons entry entries ih =>
        intro hall
        rw [List.forall_mem_cons] at hall
        obtain ⟨⟨content, hnode, -⟩, hall⟩ := hall
        obtain ⟨files, rfl⟩ := ih hall
        exact ⟨(entry.1, content) :: files, by rw [List.map_cons, asEntry, ← hnode]⟩
  obtain ⟨files, heq⟩ := hfiles _ h.regular
  exact ⟨files, inventory_eq_ok.mpr ⟨h, heq⟩⟩

theorem inventories_eq_ok {f : ImpactFixture W} {found : Inventories}
    (h : f.inventories = .ok found) :
    f.inventory .live = .ok found.live ∧ f.inventory .backup = .ok found.backup ∧
      f.inventory .staging = .ok found.staging := by
  unfold inventories at h
  obtain ⟨live, hlive, h⟩ := bind_eq_ok h
  obtain ⟨backup, hbackup, h⟩ := bind_eq_ok h
  obtain ⟨staging, hstaging, h⟩ := bind_eq_ok h
  rw [← Except.ok.inj h]
  exact ⟨hlive, hbackup, hstaging⟩

/-- The inventories of clean directories. -/
theorem inventories_of_eq_ok {f : ImpactFixture W} {live backup staging : Inventory}
    (hlive : f.inventory .live = .ok live) (hbackup : f.inventory .backup = .ok backup)
    (hstaging : f.inventory .staging = .ok staging) :
    f.inventories = .ok ⟨live, backup, staging⟩ := by
  unfold inventories
  rw [bind_of_eq_ok hlive, bind_of_eq_ok hbackup, bind_of_eq_ok hstaging]
  rfl

end ImpactFixture

/-! ## Replacing the files of a directory -/

namespace FixtureDirectory

/-- To unlink all files of a directory leaves it empty. -/
theorem unlink_all {files : Inventory} {d : FixtureDirectory}
    (h : d.entries = files.map asEntry) :
    ∃ d', files.foldlM (fun d file => unlink file.1 d) d = .ok d' ∧ d'.place = d.place ∧
      d'.entries = [] := by
  induction files generalizing d with
  | nil => exact ⟨d, rfl, rfl, h⟩
  | cons file files ih =>
      have hunique := d.names_unique
      rw [h, List.map_cons, List.map_cons, List.nodup_cons] at hunique
      have hfirst : unlink file.1 d = .ok (d.drop file.1) := by
        unfold unlink
        rw [h, List.map_cons, asEntry, List.lookup_cons_self]
      have hdrop : (d.drop file.1).entries = files.map asEntry := by
        show popEntry file.1 d.entries = _
        rw [h, List.map_cons, popEntry, List.filter_cons_of_neg (by simp [asEntry])]
        exact popEntry_of_notMem hunique.1
      obtain ⟨d', hrest, hplace, hempty⟩ := ih hdrop
      rw [List.foldlM_cons, hfirst]
      exact ⟨d', hrest, hplace, hempty⟩

/-- Files with new names are written after the files that are there. -/
theorem write_all (before : Inventory) {files : Inventory} {d : FixtureDirectory}
    (h : d.entries = before.map asEntry) (hunique : ((before ++ files).map Prod.fst).Nodup) :
    ∃ d', files.foldlM (fun d file => write file.1 file.2 d) d = .ok d' ∧ d'.place = d.place ∧
      d'.entries = (before ++ files).map asEntry := by
  induction files generalizing d before with
  | nil => exact ⟨d, rfl, rfl, by rw [h, List.append_nil]⟩
  | cons file files ih =>
      have hnew : file.1 ∉ d.entries.map Prod.fst := by
        rw [h, List.map_map]
        rw [List.map_append, List.map_cons] at hunique
        exact fun hmem => List.disjoint_of_nodup_append hunique hmem List.mem_cons_self
      have hfirst : write file.1 file.2 d = .ok (d.put file.1 (.file file.2 1)) := by
        unfold write
        rw [notMem_keys_iff.mp hnew]
      have hput : (d.put file.1 (.file file.2 1)).entries = (before ++ [file]).map asEntry := by
        show setEntry file.1 (.file file.2 1) d.entries = _
        rw [setEntry_of_notMem hnew, h, List.map_append]
        rfl
      rw [List.append_cons] at hunique
      obtain ⟨d', hrest, hplace, hentries⟩ := ih (before ++ [file]) hput hunique
      rw [List.foldlM_cons, hfirst]
      exact ⟨d', hrest, hplace, by rw [hentries, ← List.append_cons]⟩

end FixtureDirectory

namespace ImpactFixture

variable {W : Type}

@[simp] theorem directory_setDirectory (f : ImpactFixture W) (d : FixtureDirectory)
    (part : FixturePart) : (f.setDirectory d part).directory part = d := by
  cases part <;> rfl

@[simp] theorem setDirectory_setDirectory (f : ImpactFixture W) (d d' : FixtureDirectory)
    (part : FixturePart) : (f.setDirectory d part).setDirectory d' part = f.setDirectory d' part := by
  cases part <;> rfl

@[simp] theorem setDirectory_directory (f : ImpactFixture W) (part : FixturePart) :
    f.setDirectory (f.directory part) part = f := by
  cases part <;> rfl

/-- A loop over changes of one directory. -/
theorem forEach_onDirectory {β : Type} {part : FixturePart}
    {change : β → FixtureDirectory → Except Exn FixtureDirectory} {items : List β}
    {f : ImpactFixture W} {d' : FixtureDirectory}
    (h : items.foldlM (fun d item => change item d) (f.directory part) = .ok d') :
    Raising.forEach (fun item => onDirectory part (change item)) items f =
      (.ok (), f.setDirectory d' part) := by
  induction items generalizing f with
  | nil =>
      rw [← Except.ok.inj h, setDirectory_directory]
      rfl
  | cons item items ih =>
      rw [List.foldlM_cons] at h
      obtain ⟨d, hfirst, hrest⟩ := bind_eq_ok h
      have hstep : onDirectory part (change item) f = (.ok (), f.setDirectory d part) := by
        rw [onDirectory, hfirst]
      rw [Raising.forEach_cons, Raising.bind_of_ok hstep,
        ih (by rwa [directory_setDirectory]), setDirectory_setDirectory]

/-- A clean directory takes any files with different names. -/
theorem replaceInventory_of_clean {f : ImpactFixture W} {part : FixturePart} (h : f.Clean part)
    (files : Inventory) (hunique : (files.map Prod.fst).Nodup) :
    ∃ d, replaceInventory part files f = (.ok (), f.setDirectory d part) ∧
      d.place = (f.directory part).place ∧ d.entries = files.map asEntry := by
  obtain ⟨current, hcurrent⟩ := h.exists_inventory
  obtain ⟨d, hunlink, hplace, hempty⟩ :=
    FixtureDirectory.unlink_all (inventory_eq_ok.mp hcurrent).2
  obtain ⟨d', hwrite, hplace', hentries⟩ :=
    FixtureDirectory.write_all [] hempty hunique
  have hlook : look (inventory part) f = (.ok current, f) := by
    rw [look, hcurrent]
  refine ⟨d', ?_, hplace'.trans hplace, hentries⟩
  rw [replaceInventory, Raising.bind_of_ok hlook,
    Raising.bind_of_ok (forEach_onDirectory hunlink),
    forEach_onDirectory (by rwa [directory_setDirectory]), setDirectory_setDirectory]

/-- A directory that is not clean is not touched. -/
theorem replaceInventory_of_not_clean {f : ImpactFixture W} {part : FixturePart}
    (h : ¬ f.Clean part) (files : Inventory) :
    ∃ e, replaceInventory part files f = (.error e, f) := by
  cases hinventory : f.inventory part with
  | ok current => exact absurd (inventory_eq_ok.mp hinventory).1 h
  | error e =>
      have hlook : look (inventory part) f = (.error e, f) := by
        rw [look, hinventory]
      exact ⟨e, by rw [replaceInventory, Raising.bind_of_error hlook]⟩

/-! ## Captured snapshots -/

/-- Nothing differs but the world and the counter of the tokens, which only grows. -/
def Spared (f f' : ImpactFixture W) : Prop :=
  ∃ w n, f.rollback_sequence ≤ n ∧ f' = { f with rollback_sequence := n, world := w }

theorem Spared.refl (f : ImpactFixture W) : Spared f f :=
  ⟨f.world, f.rollback_sequence, le_rfl, rfl⟩

/-- The snapshot shows the files and the report of the fixture. -/
structure Shows (f : ImpactFixture W) (snapshot : FixtureSnapshot) : Prop where
  live : f.inventory .live = .ok snapshot.live
  staging : f.inventory .staging = .ok snapshot.staging
  last_report : snapshot.last_report = f.last_report

/-- Tokens of later numbers are not in use. -/
def Numbered (f : ImpactFixture W) : Prop :=
  ∀ n, f.rollback_sequence < n → f.rollbacks.lookup (token n) = none

/-- The fixture after a capture. -/
def captured (f : ImpactFixture W) (snapshot : FixtureSnapshot) : ImpactFixture W :=
  { f with
    rollback_sequence := f.rollback_sequence + 1
    rollbacks := setEntry (token (f.rollback_sequence + 1)) snapshot f.rollbacks }

theorem capture_eq_ok {f f' : ImpactFixture W} {name : String}
    (h : capture f = (.ok name, f')) :
    ∃ snapshot, f.Shows snapshot ∧ name = token (f.rollback_sequence + 1) ∧
      f' = f.captured snapshot := by
  unfold capture at h
  obtain ⟨found, f₁, hlook, h⟩ := Raising.bind_eq_ok h
  obtain ⟨hfound, rfl⟩ := Prod.mk.inj hlook
  obtain ⟨hlive, -, hstaging⟩ := inventories_eq_ok hfound
  obtain ⟨hname, rfl⟩ := Prod.mk.inj h
  exact ⟨⟨found.live, found.staging, f.last_report⟩, ⟨hlive, hstaging, rfl⟩,
    (Except.ok.inj hname).symm, rfl⟩

theorem capture_eq_error {f f' : ImpactFixture W} {e : Exn} (h : capture f = (.error e, f')) :
    f' = f := by
  unfold capture at h
  rcases Raising.bind_eq_error h with h | ⟨found, f₁, -, h⟩
  · exact (Prod.mk.inj h).2.symm
  · cases h

theorem popSnapshot_of_found {f : ImpactFixture W} (unknown : Exn) {name : String}
    {snapshot : FixtureSnapshot} (h : f.rollbacks.lookup name = some snapshot) :
    popSnapshot unknown name f =
      (.ok snapshot, { f with rollbacks := popEntry name f.rollbacks }) := by
  rw [popSnapshot, Raising.gets_bind_apply, h]
  rfl

theorem popSnapshot_of_unknown {f : ImpactFixture W} (unknown : Exn) {name : String}
    (h : f.rollbacks.lookup name = none) : popSnapshot unknown name f = (.error unknown, f) := by
  rw [popSnapshot, Raising.gets_bind_apply, h]
  rfl

/-- What the body of an action keeps: the files stay such that they can be replaced. -/
structure Working (f s : ImpactFixture W) : Prop where
  run_root : s.run_root = f.run_root
  backup : s.backup = f.backup
  last_report : s.last_report = f.last_report
  rollbacks : s.rollbacks = f.rollbacks
  rollback_sequence : s.rollback_sequence = f.rollback_sequence
  live : s.Clean .live
  staging : s.Clean .staging

theorem names_nodup {f : ImpactFixture W} {part : FixturePart} {files : Inventory}
    (h : f.inventory part = .ok files) : (files.map Prod.fst).Nodup := by
  have hunique := (f.directory part).names_unique
  rw [(inventory_eq_ok.mp h).2, List.map_map] at hunique
  exact hunique

/-- A directory is known by its entries once it is real. -/
theorem directory_eq {f g : ImpactFixture W} {part : FixturePart} {d : FixtureDirectory}
    {files : Inventory} (hf : f.inventory part = .ok files) (hg : g.Real)
    (hplace : d.place = (g.directory part).place) (hentries : d.entries = files.map asEntry) :
    d = f.directory part := by
  obtain ⟨hclean, heq⟩ := inventory_eq_ok.mp hf
  refine FixtureDirectory.ext ?_ (hentries.trans heq.symm)
  rw [hplace, hg.directory part, hclean.real.directory part]

/-- A snapshot of `f` is put back over any working state. -/
theorem restoreSnapshot_of_clean {f : ImpactFixture W} {snapshot : FixtureSnapshot}
    (hshows : f.Shows snapshot) (s : ImpactFixture W) (hlive : s.Clean .live) (hstaging : s.Clean .staging) :
    restoreSnapshot snapshot s = (.ok (), { s with
      live := f.live, staging := f.staging, last_report := snapshot.last_report }) := by
  obtain ⟨d, hreplace, hplace, hentries⟩ := replaceInventory_of_clean hlive _
    (names_nodup hshows.live)
  have hd : d = f.live := directory_eq hshows.live hlive.real hplace hentries
  subst hd
  have hclean : (s.setDirectory f.live .live).Clean .staging := by
    refine ⟨⟨hlive.real.run_root, fun part => ?_⟩, hstaging.regular⟩
    cases part with
    | live => exact hplace.trans (hlive.real.directory .live)
    | backup => exact hlive.real.directory .backup
    | staging => exact hlive.real.directory .staging
  obtain ⟨d', hreplace', hplace', hentries'⟩ := replaceInventory_of_clean hclean _
    (names_nodup hshows.staging)
  have hd' : d' = f.staging := directory_eq hshows.staging hclean.real hplace' hentries'
  subst hd'
  rw [restoreSnapshot, Raising.bind_of_ok hreplace, Raising.bind_of_ok hreplace']
  rfl

/-- **A failed body is compensated.** -/
theorem rollingBack_of_working {α : Type} {f : ImpactFixture W} {snapshot : FixtureSnapshot}
    {failure : Exn} {body : Py (ImpactFixture W) α} (hnumbered : f.Numbered)
    (hshows : f.Shows snapshot)
    (hbody : body.Keeps (Raising.Onward (Working (f.captured snapshot))))
    {r : Except Exn α} {f' : ImpactFixture W}
    (h : rollingBack (token (f.rollback_sequence + 1)) failure body (f.captured snapshot) = (r, f')) :
    (∃ a, r = .ok a ∧ body (f.captured snapshot) = (.ok a, f')) ∨
      (r = .error failure ∧ Spared f f') := by
  cases hrun : body (f.captured snapshot) with
  | mk outcome s =>
      cases outcome with
      | ok a =>
          rw [rollingBack, Raising.rescue_of_ok hrun] at h
          obtain ⟨rfl, rfl⟩ := Prod.mk.inj h
          exact Or.inl ⟨a, rfl, rfl⟩
      | error e =>
          have hstart : Working (f.captured snapshot) (f.captured snapshot) :=
            ⟨rfl, rfl, rfl, rfl, rfl,
              (inventory_eq_ok.mp hshows.live).1.transfer rfl fun part => by cases part <;> rfl,
              (inventory_eq_ok.mp hshows.staging).1.transfer rfl fun part => by cases part <;> rfl⟩
          have hworking : Working (f.captured snapshot) s := by
            have hkept := hbody _ hstart
            rwa [hrun] at hkept
          have hfresh : token (f.rollback_sequence + 1) ∉ f.rollbacks.map Prod.fst :=
            notMem_keys_iff.mpr (hnumbered _ (Nat.lt_succ_self _))
          have hfound : s.rollbacks.lookup (token (f.rollback_sequence + 1)) = some snapshot := by
            rw [hworking.rollbacks]
            exact lookup_setEntry _ _ _
          have hspent : popEntry (token (f.rollback_sequence + 1)) s.rollbacks = f.rollbacks := by
            rw [hworking.rollbacks]
            exact popEntry_setEntry hfresh
          have hpop := popSnapshot_of_found (.of .KeyError (token (f.rollback_sequence + 1))) hfound
          rw [hspent] at hpop
          have hrestore := restoreSnapshot_of_clean hshows { s with rollbacks := f.rollbacks }
            (hworking.live.transfer rfl fun part => by cases part <;> rfl)
            (hworking.staging.transfer rfl fun part => by cases part <;> rfl)
          rw [rollingBack, Raising.rescue_of_error hrun, Raising.bind_of_ok hpop,
            Raising.bind_of_ok hrestore] at h
          obtain ⟨rfl, rfl⟩ := Prod.mk.inj h
          refine Or.inr ⟨rfl, s.world, s.rollback_sequence, ?_, ?_⟩
          · rw [hworking.rollback_sequence]
            exact Nat.le_succ _
          · rw [hshows.last_report, show s.run_root = f.run_root from hworking.run_root,
              show s.backup = f.backup from hworking.backup]

/-! ## What the bodies keep -/

theorem Working.transfer {f s t : ImpactFixture W} (h : Working f s)
    (hsame : t = { s with world := t.world }) : Working f t where
  run_root := by rw [hsame, ← h.run_root]
  backup := by rw [hsame, ← h.backup]
  last_report := by rw [hsame, ← h.last_report]
  rollbacks := by rw [hsame, ← h.rollbacks]
  rollback_sequence := by rw [hsame, ← h.rollback_sequence]
  live := by
    rw [hsame]
    exact h.live.transfer rfl fun part => by cases part <;> rfl
  staging := by
    rw [hsame]
    exact h.staging.transfer rfl fun part => by cases part <;> rfl

/-- The collaborators see their world only. -/
theorem keeps_onWorld {α : Type} (f : ImpactFixture W) (m : Py W α) :
    (onWorld m).Keeps (Raising.Onward (Working f)) := fun _ h => h.transfer rfl

/-- A change that leaves a directory clean when it was. -/
def Cleanly (part : FixturePart) (change : FixtureDirectory → Except Exn FixtureDirectory) : Prop :=
  ∀ d d', change d = .ok d' → d'.place = d.place ∧
    ((∀ entry ∈ d.entries, Regular part.allowed entry) →
      ∀ entry ∈ d'.entries, Regular part.allowed entry)

theorem keeps_onDirectory (f : ImpactFixture W) {part : FixturePart} (hpart : part ≠ .backup)
    {change : FixtureDirectory → Except Exn FixtureDirectory} (hchange : Cleanly part change) :
    (onDirectory part change).Keeps (Raising.Onward (Working f)) := by
  intro s h
  unfold onDirectory
  split
  · next d hd =>
      obtain ⟨hplace, hregular⟩ := hchange _ _ hd
      have hreal : (s.setDirectory d part).Real := by
        refine ⟨?_, fun other => ?_⟩
        · cases part <;> exact h.live.real.run_root
        · by_cases hother : other = part
          · rw [hother, directory_setDirectory, hplace]
            exact h.live.real.directory part
          · have hsame : (s.setDirectory d part).directory other = s.directory other := by
              cases part <;> cases other <;> first | rfl | exact absurd rfl hother
            rw [hsame]
            exact h.live.real.directory other
      cases part with
      | live =>
          exact ⟨h.run_root, h.backup, h.last_report, h.rollbacks, h.rollback_sequence,
            ⟨hreal, hregular h.live.regular⟩, ⟨hreal, h.staging.regular⟩⟩
      | backup => exact absurd rfl hpart
      | staging =>
          exact ⟨h.run_root, h.backup, h.last_report, h.rollbacks, h.rollback_sequence,
            ⟨hreal, h.live.regular⟩, ⟨hreal, hregular h.staging.regular⟩⟩
  · exact h

theorem cleanly_write {part : FixturePart} {name : String} {content : FileBytes}
    (hname : name ∈ part.allowed) (hlength : content.length ≤ 64 * 1024) :
    Cleanly part (FixtureDirectory.write name content) := by
  intro d d' h
  have hput : ∀ links, (∃ old, d.entries.lookup name = some (.file old links)) ∨ links = 1 →
      (∀ entry ∈ d.entries, Regular part.allowed entry) →
        ∀ entry ∈ (d.put name (.file content links)).entries, Regular part.allowed entry := by
    intro links hlinks hall entry hentry
    rcases mem_of_mem_setEntry hentry with rfl | hold
    · refine ⟨content, ?_, hname, hlength⟩
      rcases hlinks with ⟨old, hlookup⟩ | rfl
      · obtain ⟨before, after, heq, -⟩ := List.lookup_eq_some_iff.mp hlookup
        obtain ⟨content', hnode, -⟩ := hall (name, .file old links) (by rw [heq]; simp)
        rw [(FixtureEntry.file.inj hnode).2]
      · rfl
    · exact hall entry hold
  unfold FixtureDirectory.write at h
  split at h
  · rw [← Except.ok.inj h]
    exact ⟨rfl, hput 1 (Or.inr rfl)⟩
  · next old links hlookup =>
      rw [← Except.ok.inj h]
      exact ⟨rfl, hput links (Or.inl ⟨old, hlookup⟩)⟩
  · cases h

theorem cleanly_unlink {part : FixturePart} (name : String) :
    Cleanly part (FixtureDirectory.unlink name) := by
  intro d d' h
  unfold FixtureDirectory.unlink at h
  split at h
  · rw [← Except.ok.inj h]
    exact ⟨rfl, fun hall entry hentry => hall entry (List.mem_of_mem_filter hentry)⟩
  · cases h

theorem keeps_look {α : Type} (f : ImpactFixture W) (view : ImpactFixture W → Except Exn α) :
    (look view).Keeps (Raising.Onward (Working f)) := fun _ h => h

/-- An original moves from the live directory to the staging directory. -/
theorem keeps_moveToStaging (f : ImpactFixture W) {name : String} (hname : name ∈ originalNames) :
    (moveToStaging name).Keeps (Raising.Onward (Working f)) := by
  intro s h
  unfold moveToStaging
  split
  · exact h
  · exact h
  · next entry hlive _ =>
      have hreal : ({ s with live := s.live.drop name, staging := s.staging.put name entry } :
          ImpactFixture W).Real := by
        refine ⟨h.live.real.run_root, fun part => ?_⟩
        cases part with
        | live => exact h.live.real.directory .live
        | backup => exact h.live.real.directory .backup
        | staging => exact h.live.real.directory .staging
      refine ⟨h.run_root, h.backup, h.last_report, h.rollbacks, h.rollback_sequence,
        ⟨hreal, fun e he => h.live.regular e (List.mem_of_mem_filter he)⟩, hreal, fun e he => ?_⟩
      rcases mem_of_mem_setEntry he with rfl | hold
      · obtain ⟨before, after, heq, -⟩ := List.lookup_eq_some_iff.mp hlive
        have hmem : (name, entry) ∈ s.live.entries := by
          rw [heq]
          simp
        obtain ⟨content, hnode, -, hlength⟩ := h.live.regular _ hmem
        exact ⟨content, hnode, hname, hlength⟩
      · exact h.staging.regular e hold

theorem keeps_clear (f : ImpactFixture W) {part : FixturePart} (hpart : part ≠ .backup) :
    (replaceInventory part []).Keeps (Raising.Onward (Working f)) := by
  refine .bind (keeps_look f _) fun current => .bind (.forEach fun file _ => ?_) fun _ => .forEach ?_
  · exact keeps_onDirectory f hpart (cleanly_unlink file.1)
  · exact fun file hfile => absurd hfile List.not_mem_nil

/-! ## Outcomes -/

/-- What an action that returns has left behind: it gave out a new token for the files it found. -/
structure Saved (f f' : ImpactFixture W) (name : String) : Prop where
  name_eq : name = token (f.rollback_sequence + 1)
  rollback_sequence : f'.rollback_sequence = f.rollback_sequence + 1
  rollbacks : ∃ snapshot, f.Shows snapshot ∧ f'.rollbacks = setEntry name snapshot f.rollbacks
  run_root : f'.run_root = f.run_root
  backup : f'.backup = f.backup
  live : f'.Clean .live
  staging : f'.Clean .staging

theorem Working.saved {f s : ImpactFixture W} {snapshot : FixtureSnapshot} (hshows : f.Shows snapshot)
    (h : Working (f.captured snapshot) s) (report : Option ImpactReport) :
    Saved f { s with last_report := report } (token (f.rollback_sequence + 1)) where
  name_eq := rfl
  rollback_sequence := h.rollback_sequence
  rollbacks := ⟨snapshot, hshows, h.rollbacks⟩
  run_root := h.run_root
  backup := h.backup
  live := h.live.transfer rfl fun part => by cases part <;> rfl
  staging := h.staging.transfer rfl fun part => by cases part <;> rfl

/-- Looking again after a capture finds the same files. -/
theorem capture_look {α : Type} {f : ImpactFixture W} {found : Inventories}
    (h : f.inventories = .ok found) (k : String → Inventories → Py (ImpactFixture W) α) :
    (capture >>= fun name => look inventories >>= k name) f =
      (capture >>= fun name => k name found) f := by
  cases hcapture : capture f with
  | mk outcome f₁ =>
      cases outcome with
      | error e => rw [Raising.bind_of_error hcapture, Raising.bind_of_error hcapture]
      | ok name =>
          obtain ⟨snapshot, -, -, rfl⟩ := capture_eq_ok hcapture
          have hlook : look inventories (f.captured snapshot) = (.ok found, f.captured snapshot) := by
            rw [look, ← h]
            rfl
          rw [Raising.bind_of_ok hcapture, Raising.bind_of_ok hcapture, Raising.bind_of_ok hlook]

/-- The part of an action after its checks: it has all of its effect or none. -/
theorem captured_outcome {α : Type} {f f' : ImpactFixture W} {failure : Exn}
    {body : Py (ImpactFixture W) α} {report : α → ImpactFixture W → ImpactFixture W}
    {r : Except Exn String} (hnumbered : f.Numbered)
    (hbody : ∀ g, body.Keeps (Raising.Onward (Working g)))
    (hreport : ∀ a s, ∃ found, report a s = { s with last_report := found })
    (h : (do
      let name ← capture
      let a ← rollingBack name failure body
      Raising.modify (report a)
      return name) f = (r, f')) :
    (∃ e, r = .error e ∧ Spared f f') ∨
      ∃ name snapshot a s, r = .ok name ∧ f.Shows snapshot ∧
        body (f.captured snapshot) = (.ok a, s) ∧ f' = report a s ∧ Saved f f' name := by
  cases hcapture : capture f with
  | mk outcome f₁ =>
      cases outcome with
      | error e =>
          rw [Raising.bind_of_error hcapture] at h
          obtain ⟨rfl, rfl⟩ := Prod.mk.inj h
          exact Or.inl ⟨e, rfl, capture_eq_error hcapture ▸ Spared.refl f⟩
      | ok name =>
          rw [Raising.bind_of_ok hcapture] at h
          obtain ⟨snapshot, hshows, rfl, rfl⟩ := capture_eq_ok hcapture
          cases hrun : rollingBack (token (f.rollback_sequence + 1)) failure body
              (f.captured snapshot) with
          | mk outcome s =>
              rcases rollingBack_of_working hnumbered hshows (hbody _) hrun with
                ⟨a, rfl, hok⟩ | ⟨rfl, hspared⟩
              · rw [Raising.bind_of_ok hrun] at h
                obtain ⟨rfl, rfl⟩ := Prod.mk.inj h
                have hstart : Working (f.captured snapshot) (f.captured snapshot) :=
                  ⟨rfl, rfl, rfl, rfl, rfl,
                    (inventory_eq_ok.mp hshows.live).1.transfer rfl fun part => by cases part <;> rfl,
                    (inventory_eq_ok.mp hshows.staging).1.transfer rfl
                      fun part => by cases part <;> rfl⟩
                have hworking : Working (f.captured snapshot) s := by
                  have hkept := hbody _ _ hstart
                  rwa [hok] at hkept
                obtain ⟨found, hfound⟩ := hreport a s
                refine Or.inr ⟨_, snapshot, a, s, rfl, hshows, hok, rfl, ?_⟩
                show Saved f (report a s) _
                rw [hfound]
                exact hworking.saved hshows found
              · rw [Raising.bind_of_error hrun] at h
                obtain ⟨rfl, rfl⟩ := Prod.mk.inj h
                exact Or.inl ⟨failure, rfl, hspared⟩

/-! ## Checks before an action -/

theorem onWorld_eq {α : Type} (m : Py W α) (f : ImpactFixture W) :
    onWorld m f = ((m f.world).1, { f with world := (m f.world).2 }) := rfl

/-- The fixture in another world shows the same. -/
theorem shows_world {f : ImpactFixture W} {w : W} {snapshot : FixtureSnapshot}
    (h : Shows { f with world := w } snapshot) : f.Shows snapshot :=
  ⟨h.live, h.staging, h.last_report⟩

theorem saved_world {f f' : ImpactFixture W} {w : W} {name : String}
    (h : Saved { f with world := w } f' name) : Saved f f' name := by
  obtain ⟨snapshot, hshows, hrollbacks⟩ := h.rollbacks
  exact ⟨h.name_eq, h.rollback_sequence, ⟨snapshot, shows_world hshows, hrollbacks⟩, h.run_root,
    h.backup, h.live, h.staging⟩

theorem spared_world {f f' : ImpactFixture W} {w : W} (h : Spared { f with world := w } f') :
    Spared f f' := by
  obtain ⟨w', n, hn, rfl⟩ := h
  exact ⟨w', n, hn, rfl⟩

/-- The computation changes at most the world. -/
def Looks {α : Type} (m : Py (ImpactFixture W) α) : Prop :=
  ∀ f, ∃ w, (m f).2 = { f with world := w }

theorem looks_onWorld {α : Type} (m : Py W α) : Looks (onWorld m) := fun f => ⟨(m f.world).2, rfl⟩

theorem looks_look {α : Type} (view : ImpactFixture W → Except Exn α) : Looks (look view) :=
  fun f => ⟨f.world, rfl⟩

theorem looks_require (p : ImpactFixture W → Prop) [DecidablePred p] (e : ImpactFixture W → Exn) :
    Looks (Raising.require p e) := fun f => ⟨f.world, Raising.require_state p e f⟩

theorem require_eq_ok {p : Prop} [Decidable p] {e : Exn} {f f' : ImpactFixture W} {u : Unit}
    (h : Raising.require (fun _ => p) (fun _ => e) f = (.ok u, f')) : p ∧ f' = f := by
  by_cases hp : p
  · rw [Raising.require_of_pos hp] at h
    exact ⟨hp, (Prod.mk.inj h).2.symm⟩
  · rw [Raising.require_of_neg hp] at h
    cases (Prod.mk.inj h).1

/-- A check before the rest of a call. -/
theorem check_bind {α β : Type} {m : Py (ImpactFixture W) α} {k : α → Py (ImpactFixture W) β}
    {f f' : ImpactFixture W} {r : Except Exn β} (hm : Looks m) (h : (m >>= k) f = (r, f')) :
    (∃ e, r = .error e ∧ Spared f f') ∨
      ∃ a w, m f = (.ok a, { f with world := w }) ∧ k a { f with world := w } = (r, f') := by
  obtain ⟨w, hw⟩ := hm f
  cases hrun : m f with
  | mk outcome f₁ =>
      rw [hrun] at hw
      obtain rfl : f₁ = { f with world := w } := hw
      cases outcome with
      | error e =>
          rw [Raising.bind_of_error hrun] at h
          obtain ⟨rfl, rfl⟩ := Prod.mk.inj h
          exact Or.inl ⟨e, rfl, w, _, le_rfl, rfl⟩
      | ok a =>
          rw [Raising.bind_of_ok hrun] at h
          exact Or.inr ⟨a, w, rfl, h⟩

end ImpactFixture

/-! ## The bodies of the actions -/

theorem utf8_append (s t : String) : utf8 (s ++ t) = utf8 s ++ utf8 t := by
  simp [utf8, String.toByteArray_append, ByteArray.data_append]

theorem originalNames_short : ∀ name ∈ originalNames, (utf8 name).length ≤ 22 := by decide

theorem markerName_live : ∀ name ∈ originalNames, markerName name ∈ liveNames := by
  intro name hname
  exact List.mem_append_left _ (List.mem_append_right _ (List.mem_map_of_mem hname))

theorem originalNames_live : ∀ name ∈ originalNames, name ∈ liveNames := by
  intro name hname
  exact List.mem_append_left _ (List.mem_append_left _ hname)

namespace ImpactEnv

open ImpactFixture

variable {W : Type} (env : ImpactEnv W)

theorem markerContent_short {name : String} (h : name ∈ originalNames) :
    (env.markerContent name).length ≤ 64 * 1024 := by
  have hname := originalNames_short name h
  have hdigest : (utf8 ((env.expectedManifest.lookup name).getD "")).length ≤ 64 := by
    cases hlookup : env.expectedManifest.lookup name with
    | none => decide
    | some digest =>
        obtain ⟨before, after, heq, -⟩ := List.lookup_eq_some_iff.mp hlookup
        have hmem : (name, digest) ∈ env.expectedManifest := by
          rw [heq]
          simp
        rw [expectedManifest, manifest, List.mem_insertionSort] at hmem
        obtain ⟨file, -, hfile⟩ := List.mem_map.mp hmem
        rw [← (Prod.mk.inj hfile).2]
        exact (env.hexdigest_length file.2).le
  have hfirst : (utf8 "NETSTRIKE EXERCISE MARKER - NO ENCRYPTION PERFORMED\n").length = 52 := by
    decide
  have hsecond : (utf8 "Original: ").length = 10 := by decide
  have hthird : (utf8 "Original-SHA256: ").length = 17 := by decide
  have hbreak : (utf8 "\n").length = 1 := by decide
  unfold markerContent
  simp only [utf8_append, List.length_append]
  omega

theorem keeps_step (f : ImpactFixture W) (label : String) :
    (env.step label).Keeps (Raising.Onward (Working f)) := by
  unfold step
  split
  · exact Raising.Keeps.pure _
  · exact keeps_onWorld f _

theorem keeps_markFiles (f : ImpactFixture W) (checkpoint : Py W Unit) (realized : Bool) :
    (env.markFiles checkpoint realized).Keeps (Raising.Onward (Working f)) := by
  have hnote : noteName ∈ FixturePart.live.allowed :=
    List.mem_append_right _ (List.mem_singleton_self _)
  have hlength : noteContent.length ≤ 64 * 1024 := by decide +kernel
  unfold markFiles
  refine .bind (.forEach fun name hname => ?_) fun _ => .bind ?_ fun _ => keeps_look f _
  · unfold markFile
    refine .bind (keeps_onWorld f _) fun _ => .bind ?_ fun _ => .bind ?_ fun _ => keeps_step env f _
    · unfold stageOriginal
      split_ifs
      · exact .bind (keeps_moveToStaging f hname) fun _ => keeps_step env f _
      · exact Raising.Keeps.pure _
    · exact keeps_onDirectory f (by decide)
        (cleanly_write (markerName_live name hname) (env.markerContent_short hname))
  · unfold leaveNote
    split_ifs
    · exact .bind (keeps_onDirectory f (by decide) (cleanly_write hnote hlength)) fun _ =>
        keeps_step env f _
    · exact Raising.Keeps.pure _

theorem keeps_restoreFile {f : ImpactFixture W} {backup : Inventory}
    (hbackup : f.inventory .backup = .ok backup) (g : ImpactFixture W) (checkpoint : Py W Unit)
    {file : String × FileBytes} (hfile : file ∈ backup) :
    (env.restoreFile checkpoint file).Keeps (Raising.Onward (Working g)) := by
  obtain ⟨hclean, heq⟩ := inventory_eq_ok.mp hbackup
  have hregular : Regular originalNames (asEntry file) := by
    refine hclean.regular _ ?_
    rw [heq]
    exact List.mem_map_of_mem hfile
  obtain ⟨content, hnode, hname, hlength⟩ := hregular
  have hcontent := (FixtureEntry.file.inj hnode).1
  exact .bind (keeps_onWorld g _) fun _ => .bind (keeps_onDirectory g (by decide)
    (cleanly_write (originalNames_live _ hname) (hcontent ▸ hlength))) fun _ => keeps_step env g _

theorem keeps_restoreFiles {f : ImpactFixture W} {backup : Inventory}
    (hbackup : f.inventory .backup = .ok backup) (g : ImpactFixture W) (checkpoint : Py W Unit) :
    (env.restoreFiles checkpoint backup).Keeps (Raising.Onward (Working g)) :=
  .bind (keeps_clear g (by decide)) fun _ => .bind (keeps_clear g (by decide)) fun _ =>
    .bind (.forEach fun _ hfile => env.keeps_restoreFile hbackup g checkpoint hfile) fun _ =>
      .bind (keeps_look g _) fun _ => .bind (.require _ _) fun _ => .pure _

/-! ## Calls -/

/-- `apply_markers` has all of its effect or none. -/
theorem applyMarkers_outcome {f f' : ImpactFixture W} {variant : String} {checkpoint : Py W Unit}
    {r : Except Exn String} (hnumbered : f.Numbered)
    (h : env.applyMarkers variant checkpoint f = (r, f')) :
    (∃ e, r = .error e ∧ Spared f f') ∨
      ∃ name snapshot before after w s, r = .ok name ∧ Saved f f' name ∧
        variant ∈ ["blocked", "realized"] ∧ f.inventories = .ok before ∧
        env.healthMismatches f = .ok [] ∧
        env.markFiles checkpoint (variant == "realized")
          { f.captured snapshot with world := w } = (.ok after, s) ∧
        f' = { s with last_report := some ⟨"impact.marker.apply", some variant,
          env.manifests before, env.manifests after⟩ } := by
  unfold applyMarkers at h
  rcases check_bind (looks_onWorld _) h with hraised | ⟨_, w₁, -, h⟩
  · exact Or.inl hraised
  rcases check_bind (looks_require _ _) h with ⟨e, rfl, hspared⟩ | ⟨_, w₂, hvariant, h⟩
  · exact Or.inl ⟨e, rfl, spared_world hspared⟩
  rcases check_bind (looks_look _) h with ⟨e, rfl, hspared⟩ | ⟨mismatches, w₃, hhealth, h⟩
  · exact Or.inl ⟨e, rfl, spared_world hspared⟩
  rcases check_bind (looks_require _ _) h with ⟨e, rfl, hspared⟩ | ⟨_, w₄, hready, h⟩
  · exact Or.inl ⟨e, rfl, spared_world hspared⟩
  have hhealth : env.healthMismatches f = .ok [] := by
    rw [← (require_eq_ok hready).1]
    exact (Prod.mk.inj hhealth).1
  obtain ⟨before, hbefore, -⟩ := bind_eq_ok hhealth
  rw [capture_look (show inventories { f with world := w₄ } = .ok before from hbefore)] at h
  rcases captured_outcome (f := { f with world := w₄ }) hnumbered
    (fun g => env.keeps_markFiles g checkpoint (variant == "realized"))
    (fun a s => ⟨_, rfl⟩) h with ⟨e, rfl, hspared⟩ | ⟨name, snapshot, after, s, rfl, -, hbody, rfl,
      hsaved⟩
  · exact Or.inl ⟨e, rfl, spared_world hspared⟩
  · exact Or.inr ⟨name, snapshot, before, after, w₄, s, rfl, saved_world hsaved,
      (require_eq_ok hvariant).1, hbefore, hhealth, hbody, rfl⟩

/-- `restore_fixture` has all of its effect or none. -/
theorem restoreFixture_outcome {f f' : ImpactFixture W} {checkpoint : Py W Unit}
    {r : Except Exn String} (hnumbered : f.Numbered)
    (h : env.restoreFixture checkpoint f = (r, f')) :
    (∃ e, r = .error e ∧ Spared f f') ∨
      ∃ name snapshot found after w s, r = .ok name ∧ Saved f f' name ∧
        f.inventories = .ok found ∧ env.manifest found.backup = env.expectedManifest ∧
        env.restoreFiles checkpoint found.backup { f.captured snapshot with world := w } =
          (.ok after, s) ∧
        f' = { s with last_report := some ⟨"recovery.fixture.restore", none,
          env.manifests found, env.manifests after⟩ } := by
  unfold restoreFixture at h
  rcases check_bind (looks_onWorld _) h with hraised | ⟨_, w₁, -, h⟩
  · exact Or.inl hraised
  rcases check_bind (looks_look _) h with ⟨e, rfl, hspared⟩ | ⟨found, w₂, hlook, h⟩
  · exact Or.inl ⟨e, rfl, spared_world hspared⟩
  rcases check_bind (looks_require _ _) h with ⟨e, rfl, hspared⟩ | ⟨_, w₃, hbackup, h⟩
  · exact Or.inl ⟨e, rfl, spared_world hspared⟩
  have hfound : f.inventories = .ok found := (Prod.mk.inj hlook).1
  rcases captured_outcome (f := { f with world := w₃ }) hnumbered
    (fun g => env.keeps_restoreFiles (inventories_eq_ok hfound).2.1 g checkpoint)
    (fun a s => ⟨_, rfl⟩) h with ⟨e, rfl, hspared⟩ | ⟨name, snapshot, after, s, rfl, -, hbody, rfl,
      hsaved⟩
  · exact Or.inl ⟨e, rfl, spared_world hspared⟩
  · exact Or.inr ⟨name, snapshot, found, after, w₃, s, rfl, saved_world hsaved, hfound,
      (require_eq_ok hbackup).1, hbody, rfl⟩

end ImpactEnv

end NetStrike.Modules
