import Mathlib.Data.List.Sort
import NetStrike.Foundation.Checked
import NetStrike.Foundation.Compensation
import NetStrike.Foundation.Separated
import NetStrike.Foundation.Text
import NetStrike.Shared.Actions

/-!
# The impact fixture

`ImpactFixture` of `modules/07-ransomware-sim/impact_actions.py`: three directories of small files,
the markers that the impact leaves in them, and the recovery from the known-good copies. A directory
is the list of its entries in the order of a listing; `Place` is what the checks of the directory
itself find, which nothing here changes.

`fault_injector` and the control of a call act on a world `W` and may raise at each of their calls.
What is written is on disk at once and the file system does not fail by itself.
-/

set_option autoImplicit false

namespace NetStrike.Modules

open NetStrike.Foundation NetStrike.Shared

/-! ## Directories -/

/-- The contents of a file. -/
abbrev FileBytes := List UInt8

/-- What lies under a name: a regular file with the number of its links, or anything else. -/
inductive FixtureEntry where
  | file (content : FileBytes) (links : Nat)
  | other
deriving DecidableEq

/-- What `is_symlink`, `is_dir` and `resolve` find out about a directory. -/
inductive Place where
  | real
  | missing
  | escaped
deriving DecidableEq

/-- A directory. -/
@[ext] structure FixtureDirectory where
  place : Place
  entries : List (String × FixtureEntry)
  names_unique : (entries.map Prod.fst).Nodup

theorem mem_keys_setEntry {α : Type} {key k : String} {value : α} {entries : List (String × α)} :
    k ∈ (setEntry key value entries).map Prod.fst ↔ k = key ∨ k ∈ entries.map Prod.fst := by
  induction entries with
  | nil => simp [setEntry]
  | cons entry entries ih =>
      obtain ⟨k', v⟩ := entry
      unfold setEntry
      split_ifs with hk
      · subst hk
        simp
      · rw [List.map_cons, List.mem_cons, ih, List.map_cons, List.mem_cons]
        tauto

theorem nodup_setEntry {α : Type} {key : String} {value : α} {entries : List (String × α)}
    (h : (entries.map Prod.fst).Nodup) : ((setEntry key value entries).map Prod.fst).Nodup := by
  induction entries with
  | nil => exact List.nodup_singleton _
  | cons entry entries ih =>
      obtain ⟨k', v⟩ := entry
      rw [List.map_cons, List.nodup_cons] at h
      unfold setEntry
      split_ifs with hk
      · subst hk
        rw [List.map_cons, List.nodup_cons]
        exact h
      · rw [List.map_cons, List.nodup_cons, mem_keys_setEntry, not_or]
        exact ⟨⟨hk, h.1⟩, ih h.2⟩

theorem nodup_popEntry {α : Type} {key : String} {entries : List (String × α)}
    (h : (entries.map Prod.fst).Nodup) : ((popEntry key entries).map Prod.fst).Nodup :=
  h.sublist (List.filter_sublist.map _)

namespace FixtureDirectory

/-- The directory with an entry under a name. -/
def put (name : String) (entry : FixtureEntry) (d : FixtureDirectory) : FixtureDirectory :=
  ⟨d.place, setEntry name entry d.entries, nodup_setEntry d.names_unique⟩

/-- The directory without a name. -/
def drop (name : String) (d : FixtureDirectory) : FixtureDirectory :=
  ⟨d.place, popEntry name d.entries, nodup_popEntry d.names_unique⟩

/-- A regular file is expected under the name. -/
def notFile (name : String) : Exn := .of .OSError name

/-- `write_bytes`: a file that is there is overwritten. -/
def write (name : String) (content : FileBytes) (d : FixtureDirectory) :
    Except Exn FixtureDirectory :=
  match d.entries.lookup name with
  | none => .ok (d.put name (.file content 1))
  | some (.file _ links) => .ok (d.put name (.file content links))
  | some .other => .error (notFile name)

/-- `unlink`. -/
def unlink (name : String) (d : FixtureDirectory) : Except Exn FixtureDirectory :=
  match d.entries.lookup name with
  | some (.file _ _) => .ok (d.drop name)
  | _ => .error (notFile name)

end FixtureDirectory

/-! ## The fixture -/

/-- `FIXTURE_CONTENTS`. -/
def fixtureContents : List (String × FileBytes) :=
  [("approval-queue.txt", utf8 "SYNTHETIC EXERCISE DATA\nApprovals pending: 3\n"),
    ("billing-export.csv", utf8 "record_id,amount,status\nSIM-001,125.00,approved\n"),
    ("customer-ledger.json", utf8 "\x7b\"synthetic\":true,\"records\":25\x7d\n"),
    ("payroll-summary.csv", utf8 "department,total\nFinance,12500.00\n"),
    ("quarter-close-notes.md", utf8 "# Synthetic quarter close\nExercise fixture only.\n")]

/-- `MARKER_SUFFIX`. -/
def markerSuffix : String := ".NETSTRIKE-MARKER"

/-- `NOTE_NAME`. -/
def noteName : String := "NETSTRIKE_EXERCISE_NOTE.txt"

/-- `_original_names`, sorted. -/
def originalNames : List String := (fixtureContents.map Prod.fst).insertionSort (· ≤ ·)

/-- The name of a marker. -/
def markerName (name : String) : String := name ++ markerSuffix

/-- `_live_names`. -/
def liveNames : List String := originalNames ++ originalNames.map markerName ++ [noteName]

/-- The directories of a fixture. -/
inductive FixturePart where
  | live
  | backup
  | staging
deriving DecidableEq

/-- The names that a directory may hold. -/
def FixturePart.allowed : FixturePart → List String
  | live => liveNames
  | backup => originalNames
  | staging => originalNames

/-- The files of a directory with their contents. -/
abbrev Inventory := List (String × FileBytes)

/-- What `_inventories` returns. -/
@[ext] structure Inventories where
  live : Inventory
  backup : Inventory
  staging : Inventory
deriving DecidableEq

/-- Names with digests, in the order of the names. -/
abbrev Manifest := List (String × String)

/-- The manifests of the three directories. -/
structure Manifests where
  live : Manifest
  backup : Manifest
  staging : Manifest
deriving DecidableEq

/-- `last_report`. -/
structure ImpactReport where
  operation : String
  variant : Option String
  before : Manifests
  after : Manifests
deriving DecidableEq

/-- What `_capture` saves. -/
structure FixtureSnapshot where
  live : Inventory
  staging : Inventory
  last_report : Option ImpactReport
deriving DecidableEq

/-- `ImpactFixture`, with the world of its collaborators. -/
structure ImpactFixture (W : Type) where
  run_root : Place
  live : FixtureDirectory
  backup : FixtureDirectory
  staging : FixtureDirectory
  last_report : Option ImpactReport
  rollbacks : List (String × FixtureSnapshot)
  rollback_sequence : Nat
  world : W

/-- What does not change: the digest of a content is 64 hexadecimal digits. -/
structure ImpactEnv (W : Type) where
  sha256 : FileBytes → String
  fault_injector : Option (String → W → Except Exn Unit × W)
  hexdigest_length : ∀ content, (utf8 (sha256 content)).length = 64

namespace ImpactFixture

variable {W : Type}

/-- The directory of a part. -/
def directory (f : ImpactFixture W) : FixturePart → FixtureDirectory
  | .live => f.live
  | .backup => f.backup
  | .staging => f.staging

/-- The fixture with another directory. -/
def setDirectory (f : ImpactFixture W) (d : FixtureDirectory) : FixturePart → ImpactFixture W
  | .live => { f with live := d }
  | .backup => { f with backup := d }
  | .staging => { f with staging := d }

/-- One check of a directory. -/
def validatePlace (unsound : String) (escape : String) : Place → Except Exn Unit
  | .real => .ok ()
  | .missing => .error (.of .ValueError unsound)
  | .escaped => .error (.of .ValueError escape)

/-- `_validate_directories`. -/
def validateDirectories (f : ImpactFixture W) : Except Exn Unit := do
  validatePlace "run-specific impact directory is missing or unsafe"
    "run-specific impact directory escaped approved root" f.run_root
  [f.live, f.backup, f.staging].forM fun d =>
    validatePlace "impact fixture directory is missing or unsafe"
      "impact fixture directory escaped run root" d.place

/-- An action of the fixture fails. -/
def failed (code message : String) : Exn := ⟨.ActionExecutionError, message, some code⟩

/-- The content of an entry that a directory may hold. A regular file that is no link lies in the
directory it is listed in. -/
def inventoryEntry (allowed : List String) : String × FixtureEntry → Except Exn (String × FileBytes)
  | (name, .file content links) =>
      if name ∈ allowed ∧ links = 1 ∧ content.length ≤ 64 * 1024 then .ok (name, content)
      else .error (failed "unsafe_fixture" "Fixture contains an unexpected or unsafe entry")
  | (_, .other) =>
      .error (failed "unsafe_fixture" "Fixture contains an unexpected or unsafe entry")

/-- `_inventory`, with the allowed names of the directory. -/
def inventory (part : FixturePart) (f : ImpactFixture W) : Except Exn Inventory := do
  f.validateDirectories.mapError fun e => failed "unsafe_fixture" e.message
  (f.directory part).entries.mapM (inventoryEntry part.allowed)

/-- `_inventories`. -/
def inventories (f : ImpactFixture W) : Except Exn Inventories := do
  let live ← f.inventory .live
  let backup ← f.inventory .backup
  let staging ← f.inventory .staging
  return ⟨live, backup, staging⟩

/-- Look at the fixture; looking may raise. -/
def look {α : Type} (view : ImpactFixture W → Except Exn α) : Py (ImpactFixture W) α :=
  fun f => (view f, f)

/-- Change one directory. -/
def onDirectory (part : FixturePart) (change : FixtureDirectory → Except Exn FixtureDirectory) :
    Py (ImpactFixture W) Unit := fun f =>
  match change (f.directory part) with
  | .ok d => (.ok (), f.setDirectory d part)
  | .error e => (.error e, f)

/-- Run a computation on the world. -/
def onWorld {α : Type} (m : Py W α) : Py (ImpactFixture W) α :=
  Raising.focus world (fun w f => { f with world := w }) m

/-- `(self.live_dir / name).replace(self.staging_dir / name)`. -/
def moveToStaging (name : String) : Py (ImpactFixture W) Unit := fun f =>
  match f.live.entries.lookup name, f.staging.entries.lookup name with
  | none, _ | some _, some .other => (.error (FixtureDirectory.notFile name), f)
  | some entry, _ =>
      (.ok (), { f with live := f.live.drop name, staging := f.staging.put name entry })

/-- The token of a capture. -/
def token (n : Nat) : String := "impact-rb-" ++ toString n

/-- `_capture`. -/
def capture : Py (ImpactFixture W) String := do
  let found ← look inventories
  Raising.step fun f => (token (f.rollback_sequence + 1), { f with
    rollback_sequence := f.rollback_sequence + 1
    rollbacks := setEntry (token (f.rollback_sequence + 1))
      ⟨found.live, found.staging, f.last_report⟩ f.rollbacks })

/-- `_replace_inventory`. -/
def replaceInventory (part : FixturePart) (files : Inventory) : Py (ImpactFixture W) Unit := do
  let current ← look (inventory part)
  Raising.forEach (fun file => onDirectory part (FixtureDirectory.unlink file.1)) current
  Raising.forEach (fun file => onDirectory part (FixtureDirectory.write file.1 file.2)) files

/-- `_restore_snapshot`. -/
def restoreSnapshot (snapshot : FixtureSnapshot) : Py (ImpactFixture W) Unit := do
  replaceInventory .live snapshot.live
  replaceInventory .staging snapshot.staging
  Raising.modify fun f => { f with last_report := snapshot.last_report }

/-- `_rollbacks.pop`. -/
def popSnapshot (unknown : Exn) (token : String) : Py (ImpactFixture W) FixtureSnapshot := do
  let found ← Raising.gets fun f => f.rollbacks.lookup token
  match found with
  | none => Raising.raise unknown
  | some snapshot =>
      Raising.modify fun f => { f with rollbacks := popEntry token f.rollbacks }
      return snapshot

/-- Run a body; where it raises, put back what was captured under the token. -/
def rollingBack {α : Type} (token : String) (failure : Exn) (body : Py (ImpactFixture W) α) :
    Py (ImpactFixture W) α :=
  Raising.rescue body fun _ => do
    let snapshot ← popSnapshot (.of .KeyError token) token
    restoreSnapshot snapshot
    Raising.raise failure

/-- `rollback`. -/
def rollback (token : String) (checkpoint : Py W Unit) : Py (ImpactFixture W) (List String) := do
  onWorld checkpoint
  let snapshot ← popSnapshot
    (failed "invalid_rollback" "Unknown or already-used rollback token") token
  restoreSnapshot snapshot
  return ["restored pre-action disposable fixture"]

end ImpactFixture

namespace ImpactEnv

open ImpactFixture

variable {W : Type} (env : ImpactEnv W)

/-- `_manifest`. -/
def manifest (files : Inventory) : Manifest :=
  (files.map fun file => (file.1, env.sha256 file.2)).insertionSort fun a b => a.1 ≤ b.1

/-- `expected_manifest`. -/
def expectedManifest : Manifest := env.manifest fixtureContents

/-- The manifest of each directory. -/
def manifests (found : Inventories) : Manifests :=
  ⟨env.manifest found.live, env.manifest found.backup, env.manifest found.staging⟩

/-- `health_mismatches`. -/
def healthMismatches (f : ImpactFixture W) : Except Exn (List String) := do
  let found ← f.inventories
  return [("live_manifest", decide (env.manifest found.live = env.expectedManifest)),
    ("backup_manifest", decide (env.manifest found.backup = env.expectedManifest)),
    ("staging_not_empty", decide (found.staging = []))].filterMap fun entry =>
      if entry.2 then none else some entry.1

/-- `inspect`, without the constants it repeats. -/
structure FixtureInspection where
  manifests : Manifests
  originals_unchanged : Bool
  backup_intact : Bool
  available_originals : Nat
  marker_count : Nat
  note_present : Bool
  baseline_verified : Bool
deriving DecidableEq

/-- What `inspect` makes of the manifests. -/
def inspectionOf (m : Manifests) : FixtureInspection where
  manifests := m
  originals_unchanged := env.expectedManifest.all fun entry =>
    ((m.live.lookup entry.1).or (m.staging.lookup entry.1)) == some entry.2
  backup_intact := m.backup = env.expectedManifest
  available_originals := env.expectedManifest.countP fun entry =>
    m.live.lookup entry.1 == some entry.2
  marker_count := m.live.countP fun entry => markerSuffix.toList.isSuffixOf entry.1.toList
  note_present := (m.live.lookup noteName).isSome
  baseline_verified :=
    m.live = env.expectedManifest ∧ m.backup = env.expectedManifest ∧ m.staging = []

/-- `inspect`. -/
def inspect (f : ImpactFixture W) : Except Exn FixtureInspection := do
  let found ← f.inventories
  return env.inspectionOf (env.manifests found)

/-- `_step`. -/
def step (label : String) : Py (ImpactFixture W) Unit :=
  match env.fault_injector with
  | none => pure ()
  | some inject => onWorld (inject label)

/-- `_marker_content`. -/
def markerContent (name : String) : FileBytes :=
  utf8 ("NETSTRIKE EXERCISE MARKER - NO ENCRYPTION PERFORMED\n" ++ "Original: " ++ name ++ "\n" ++
    "Original-SHA256: " ++ (env.expectedManifest.lookup name).getD "" ++ "\n")

/-- The text of the note. -/
def noteContent : FileBytes :=
  utf8 ("NETSTRIKE EXERCISE ONLY\n" ++
    "Disposable synthetic files were staged by the controller.\n" ++
    "No encryption occurred and no payment or contact is required.\n")

/-- The realized branch moves an original away. -/
def stageOriginal (realized : Bool) (name : String) : Py (ImpactFixture W) Unit :=
  if realized then do
    moveToStaging name
    env.step s!"moved:{name}"
  else pure ()

/-- The realized branch leaves a note. -/
def leaveNote (realized : Bool) : Py (ImpactFixture W) Unit :=
  if realized then do
    onDirectory .live (FixtureDirectory.write noteName noteContent)
    env.step "note-created"
  else pure ()

/-- One round of the loop of `apply_markers`. -/
def markFile (checkpoint : Py W Unit) (realized : Bool) (name : String) :
    Py (ImpactFixture W) Unit := do
  onWorld checkpoint
  env.stageOriginal realized name
  onDirectory .live (FixtureDirectory.write (markerName name) (env.markerContent name))
  env.step s!"marked:{name}"

/-- The body of the `try` statement of `apply_markers`. -/
def markFiles (checkpoint : Py W Unit) (realized : Bool) : Py (ImpactFixture W) Inventories := do
  Raising.forEach (env.markFile checkpoint realized) originalNames
  env.leaveNote realized
  look inventories

/-- `apply_markers`. -/
def applyMarkers (variant : String) (checkpoint : Py W Unit) : Py (ImpactFixture W) String := do
  onWorld checkpoint
  Raising.require (fun _ => variant ∈ ["blocked", "realized"]) fun _ =>
    failed "invalid_variant" "Unknown marker variant"
  let mismatches ← look env.healthMismatches
  Raising.require (fun _ => mismatches = []) fun _ =>
    failed "fixture_not_ready" "Impact fixture is not at baseline"
  let token ← capture
  let before ← look inventories
  let after ← rollingBack token
    (failed "impact_apply_failed" "Marker impact failed and was rolled back")
    (env.markFiles checkpoint (variant == "realized"))
  let report : ImpactReport :=
    ⟨"impact.marker.apply", some variant, env.manifests before, env.manifests after⟩
  Raising.modify fun f => { f with last_report := some report }
  return token

/-- One round of the loop of `restore_fixture`. -/
def restoreFile (checkpoint : Py W Unit) (file : String × FileBytes) :
    Py (ImpactFixture W) Unit := do
  onWorld checkpoint
  onDirectory .live (FixtureDirectory.write file.1 file.2)
  env.step s!"restored:{file.1}"

/-- The body of the `try` statement of `restore_fixture`. -/
def restoreFiles (checkpoint : Py W Unit) (backup : Inventory) :
    Py (ImpactFixture W) Inventories := do
  replaceInventory .live []
  replaceInventory .staging []
  Raising.forEach (env.restoreFile checkpoint) backup
  let after ← look inventories
  Raising.require (fun _ => env.manifest after.live = env.expectedManifest) fun _ =>
    .of .RuntimeError "restored fixture hash mismatch"
  return after

/-- `restore_fixture`. -/
def restoreFixture (checkpoint : Py W Unit) : Py (ImpactFixture W) String := do
  onWorld checkpoint
  let found ← look inventories
  Raising.require (fun _ => env.manifest found.backup = env.expectedManifest) fun _ =>
    failed "backup_mismatch" "Known-good fixture does not match its manifest"
  let token ← capture
  let after ← rollingBack token
    (failed "recovery_failed" "Fixture recovery failed and was rolled back")
    (env.restoreFiles checkpoint found.backup)
  let report : ImpactReport :=
    ⟨"recovery.fixture.restore", none, env.manifests found, env.manifests after⟩
  Raising.modify fun f => { f with last_report := some report }
  return token

end ImpactEnv

/-! ## Provisioning -/

/-- What `provision` finds of the approved root; `taken` are the names in it. -/
structure ApprovedRoot where
  absolute : Bool
  real : Bool
  taken : List String

/-- `RUN_ID_PATTERN`, but for the length. -/
def runIdPattern : Pattern :=
  .seq (.cls isAlnum) (.star (.cls fun c => isAlnum c || oneOfChars "._-" c))

/-- The directory that holds the approved files. -/
def approvedDirectory : FixtureDirectory where
  place := .real
  entries := fixtureContents.map fun file => (file.1, .file file.2 1)
  names_unique := by decide

/-- A directory without files. -/
def emptyDirectory : FixtureDirectory := ⟨.real, [], List.nodup_nil⟩

/-- A new fixture. -/
def ImpactFixture.provisioned {W : Type} (w : W) : ImpactFixture W where
  run_root := .real
  live := approvedDirectory
  backup := approvedDirectory
  staging := emptyDirectory
  last_report := none
  rollbacks := []
  rollback_sequence := 0
  world := w

/-- `provision`. -/
def ImpactFixture.provision {W : Type} (root : ApprovedRoot) (run_id : String) (w : W) :
    Except Exn (ImpactFixture W) := do
  Checked.require (root.absolute = true) (.of .ValueError "approved impact root must be absolute")
  Checked.require (root.real = true)
    (.of .ValueError "approved impact root must be an existing real directory")
  Checked.require (runIdPattern.accepts run_id = true ∧ run_id.length ≤ 128)
    (.of .ValueError "run_id is not safe for a run-specific directory")
  Checked.require (run_id ∉ root.taken)
    (.of .ValueError "run-specific impact directory already exists")
  return .provisioned w

end NetStrike.Modules
