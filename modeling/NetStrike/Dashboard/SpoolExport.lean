import NetStrike.Dashboard.SpoolSoundness

/-!
# Publication

`export` of `dashboard/event_spool.py` as the list of the file system steps it performs and its
outcome. A step is what a killed process has done or not done: a file is created empty and then
written byte by byte. `_sync` orders the steps on the disk and changes nothing.
-/

set_option autoImplicit false

namespace NetStrike.Dashboard

open NetStrike.Foundation NetStrike.Shared

/-! ## Steps -/

/-- One step on the spool; a path is relative to its root. -/
inductive FsStep where
  | makeRoot
  | createFile (path : List String)
  | writeByte (path : List String) (b : UInt8)
  | replaceFile (source target : String)
  | makeDirectory (name : String)
  | renameDirectory (source target : String)
deriving DecidableEq

/-- Put a node under a name. -/
def putNode (name : String) (node : Node) : List (String × Node) → List (String × Node)
  | [] => [(name, node)]
  | (n, old) :: entries =>
      if n = name then (name, node) :: entries else (n, old) :: putNode name node entries

/-- Take a name away. -/
def dropNode (name : String) (entries : List (String × Node)) : List (String × Node) :=
  entries.filter fun e => e.1 ≠ name

/-- A new file. -/
def newFile : Node := .file 0o600 1 []

/-- A byte at the end of a file. -/
def Node.append (b : UInt8) : Node → Node
  | .file mode nlink content => .file mode nlink (content ++ [b])
  | node => node

/-- A step inside a directory. -/
def FsStep.inside : FsStep → List (String × Node) → List (String × Node)
  | .createFile [name], entries => putNode name newFile entries
  | .createFile [stage, name], entries =>
      match entries.lookup stage with
      | some (.directory mode files) =>
          putNode stage (.directory mode (putNode name newFile files)) entries
      | _ => entries
  | .writeByte [name] b, entries =>
      match entries.lookup name with
      | some node => putNode name (node.append b) entries
      | none => entries
  | .writeByte [stage, name] b, entries =>
      match entries.lookup stage with
      | some (.directory mode files) =>
          match files.lookup name with
          | some node =>
              putNode stage (.directory mode (putNode name (node.append b) files)) entries
          | none => entries
      | _ => entries
  | .replaceFile source target, entries | .renameDirectory source target, entries =>
      match entries.lookup source with
      | some node => putNode target node (dropNode source entries)
      | none => entries
  | .makeDirectory name, entries => putNode name (.directory 0o700 []) entries
  | _, entries => entries

/-- A step on the root. -/
def FsStep.apply : FsStep → Option Node → Option Node
  | .makeRoot, none => some (.directory 0o700 [])
  | step, some (.directory mode entries) => some (.directory mode (step.inside entries))
  | _, root => root

/-- The root after the steps. -/
def performAll (steps : List FsStep) (root : Option Node) : Option Node :=
  steps.foldl (fun r step => step.apply r) root

namespace Spool

variable (env : Spool)

/-- The steps of `_write`. -/
def writeSteps (path : List String) (content : Bytes) : List FsStep :=
  .createFile path :: content.map (.writeByte path)

/-- The steps of `_head`; `hex` is the new name. -/
def headSteps (hex : String) (s : PublicationState) : List FsStep :=
  writeSteps [".head-" ++ hex] (env.json s.toJson) ++
    [.replaceFile (".head-" ++ hex) "HEAD.json"]

/-- The manifest that `_publish` writes. -/
def manifestOf (previous following : PublicationState) (first : Int) (content : Bytes) : Manifest :=
  ⟨previous, following, first, following.event_count - previous.event_count, content.length,
    env.sha256 content⟩

/-- The dictionary of a manifest. -/
def Manifest.toJson (m : Manifest) : Json :=
  .obj [("version", .str spoolVersion), ("exercise_id", .str m.previous.exercise_id),
    ("previous", m.previous.toJson), ("next", m.next.toJson),
    ("first_cursor", .int m.first_cursor), ("event_count", .int m.event_count),
    ("bytes", .int m.bytes), ("events_sha256", .str m.events_sha256)]

/-- The steps of `_publish` up to the rename. -/
def stageSteps (hex : String) (m : Manifest) (content : Bytes) : List FsStep :=
  .makeDirectory (".pending-" ++ hex) ::
    writeSteps [".pending-" ++ hex, "events.jsonl"] content ++
      writeSteps [".pending-" ++ hex, "manifest.json"] (env.json m.toJson)

/-- The names that `uuid4` gives in one publication. -/
structure Names where
  first_head : String
  stage : String
  last_head : String

/-- The two checks of the spool and the database. -/
def inspect (root : Option Node) (source : Source) (exercise_id : String) (limit : Nat) :
    Except Refusal (Published × Selection) := do
  let p ← env.batches root exercise_id
  let selection ← env.read source p.previous limit (p.batches.map BatchFiles.manifest)
  return (p, selection)

/-- The steps of `_lock`. -/
def lockSteps (root : Option Node) : Except Refusal (List FsStep) :=
  match (entriesOf root).lookup ".lock" with
  | none => .ok [.createFile [".lock"]]
  | some (.file mode nlink _) => do
      demand (nlink = 1 ∧ mode &&& 0o027 = 0) "unsafe publisher lock"
      return []
  | some .other => .error (.spool "unsafe publisher lock")
  | some _ => .error .os

/-- The writes of `inspect_and_publish` and how it ends. -/
def publication (names : Names) (root : Option Node) (exercise_id : String) (p : Published)
    (selection : Selection) : List FsStep × Except Refusal Unit :=
  let repair :=
    if p.initialized = true ∧ env.headOf root exercise_id = some p.previous then []
    else env.headSteps names.first_head p.previous
  match selection.first with
  | none => (repair, .ok ())
  | some first =>
      let m := env.manifestOf p.previous selection.following first selection.content
      let target := batchName first selection.following.cursor
      let stage := repair ++ env.stageSteps names.stage m selection.content
      if target ∈ (entriesOf root).map Prod.fst then
        (stage, .error (.spool "batch destination already exists"))
      else
        (stage ++ .renameDirectory (".pending-" ++ names.stage) target ::
          env.headSteps names.last_head selection.following, .ok ())

/-- What `export(execute=True)` reports. -/
structure Summary where
  events_selected : Int
  bytes_selected : Nat
  events_remaining : Nat
  published_event_count : Int
deriving DecidableEq

/-- The report on a publication. -/
def summary (p : Published) (selection : Selection) : Summary :=
  ⟨selection.following.event_count - p.previous.event_count, selection.content.length,
    selection.pending, selection.following.event_count⟩

/-- `export(execute=True)`: the steps it performs and its outcome. The database is read twice, the
second time as `later`. -/
def publish (names : Names) (root : Option Node) (source later : Source) (exercise_id : String)
    (limit : Nat) : List FsStep × Except Refusal Summary :=
  if (1 ≤ exercise_id.length ∧ exercise_id.length ≤ 128) ∧ 1 ≤ limit ∧ limit ≤ 1000 then
    match env.inspect root source exercise_id limit with
    | .error e => ([], .error e)
    | .ok _ =>
        let opening := if root.isNone then [FsStep.makeRoot] else []
        match directory (performAll opening root), lockSteps (performAll opening root) with
        | .error e, _ => (opening, .error e)
        | .ok _, .error e => (opening, .error e)
        | .ok _, .ok locking =>
            let opened := performAll (opening ++ locking) root
            match env.inspect opened later exercise_id limit with
            | .error e => (opening ++ locking, .error e)
            | .ok (p, selection) =>
                let written := env.publication names opened exercise_id p selection
                (opening ++ locking ++ written.1, written.2.map fun _ => summary p selection)
  else ([], .error (.spool "invalid export scope or limit"))

end Spool

end NetStrike.Dashboard
