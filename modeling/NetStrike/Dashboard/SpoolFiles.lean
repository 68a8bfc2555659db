import Mathlib.Data.List.Sort
import Mathlib.Data.Set.Function
import NetStrike.Foundation.Checked
import NetStrike.Shared.EventSchema

/-!
# The files of the event spool

The part of `dashboard/event_spool.py` that reads the spool directory: `_safe_file`, `_directory`,
`_check_state`, `_batch`, `_batch_paths` and `_batches`. A directory is a list of named nodes in the
order in which it is listed. `loads`, `sha256` and the text of a float are Python's and stay
parameters, `Spool`.

`batches_eq_ok` says what an accepted directory satisfies.
-/

set_option autoImplicit false

namespace NetStrike.Dashboard

open NetStrike.Foundation NetStrike.Foundation.Checked NetStrike.Shared

/-- The contents of a file. -/
abbrev Bytes := List UInt8

/-- What lies under a name; a symbolic link is never followed, whatever it points to. -/
inductive Node where
  | file (mode nlink : Nat) (content : Bytes)
  | directory (mode : Nat) (entries : List (String × Node))
  | symlink
  | other

/-- Why a publication was refused: a `SpoolError`, or an error of the system, of the database or of
a value of the wrong kind. -/
inductive Refusal where
  | spool (message : String)
  | os
  | value
deriving DecidableEq

/-- The collaborators of the module. -/
structure Spool where
  loads : String → Except Refusal Json
  load_bytes : Bytes → Except Refusal Json
  sha256 : Bytes → String
  float_repr : Rat → String
  formats : FormatChecker

/-- `VERSION`. -/
def spoolVersion : String := "1.0.0"

/-- `MAX_EVENT_BYTES`. -/
def maxEventBytes : Nat := 256 * 1024

/-- `MAX_BATCH_BYTES`. -/
def maxBatchBytes : Nat := 20 * 1024 * 1024

/-- Refuse unless `p`. -/
def demand (p : Prop) [Decidable p] (message : String) : Except Refusal Unit :=
  if p then .ok () else .error (.spool message)

theorem demand_eq_ok {p : Prop} [Decidable p] {message : String} {u : Unit}
    (h : demand p message = .ok u) : p := by
  unfold demand at h
  split at h
  · assumption
  · cases h

theorem demand_of {p : Prop} [Decidable p] {message : String} (h : p) :
    demand p message = .ok () := if_pos h

namespace Spool

variable (env : Spool)

/-- `_json`: the canonical text of a value and a line feed; it is ASCII. -/
def json (value : Json) : Bytes :=
  (Json.dumpChars env.float_repr value ++ ['\n']).map fun c => c.toNat.toUInt8

/-! ## Names -/

/-- `BATCH_PATTERN`. -/
def batchPattern : Pattern :=
  .seq (.lit "batch-") (.seq (.times (.cls isDigit) 20) (.seq (.lit "-")
    (.times (.cls isDigit) 20)))

/-- A lower-case hexadecimal digit. -/
def isHex (c : Char) : Bool := isDigit c || ('a' ≤ c && c ≤ 'f')

/-- The name of a private stage. -/
def pendingPattern : Pattern := .seq (.lit ".pending-") (.times (.cls isHex) 32)

/-- The name of a `HEAD` that is being written. -/
def headPattern : Pattern := .seq (.lit ".head-") (.times (.cls isHex) 32)

/-- `[0-9a-f]{64}`. -/
def sha256Pattern : Pattern := .times (.cls isHex) 64

/-- The name of the batch from `first` to `cursor`. -/
def batchName (first cursor : Int) : String :=
  "batch-" ++ padded 20 first.toNat ++ "-" ++ padded 20 cursor.toNat

/-! ## Reading files -/

/-- `_safe_file`. -/
def safeFile (node : Option Node) (maximum : Nat) : Except Refusal Bytes :=
  match node with
  | some (.file mode nlink content) => do
      demand (content.length ≤ maximum ∧ nlink = 1) "unsafe or oversized spool file"
      demand (mode &&& 0o007 = 0 ∧ mode &&& 0o020 = 0)
        "spool files must be private and not group-writable"
      return content
  | some .other => .error (.spool "unsafe or oversized spool file")
  | _ => .error .os

/-- `_directory`; the entries are returned. -/
def directory (node : Option Node) : Except Refusal (List (String × Node)) :=
  match node with
  | none => .error .os
  | some (.directory mode entries) => do
      demand (mode &&& 0o027 = 0) "spool directories must be private and not group-writable"
      return entries
  | some _ => .error (.spool "spool directories must be private and not group-writable")

/-! ## Checkpoints -/

/-- A publication checkpoint, the dictionary that `_state` makes. -/
structure PublicationState where
  version : String
  exercise_id : String
  cursor : Int
  event_count : Int
  prefix_sha256 : String
deriving DecidableEq

/-- `EMPTY_DIGEST`. -/
def emptyDigest : String := env.sha256 []

/-- `_state`. -/
def state (exercise_id : String) (cursor count : Int) (digest : String) : PublicationState :=
  ⟨spoolVersion, exercise_id, cursor, count, digest⟩

/-- `_state(exercise_id)`. -/
def emptyState (exercise_id : String) : PublicationState :=
  state exercise_id 0 0 env.emptyDigest

/-- The dictionary of a checkpoint. -/
def PublicationState.toJson (s : PublicationState) : Json :=
  .obj [("version", .str s.version), ("exercise_id", .str s.exercise_id),
    ("cursor", .int s.cursor), ("event_count", .int s.event_count),
    ("prefix_sha256", .str s.prefix_sha256)]

/-- The members have exactly the given names. -/
def hasFields (names : List String) (members : List (String × Json)) : Prop :=
  (∀ name ∈ names, name ∈ members.map Prod.fst) ∧ ∀ m ∈ members, m.1 ∈ names

instance (names : List String) (members : List (String × Json)) :
    Decidable (hasFields names members) := inferInstanceAs (Decidable (_ ∧ _))

/-- An integer that is no Boolean. -/
def asInt (message : String) : Option Json → Except Refusal Int
  | some (.int n) => .ok n
  | _ => .error (.spool message)

/-- A string. -/
def asStr (message : String) : Option Json → Except Refusal String
  | some (.str s) => .ok s
  | _ => .error (.spool message)

/-- The names of a checkpoint. -/
def stateFields : List String :=
  ["version", "exercise_id", "cursor", "event_count", "prefix_sha256"]

/-- `_check_state`; the checked dictionary is returned as a record. -/
def checkState (value : Json) (exercise_id : String) : Except Refusal PublicationState :=
  match value with
  | .obj members => do
      demand (hasFields stateFields members) "invalid publication checkpoint"
      demand (members.lookup "version" = some (.str spoolVersion) ∧
        members.lookup "exercise_id" = some (.str exercise_id)) "incompatible publication scope"
      let cursor ← asInt "invalid checkpoint counters" (members.lookup "cursor")
      let event_count ← asInt "invalid checkpoint counters" (members.lookup "event_count")
      demand (0 ≤ cursor ∧ 0 ≤ event_count) "invalid checkpoint counters"
      let digest ← asStr "invalid checkpoint digest" (members.lookup "prefix_sha256")
      demand (event_count ≤ cursor ∧ sha256Pattern.accepts digest = true)
        "invalid checkpoint digest"
      demand (event_count = 0 →
        state exercise_id cursor event_count digest = env.emptyState exercise_id)
        "invalid empty checkpoint"
      return state exercise_id cursor event_count digest
  | _ => .error (.spool "invalid publication checkpoint")

/-! ## Batches -/

/-- A manifest whose checks passed. -/
structure Manifest where
  previous : PublicationState
  next : PublicationState
  first_cursor : Int
  event_count : Int
  bytes : Int
  events_sha256 : String
deriving DecidableEq

/-- The names of a manifest. -/
def manifestFields : List String :=
  ["version", "exercise_id", "previous", "next", "first_cursor", "event_count", "bytes",
    "events_sha256"]

/-- The number of lines, as `splitlines` counts them in bytes: a carriage return, a line feed or
both together end a line, and bytes after the last end are one more line. -/
def countLines : Bytes → Nat
  | [] => 0
  | [_] => 1
  | 13 :: 10 :: bs => countLines bs + 1
  | 13 :: b :: bs => countLines (b :: bs) + 1
  | 10 :: b :: bs => countLines (b :: bs) + 1
  | _ :: b :: bs => countLines (b :: bs)

/-- A batch directory: the manifest and the events. -/
structure BatchFiles where
  manifest : Manifest
  content : Bytes
deriving DecidableEq

/-- The members of a manifest; a value that is no object, list or string has no set of names. -/
def manifestMembers : Json → Except Refusal (List (String × Json))
  | .obj members => .ok members
  | .str _ => .error (.spool "invalid batch manifest")
  | _ => .error .value

/-- `_batch`. -/
def batch (name : String) (entries : List (String × Node)) (exercise_id : String)
    (previous : PublicationState) : Except Refusal BatchFiles := do
  demand ((∀ e ∈ entries, e.1 = "manifest.json" ∨ e.1 = "events.jsonl") ∧
    "manifest.json" ∈ entries.map Prod.fst ∧ "events.jsonl" ∈ entries.map Prod.fst)
    "unexpected batch contents"
  let manifest_bytes ← safeFile (entries.lookup "manifest.json") 4096
  let manifest ← env.load_bytes manifest_bytes
  let content ← safeFile (entries.lookup "events.jsonl") maxBatchBytes
  let members ← manifestMembers manifest
  demand (hasFields manifestFields members) "invalid batch manifest"
  let following ← env.checkState ((members.lookup "next").getD .null) exercise_id
  let recorded ← env.checkState ((members.lookup "previous").getD .null) exercise_id
  demand (members.lookup "version" = some (.str spoolVersion) ∧
    members.lookup "exercise_id" = some (.str exercise_id) ∧ recorded = previous)
    "invalid batch chain"
  -- The checks on the scope of `next` repeat those of `_check_state`.
  let first ← asInt "invalid batch counters" (members.lookup "first_cursor")
  let count ← asInt "invalid batch counters" (members.lookup "event_count")
  let bytes ← asInt "invalid batch counters" (members.lookup "bytes")
  demand ((previous.cursor < first ∧ first ≤ following.cursor) ∧ (1 ≤ count ∧ count ≤ 1000) ∧
    following.event_count = previous.event_count + count ∧
    name = batchName first following.cursor) "invalid batch range"
  let digest ← asStr "invalid batch integrity" (members.lookup "events_sha256")
  demand (bytes = content.length ∧ content.getLast? = some 10 ∧
    (countLines content : Int) = count ∧ env.sha256 content = digest) "invalid batch integrity"
  -- The pattern of `prefix_sha256` was checked by `_check_state`.
  return ⟨⟨previous, following, first, count, bytes, digest⟩, content⟩

/-- What `_batch_paths` asks of one entry; a batch directory is returned. -/
def batchPath (entry : String × Node) :
    Except Refusal (Option (String × List (String × Node))) :=
  if entry.1 = "HEAD.json" ∨ entry.1 = ".lock" then do
    let _ ← safeFile (some entry.2) 4096
    return none
  else if batchPattern.accepts entry.1 then do
    let entries ← directory (some entry.2)
    return some (entry.1, entries)
  else if pendingPattern.accepts entry.1 then do
    let _ ← directory (some entry.2)
    return none
  else if headPattern.accepts entry.1 then do
    let _ ← safeFile (some entry.2) 4096
    return none
  else .error (.spool "unrecognized spool contents")

/-- `_batch_paths`: the batch directories in the order of their names. -/
def batchPaths (entries : List (String × Node)) :
    Except Refusal (List (String × List (String × Node))) := do
  let paths ← entries.mapM batchPath
  return (paths.filterMap id).insertionSort fun a b => a.1 ≤ b.1

/-- The loop of `_batches` over the batch directories. -/
def chain (exercise_id : String) :
    List (String × List (String × Node)) → PublicationState →
      Except Refusal (List BatchFiles)
  | [], _ => .ok []
  | (name, entries) :: paths, previous => do
      let files ← env.batch name entries exercise_id previous
      let rest ← chain exercise_id paths files.manifest.next
      return files :: rest

/-- What may lie in a directory without `HEAD.json`. -/
def uninitializedEntry (entry : String × Node) : Except Refusal Unit :=
  if entry.1 = ".lock" then do
    let _ ← safeFile (some entry.2) 0
    return ()
  else if headPattern.accepts entry.1 then do
    let _ ← safeFile (some entry.2) 4096
    return ()
  else .error (.spool "missing checkpoint; preserve evidence")

/-- The last checkpoint of a chain that starts at `previous`. -/
def lastState (previous : PublicationState) (files : List BatchFiles) : PublicationState :=
  (files.getLast?.map fun f => f.manifest.next).getD previous

/-- The result of `_batches`; the manifests come with the events they describe. -/
structure Published where
  previous : PublicationState
  initialized : Bool
  batches : List BatchFiles
deriving DecidableEq

/-- `_batches`. -/
def batches (root : Option Node) (exercise_id : String) : Except Refusal Published := do
  match root with
  | none => return ⟨env.emptyState exercise_id, false, []⟩
  | some node =>
      let entries ← directory (some node)
      if entries = [] then return ⟨env.emptyState exercise_id, false, []⟩
      else if "HEAD.json" ∉ entries.map Prod.fst then
        let _ ← entries.mapM uninitializedEntry
        return ⟨env.emptyState exercise_id, false, []⟩
      else
        let head_bytes ← safeFile (entries.lookup "HEAD.json") 4096
        let head_value ← env.load_bytes head_bytes
        let head ← env.checkState head_value exercise_id
        let paths ← batchPaths entries
        let files ← env.chain exercise_id paths (env.emptyState exercise_id)
        demand (head = env.emptyState exercise_id ∨ head ∈ files.map fun f => f.manifest.next)
          "checkpoint missing from published chain; preserve evidence"
        return ⟨lastState (env.emptyState exercise_id) files, true, files⟩

/-- The entries of a directory. -/
def entriesOf : Option Node → List (String × Node)
  | some (.directory _ entries) => entries
  | _ => []

/-- The directories of batches, in the order of their names. -/
def batchDirectories (entries : List (String × Node)) : List (String × Node) :=
  (entries.filter fun e => batchPattern.accepts e.1).insertionSort fun a b => a.1 ≤ b.1

/-- The contents of the batch files, in the order of the names of their directories. -/
def batchContents (root : Option Node) : List Bytes :=
  (batchDirectories (entriesOf root)).map fun e =>
    match (entriesOf (some e.2)).lookup "events.jsonl" with
    | some (.file _ _ content) => content
    | _ => []

/-- The checkpoint in `HEAD.json`, if it can be read. -/
def headOf (root : Option Node) (exercise_id : String) : Option PublicationState :=
  match safeFile ((entriesOf root).lookup "HEAD.json") 4096 with
  | .ok content =>
      match env.load_bytes content with
      | .ok value =>
          match env.checkState value exercise_id with
          | .ok head => some head
          | .error _ => none
      | .error _ => none
  | .error _ => none

/-! ## What an accepted directory satisfies -/

section Inversion

variable {env}

theorem asInt_eq_ok {message : String} {o : Option Json} {n : Int}
    (h : asInt message o = .ok n) : o = some (.int n) := by
  unfold asInt at h
  split at h
  · cases h
    rfl
  · cases h

theorem asStr_eq_ok {message : String} {o : Option Json} {s : String}
    (h : asStr message o = .ok s) : o = some (.str s) := by
  unfold asStr at h
  split at h
  · cases h
    rfl
  · cases h

theorem safeFile_eq_ok {node : Option Node} {maximum : Nat} {content : Bytes}
    (h : safeFile node maximum = .ok content) :
    ∃ mode, node = some (.file mode 1 content) ∧ content.length ≤ maximum := by
  unfold safeFile at h
  split at h
  · next mode nlink found =>
      obtain ⟨u, hsize, h⟩ := bind_eq_ok h
      obtain ⟨v, -, h⟩ := bind_eq_ok h
      obtain ⟨hlength, hnlink⟩ := demand_eq_ok hsize
      cases h
      exact ⟨mode, by rw [hnlink], hlength⟩
  · cases h
  · cases h

theorem directory_eq_ok {node : Option Node} {entries : List (String × Node)}
    (h : directory node = .ok entries) : ∃ mode, node = some (.directory mode entries) := by
  unfold directory at h
  split at h
  · cases h
  · next mode found =>
      obtain ⟨u, -, h⟩ := bind_eq_ok h
      cases h
      exact ⟨mode, rfl⟩
  · cases h

/-- A checked checkpoint. -/
structure StateValid (env : Spool) (exercise_id : String) (s : PublicationState) : Prop where
  version : s.version = spoolVersion
  scope : s.exercise_id = exercise_id
  count_nonneg : 0 ≤ s.event_count
  count_le : s.event_count ≤ s.cursor
  empty : s.event_count = 0 → s = env.emptyState exercise_id

theorem checkState_eq_ok {value : Json} {exercise_id : String} {s : PublicationState}
    (h : env.checkState value exercise_id = .ok s) : StateValid env exercise_id s := by
  unfold checkState at h
  split at h
  · obtain ⟨_, -, h⟩ := bind_eq_ok h
    obtain ⟨_, -, h⟩ := bind_eq_ok h
    obtain ⟨cursor, -, h⟩ := bind_eq_ok h
    obtain ⟨count, -, h⟩ := bind_eq_ok h
    obtain ⟨_, hcounters, h⟩ := bind_eq_ok h
    obtain ⟨digest, -, h⟩ := bind_eq_ok h
    obtain ⟨_, hdigest, h⟩ := bind_eq_ok h
    obtain ⟨_, hempty, h⟩ := bind_eq_ok h
    cases h
    exact
      { version := rfl
        scope := rfl
        count_nonneg := (demand_eq_ok hcounters).2
        count_le := (demand_eq_ok hdigest).1
        empty := demand_eq_ok hempty }
  · cases h

/-- The file of that name in a directory has the content. -/
def HasFile (entries : List (String × Node)) (name : String) (content : Bytes) : Prop :=
  ∃ mode, entries.lookup name = some (.file mode 1 content)

/-- What `_batch` found in a batch directory after the checkpoint `previous`. -/
structure BatchValid (env : Spool) (exercise_id name : String) (entries : List (String × Node))
    (previous : PublicationState) (f : BatchFiles) : Prop where
  content : HasFile entries "events.jsonl" f.content
  chained : f.manifest.previous = previous
  next : StateValid env exercise_id f.manifest.next
  below : previous.cursor < f.manifest.first_cursor
  above : f.manifest.first_cursor ≤ f.manifest.next.cursor
  count : f.manifest.next.event_count = previous.event_count + f.manifest.event_count
  name : name = batchName f.manifest.first_cursor f.manifest.next.cursor
  bytes : f.manifest.bytes = f.content.length
  digest : env.sha256 f.content = f.manifest.events_sha256

theorem batch_eq_ok {name exercise_id : String} {entries : List (String × Node)}
    {previous : PublicationState} {f : BatchFiles}
    (h : env.batch name entries exercise_id previous = .ok f) :
    BatchValid env exercise_id name entries previous f := by
  unfold batch at h
  obtain ⟨_, -, h⟩ := bind_eq_ok h
  obtain ⟨_, -, h⟩ := bind_eq_ok h
  obtain ⟨_, -, h⟩ := bind_eq_ok h
  obtain ⟨content, hcontent, h⟩ := bind_eq_ok h
  obtain ⟨members, -, h⟩ := bind_eq_ok h
  obtain ⟨_, -, h⟩ := bind_eq_ok h
  obtain ⟨following, hfollowing, h⟩ := bind_eq_ok h
  obtain ⟨recorded, -, h⟩ := bind_eq_ok h
  obtain ⟨_, hchain, h⟩ := bind_eq_ok h
  obtain ⟨first, -, h⟩ := bind_eq_ok h
  obtain ⟨count, -, h⟩ := bind_eq_ok h
  obtain ⟨bytes, -, h⟩ := bind_eq_ok h
  obtain ⟨_, hrange, h⟩ := bind_eq_ok h
  obtain ⟨digest, -, h⟩ := bind_eq_ok h
  obtain ⟨_, hintegrity, h⟩ := bind_eq_ok h
  cases h
  obtain ⟨⟨hbelow, habove⟩, -, hcount, hname⟩ := demand_eq_ok hrange
  obtain ⟨hbytes, -, -, hsha⟩ := demand_eq_ok hintegrity
  obtain ⟨mode, hfile, -⟩ := safeFile_eq_ok hcontent
  exact
    { content := ⟨mode, hfile⟩
      chained := rfl
      next := checkState_eq_ok hfollowing
      below := hbelow
      above := habove
      count := hcount
      name := hname
      bytes := hbytes
      digest := hsha }

/-- The batches of a chain, each valid after the one before. -/
inductive ChainValid (env : Spool) (exercise_id : String) : PublicationState →
    List (String × List (String × Node)) → List BatchFiles → Prop where
  | nil (previous : PublicationState) : ChainValid env exercise_id previous [] []
  | cons {previous : PublicationState} {name : String} {entries : List (String × Node)}
      {f : BatchFiles} {paths : List (String × List (String × Node))} {files : List BatchFiles}
      (head : BatchValid env exercise_id name entries previous f)
      (tail : ChainValid env exercise_id f.manifest.next paths files) :
      ChainValid env exercise_id previous ((name, entries) :: paths) (f :: files)

theorem chain_eq_ok {exercise_id : String} :
    ∀ {paths : List (String × List (String × Node))} {previous : PublicationState}
      {files : List BatchFiles}, env.chain exercise_id paths previous = .ok files →
        ChainValid env exercise_id previous paths files
  | [], previous, files, h => by
      cases h
      exact .nil previous
  | (name, entries) :: paths, previous, files, h => by
      unfold chain at h
      obtain ⟨f, hf, h⟩ := bind_eq_ok h
      obtain ⟨rest, hrest, h⟩ := bind_eq_ok h
      cases h
      exact .cons (batch_eq_ok hf) (chain_eq_ok hrest)

/-- The name of a batch starts with a letter. -/
theorem head_of_batchPattern {name : String} (h : batchPattern.accepts name = true) :
    name.toList.head? = some 'b' := by
  obtain ⟨v, -, hname⟩ := (Pattern.mem_lang_lit_seq _ _ _).mp ((Pattern.accepts_iff _ _).mp h)
  rw [hname]
  rfl

/-- The name of a `HEAD` that is being written starts with a dot. -/
theorem head_of_headPattern {name : String} (h : headPattern.accepts name = true) :
    name.toList.head? = some '.' := by
  obtain ⟨v, -, hname⟩ := (Pattern.mem_lang_lit_seq _ _ _).mp ((Pattern.accepts_iff _ _).mp h)
  rw [hname]
  rfl

theorem batchPattern_of_head {name : String} {c : Char} (h : name.toList.head? = some c)
    (hc : c ≠ 'b') : batchPattern.accepts name = false := by
  cases hb : batchPattern.accepts name with
  | false => rfl
  | true =>
      rw [head_of_batchPattern hb] at h
      exact absurd (Option.some.inj h).symm hc

/-- Without `HEAD.json` there is no batch. -/
theorem uninitializedEntry_eq_ok {entry : String × Node} {u : Unit}
    (h : uninitializedEntry entry = .ok u) : batchPattern.accepts entry.1 = false := by
  unfold uninitializedEntry at h
  split at h
  · next hlock =>
      rw [hlock]
      decide
  · split at h
    · next hhead => exact batchPattern_of_head (head_of_headPattern hhead) (by decide)
    · cases h

/-- A loop of checks that went well. -/
theorem mapM_eq_ok {α β : Type} {f : α → Except Refusal β} :
    ∀ {as : List α} {bs : List β}, as.mapM f = .ok bs →
      List.Forall₂ (fun a b => f a = .ok b) as bs
  | [], bs, h => by
      cases h
      exact .nil
  | a :: as, bs, h => by
      rw [List.mapM_cons] at h
      obtain ⟨b, hb, h⟩ := bind_eq_ok h
      obtain ⟨rest, hrest, h⟩ := bind_eq_ok h
      cases h
      exact .cons hb (mapM_eq_ok hrest)

theorem exists_of_mapM {α β : Type} {f : α → Except Refusal β} {as : List α} {bs : List β}
    (h : as.mapM f = .ok bs) {a : α} (ha : a ∈ as) : ∃ b, f a = .ok b := by
  have hall := mapM_eq_ok h
  clear h
  induction hall with
  | nil => cases ha
  | cons hb _ ih =>
      rcases List.mem_cons.mp ha with rfl | ha
      · exact ⟨_, hb⟩
      · exact ih ha

/-- An accepted entry that is a batch is a directory; of the others nothing is kept. -/
theorem batchPath_eq_ok {entry : String × Node} {o : Option (String × List (String × Node))}
    (h : batchPath entry = .ok o) :
    o = if batchPattern.accepts entry.1 then some (entry.1, entriesOf (some entry.2)) else none := by
  unfold batchPath at h
  split at h
  · next hname =>
      have hno : batchPattern.accepts entry.1 = false := by
        rcases hname with hname | hname <;> rw [hname] <;> decide
      obtain ⟨_, -, h⟩ := bind_eq_ok h
      cases h
      rw [hno]
      rfl
  · split at h
    · next hbatch =>
        obtain ⟨files, hfiles, h⟩ := bind_eq_ok h
        cases h
        obtain ⟨mode, hnode⟩ := directory_eq_ok hfiles
        rw [if_pos hbatch, hnode]
        rfl
    · next hbatch =>
        rw [if_neg hbatch]
        split at h
        · obtain ⟨_, -, h⟩ := bind_eq_ok h
          cases h
          rfl
        · split at h
          · obtain ⟨_, -, h⟩ := bind_eq_ok h
            cases h
            rfl
          · cases h

/-- The batch directories among accepted entries. -/
theorem filterMap_of_accepted {entries : List (String × Node)}
    {found : List (Option (String × List (String × Node)))}
    (h : List.Forall₂ (fun e o => batchPath e = .ok o) entries found) :
    found.filterMap id = (entries.filter fun e => batchPattern.accepts e.1).map
      fun e => (e.1, entriesOf (some e.2)) := by
  induction h with
  | nil => rfl
  | @cons entry o entries found ho _ ih =>
      rw [batchPath_eq_ok ho, List.filter_cons]
      by_cases hbatch : batchPattern.accepts entry.1 = true
      · rw [if_pos hbatch, if_pos hbatch, List.map_cons, ← ih]
        rfl
      · rw [if_neg hbatch, if_neg hbatch, ← ih]
        rfl

/-- The accepted paths are the batch directories in the order of their names. -/
theorem batchPaths_eq_ok {entries : List (String × Node)}
    {paths : List (String × List (String × Node))} (h : batchPaths entries = .ok paths) :
    paths = (batchDirectories entries).map fun e => (e.1, entriesOf (some e.2)) := by
  unfold batchPaths at h
  obtain ⟨found, hfound, h⟩ := bind_eq_ok h
  cases h
  rw [filterMap_of_accepted (mapM_eq_ok hfound)]
  exact (List.map_insertionSort (fun a b => a.1 ≤ b.1) (fun a b => a.1 ≤ b.1)
    (fun e : String × Node => (e.1, entriesOf (some e.2))) _ fun _ _ _ _ => Iff.rfl).symm

/-- What `_batches` accepts: nothing published yet, or a directory with a chain of batches in the
order of their names that passes through `HEAD`. -/
inductive Accepts (env : Spool) (exercise_id : String) (root : Option Node) :
    Published → Prop where
  | empty (nothing : ∀ e ∈ entriesOf root, batchPattern.accepts e.1 = false) :
      Accepts env exercise_id root ⟨env.emptyState exercise_id, false, []⟩
  | published {mode : Nat} {entries : List (String × Node)} {head : PublicationState}
      {paths : List (String × List (String × Node))} {files : List BatchFiles}
      (root_eq : root = some (.directory mode entries))
      (head_is : env.headOf root exercise_id = some head) (listed : batchPaths entries = .ok paths)
      (chained : ChainValid env exercise_id (env.emptyState exercise_id) paths files)
      (head_seen : head = env.emptyState exercise_id ∨
        head ∈ files.map fun f => f.manifest.next) :
      Accepts env exercise_id root
        ⟨lastState (env.emptyState exercise_id) files, true, files⟩

theorem batches_eq_ok {root : Option Node} {exercise_id : String} {p : Published}
    (h : env.batches root exercise_id = .ok p) : Accepts env exercise_id root p := by
  unfold batches at h
  cases root with
  | none =>
      cases h
      exact .empty fun _ he => absurd he List.not_mem_nil
  | some node =>
      obtain ⟨entries, hentries, h⟩ := bind_eq_ok h
      obtain ⟨mode, hnode⟩ := directory_eq_ok hentries
      split at h
      · next hnil =>
          cases h
          rw [hnode, hnil]
          exact .empty fun _ he => absurd he List.not_mem_nil
      · split at h
        · obtain ⟨found, hfound, h⟩ := bind_eq_ok h
          cases h
          rw [hnode]
          refine .empty fun e he => ?_
          obtain ⟨u, hu⟩ := exists_of_mapM hfound he
          exact uninitializedEntry_eq_ok hu
        · obtain ⟨content, hcontent, h⟩ := bind_eq_ok h
          obtain ⟨value, hvalue, h⟩ := bind_eq_ok h
          obtain ⟨head, hhead, h⟩ := bind_eq_ok h
          obtain ⟨paths, hpaths, h⟩ := bind_eq_ok h
          obtain ⟨files, hfiles, h⟩ := bind_eq_ok h
          obtain ⟨_, hseen, h⟩ := bind_eq_ok h
          cases h
          refine .published hnode ?_ hpaths (chain_eq_ok hfiles) (demand_eq_ok hseen)
          rw [hnode]
          unfold headOf entriesOf
          simp only [hcontent, hvalue, hhead]

end Inversion

end Spool

end NetStrike.Dashboard
