import NetStrike.Dashboard.Archive
import NetStrike.Foundation.Compensation

/-!
# The portal store

`PortalStore` of `dashboard/store.py` with its four tables. Each method checks and encodes what it
is given and then writes in one transaction; a table refuses a row that breaks one of its `UNIQUE`
constraints.

A column of decoded JSON with default separators (`metadata`, `payload` and `result` of a
submission) holds the value that its text stands for.
-/

set_option autoImplicit false

namespace NetStrike.Dashboard

open NetStrike.Foundation NetStrike.Foundation.Raising NetStrike.Shared NetStrike.Orchestrator
open NetStrike.Orchestrator.Aar

namespace Store

/-! ## Tables -/

/-- A row of `events`. -/
structure EventRow where
  event_id : String
  exercise_id : String
  run_id : String
  sequence : Rat
  visibility : String
  payload : List Char
deriving DecidableEq

/-- A row of `submissions`. -/
structure SubmissionRow where
  submission_id : Nat
  exercise_id : String
  run_id : String
  actor_id : String
  submission_type : String
  submitted_at : String
  payload : Json
  result : Json

/-- A row of `identity_audit`. -/
structure IdentityRow where
  audit_id : String
  event_id : String
  exercise_id : String
  run_id : String
  phase : String
  synthetic_identity : String
  occurred_at : String
  action : String
  result : String
  source_service : String
  source_event_id : String
  credential_kind : Option String
  submission_reference : Option String
deriving DecidableEq

/-- A row of `review_archives`. -/
structure ArchiveRow where
  archive_sequence : Nat
  archive_id : String
  exercise_id : String
  run_id : String
  bundle_sha256 : String
  audit_event_id : String
  metadata : Json
  bundle : List Char

/-- The database, the rows of each table in the order of their insertion. -/
structure Tables where
  events : List EventRow
  submissions : List SubmissionRow
  identity_audit : List IdentityRow
  review_archives : List ArchiveRow

/-- The database after `_initialize`. -/
def Tables.empty : Tables := ⟨[], [], [], []⟩

/-- The columns of `UNIQUE(exercise_id, run_id, sequence)`. -/
def EventRow.position (row : EventRow) : String × String × Rat :=
  (row.exercise_id, row.run_id, row.sequence)

/-- The columns of `UNIQUE(exercise_id, run_id, source_service, source_event_id)`. -/
def IdentityRow.source (row : IdentityRow) : String × String × String × String :=
  (row.exercise_id, row.run_id, row.source_service, row.source_event_id)

/-- The columns of `UNIQUE(exercise_id, run_id, bundle_sha256)`. -/
def ArchiveRow.content (row : ArchiveRow) : String × String × String :=
  (row.exercise_id, row.run_id, row.bundle_sha256)

/-- The next value of an `AUTOINCREMENT` column whose rows are never deleted. -/
def nextId (ids : List Nat) : Nat := ids.foldr max 0 + 1

/-- `sqlite3.IntegrityError`. -/
def notUnique (columns : String) : Exn :=
  .of (.other "IntegrityError") ("UNIQUE constraint failed: " ++ columns)

/-- Refuse a row whose columns are taken. -/
def unique {ρ κ : Type} [DecidableEq κ] (rows : Tables → List ρ) (columns : ρ → κ) (row : ρ)
    (name : String) : Py Tables Unit :=
  require (fun t => ∀ r ∈ rows t, columns r ≠ columns row) fun _ => notUnique name

/-- The value of an `INTEGER` column; a valid event has a number here. -/
def integerColumn : Option Json → Except Exn Rat
  | some (.int n) =>
      if -9223372036854775808 ≤ n ∧ n ≤ 9223372036854775807 then .ok n
      else .error (.of (.other "OverflowError") "Python int too large to convert to SQLite INTEGER")
  | some (.float q) => .ok q
  | _ => .error (.of (.other "InterfaceError") "type 'object' is not supported")

/-- The row of an event. -/
def eventRow (event : Json) (sequence : Rat) (payload : List Char) : EventRow where
  event_id := eventText event "event_id"
  exercise_id := eventText event "exercise_id"
  run_id := eventText event "run_id"
  sequence := sequence
  visibility := eventText event "visibility"
  payload := payload

/-- `INSERT INTO events`. -/
def insertEvent (event : Json) (payload : List Char) : Py Tables Unit := do
  let sequence ← ofExcept (integerColumn (event.get? "sequence"))
  let row := eventRow event sequence payload
  unique Tables.events EventRow.event_id row "events.event_id"
  unique Tables.events EventRow.position row "events.exercise_id, events.run_id, events.sequence"
  modify fun t => { t with events := t.events ++ [row] }

/-- `INSERT INTO identity_audit`. -/
def insertIdentity (row : IdentityRow) : Py Tables Unit := do
  unique Tables.identity_audit IdentityRow.audit_id row "identity_audit.audit_id"
  unique Tables.identity_audit IdentityRow.event_id row "identity_audit.event_id"
  unique Tables.identity_audit IdentityRow.source row
    ("identity_audit.exercise_id, identity_audit.run_id, identity_audit.source_service, " ++
      "identity_audit.source_event_id")
  modify fun t => { t with identity_audit := t.identity_audit ++ [row] }

/-- The row of an archive. -/
def archiveRow (record : Archive.Metadata) (encoded : List Char) (archive_sequence : Nat) :
    ArchiveRow where
  archive_sequence := archive_sequence
  archive_id := record.archive_id
  exercise_id := record.exercise_id
  run_id := record.run_id
  bundle_sha256 := record.bundle_sha256
  audit_event_id := record.audit_event_id
  metadata := record.toJson.sortKeys
  bundle := encoded

/-- `INSERT INTO review_archives`. -/
def insertArchive (record : Archive.Metadata) (encoded : List Char) : Py Tables Unit := do
  let archive_sequence ← gets fun t =>
    nextId (t.review_archives.map ArchiveRow.archive_sequence)
  let row := archiveRow record encoded archive_sequence
  unique Tables.review_archives ArchiveRow.archive_id row "review_archives.archive_id"
  unique Tables.review_archives ArchiveRow.audit_event_id row "review_archives.audit_event_id"
  unique Tables.review_archives ArchiveRow.content row
    "review_archives.exercise_id, review_archives.run_id, review_archives.bundle_sha256"
  modify fun t => { t with review_archives := t.review_archives ++ [row] }

/-! ## Methods -/

/-- An item of `identity_audit()`. -/
structure IdentityAudit extends IdentityRow where
  provenance : Json

/-- A snapshot as it is read back. -/
structure Snapshot where
  metadata : Json
  archive_sequence : Nat
  bundle : Json
  report : Report

/-- A page of `review_archives()`. -/
structure ArchivePage where
  archives : List (Json × Nat)
  has_more : Bool
  next_sequence : Int

/-- A row is of the given run. -/
def OfRun {ρ : Type} (exercise run : ρ → String) (exercise_id run_id : String) (row : ρ) : Prop :=
  exercise row = exercise_id ∧ run row = run_id

instance {ρ : Type} (exercise run : ρ → String) (exercise_id run_id : String) :
    DecidablePred (OfRun exercise run exercise_id run_id) :=
  fun _ => inferInstanceAs (Decidable (_ ∧ _))

/-- `ORDER BY occurred_at, events.sequence`. -/
def Before (a b : IdentityRow × EventRow) : Prop :=
  a.1.occurred_at < b.1.occurred_at ∨
    a.1.occurred_at = b.1.occurred_at ∧ a.2.sequence ≤ b.2.sequence

instance : DecidableRel Before := fun _ _ => inferInstanceAs (Decidable (_ ∨ _))

/-- The rows of `identity_audit JOIN events`. -/
def joined (rows : List IdentityRow) (events : List EventRow) : List (IdentityRow × EventRow) :=
  rows.flatMap fun row =>
    (events.filter fun event => event.event_id = row.event_id).map fun event => (row, event)

/-- A page bound that is an integer and no Boolean. -/
def pageBound (value : Json) (lo : Int) (hi : Option Int) : Except Exn Int :=
  match value with
  | .int n =>
      if lo ≤ n ∧ ∀ h, hi = some h → n ≤ h then .ok n
      else .error (invalid "invalid review archive page")
  | _ => .error (invalid "invalid review archive page")

end Store

namespace Archive.Env

open Store

variable (env : Archive.Env)

/-- `json.dumps(event, sort_keys=True, separators=(",", ":"))`. -/
def dumps (event : Json) : Except Exn (List Char) := do
  Checked.require (event.short = true)
    (invalid "Exceeds the limit (4300 digits) for integer string conversion")
  return event.dumpChars env.ft.repr

/-- `json.loads`. -/
def loads (text : List Char) : Except Exn Json :=
  given (.of (.other "JSONDecodeError") "not a JSON document") (Json.loads env.ft Json.dict text)

/-- `append_event`. -/
def appendEvent (event : Json) : Py Tables Json := do
  let sanitized := redactSensitive event
  ofExcept (EventValidator.validate env.formats sanitized)
  let payload ← ofExcept (env.dumps sanitized)
  (insertEvent sanitized payload).transaction
  return sanitized

/-- `events`: no filter where no visibility is given. -/
def events (exercise_id run_id : String) (visibilities : Option (List String)) (t : Tables) :
    Except Exn (List Json) :=
  let wanted := visibilities.getD []
  let rows := t.events.filter fun row =>
    OfRun EventRow.exercise_id EventRow.run_id exercise_id run_id row ∧
      (wanted = [] ∨ row.visibility ∈ wanted)
  (rows.insertionSort fun a b => a.sequence ≤ b.sequence).mapM fun row => env.loads row.payload

/-- `save_submission`, at an instant of the clock. -/
def saveSubmission (exercise_id run_id actor_id submission_type : String) (payload result : Json)
    (now : DateTime) : Py Tables Nat := do
  let submitted_at := now.isoformat
  let _ ← ofExcept (env.dumps (redactSensitive payload))
  let _ ← ofExcept (env.dumps (redactSensitive result))
  let submission_id ← gets fun t => nextId (t.submissions.map SubmissionRow.submission_id)
  let row : SubmissionRow := ⟨submission_id, exercise_id, run_id, actor_id, submission_type,
    submitted_at, (redactSensitive payload).sortKeys, (redactSensitive result).sortKeys⟩
  modify fun t => { t with submissions := t.submissions ++ [row] }
  return submission_id

/-- `submissions`. -/
def submissions (run_id : String) (t : Tables) : List SubmissionRow :=
  (t.submissions.filter fun row => row.run_id = run_id).insertionSort
    fun a b => a.submission_id ≤ b.submission_id

/-- `append_identity_audit`: the row refers to the event that is written with it. -/
def appendIdentityAudit (event : Json) (record : IdentityRow) : Py Tables IdentityAudit := do
  let sanitized := redactSensitive event
  ofExcept (EventValidator.validate env.formats sanitized)
  let payload ← ofExcept (env.dumps sanitized)
  transaction do
    insertEvent sanitized payload
    insertIdentity { record with event_id := eventText sanitized "event_id" }
  return { record with provenance := (sanitized.get? "provenance").getD .null }

/-- `_identity_audit_result` of a joined row. -/
def identityAuditResult (pair : IdentityRow × EventRow) : Except Exn IdentityAudit := do
  let event ← env.loads pair.2.payload
  let provenance ← Archive.member event "provenance"
  return { pair.1 with provenance := provenance }

/-- `identity_audit`. -/
def identityAudit (exercise_id run_id : String) (t : Tables) : Except Exn (List IdentityAudit) :=
  let rows := t.identity_audit.filter fun row =>
    OfRun IdentityRow.exercise_id IdentityRow.run_id exercise_id run_id row
  ((joined rows t.events).insertionSort Before).mapM env.identityAuditResult

/-- `identity_audit_by_source`. -/
def identityAuditBySource (exercise_id run_id source_service source_event_id : String)
    (t : Tables) : Except Exn (Option IdentityAudit) :=
  let rows := t.identity_audit.filter fun row =>
    row.source = (exercise_id, run_id, source_service, source_event_id)
  match (joined rows t.events).head? with
  | none => .ok none
  | some pair => do return some (← env.identityAuditResult pair)

/-- `delete_identity_audit`. -/
def deleteIdentityAudit (exercise_id run_id : String) : Py Tables Nat := do
  let deleted ← gets fun t => t.identity_audit.countP fun row =>
    OfRun IdentityRow.exercise_id IdentityRow.run_id exercise_id run_id row
  modify fun t => { t with
    identity_audit := t.identity_audit.filter fun row =>
      ¬ OfRun IdentityRow.exercise_id IdentityRow.run_id exercise_id run_id row }
  return deleted

/-- `append_review_archive`. -/
def appendReviewArchive (bundle audit : Json) : Py Tables Archive.Metadata := do
  let encoded ← ofExcept (env.encodeBundle bundle)
  let record ← ofExcept (env.metadata bundle audit)
  let payload ← ofExcept (env.dumps audit)
  transaction do
    insertArchive record encoded
    insertEvent audit payload
  return record

/-- `_review_snapshot`. -/
def reviewSnapshot (t : Tables) (row : ArchiveRow) : Except Exn Snapshot := do
  Checked.require (row.bundle.length ≤ Archive.maxBytes)
    (invalid "review archive exceeds the offline review limit")
  let record := row.metadata
  let bundle ← env.loads row.bundle
  let event ← given (invalid "review archive audit is missing")
    (t.events.find? fun event => event.event_id = row.audit_event_id)
  let audit ← env.loads event.payload
  let report ← env.validateSnapshot record bundle audit
  Checked.require (record.str? "archive_id" = some row.archive_id ∧
      record.str? "exercise_id" = some row.exercise_id ∧
      record.str? "run_id" = some row.run_id ∧
      record.str? "bundle_sha256" = some row.bundle_sha256 ∧
      record.str? "audit_event_id" = some row.audit_event_id)
    (invalid "review archive storage correlation is invalid")
  return ⟨record, row.archive_sequence, bundle, report⟩

/-- The snapshot of the first row that meets a condition. -/
def snapshotOf (p : ArchiveRow → Bool) (t : Tables) : Except Exn (Option Snapshot) :=
  match t.review_archives.find? p with
  | none => .ok none
  | some row => do return some (← env.reviewSnapshot t row)

/-- `review_archive`. -/
def reviewArchive (exercise_id identifier : String) (t : Tables) :
    Except Exn (Option Snapshot) := do
  let _ ← Archive.archiveId identifier
  env.snapshotOf (fun row => row.exercise_id = exercise_id ∧ row.archive_id = identifier) t

/-- `review_archive_by_hash`. -/
def reviewArchiveByHash (exercise_id run_id digest : String) (t : Tables) :
    Except Exn (Option Snapshot) :=
  env.snapshotOf (fun row => row.content = (exercise_id, run_id, digest)) t

/-- The body of the loop of `review_archives`. -/
def pageItem (exercise_id : String) (t : Tables) (row : ArchiveRow) : Except Exn (Json × Nat) := do
  let snapshot ← env.reviewArchive exercise_id row.archive_id t
  let snapshot ← given (invalid "review archive changed during listing") snapshot
  return (snapshot.metadata, snapshot.archive_sequence)

/-- `review_archives`. -/
def reviewArchives (exercise_id : String) (after_sequence limit : Json) (t : Tables) :
    Except Exn ArchivePage := do
  let after ← pageBound after_sequence 0 none
  let limit ← pageBound limit 1 (some 100)
  let _ ← integerColumn (some (.int after))
  let found := (t.review_archives.filter fun row =>
    row.exercise_id = exercise_id ∧ after < (row.archive_sequence : Int)).insertionSort
      fun a b => a.archive_sequence ≤ b.archive_sequence
  let rows := found.take (limit.toNat + 1)
  let page ← (rows.take limit.toNat).mapM (env.pageItem exercise_id t)
  return {
    archives := page
    has_more := decide (limit.toNat < rows.length)
    next_sequence := (page.getLast?.map fun item => (item.2 : Int)).getD after }

end Archive.Env

end NetStrike.Dashboard
