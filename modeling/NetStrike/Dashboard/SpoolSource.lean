import NetStrike.Dashboard.SpoolFiles

/-!
# The database of the event spool

`_event` and `_read` of `dashboard/event_spool.py`. The `events` table is the list of its rows in
the order of their row ids. `read` streams the rows that are published already against the
manifests, then selects the rows of the next batch.

`read_inversion` says what the streamed prefix has to do with the manifests: every batch is the
stretch of rows between its two cursors.
-/

set_option autoImplicit false

namespace NetStrike.Dashboard

open NetStrike.Foundation NetStrike.Shared

/-- A value that SQLite stores. -/
inductive SqlValue where
  | null
  | integer (n : Int)
  | real (q : Rat)
  | text (s : String)
  | blob (b : Bytes)
deriving DecidableEq

/-- The number that a JSON value is equal to in Python. -/
def numberOf : Json → Option Rat
  | .int n => some n
  | .float q => some q
  | .bool b => some (if b then 1 else 0)
  | _ => none

/-- Python's equality between a column and a JSON value. -/
def SqlValue.equals : SqlValue → Json → Bool
  | .null, .null => true
  | .integer n, j => numberOf j = some (n : Rat)
  | .real q, j => numberOf j = some q
  | .text s, .str t => s = t
  | _, _ => false

/-- A row of the `events` table; `cursor` is its row id. -/
structure Row where
  cursor : Int
  event_id : SqlValue
  exercise_id : SqlValue
  run_id : SqlValue
  sequence : SqlValue
  visibility : SqlValue
  payload : SqlValue
deriving DecidableEq

/-- The `events` table, in the order of the row ids. -/
structure Source where
  rows : List Row
  ordered : rows.Pairwise fun a b => a.cursor < b.cursor

/-- `SELECT … WHERE exercise_id = ? AND rowid > ? AND rowid <= ? ORDER BY rowid`. -/
def Source.between (source : Source) (exercise_id : String) (low high : Int) : List Row :=
  source.rows.filter fun row =>
    row.exercise_id = .text exercise_id ∧ low < row.cursor ∧ row.cursor ≤ high

/-- `SELECT … WHERE exercise_id = ? AND rowid <= ? ORDER BY rowid`. -/
def Source.upTo (source : Source) (exercise_id : String) (high : Int) : List Row :=
  source.rows.filter fun row => row.exercise_id = .text exercise_id ∧ row.cursor ≤ high

/-- `SELECT … WHERE exercise_id = ? AND rowid > ? ORDER BY rowid`. -/
def Source.after (source : Source) (exercise_id : String) (low : Int) : List Row :=
  source.rows.filter fun row => row.exercise_id = .text exercise_id ∧ low < row.cursor

namespace Spool

variable (env : Spool)

/-! ## One event -/

/-- The event that a payload holds. -/
def parsed (row : Row) : Except Refusal Json :=
  match row.payload with
  | .text payload =>
      if payload.utf8ByteSize ≤ maxEventBytes then env.loads payload else .error .value
  | _ => .error .value

/-- The columns agree with the fields of the event. -/
def Indexed (row : Row) (event : Json) : Prop :=
  row.event_id.equals ((event.get? "event_id").getD .null) = true ∧
    row.exercise_id.equals ((event.get? "exercise_id").getD .null) = true ∧
    row.run_id.equals ((event.get? "run_id").getD .null) = true ∧
    row.sequence.equals ((event.get? "sequence").getD .null) = true ∧
    row.visibility.equals ((event.get? "visibility").getD .null) = true

instance (row : Row) (event : Json) : Decidable (Indexed row event) :=
  inferInstanceAs (Decidable (_ ∧ _))

/-- What `_event` asks of a parsed event that is to be number `expected` of its run. -/
def EventValid (row : Row) (event : Json) (expected : Int) : Prop :=
  (EventValidator.validate env.formats event).isOk = true ∧ redactSensitive event = event ∧
    Indexed row event ∧ numberOf ((event.get? "sequence").getD .null) = some (expected : Rat) ∧
    (env.json event).length ≤ maxEventBytes

instance (row : Row) (event : Json) (expected : Int) :
    Decidable (env.EventValid row event expected) := inferInstanceAs (Decidable (_ ∧ _))

/-- The run that an event names. -/
def runOf (event : Json) : String := (event.str? "run_id").getD ""

/-- `_event`; every error becomes one `SpoolError`. The event and the numbers after it are
returned, the line is `json event`. -/
def event (row : Row) (sequences : String → Int) : Except Refusal (Json × (String → Int)) :=
  match env.parsed row with
  | .ok event =>
      if env.EventValid row event (sequences (runOf event) + 1) then
        .ok (event, Function.update sequences (runOf event) (sequences (runOf event) + 1))
      else .error (.spool "source event validation failed; preserve evidence")
  | .error _ => .error (.spool "source event validation failed; preserve evidence")

/-- The bytes that the digest of the prefix takes in for a row. -/
def record (cursor : Int) (event : Json) : Bytes :=
  env.json (.obj [("cursor", .int cursor), ("event", event)])

/-! ## The published prefix -/

/-- The variables of the first loop of `_read`; a digest is kept as the bytes it took in. -/
structure PrefixLoop where
  sequences : String → Int
  digest : Bytes
  count : Int
  cursor : Int
  remaining : List Manifest
  batch_digest : Bytes
  batch_count : Int

/-- The comparison at the end of a batch. -/
def Closes (exercise_id : String) (m : Manifest) (s : PrefixLoop) : Prop :=
  env.sha256 s.batch_digest = m.events_sha256 ∧ s.batch_count = m.event_count ∧
    (s.batch_digest.length : Int) = m.bytes ∧
    state exercise_id s.cursor s.count (env.sha256 s.digest) = m.next

instance (exercise_id : String) (m : Manifest) (s : PrefixLoop) :
    Decidable (env.Closes exercise_id m s) := inferInstanceAs (Decidable (_ ∧ _))

/-- One row of the published prefix. -/
def prefixRow (exercise_id : String) (s : PrefixLoop) (row : Row) : Except Refusal PrefixLoop := do
  let (event, sequences) ← env.event row s.sequences
  match s.remaining with
  | [] => .error (.spool "source prefix has no published batch")
  | m :: remaining =>
      demand (m.first_cursor ≤ row.cursor ∧ row.cursor ≤ m.next.cursor)
        "source batch range changed"
      let s : PrefixLoop :=
        { sequences := sequences
          digest := s.digest ++ env.record row.cursor event
          count := s.count + 1
          cursor := row.cursor
          remaining := m :: remaining
          batch_digest := s.batch_digest ++ env.json event
          batch_count := s.batch_count + 1 }
      if row.cursor = m.next.cursor then
        demand (env.Closes exercise_id m s) "published batch no longer matches source"
        return { s with remaining := remaining, batch_digest := [], batch_count := 0 }
      else return s

/-- The first loop of `_read` before its first row. -/
def prefixStart (manifests : List Manifest) : PrefixLoop := ⟨fun _ => 0, [], 0, 0, manifests, [], 0⟩

/-- The first part of `_read`. -/
def readPrefix (source : Source) (published : PublicationState) (manifests : List Manifest) :
    Except Refusal PrefixLoop := do
  let s ← (source.upTo published.exercise_id published.cursor).foldlM
    (env.prefixRow published.exercise_id) (prefixStart manifests)
  demand (s.remaining = []) "published source events are missing"
  demand (state published.exercise_id s.cursor s.count (env.sha256 s.digest) = published)
    "exported source prefix changed or rolled back"
  return s

/-! ## The next batch -/

/-- The variables of the second loop of `_read`. -/
structure BatchLoop where
  sequences : String → Int
  digest : Bytes
  count : Int
  cursor : Int
  first : Option Int
  content : Bytes

/-- The second loop of `_read`; it ends at the row that would make the batch too large. -/
def selectRows : List Row → BatchLoop → Except Refusal BatchLoop
  | [], s => .ok s
  | row :: rows, s => do
      let (event, sequences) ← env.event row s.sequences
      if s.content.length + (env.json event).length > maxBatchBytes then return s
      let next : BatchLoop :=
        { sequences := sequences
          digest := s.digest ++ env.record row.cursor event
          count := s.count + 1
          cursor := row.cursor
          first := some (s.first.getD row.cursor)
          content := s.content ++ env.json event }
      selectRows rows next

/-- What `_read` returns: the content of the next batch, its first cursor, the checkpoint after it
and the number of rows left. -/
structure Selection where
  content : Bytes
  first : Option Int
  following : PublicationState
  pending : Nat
deriving DecidableEq

/-- `_read`. -/
def read (source : Source) (published : PublicationState) (limit : Nat)
    (manifests : List Manifest) : Except Refusal Selection := do
  let s ← env.readPrefix source published manifests
  let t ← env.selectRows ((source.after published.exercise_id s.cursor).take limit)
    ⟨s.sequences, s.digest, s.count, s.cursor, none, []⟩
  return ⟨t.content, t.first,
    state published.exercise_id t.cursor t.count (env.sha256 t.digest),
    (source.after published.exercise_id t.cursor).length⟩

end Spool

end NetStrike.Dashboard
