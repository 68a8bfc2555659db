import NetStrike.Foundation.Checked
import NetStrike.Foundation.JsonLines
import NetStrike.Shared.EventSchema

/-!
# The event ledger

`EventLedger` and `iter_jsonl` of `shared/events.py`. A `Value` is a Python value as a caller may hand
it over, so `append` sees tuples, foreign objects and integers that have no text. `write` streams a
value into the open file as `json.dump` does: a value that has no text stops it, and what was written
before stays in the file.

`append_intact_iff` says when a failed append leaves the ledger as it was: unless the event passes
the checks and holds a value that JSON cannot encode.
-/

set_option autoImplicit false

namespace NetStrike.Shared

open NetStrike.Foundation NetStrike.Foundation.Checked

/-! ## Python values -/

/-- A Python value. A mapping is given with its keys as `str` prints them; `nonfinite` is a float that
is not finite, with its text; `other` is an object of any other class, which `deepcopy` copies or
not. -/
inductive Value where
  | null
  | bool (b : Bool)
  | int (n : Int)
  | float (q : Rat)
  | nonfinite (text : String)
  | str (s : String)
  | list (items : List Value)
  | tuple (items : List Value)
  | mapping (members : List (String × Value))
  | other (copies : Bool)

namespace Value

mutual

/-- `redact_sensitive` with the default keys. -/
def redact : Value → Except Exn Value
  | mapping members => do
      let members ← redactMembers members
      return mapping (members.foldl (fun output m => Json.setMember m output) [])
  | list items => do return list (← redactItems items)
  | tuple items => do return list (← redactItems items)
  | other copies =>
      if copies then .ok (other copies) else .error (.of .TypeError "cannot pickle object")
  | v => .ok v

/-- Redaction of the items of a list or a tuple. -/
def redactItems : List Value → Except Exn (List Value)
  | [] => .ok []
  | v :: vs => do
      let v ← redact v
      let vs ← redactItems vs
      return v :: vs

/-- Redaction of the items of a mapping. -/
def redactMembers : List (String × Value) → Except Exn (List (String × Value))
  | [] => .ok []
  | (key, child) :: ms => do
      let child ← if sensitiveKeys.contains (normalizedKey key) then .ok (str "[REDACTED]")
        else redact child
      let ms ← redactMembers ms
      return (key, child) :: ms

end

mutual

/-- The value as the validator sees it. A float that is not finite and an object of a foreign class
are of none of the types that the event schema names, and stand as a fraction. -/
def view : Value → Json
  | null => .null
  | bool b => .bool b
  | int n => .int n
  | float q => .float q
  | nonfinite _ => .float (1 / 2)
  | str s => .str s
  | list items => .arr (viewItems items)
  | tuple items => .arr (viewItems items)
  | mapping members => .obj (viewMembers members)
  | other _ => .float (1 / 2)

/-- `view` of every item. -/
def viewItems : List Value → List Json
  | [] => []
  | v :: vs => view v :: viewItems vs

/-- `view` of every member. -/
def viewMembers : List (String × Value) → List (String × Json)
  | [] => []
  | (key, v) :: ms => (key, view v) :: viewMembers ms

end

/-- An integer beyond the length that `int.__repr__` prints. -/
def long : Value → Bool
  | int n => !decide (Json.Short n)
  | _ => false

/-- `TypeError` of an object that is not JSON serializable. -/
def notSerializable : Exn := .of .TypeError "Object is not JSON serializable"

/-- `ValueError` of an integer that is too long to print. -/
def tooLong : Exn :=
  .of .ValueError "Exceeds the limit (4300 digits) for integer string conversion"

/-- The pieces that come after the text of an item, unless it failed. -/
def andThen (first : List Char × Option Exn) (rest : List Char × Option Exn) :
    List Char × Option Exn :=
  match first with
  | (text, none) => (text ++ rest.1, rest.2)
  | (text, some e) => (text, some e)

/-- The members of an object, sorted, each with what becomes of its value. -/
def emitMembers (separator : List Char) :
    List (String × (List Char × Option Exn)) → List Char × Option Exn
  | [] => (['}'], none)
  | (key, text, failure) :: ms =>
      andThen (separator ++ (Json.quote key ++ ':' :: text), failure) (emitMembers [','] ms)

section Write

variable (repr : Rat → String)

mutual

/-- `json.dump(..., sort_keys=True, separators=(",", ":"))`: the text that is written, and the
exception that ends it, if one does. -/
def write : Value → List Char × Option Exn
  | null => ("null".toList, none)
  | bool true => ("true".toList, none)
  | bool false => ("false".toList, none)
  | int n => if Json.Short n then ((toString n).toList, none) else ([], some tooLong)
  | float q => ((repr q).toList, none)
  | nonfinite text => (text.toList, none)
  | str s => (Json.quote s, none)
  | list [] => (['[', ']'], none)
  | list (v :: vs) => writeItems ['['] (v :: vs)
  | tuple [] => (['[', ']'], none)
  | tuple (v :: vs) => writeItems ['['] (v :: vs)
  | mapping members => andThen (['{'], none) (emitMembers [] (writeMembers members))
  | other _ => ([], some notSerializable)

/-- The items of a list. The bracket or comma before an item is one piece with the text of a number,
so a number that fails does not write it either. -/
def writeItems (before : List Char) : List Value → List Char × Option Exn
  | [] => ([']'], none)
  | v :: vs =>
      andThen (if long v then ([], some tooLong) else andThen (before, none) (write v))
        (writeItems [','] vs)

/-- The members of an object sorted by key, each with what becomes of its value. -/
def writeMembers : List (String × Value) → List (String × (List Char × Option Exn))
  | [] => []
  | (key, v) :: ms => Json.insertKey (key, write v) (writeMembers ms)

end

end Write

mutual

/-- JSON can encode the value. -/
def encodable : Value → Bool
  | int n => decide (Json.Short n)
  | list items => encodableItems items
  | tuple items => encodableItems items
  | mapping members => encodableMembers members
  | other _ => false
  | _ => true

/-- JSON can encode every item. -/
def encodableItems : List Value → Bool
  | [] => true
  | v :: vs => encodable v && encodableItems vs

/-- JSON can encode every member. -/
def encodableMembers : List (String × Value) → Bool
  | [] => true
  | (_, v) :: ms => encodable v && encodableMembers ms

end

end Value

/-! ## The ledger -/

/-- `EventLedgerError`. -/
def ledgerError (message : String) : Exn := .of (.other "EventLedgerError") message

/-- What a ledger is made with. -/
structure LedgerEnv where
  formats : FormatChecker
  ft : FloatText
  /-- `str(path)`. -/
  path : String
  /-- `datetime.fromisoformat`. -/
  fromisoformat : String → Option DateTime
  /-- In microseconds; a negative skew is refused. -/
  max_future_skew : Nat
  /-- The texts that messages quote: `str(max_future_skew)` and `repr` of a string. -/
  skewText : String
  reprText : String → String

/-- What a ledger remembers. -/
structure LedgerMemory where
  event_ids : List String
  last_sequence : String × String → Option Int
  event_count : Nat

/-- The memory of a new ledger. -/
def LedgerMemory.start : LedgerMemory := ⟨[], fun _ => none, 0⟩

/-- A ledger with its file. -/
structure EventLedger where
  memory : LedgerMemory
  file : Option (List Char)

/-- `str(event[key])` of a valid event. -/
def eventText (event : Json) (key : String) : String := (event.str? key).getD ""

/-- `correlation_key`. -/
def correlationKey (event : Json) : String × String :=
  (eventText event "exercise_id", eventText event "run_id")

/-- `int(event["sequence"])`. -/
def sequenceOf (event : Json) : Int :=
  match event.get? "sequence" with
  | some (.int n) => n
  | some (.float q) => Int.tdiv q.num q.den
  | _ => 0

/-- `_remember`. -/
def LedgerMemory.remember (m : LedgerMemory) (event : Json) : LedgerMemory where
  event_ids := m.event_ids ++ [eventText event "event_id"]
  last_sequence key :=
    if key = correlationKey event then some (sequenceOf event) else m.last_sequence key
  event_count := m.event_count + 1

namespace LedgerEnv

variable (env : LedgerEnv)

/-- `_parse_timestamp`. -/
def parseTimestamp (value : String) : Except Exn Int :=
  match env.fromisoformat (value.replace "Z" "+00:00") with
  | none => .error (ledgerError ("invalid event timestamp: " ++ env.reprText value))
  | some parsed =>
      if parsed.aware then .ok parsed.micros
      else .error (.of .EventContractError "timestamps must be timezone-aware")

/-- The part of `_check` that a clock is asked for. -/
def checkClock (event : Json) (now : DateTime) : Except Exn Unit := do
  let event_time ← env.parseTimestamp (eventText event "timestamp")
  require (now.aware = true) (Exn.of .EventContractError "timestamps must be timezone-aware")
  require (event_time - now.micros ≤ env.max_future_skew)
    (ledgerError ("event timestamp is more than " ++ env.skewText ++ " in the future"))

/-- The part of `_check` about the order of sequence numbers. -/
def checkOrder (m : LedgerMemory) (event : Json) : Except Exn Unit :=
  let key := correlationKey event
  let sequence := sequenceOf event
  match m.last_sequence key with
  | none => .ok ()
  | some previous => require (previous < sequence)
      (ledgerError s!"out-of-order sequence for {key.1}/{key.2}: received {sequence} after {previous}")

/-- `_check`; a clock is given where `enforce_clock` holds. -/
def check (m : LedgerMemory) (event : Json) (clock : Option DateTime) : Except Exn Unit := do
  EventValidator.validate env.formats event
  let event_id := eventText event "event_id"
  require (event_id ∉ m.event_ids) (ledgerError s!"duplicate event_id: {event_id}")
  checkOrder m event
  match clock with
  | none => .ok ()
  | some now => env.checkClock event now

/-- `append`. -/
def append (event : List (String × Value)) (now : DateTime) : Py EventLedger Value := fun l =>
  match Value.redact (.mapping event) with
  | .error e => (.error e, l)
  | .ok sanitized =>
      match env.check l.memory sanitized.view (some now) with
      | .error e => (.error e, l)
      | .ok _ =>
          match sanitized.write env.ft.repr with
          | (text, some e) => (.error e, { l with file := some (l.file.getD [] ++ text) })
          | (text, none) =>
              (.ok sanitized,
                { memory := l.memory.remember sanitized.view
                  file := some (l.file.getD [] ++ (text ++ ['\n'])) })

/-- The event of a line. The library's text of a decoding error is left out. -/
def readEvent (line_number : Nat) (line : List Char) : Except Exn Json :=
  match Json.loads env.ft Json.dict line with
  | none => .error (ledgerError s!"invalid JSON at {env.path}:{line_number}")
  | some (.obj members) => .ok (.obj members)
  | some _ => .error (ledgerError s!"event at {env.path}:{line_number} must be a JSON object")

/-- The events of the lines that are not blank. -/
def eventsFrom (line_number : Nat) : List (List Char) → List (Except Exn Json)
  | [] => []
  | line :: rest =>
      if strip (String.ofList line) = "" then eventsFrom (line_number + 1) rest
      else env.readEvent line_number line :: eventsFrom (line_number + 1) rest

/-- `iter_jsonl`: what the iterator gives one after another. A consumer stops at an error. -/
def iterJsonl (content : List Char) : List (Except Exn Json) :=
  env.eventsFrom 1 (lines (universal content))

/-- The body of the loop of `_load_existing`. -/
def loadEvent (line_number : Nat) (m : LedgerMemory) (event : Json) : Except Exn LedgerMemory :=
  match env.check m event none with
  | .ok _ => .ok (m.remember event)
  | .error e =>
      .error (ledgerError s!"invalid existing event at {env.path}:{line_number}: {e.message}")

/-- `_load_existing`. -/
def loadFrom (line_number : Nat) : List (Except Exn Json) → LedgerMemory → Except Exn LedgerMemory
  | [], m => .ok m
  | event :: rest, m => do
      let event ← event
      let m ← env.loadEvent line_number m event
      loadFrom (line_number + 1) rest m

/-- A new ledger on a file. -/
def openLedger (file : Option (List Char)) : Except Exn EventLedger :=
  match file with
  | none => .ok ⟨.start, none⟩
  | some content => do
      let memory ← env.loadFrom 1 (env.iterJsonl content) .start
      return ⟨memory, some content⟩

end LedgerEnv

/-! ## What is written -/

namespace Value

theorem andThen_complete_iff (first rest : List Char × Option Exn) :
    (andThen first rest).2 = none ↔ first.2 = none ∧ rest.2 = none := by
  obtain ⟨text, failure⟩ := first
  cases failure <;> simp [andThen]

/-- What comes first is written whatever follows. -/
theorem andThen_fst (first rest : List Char × Option Exn) :
    ∃ more, (andThen first rest).1 = first.1 ++ more := by
  obtain ⟨text, failure⟩ := first
  cases failure with
  | none => exact ⟨rest.1, rfl⟩
  | some e => exact ⟨[], (List.append_nil _).symm⟩

theorem emitMembers_complete_iff (separator : List Char)
    (ms : List (String × (List Char × Option Exn))) :
    (emitMembers separator ms).2 = none ↔ ∀ m ∈ ms, m.2.2 = none := by
  induction ms generalizing separator with
  | nil => simp [emitMembers]
  | cons m ms ih =>
      obtain ⟨key, text, failure⟩ := m
      rw [emitMembers, andThen_complete_iff, ih, List.forall_mem_cons]

variable (repr : Rat → String)

mutual

/-- A value is written whole when JSON can encode it. -/
theorem write_complete_iff : ∀ v : Value, (write repr v).2 = none ↔ encodable v = true
  | null | bool true | bool false | float _ | nonfinite _ | str _ => by simp [write, encodable]
  | other _ => by simp [write, encodable]
  | int n => by
      by_cases hn : Json.Short n <;> simp [write, encodable, hn]
  | list [] | tuple [] => by simp [write, encodable, encodableItems]
  | list (v :: vs) => writeItems_complete_iff ['['] (v :: vs)
  | tuple (v :: vs) => writeItems_complete_iff ['['] (v :: vs)
  | mapping members => by
      rw [write, andThen_complete_iff, emitMembers_complete_iff, encodable]
      simpa using writeMembers_complete_iff members

theorem writeItems_complete_iff (before : List Char) : ∀ vs : List Value,
    (writeItems repr before vs).2 = none ↔ encodableItems vs = true
  | [] => by simp [writeItems, encodableItems]
  | v :: vs => by
      have hv := write_complete_iff v
      rw [writeItems, andThen_complete_iff, writeItems_complete_iff [','] vs, encodableItems,
        Bool.and_eq_true]
      refine and_congr_left fun _ => ?_
      split
      · next hlong =>
          cases v with
          | int n => simpa [encodable, long] using hlong
          | _ => simp [long] at hlong
      · rw [andThen_complete_iff, hv]
        simp

theorem writeMembers_complete_iff : ∀ ms : List (String × Value),
    (∀ m ∈ writeMembers repr ms, m.2.2 = none) ↔ encodableMembers ms = true
  | [] => by simp [writeMembers, encodableMembers]
  | (key, v) :: ms => by
      rw [writeMembers, encodableMembers, Bool.and_eq_true, ← write_complete_iff v,
        ← writeMembers_complete_iff ms]
      have hperm := Json.insertKey_perm (key, write repr v) (writeMembers repr ms)
      have hcons : (∀ m ∈ (key, write repr v) :: writeMembers repr ms, m.2.2 = none) ↔
          (write repr v).2 = none ∧ ∀ m ∈ writeMembers repr ms, m.2.2 = none :=
        List.forall_mem_cons
      rw [← hcons]
      exact forall_congr' fun m => by rw [hperm.mem_iff]

end

/-- Something is written of every mapping. -/
theorem write_mapping_ne_nil (members : List (String × Value)) :
    (write repr (mapping members)).1 ≠ [] := by
  obtain ⟨more, hmore⟩ := andThen_fst (['{'], none) (emitMembers [] (writeMembers repr members))
  rw [write, hmore]
  exact List.cons_ne_nil _ _

/-- The redaction of a mapping is a mapping. -/
theorem redact_mapping {members : List (String × Value)} {v : Value}
    (h : redact (mapping members) = .ok v) : ∃ output, v = mapping output := by
  obtain ⟨output, -, h⟩ := bind_eq_ok h
  exact ⟨_, (Except.ok.inj h).symm⟩

end Value

/-! ## A failed append -/

namespace LedgerEnv

variable (env : LedgerEnv)

/-- Where `append` raises, it changes nothing. -/
def Intact (event : List (String × Value)) (now : DateTime) (l : EventLedger) : Prop :=
  ∀ e, (env.append event now l).1 = .error e → (env.append event now l).2 = l

/-- The redacted event passes `_check`, and holds a value that JSON cannot encode. -/
def Unencodable (event : List (String × Value)) (now : DateTime) (l : EventLedger) : Prop :=
  ∃ sanitized, Value.redact (.mapping event) = .ok sanitized ∧
    env.check l.memory sanitized.view (some now) = .ok () ∧ sanitized.encodable = false

variable {env} {event : List (String × Value)} {now : DateTime} {l : EventLedger}
variable {sanitized : Value} {text : List Char} {e : Exn}

theorem append_of_redact_error (h : Value.redact (.mapping event) = .error e) :
    env.append event now l = (.error e, l) := by
  rw [append, h]

theorem append_of_check_error (hredact : Value.redact (.mapping event) = .ok sanitized)
    (h : env.check l.memory sanitized.view (some now) = .error e) :
    env.append event now l = (.error e, l) := by
  simp only [append, hredact, h]

theorem append_of_write_error (hredact : Value.redact (.mapping event) = .ok sanitized)
    (hcheck : env.check l.memory sanitized.view (some now) = .ok ())
    (h : sanitized.write env.ft.repr = (text, some e)) :
    env.append event now l = (.error e, { l with file := some (l.file.getD [] ++ text) }) := by
  simp only [append, hredact, hcheck, h]

theorem append_of_write (hredact : Value.redact (.mapping event) = .ok sanitized)
    (hcheck : env.check l.memory sanitized.view (some now) = .ok ())
    (h : sanitized.write env.ft.repr = (text, none)) :
    env.append event now l =
      (.ok sanitized, { memory := l.memory.remember sanitized.view
                        file := some (l.file.getD [] ++ (text ++ ['\n'])) }) := by
  simp only [append, hredact, hcheck, h]

/-- **A failed append leaves the ledger intact** unless the event is accepted by the checks and cannot
be encoded, and then it never does. -/
theorem append_intact_iff (env : LedgerEnv) (event : List (String × Value)) (now : DateTime)
    (l : EventLedger) : env.Intact event now l ↔ ¬ env.Unencodable event now l := by
  constructor
  · rintro hintact ⟨sanitized, hredact, hcheck, hencodable⟩
    obtain ⟨output, rfl⟩ := Value.redact_mapping hredact
    have hwritten := Value.write_mapping_ne_nil env.ft.repr output
    cases hwrite : (Value.mapping output).write env.ft.repr with
    | mk text failure =>
        cases failure with
        | none =>
            have hcomplete := (Value.write_complete_iff env.ft.repr _).mp (congrArg Prod.snd hwrite)
            rw [hencodable] at hcomplete
            cases hcomplete
        | some e =>
            -- The file has grown by what was written before the failure.
            have happend := append_of_write_error hredact hcheck hwrite
            have hsame := hintact e (by rw [happend])
            rw [happend] at hsame
            have hfile := congrArg EventLedger.file hsame
            rw [hwrite] at hwritten
            cases hold : l.file with
            | none => simp [hold] at hfile
            | some content => exact hwritten (by simpa [hold] using hfile)
  · intro hnot e he
    cases hredact : Value.redact (.mapping event) with
    | error e' => rw [append_of_redact_error hredact]
    | ok sanitized =>
        cases hcheck : env.check l.memory sanitized.view (some now) with
        | error e' => rw [append_of_check_error hredact hcheck]
        | ok u =>
            cases hwrite : sanitized.write env.ft.repr with
            | mk text failure =>
                cases failure with
                | none =>
                    rw [append_of_write hredact hcheck hwrite] at he
                    cases he
                | some e' =>
                    have hencodable : sanitized.encodable = false := by
                      rw [← Bool.not_eq_true, ← Value.write_complete_iff env.ft.repr, hwrite]
                      exact Option.some_ne_none e'
                    exact absurd ⟨sanitized, hredact, hcheck, hencodable⟩ hnot

/-- A ledger whose events are never from the future. -/
def sample : LedgerEnv where
  formats := .lenient
  ft := .half
  path := "events.jsonl"
  fromisoformat _ := some ⟨true, 0⟩
  max_future_skew := 300000000
  skewText := "0:05:00"
  reprText s := s

/-- A valid event with the given data. -/
def sampleEvent (data : List (String × Value)) : List (String × Value) :=
  [("schema_version", .str "1.0.0"), ("event_id", .str "1"), ("timestamp", .str "2026Z"),
    ("exercise_id", .str "EX"), ("run_id", .str "RUN"), ("sequence", .int 1),
    ("event_type", .str "sign.in"), ("phase", .str "identity"),
    ("source", .mapping [("kind", .str "test"), ("component", .str "c")]),
    ("actor", .mapping [("type", .str "user"), ("id", .str "a")]), ("action", .str "sign.in"),
    ("target", .null), ("outcome", .mapping [("status", .str "success")]),
    ("severity", .str "low"), ("visibility", .str "internal"),
    ("safety", .mapping [("simulation_only", .bool true), ("dry_run", .bool true),
      ("within_allowlist", .bool true), ("destructive", .bool false)]),
    ("provenance", .mapping [("producer", .str "p"), ("producer_version", .str "1.0.0")]),
    ("message", .str "m"), ("data", .mapping data)]

/-- A date inside the data of a valid event: `append` raises, a part of a line is left in the file,
and the file cannot be loaded any more. -/
theorem unencodable_tears_file :
    ¬ sample.Intact (sampleEvent [("seen", .list [.int 1, .other true])]) ⟨true, 0⟩
        ⟨.start, some []⟩ ∧
      (sample.openLedger (sample.append (sampleEvent [("seen", .list [.int 1, .other true])])
        ⟨true, 0⟩ ⟨.start, some []⟩).2.file).isOk = false := by
  have hraises : (sample.append (sampleEvent [("seen", .list [.int 1, .other true])])
      ⟨true, 0⟩ ⟨.start, some []⟩).1.isOk = false := by decide +kernel
  have hfile : (sample.append (sampleEvent [("seen", .list [.int 1, .other true])])
      ⟨true, 0⟩ ⟨.start, some []⟩).2.file ≠ some [] := by decide +kernel
  refine ⟨fun hintact => ?_, by decide +kernel⟩
  cases hresult : (sample.append (sampleEvent [("seen", .list [.int 1, .other true])])
      ⟨true, 0⟩ ⟨.start, some []⟩).1 with
  | ok v =>
      rw [hresult] at hraises
      cases hraises
  | error e => exact hfile (congrArg EventLedger.file (hintact e hresult))

end LedgerEnv

end NetStrike.Shared
