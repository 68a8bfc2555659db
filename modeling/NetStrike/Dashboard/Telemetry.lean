import NetStrike.Foundation.Checked
import NetStrike.Foundation.JsonLines
import NetStrike.Foundation.Reconcile
import NetStrike.Shared.EventSchema

/-!
# The telemetry check

`telemetry_check.py`: two files of events, one to a line, are compared. `compare` reads both files,
accepts them line by line and tallies the differences. `comparison_decides` says what the tallies of
an accepted pair mean: the files match when the one holds a permutation of the canonical events of
the other.

`os.open` and `os.fstat` are seen through `InputFile`; the digests of the files are computed by a
parameter.
-/

set_option autoImplicit false

namespace NetStrike.Dashboard.Telemetry

open NetStrike.Foundation NetStrike.Foundation.Checked NetStrike.Shared

/-! ## Files -/

/-- What stops a comparison. `main` reports each of them as invalid input. -/
inductive Fault where
  /-- `TelemetryCheckError`. -/
  | check (message : String)
  /-- `OSError`. -/
  | os
  /-- `UnicodeDecodeError`. -/
  | unicode
  /-- `json.loads` raises: malformed text, a duplicate field or a number that is not finite. -/
  | json
  /-- `EventContractError`. -/
  | contract (e : Exn)
deriving DecidableEq

/-- `MAX_FILE_BYTES`. -/
def maxFileBytes : Nat := 32 * 1024 * 1024

/-- `MAX_EVENT_BYTES`. -/
def maxEventBytes : Nat := 256 * 1024

/-- `MAX_EVENTS`. -/
def maxEvents : Nat := 10000

/-- What `_read` learns of a path: whether it opens without following a link, what `fstat` says, the
bytes, and whether the signature is the same before and after. -/
structure InputFile where
  opens : Bool
  regular : Bool
  links : Nat
  size : Nat
  content : List UInt8
  unchanged : Bool

/-- `_read`. -/
def read (file : InputFile) : Except Fault (List UInt8) := do
  require (file.opens = true) .os
  require (file.regular = true ∧ file.links = 1 ∧ file.size ≤ maxFileBytes)
    (.check "unsafe or oversized input file")
  let content := file.content.take (maxFileBytes + 1)
  require (content.length ≤ maxFileBytes) (.check "oversized input file")
  require (file.unchanged = true) (.check "input changed while reading")
  return content

/-- `stream.readline(limit)` and what it leaves. -/
def readline : Nat → List UInt8 → List UInt8 × List UInt8
  | 0, content => ([], content)
  | _ + 1, [] => ([], [])
  | limit + 1, b :: content =>
      if b = 10 then ([b], content)
      else (b :: (readline limit content).1, (readline limit content).2)

/-- The lines that `while chunk := stream.readline(MAX_EVENT_BYTES + 3)` reads. -/
def chunks : Nat → List UInt8 → List (List UInt8)
  | 0, _ => []
  | fuel + 1, content =>
      match readline (maxEventBytes + 3) content with
      | ([], _) => []
      | (chunk, rest) => chunk :: chunks fuel rest

/-- `bytes.removesuffix` of one byte. -/
def removesuffix (b : UInt8) (line : List UInt8) : List UInt8 :=
  if line.getLast? = some b then line.dropLast else line

/-- `bytes.decode("utf-8")`. -/
def decode (line : List UInt8) : Except Fault (List Char) :=
  match ByteArray.utf8Decode? ⟨line.toArray⟩ with
  | some cs => .ok cs.toList
  | none => .error .unicode

/-- `_pairs`: a repeated field is refused. -/
def pairs : Json.Hook := fun ps =>
  ps.foldlM (fun result m =>
    if m.1 ∈ result.map Prod.fst then none else some (result ++ [m])) []

/-! ## Events -/

section Lines

variable (formats : FormatChecker) (ft : FloatText)

/-- `_canonical`. -/
def canonical (event : Json) : List Char := event.dumpChars ft.repr

/-- `json.loads` of a line. -/
def loads (line : List Char) : Except Fault Json :=
  match Json.loads ft pairs line with
  | some event => .ok event
  | none => .error .json

/-- `validator.validate`. -/
def validate (event : Json) : Except Fault Unit :=
  match EventValidator.validate formats event with
  | .ok _ => .ok ()
  | .error e => .error (.contract e)

/-- The value is an object. -/
def isObject : Json → Bool
  | .obj _ => true
  | _ => false

variable (exercise_id run_id : String)

/-- The event of one line of `_events`, with its canonical text. -/
def eventOf (chunk : List UInt8) : Except Fault (Json × List Char) := do
  let line := removesuffix 13 (removesuffix 10 chunk)
  require (line ≠ [] ∧ line.length ≤ maxEventBytes) (.check "empty or oversized event line")
  let text ← decode line
  let event ← loads ft text
  require (isObject event = true) (.check "expected a canonical event object")
  validate formats event
  require (event.get? "exercise_id" = some (.str exercise_id) ∧
      event.get? "run_id" = some (.str run_id)) (.check "event outside selected exercise/run")
  let encoded := canonical ft event
  require (encoded = canonical ft (redactSensitive event)) (.check "unredacted event input")
  return (event, encoded)

/-- `for event, encoded in _events(...)`: the body runs between the lines. -/
def forEvents {σ : Type} (body : σ → Json × List Char → Except Fault σ) :
    Nat → List (List UInt8) → σ → Except Fault σ
  | _, [], s => .ok s
  | count, chunk :: rest, s => do
      require (count + 1 ≤ maxEvents) (.check "too many events")
      let event ← eventOf formats ft exercise_id run_id chunk
      let s ← body s event
      forEvents body (count + 1) rest s

end Lines

/-- `event["event_id"]` of a valid event. -/
def eventId (event : Json) : String := (event.str? "event_id").getD ""

/-- `event["source"]["component"]` of a valid event. -/
def component (event : Json) : String :=
  match event.get? "source" with
  | some source => (source.str? "component").getD ""
  | none => ""

/-- `event["sequence"]` equals a number. -/
def sequenceIs (n : Nat) (event : Json) : Bool :=
  match event.get? "sequence" with
  | some (.int i) => decide (i = n)
  | some (.float q) => decide (q = n)
  | _ => false

/-- `baseline` and `source_by_id`. -/
structure Baseline where
  baseline : List (String × List Char)
  source_by_id : List (String × String)

/-- The body of the first loop of `compare`. -/
def expect (b : Baseline) (event : Json × List Char) : Except Fault Baseline := do
  require (eventId event.1 ∉ b.baseline.map Prod.fst ∧
      sequenceIs (b.baseline.length + 1) event.1 = true)
    (.check "baseline must have unique contiguous events from one")
  return { baseline := b.baseline ++ [(eventId event.1, event.2)]
           source_by_id := b.source_by_id ++ [(eventId event.1, component event.1)] }

/-- The body of the second loop of `compare`. -/
def observe (baseline : List (String × List Char)) (s : Reconcile.Scan String)
    (event : Json × List Char) : Except Fault (Reconcile.Scan String) :=
  .ok (s.step baseline (eventId event.1, event.2))

/-- The result of `compare`. -/
structure Report where
  version : String
  scope : String
  status : String
  supplied_files_match : Bool
  expected_events : Nat
  observed_events : Nat
  missing_events : Nat
  changed_events : Nat
  duplicate_events : Nat
  unexpected_events : Nat
  expected_sources : Nat
  sources_with_missing_events : Nat
  expected_sha256 : String
  observed_sha256 : String
  writes_performed : Bool
  live_splunk_verified : Bool
  external_readiness_verified : Bool
deriving DecidableEq

section Compare

variable (formats : FormatChecker) (ft : FloatText) (sha256 : List UInt8 → String)

/-- What `compare` returns after its loops. -/
def report (expected observed : List UInt8) (b : Baseline) (s : Reconcile.Scan String) : Report :=
  let missing := (b.baseline.map Prod.fst).filter fun k => k ∉ s.seen
  let matches_ := missing.isEmpty && s.changed.isEmpty && s.duplicates == 0 && s.unexpected == 0
  { version := "1.0.0"
    scope := "supplied_staff_raw_export_comparison"
    status := if matches_ then "match" else "mismatch"
    supplied_files_match := matches_
    expected_events := b.baseline.length
    observed_events := s.count
    missing_events := missing.length
    changed_events := s.changed.length
    duplicate_events := s.duplicates
    unexpected_events := s.unexpected
    expected_sources := (b.source_by_id.map Prod.snd).dedup.length
    sources_with_missing_events :=
      (missing.filterMap fun k => b.source_by_id.lookup k).dedup.length
    expected_sha256 := sha256 expected
    observed_sha256 := sha256 observed
    writes_performed := false
    live_splunk_verified := false
    external_readiness_verified := false }

/-- An identifier that selects an exercise or a run. -/
def selects (value : String) : Bool := value ≠ "" && decide (value.length ≤ 128)

/-- `compare`. -/
def compare (expected observed : InputFile) (samefile : Bool) (exercise_id run_id : String) :
    Except Fault Report := do
  require (selects exercise_id = true ∧ selects run_id = true)
    (.check "explicit exercise/run identifiers required")
  let expected_bytes ← read expected
  let observed_bytes ← read observed
  require (samefile = false) (.check "baseline and receiver export must be separate files")
  let b ← forEvents formats ft exercise_id run_id expect 0
    (chunks expected_bytes.length expected_bytes) ⟨[], []⟩
  require (b.baseline ≠ []) (.check "empty baseline cannot verify evidence")
  let s ← forEvents formats ft exercise_id run_id (observe b.baseline) 0
    (chunks observed_bytes.length observed_bytes) .start
  return report sha256 expected_bytes observed_bytes b s

end Compare

/-! ## What is accepted -/

section Accepted

variable {formats : FormatChecker} {ft : FloatText} {exercise_id run_id : String}

/-- Without a repeated field the pairs are kept, otherwise they are refused. -/
theorem pairs_eq (ps : List (String × Json)) :
    pairs ps = if (ps.map Prod.fst).Nodup then some ps else none := by
  have hgo : ∀ (ps result : List (String × Json)), (result.map Prod.fst).Nodup →
      ps.foldlM (fun result m =>
        if m.1 ∈ result.map Prod.fst then none else some (result ++ [m])) result =
      if ((result ++ ps).map Prod.fst).Nodup then some (result ++ ps) else none := by
    intro ps
    induction ps with
    | nil =>
        intro result hresult
        simp [hresult]
    | cons m ps ih =>
        intro result hresult
        rw [List.foldlM_cons]
        by_cases hm : m.1 ∈ result.map Prod.fst
        · rw [if_pos hm, if_neg]
          · rfl
          · intro hnodup
            rw [List.map_append, List.nodup_append] at hnodup
            exact hnodup.2.2 _ hm _ (List.mem_map_of_mem List.mem_cons_self) rfl
        · have hnodup : ((result ++ [m]).map Prod.fst).Nodup := by
            rw [List.map_append, List.map_singleton, List.nodup_append]
            refine ⟨hresult, List.nodup_singleton _, fun a ha b hb => ?_⟩
            rw [List.mem_singleton.mp hb]
            rintro rfl
            exact hm ha
          rw [if_neg hm]
          change List.foldlM _ (result ++ [m]) ps = _
          rw [ih (result ++ [m]) hnodup, List.append_assoc, List.singleton_append]
  exact hgo ps [] List.nodup_nil

theorem pairs_distinct : pairs.Distinct := by
  intro ps members h
  rw [pairs_eq] at h
  split at h
  · next hnodup =>
      obtain rfl := Option.some.inj h
      exact ⟨hnodup, fun m hm => List.mem_map_of_mem hm⟩
  · cases h

/-- The event id that a canonical text holds. -/
def idOf (ft : FloatText) (encoded : List Char) : String :=
  eventId ((Json.loads ft Json.dict encoded).getD .null)

/-- A line holds an event with a canonical text, and the text determines the event id. -/
theorem eventOf_eq_ok {chunk : List UInt8} {event : Json × List Char}
    (h : eventOf formats ft exercise_id run_id chunk = .ok event) :
    eventId event.1 = idOf ft event.2 := by
  obtain ⟨_, -, h⟩ := bind_eq_ok h
  obtain ⟨text, -, h⟩ := bind_eq_ok h
  obtain ⟨value, hvalue, h⟩ := bind_eq_ok h
  obtain ⟨_, -, h⟩ := bind_eq_ok h
  obtain ⟨_, -, h⟩ := bind_eq_ok h
  obtain ⟨_, -, h⟩ := bind_eq_ok h
  obtain ⟨_, -, h⟩ := bind_eq_ok h
  obtain rfl := Except.ok.inj h
  have hproper : value.Proper ft.isFloat := by
    unfold loads at hvalue
    split at hvalue
    · next hread =>
        obtain rfl := Except.ok.inj hvalue
        exact Json.proper_loads pairs_distinct hread
    · cases hvalue
  have hread := Json.loads_dumpChars Json.dict_faithful hproper (Or.inl rfl)
  rw [List.append_nil] at hread
  simp only [idOf, canonical, hread, Option.getD_some, eventId, Json.str?_sortKeys hproper]

/-- A loop that went through has seen the event of every line, in order. -/
theorem forEvents_eq_ok {σ : Type} {body : σ → Json × List Char → Except Fault σ} {count : Nat}
    {lines : List (List UInt8)} {s t : σ}
    (h : forEvents formats ft exercise_id run_id body count lines s = .ok t) :
    ∃ events, lines.mapM (eventOf formats ft exercise_id run_id) = .ok events ∧
      events.foldlM body s = .ok t := by
  induction lines generalizing count s with
  | nil => exact ⟨[], rfl, h⟩
  | cons chunk rest ih =>
      obtain ⟨_, -, h⟩ := bind_eq_ok h
      obtain ⟨event, hevent, h⟩ := bind_eq_ok h
      obtain ⟨s', hbody, h⟩ := bind_eq_ok h
      obtain ⟨events, hevents, hfold⟩ := ih h
      refine ⟨event :: events, ?_, ?_⟩
      · rw [List.mapM_cons, bind_of_eq_ok hevent, bind_of_eq_ok hevents]
        rfl
      · rw [List.foldlM_cons, bind_of_eq_ok hbody, hfold]

/-- The events of a list of lines come from the lines. -/
theorem mem_of_mapM {lines : List (List UInt8)} {events : List (Json × List Char)}
    (h : lines.mapM (eventOf formats ft exercise_id run_id) = .ok events) :
    ∀ event ∈ events, ∃ chunk, eventOf formats ft exercise_id run_id chunk = .ok event := by
  induction lines generalizing events with
  | nil =>
      obtain rfl := Except.ok.inj h
      exact fun event hevent => nomatch hevent
  | cons chunk rest ih =>
      rw [List.mapM_cons] at h
      obtain ⟨event, hevent, h⟩ := bind_eq_ok h
      obtain ⟨later, hlater, h⟩ := bind_eq_ok h
      obtain rfl := Except.ok.inj h
      exact List.forall_mem_cons.mpr ⟨⟨chunk, hevent⟩, ih hlater⟩

/-- An event as an entry of the comparison: its id and its canonical text. -/
def entry (event : Json × List Char) : String × List Char := (eventId event.1, event.2)

/-- The first loop collects the entries of the baseline, under distinct ids. -/
theorem foldlM_expect {events : List (Json × List Char)} {b b' : Baseline}
    (hnodup : (b.baseline.map Prod.fst).Nodup) (h : events.foldlM expect b = .ok b') :
    b'.baseline = b.baseline ++ events.map entry ∧ (b'.baseline.map Prod.fst).Nodup := by
  induction events generalizing b with
  | nil =>
      obtain rfl := Except.ok.inj h
      exact ⟨(List.append_nil _).symm, hnodup⟩
  | cons event events ih =>
      rw [List.foldlM_cons] at h
      obtain ⟨b₁, hb₁, h⟩ := bind_eq_ok h
      obtain ⟨_, hnew, hb₁⟩ := bind_eq_ok hb₁
      obtain rfl := Except.ok.inj hb₁
      have hfresh := (require_eq_ok hnew).1
      have hnodup₁ : ((b.baseline ++ [(eventId event.1, event.2)]).map Prod.fst).Nodup := by
        rw [List.map_append, List.map_singleton, List.nodup_append]
        refine ⟨hnodup, List.nodup_singleton _, fun k hk l hl => ?_⟩
        rw [List.mem_singleton.mp hl]
        rintro rfl
        exact hfresh hk
      obtain ⟨heq, hnodup'⟩ := ih hnodup₁ h
      refine ⟨?_, hnodup'⟩
      rw [heq, List.map_cons, List.append_assoc, List.singleton_append, entry]

/-- The second loop is one pass of the comparison. -/
theorem foldlM_observe (baseline : List (String × List Char)) (events : List (Json × List Char))
    (s : Reconcile.Scan String) :
    events.foldlM (observe baseline) s =
      .ok ((events.map entry).foldl (Reconcile.Scan.step baseline) s) := by
  induction events generalizing s with
  | nil => rfl
  | cons event events ih =>
      rw [List.foldlM_cons, List.map_cons, List.foldl_cons]
      exact ih _

/-- Entries with the same canonical texts in some order are the same entries in some order. -/
theorem perm_of_canonical {xs ys : List (String × List Char)}
    (hx : ∀ e ∈ xs, e.1 = idOf ft e.2) (hy : ∀ e ∈ ys, e.1 = idOf ft e.2) :
    (xs.map Prod.snd).Perm (ys.map Prod.snd) ↔ xs.Perm ys := by
  have hback : ∀ zs : List (String × List Char), (∀ e ∈ zs, e.1 = idOf ft e.2) →
      (zs.map Prod.snd).map (fun encoded => (idOf ft encoded, encoded)) = zs := by
    intro zs hz
    rw [List.map_map]
    refine (List.map_congr_left fun e he => ?_).trans (List.map_id zs)
    exact Prod.ext (hz e he).symm rfl
  constructor
  · intro h
    have hmap := h.map fun encoded => (idOf ft encoded, encoded)
    rwa [hback xs hx, hback ys hy] at hmap
  · exact fun h => h.map Prod.snd

end Accepted

/-! ## The verdict -/

section Verdict

variable (formats : FormatChecker) (ft : FloatText) (sha256 : List UInt8 → String)

/-- The canonical events of a file, each with its event id, in the order of the lines. -/
def canonicalEvents (file : InputFile) (exercise_id run_id : String) :
    Except Fault (List (String × List Char)) := do
  let content ← read file
  let events ← (chunks content.length content).mapM (eventOf formats ft exercise_id run_id)
  return events.map entry

/-- What a report says about a baseline and the events observed. -/
structure Decides (baseline observed : List (String × List Char)) (report : Report) : Prop where
  supplied_files_match : report.supplied_files_match = true ↔
    (observed.map Prod.snd).Perm (baseline.map Prod.snd)
  missing_events : report.missing_events = (Reconcile.missing baseline observed).length
  unexpected_events : report.unexpected_events = (Reconcile.unexpected baseline observed).length
  duplicate_events : report.duplicate_events =
    (Reconcile.repeats (observed.map Prod.fst)).length
  changed_events : report.changed_events = (Reconcile.changed baseline observed).length
  expected_events : report.expected_events = baseline.length
  observed_events : report.observed_events = observed.length
  match_length : report.supplied_files_match = true →
    report.observed_events = report.expected_events

/-- The report on two accepted lists of events. -/
theorem decides_report {expected observed : List UInt8} {b : Baseline}
    {events : List (String × List Char)} (hnodup : (b.baseline.map Prod.fst).Nodup)
    (hbaseline : ∀ e ∈ b.baseline, e.1 = idOf ft e.2) (hevents : ∀ e ∈ events, e.1 = idOf ft e.2) :
    Decides b.baseline events
      (report sha256 expected observed b (Reconcile.scan b.baseline events)) := by
  have htallies := Reconcile.scan_tallies hnodup events
  have hchanged := Reconcile.length_scan_changed hnodup events
  have hmissing : ((b.baseline.map Prod.fst).filter
      fun k => k ∉ (Reconcile.scan b.baseline events).seen) =
        Reconcile.missing b.baseline events := by
    refine List.filter_congr fun k _ => ?_
    simp only [htallies.mem_seen]
  have hmatch : (report sha256 expected observed b
      (Reconcile.scan b.baseline events)).supplied_files_match = true ↔
        (events.map Prod.snd).Perm (b.baseline.map Prod.snd) := by
    rw [perm_of_canonical hevents hbaseline, Reconcile.perm_iff hnodup]
    simp only [report, hmissing, Bool.and_eq_true, List.isEmpty_iff, beq_iff_eq,
      htallies.duplicates, htallies.unexpected, List.length_eq_zero_iff, and_assoc]
    rw [← List.length_eq_zero_iff (l := (Reconcile.scan b.baseline events).changed), hchanged,
      List.length_eq_zero_iff]
  refine ⟨hmatch, ?_, htallies.unexpected, htallies.duplicates, hchanged, rfl, htallies.count, ?_⟩
  · simp only [report, hmissing]
  · intro h
    have hlength := (hmatch.mp h).length_eq
    rw [List.length_map, List.length_map] at hlength
    simp only [report, htallies.count, hlength]

/-- **The comparison decides equality as multisets.** Of two files that `compare` accepts, the report
says that they match when the canonical events of the one are a permutation of those of the other,
and its counts are the numbers of missing, unexpected, repeated and changed events. -/
theorem comparison_decides (expected observed : InputFile) (samefile : Bool)
    (exercise_id run_id : String) {result : Report}
    (h : compare formats ft sha256 expected observed samefile exercise_id run_id = .ok result) :
    ∃ baseline received,
      canonicalEvents formats ft expected exercise_id run_id = .ok baseline ∧
        canonicalEvents formats ft observed exercise_id run_id = .ok received ∧
        (baseline.map Prod.fst).Nodup ∧ Decides baseline received result := by
  obtain ⟨_, -, h⟩ := bind_eq_ok h
  obtain ⟨expected_bytes, hexpected, h⟩ := bind_eq_ok h
  obtain ⟨observed_bytes, hobserved, h⟩ := bind_eq_ok h
  obtain ⟨_, -, h⟩ := bind_eq_ok h
  obtain ⟨b, hb, h⟩ := bind_eq_ok h
  obtain ⟨_, -, h⟩ := bind_eq_ok h
  obtain ⟨s, hs, h⟩ := bind_eq_ok h
  obtain rfl := Except.ok.inj h
  obtain ⟨baseline, hbaseline, hexpect⟩ := forEvents_eq_ok hb
  obtain ⟨received, hreceived, hobserve⟩ := forEvents_eq_ok hs
  have hstart : ((⟨[], []⟩ : Baseline).baseline.map Prod.fst).Nodup := List.nodup_nil
  obtain ⟨hentries, hnodup⟩ := foldlM_expect hstart hexpect
  rw [List.nil_append] at hentries
  rw [foldlM_observe] at hobserve
  obtain rfl := Except.ok.inj hobserve
  have hids : ∀ (lines : List (List UInt8)) (events : List (Json × List Char)),
      lines.mapM (eventOf formats ft exercise_id run_id) = .ok events →
        ∀ e ∈ events.map entry, e.1 = idOf ft e.2 := by
    intro lines events hlines e he
    obtain ⟨event, hevent, rfl⟩ := List.mem_map.mp he
    obtain ⟨chunk, hchunk⟩ := mem_of_mapM hlines event hevent
    exact eventOf_eq_ok hchunk
  refine ⟨baseline.map entry, received.map entry, ?_, ?_, ?_, ?_⟩
  · unfold canonicalEvents
    rw [bind_of_eq_ok hexpected, bind_of_eq_ok hbaseline]
    rfl
  · unfold canonicalEvents
    rw [bind_of_eq_ok hobserved, bind_of_eq_ok hreceived]
    rfl
  · rwa [hentries] at hnodup
  · rw [← hentries]
    refine decides_report ft sha256 hnodup ?_ (hids _ _ hreceived)
    rw [hentries]
    exact hids _ _ hbaseline

/-- The bytes of a canonical text. -/
def bytesOf (text : List Char) : List UInt8 := text.map fun c => c.toNat.toUInt8

/-- A line feed ends a line that is not too long. -/
theorem readline_append {limit : Nat} {line : List UInt8} (hline : (10 : UInt8) ∉ line)
    (hlength : line.length < limit) (rest : List UInt8) :
    readline limit (line ++ 10 :: rest) = (line ++ [10], rest) := by
  induction line generalizing limit with
  | nil =>
      cases limit with
      | zero => cases hlength
      | succ limit => rfl
  | cons b line ih =>
      cases limit with
      | zero => cases hlength
      | succ limit =>
          rw [List.mem_cons, not_or] at hline
          rw [List.cons_append, readline, if_neg (Ne.symm hline.1),
            ih hline.2 (Nat.lt_of_succ_lt_succ hlength)]
          rfl

/-- A file of one line. -/
theorem chunks_single {line : List UInt8} (hline : (10 : UInt8) ∉ line)
    (hlength : line.length ≤ maxEventBytes) (fuel : Nat) :
    chunks (fuel + 1) (line ++ [10]) = [line ++ [10]] := by
  have hshort : line.length < maxEventBytes + 3 := by omega
  have hread := readline_append hline hshort []
  unfold chunks
  rw [hread]
  cases line with
  | nil => cases fuel <;> rfl
  | cons b line => cases fuel <;> rfl

theorem removesuffix_append (b : UInt8) (line : List UInt8) :
    removesuffix b (line ++ [b]) = line := by
  rw [removesuffix, if_pos List.getLast?_concat, List.dropLast_concat]

theorem removesuffix_of_not_mem {b : UInt8} {line : List UInt8} (h : b ∉ line) :
    removesuffix b line = line := by
  rw [removesuffix, if_neg fun hlast => h (List.mem_of_getLast? hlast)]

/-- A canonical text holds no control character. -/
theorem not_mem_bytesOf {text : List Char} (h : ∀ c ∈ text, Printable c) {b : UInt8} (hb : b < 32) :
    b ∉ bytesOf text := by
  intro hmem
  obtain ⟨c, hc, rfl⟩ := List.mem_map.mp hmem
  obtain ⟨hlow, hhigh⟩ := h c hc
  rw [UInt8.lt_iff_toNat_lt] at hb
  simp at hb
  omega

/-- **A canonical line is accepted as its event.** -/
theorem eventOf_canonical {formats : FormatChecker} {ft : FloatText} {exercise_id run_id : String}
    {event : Json} (hproper : event.Proper ft.isFloat) (hsorted : event.sortKeys = event)
    (hobject : isObject event = true) (hvalid : validate formats event = .ok ())
    (hscope : event.get? "exercise_id" = some (.str exercise_id) ∧
      event.get? "run_id" = some (.str run_id))
    (hredacted : redactSensitive event = event)
    (hlength : (canonical ft event).length ≤ maxEventBytes) :
    eventOf formats ft exercise_id run_id (bytesOf (canonical ft event) ++ [10]) =
      .ok (event, canonical ft event) := by
  have hprintable := Json.printable_dumpChars hproper
  have hreturn : (13 : UInt8) ∉ bytesOf (canonical ft event) :=
    not_mem_bytesOf hprintable (by decide)
  have hline : removesuffix 13 (removesuffix 10 (bytesOf (canonical ft event) ++ [10])) =
      bytesOf (canonical ft event) := by
    rw [removesuffix_append, removesuffix_of_not_mem hreturn]
  have hne : bytesOf (canonical ft event) ≠ [] := by
    rw [bytesOf, Ne, List.map_eq_nil_iff]
    exact Json.dumpChars_ne_nil hproper
  have hdecode : decode (bytesOf (canonical ft event)) = .ok (canonical ft event) := by
    have hascii : ∀ c ∈ canonical ft event, c.toNat < 128 := fun c hc =>
      Nat.lt_succ_of_lt (hprintable c hc).2
    have hutf8 := utf8Decode?_ascii hascii
    unfold decode bytesOf
    rw [hutf8]
  have hloads : loads ft (canonical ft event) = .ok event := by
    have hfaithful : pairs.Faithful := fun ps hnodup => by rw [pairs_eq, if_pos hnodup]
    have hread := Json.loads_dumpChars hfaithful hproper (Or.inl rfl)
    rw [List.append_nil, hsorted] at hread
    rw [loads, canonical, hread]
  unfold eventOf
  dsimp only
  rw [hline, bind_of_eq_ok (require_of ⟨hne, by rwa [bytesOf, List.length_map]⟩),
    bind_of_eq_ok hdecode, bind_of_eq_ok hloads, bind_of_eq_ok (require_of hobject),
    bind_of_eq_ok hvalid, bind_of_eq_ok (require_of hscope),
    bind_of_eq_ok (require_of (by rw [hredacted]))]
  rfl

/-- An event with sorted keys. -/
def sampleEvent : Json :=
  .obj [("action", .str "sign.in"), ("actor", .obj [("id", .str "a"), ("type", .str "user")]),
    ("data", .obj [("token", .str "[REDACTED]")]), ("event_id", .str "1"),
    ("event_type", .str "sign.in"), ("exercise_id", .str "EX"), ("message", .str "m"),
    ("outcome", .obj [("status", .str "success")]), ("phase", .str "identity"),
    ("provenance", .obj [("producer", .str "p"), ("producer_version", .str "1.0.0")]),
    ("run_id", .str "RUN"),
    ("safety", .obj [("destructive", .bool false), ("dry_run", .bool true),
      ("simulation_only", .bool true), ("within_allowlist", .bool true)]),
    ("schema_version", .str "1.0.0"), ("sequence", .int 1), ("severity", .str "low"),
    ("source", .obj [("component", .str "c"), ("kind", .str "test")]), ("target", .null),
    ("timestamp", .str "2026Z"), ("visibility", .str "internal")]

/-- The file of the sample event. -/
def sampleFile : InputFile where
  opens := true
  regular := true
  links := 1
  size := 0
  content := bytesOf (canonical .half sampleEvent) ++ [10]
  unchanged := true

/-- What the comparison asks of the sample event. -/
theorem sampleEvent_checks :
    sampleEvent.sortKeys = sampleEvent ∧ validate .lenient sampleEvent = .ok () ∧
      (sampleEvent.get? "exercise_id" = some (.str "EX") ∧
        sampleEvent.get? "run_id" = some (.str "RUN")) ∧
      redactSensitive sampleEvent = sampleEvent ∧
      (canonical .half sampleEvent).length ≤ 600 := by
  decide +kernel

/-- The sample event has distinct keys and no number without a text. -/
theorem sampleEvent_proper : sampleEvent.Proper FloatText.half.isFloat := by
  have hsequence : Json.Short 1 := by decide
  simpa [sampleEvent, Json.Proper, Json.ProperMembers] using hsequence

/-- The sample file is read, as one line. -/
theorem sampleFile_lines :
    read sampleFile = .ok sampleFile.content ∧
      chunks sampleFile.content.length sampleFile.content =
        [bytesOf (canonical .half sampleEvent) ++ [10]] := by
  obtain ⟨-, -, -, -, hlength⟩ := sampleEvent_checks
  have hprintable : ∀ c ∈ canonical .half sampleEvent, Printable c :=
    Json.printable_dumpChars sampleEvent_proper
  have hfeed : (10 : UInt8) ∉ bytesOf (canonical .half sampleEvent) :=
    not_mem_bytesOf hprintable (by decide)
  have hbytes : (bytesOf (canonical .half sampleEvent)).length ≤ 600 := by
    rwa [bytesOf, List.length_map]
  have hcontent : sampleFile.content.length =
      (bytesOf (canonical .half sampleEvent)).length + 1 := by
    rw [sampleFile, List.length_append, List.length_singleton]
  constructor
  · have htake : sampleFile.content.take (maxFileBytes + 1) = sampleFile.content :=
      List.take_of_length_le (by rw [hcontent, maxFileBytes]; omega)
    have hsmall : sampleFile.content.length ≤ maxFileBytes := by
      rw [hcontent, maxFileBytes]
      omega
    have hopens : sampleFile.opens = true := rfl
    have hregular : sampleFile.regular = true ∧ sampleFile.links = 1 ∧
        sampleFile.size ≤ maxFileBytes := ⟨rfl, rfl, Nat.zero_le _⟩
    have hunchanged : sampleFile.unchanged = true := rfl
    unfold read
    dsimp only
    rw [htake, bind_of_eq_ok (require_of hopens), bind_of_eq_ok (require_of hregular),
      bind_of_eq_ok (require_of hsmall), bind_of_eq_ok (require_of hunchanged)]
    rfl
  · rw [hcontent]
    exact chunks_single hfeed (by rw [maxEventBytes]; omega) _

/-- The sample file compared with itself. -/
theorem comparison_sample :
    ∃ result baseline received,
      canonicalEvents .lenient .half sampleFile "EX" "RUN" = .ok baseline ∧
        canonicalEvents .lenient .half sampleFile "EX" "RUN" = .ok received ∧
        (baseline.map Prod.fst).Nodup ∧ Decides baseline received result := by
  obtain ⟨hsorted, hvalid, hscope, hredacted, hlength⟩ := sampleEvent_checks
  obtain ⟨hread, hchunks⟩ := sampleFile_lines
  have hevent := eventOf_canonical sampleEvent_proper hsorted rfl hvalid hscope hredacted
    (by rw [maxEventBytes]; omega)
  have hexpect : forEvents .lenient .half "EX" "RUN" expect 0
      [bytesOf (canonical .half sampleEvent) ++ [10]] ⟨[], []⟩ =
        .ok ⟨[("1", canonical .half sampleEvent)], [("1", "c")]⟩ := by
    rw [forEvents, bind_of_eq_ok (require_of (by decide)), bind_of_eq_ok hevent]
    rfl
  have hobserve : ∀ baseline : List (String × List Char),
      forEvents .lenient .half "EX" "RUN" (observe baseline) 0
        [bytesOf (canonical .half sampleEvent) ++ [10]] .start =
          .ok (Reconcile.Scan.start.step baseline ("1", canonical .half sampleEvent)) := by
    intro baseline
    rw [forEvents, bind_of_eq_ok (require_of (by decide)), bind_of_eq_ok hevent]
    rfl
  have hcompare : ∃ result, compare .lenient .half (fun _ => "") sampleFile sampleFile false
      "EX" "RUN" = .ok result := by
    unfold compare
    rw [bind_of_eq_ok (require_of (by decide)), bind_of_eq_ok hread, bind_of_eq_ok hread,
      bind_of_eq_ok (require_of rfl), hchunks, bind_of_eq_ok hexpect,
      bind_of_eq_ok (require_of (by simp)), bind_of_eq_ok (hobserve _)]
    exact ⟨_, rfl⟩
  obtain ⟨result, hresult⟩ := hcompare
  exact ⟨result, comparison_decides .lenient .half (fun _ => "") sampleFile sampleFile false
    "EX" "RUN" hresult⟩

end Verdict

end NetStrike.Dashboard.Telemetry
