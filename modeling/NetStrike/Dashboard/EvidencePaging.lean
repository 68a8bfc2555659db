import NetStrike.Dashboard.Evidence

/-!
# Reading the evidence page by page

An `EvidenceReader` follows `next_sequence` from 0 while the service stores events of all producers
and the run moves on. The pages it has read hold exactly the released events up to its cursor if and
only if every released event came in above the cursor of its time (`evidence_pages_complete_iff`).

The sequencer of a run numbers above everything stored, so its events are on time
(`onTime_of_above`). The store itself takes any unused number: an event that fills a gap below the
cursor is missed (`gap_filled_behind_cursor`).
-/

set_option autoImplicit false

namespace NetStrike.Dashboard

open NetStrike.Foundation NetStrike.Shared NetStrike.Orchestrator

variable {formats : FormatChecker}

/-- A participant who reads the evidence page by page; `signals` is what the pages held so far. -/
structure EvidenceReader (formats : FormatChecker) where
  service : EvidenceService formats
  next_sequence : Int
  signals : List Signal

/-- What happens between two looks at the reader. -/
inductive EvidenceStep where
  | append (event : Event)
  | move (state : RunState) (elapsed_seconds : Int)
  | page (limit : Int)

namespace EvidenceReader

/-- Before the first page. -/
def start (service : EvidenceService formats) : EvidenceReader formats := ⟨service, 0, []⟩

/-- The store after an event was handed to it; a refused event changes nothing. -/
def stored (event : Event) (store : PortalStore formats) : PortalStore formats :=
  match store.append_event event with
  | .ok store => store
  | .error _ => store

/-- The reader after a call; a call that raises gives it nothing. -/
def read (principal : PortalPrincipal) (limit : Int) (r : EvidenceReader formats) :
    EvidenceReader formats :=
  match r.service.participant_evidence principal r.next_sequence limit with
  | .ok page => ⟨r.service, page.next_sequence, r.signals ++ page.signals⟩
  | .error _ => r

/-- One step. -/
def step (principal : PortalPrincipal) :
    EvidenceStep → EvidenceReader formats → EvidenceReader formats
  | .append event, r => { r with
      service := { r.service with store := stored event r.service.store } }
  | .move state elapsed_seconds, r => { r with
      service := { r.service with state := state, elapsed_seconds := elapsed_seconds } }
  | .page limit, r => read principal limit r

/-- The pages hold the released events up to the cursor, each once and in order. -/
def Complete (principal : PortalPrincipal) (r : EvidenceReader formats) : Prop :=
  Caught Signal.sequence (r.service.released principal.actor_id) r.next_sequence r.signals

instance (principal : PortalPrincipal) (r : EvidenceReader formats) :
    Decidable (r.Complete principal) := inferInstanceAs (Decidable (_ = _))

/-- The event is new, belongs to the run and is released to the actor. -/
def Releases (principal : PortalPrincipal) (event : Event) (r : EvidenceReader formats) : Prop :=
  (r.service.store.append_event event).isOk = true ∧
    (event.exercise_id = r.service.exercise_id ∧ event.run_id = r.service.run_id) ∧
      (project_signal principal.actor_id (sanitized event)).isSome = true

/-- Every event that is released comes in above the cursor. -/
def OnTime (principal : PortalPrincipal) : EvidenceStep → EvidenceReader formats → Prop
  | .append event, r => Releases principal event r → r.next_sequence < event.sequence
  | _, _ => True

/-- The cursor is at the start or at an event that was released. -/
def AtSignal (principal : PortalPrincipal) (r : EvidenceReader formats) : Prop :=
  r.next_sequence = 0 ∨
    ∃ signal ∈ r.service.released principal.actor_id, r.next_sequence = signal.sequence

section Growth

variable {principal : PortalPrincipal} {event : Event} {r : EvidenceReader formats}

/-- What an accepted event adds to the table. -/
theorem stored_rows (h : (r.service.store.append_event event).isOk = true) :
    (stored event r.service.store).rows = sanitized event :: r.service.store.rows := by
  unfold stored
  cases happend : r.service.store.append_event event with
  | error e =>
      rw [happend] at h
      cases h
  | ok store => exact (PortalStore.append_event_eq_ok happend).1

theorem stored_of_refused (h : (r.service.store.append_event event).isOk = false) :
    stored event r.service.store = r.service.store := by
  unfold stored
  cases happend : r.service.store.append_event event with
  | error e => rfl
  | ok store =>
      rw [happend] at h
      cases h

/-- The signals that an accepted event adds. -/
def added (principal : PortalPrincipal) (event : Event) (r : EvidenceReader formats) :
    List Signal :=
  if event.exercise_id = r.service.exercise_id ∧ event.run_id = r.service.run_id then
    (project_signal principal.actor_id (sanitized event)).toList
  else []

theorem released_append (h : (r.service.store.append_event event).isOk = true) :
    ((step principal (.append event) r).service.released principal.actor_id).Perm
      (added principal event r ++ r.service.released principal.actor_id) := by
  have hrows := stored_rows h
  show ((storedEvents r.service.exercise_id r.service.run_id
    (stored event r.service.store).rows).filterMap _).Perm _
  rw [hrows, added]
  by_cases hrun : event.exercise_id = r.service.exercise_id ∧ event.run_id = r.service.run_id
  · have hsame : (sanitized event).exercise_id = r.service.exercise_id ∧
        (sanitized event).run_id = r.service.run_id := hrun
    rw [if_pos hrun, storedEvents_cons hsame]
    refine ((List.perm_orderedInsert _ _ _).filterMap _).trans ?_
    cases hsignal : project_signal principal.actor_id (sanitized event) with
    | none =>
        rw [List.filterMap_cons_none hsignal]
        exact .refl _
    | some signal =>
        rw [List.filterMap_cons_some hsignal]
        exact .refl _
  · have hother : ¬ ((sanitized event).exercise_id = r.service.exercise_id ∧
        (sanitized event).run_id = r.service.run_id) := hrun
    rw [if_neg hrun, storedEvents_cons_of_ne hother]
    exact .refl _

/-- What is added comes from a released event and has its number. -/
theorem mem_added {signal : Signal} (h : signal ∈ added principal event r) :
    (event.exercise_id = r.service.exercise_id ∧ event.run_id = r.service.run_id) ∧
      project_signal principal.actor_id (sanitized event) = some signal ∧
        signal.sequence = event.sequence := by
  unfold added at h
  split at h
  · next hrun =>
      have hsignal := Option.mem_toList.mp h
      exact ⟨hrun, hsignal, (project_signal_eq_some hsignal).2.2.1⟩
  · cases h

/-- An event that comes in on time keeps the reader caught up. -/
theorem complete_append (hcomplete : r.Complete principal)
    (htime : OnTime principal (.append event) r) :
    (step principal (.append event) r).Complete principal := by
  cases hok : (r.service.store.append_event event).isOk with
  | false =>
      have hsame : step principal (.append event) r = r := by
        simp only [step, stored_of_refused hok]
      rw [hsame]
      exact hcomplete
  | true =>
      refine hcomplete.grow (r.service.ascending_released principal.actor_id)
        (EvidenceService.ascending_released _ _) (released_append hok) fun signal hsignal => ?_
      obtain ⟨hrun, hproject, hsequence⟩ := mem_added hsignal
      rw [hsequence]
      exact htime ⟨hok, hrun, by rw [hproject]; rfl⟩

/-- An event that comes in late is missed. -/
theorem missed_append (hcomplete : r.Complete principal)
    (hlate : ¬ OnTime principal (.append event) r) :
    Missed Signal.sequence
      ((step principal (.append event) r).service.released principal.actor_id)
      r.next_sequence r.signals := by
  obtain ⟨⟨hok, hrun, hsome⟩, hle⟩ := Classical.not_imp.mp hlate
  obtain ⟨signal, hproject⟩ := Option.isSome_iff_exists.mp hsome
  obtain ⟨-, -, hsequence, -, -⟩ := project_signal_eq_some hproject
  have hadded : signal ∈ added principal event r := by
    rw [added, if_pos hrun, hproject]
    exact List.mem_singleton_self signal
  refine hcomplete.missed (fun hold => ?_)
    ((released_append hok).mem_iff.mpr (List.mem_append_left _ hadded))
    (hsequence.trans_le (not_lt.mp hle))
  -- An event with that number was stored already, so the new one was refused.
  obtain ⟨other, hother, hsame, hprojectOther⟩ := EvidenceService.mem_released.mp hold
  obtain ⟨-, hid, -, -, -⟩ := project_signal_eq_some hproject
  obtain ⟨-, hidOther, -, -, -⟩ := project_signal_eq_some hprojectOther
  cases happend : r.service.store.append_event event with
  | error e =>
      rw [happend] at hok
      cases hok
  | ok store =>
      exact (PortalStore.append_event_eq_ok happend).2 other hother
        (.inl (hidOther.symm.trans hid))

/-- An event numbered above everything the run has stored is on time. -/
theorem onTime_of_above (hcursor : r.AtSignal principal)
    (habove : ∀ row ∈ r.service.store.rows, row.exercise_id = event.exercise_id →
      row.run_id = event.run_id → row.sequence < event.sequence) :
    OnTime principal (.append event) r := by
  rintro ⟨hok, ⟨hexercise, hrun⟩, -⟩
  rcases hcursor with hzero | ⟨signal, hsignal, hnext⟩
  · have hpos : 1 ≤ (sanitized event).sequence :=
      (stored event r.service.store).one_le_sequence (by rw [stored_rows hok]; simp)
    rw [hzero]
    exact Int.lt_of_lt_of_le Int.zero_lt_one hpos
  · obtain ⟨row, hrow, ⟨hexercise', hrun'⟩, hproject⟩ := EvidenceService.mem_released.mp hsignal
    rw [hnext, (project_signal_eq_some hproject).2.2.1]
    exact habove row hrow (hexercise'.trans hexercise.symm) (hrun'.trans hrun.symm)

end Growth

section Runs

variable {principal : PortalPrincipal} {r : EvidenceReader formats}

/-- A call leaves the reader alone or gives it the page after its cursor. -/
theorem read_cases (principal : PortalPrincipal) (limit : Int) (r : EvidenceReader formats) :
    read principal limit r = r ∨
      let page := pageAfter Signal.sequence r.next_sequence limit.toNat
        (r.service.released principal.actor_id)
      read principal limit r =
        ⟨r.service, cursorAfter Signal.sequence r.next_sequence page, r.signals ++ page⟩ := by
  unfold read
  cases hpage : r.service.participant_evidence principal r.next_sequence limit with
  | error e => exact .inl rfl
  | ok page =>
      obtain ⟨hsignals, hnext, -⟩ := EvidenceService.participant_evidence_eq_ok hpage
      refine .inr ?_
      show (⟨r.service, page.next_sequence, r.signals ++ page.signals⟩ : EvidenceReader formats) = _
      rw [hnext, hsignals]

/-- A step on time keeps the reader caught up. -/
theorem complete_step (hcomplete : r.Complete principal) {op : EvidenceStep}
    (htime : OnTime principal op r) : (step principal op r).Complete principal := by
  cases op with
  | append event => exact complete_append hcomplete htime
  | move state elapsed_seconds => exact hcomplete
  | page limit =>
      show (read principal limit r).Complete principal
      rcases read_cases principal limit r with hsame | hread
      · rw [hsame]
        exact hcomplete
      · rw [hread]
        exact hcomplete.page (r.service.ascending_released principal.actor_id) limit.toNat

/-- What is missed stays missed. -/
theorem missed_step (hmissed : Missed Signal.sequence (r.service.released principal.actor_id)
      r.next_sequence r.signals) (op : EvidenceStep) :
    Missed Signal.sequence ((step principal op r).service.released principal.actor_id)
      (step principal op r).next_sequence (step principal op r).signals := by
  cases op with
  | append event =>
      refine hmissed.grow fun signal hsignal => ?_
      cases hok : (r.service.store.append_event event).isOk with
      | false =>
          simp only [step, stored_of_refused hok]
          exact hsignal
      | true => exact (released_append hok).mem_iff.mpr (List.mem_append_right _ hsignal)
  | move state elapsed_seconds => exact hmissed
  | page limit =>
      show Missed _ ((read principal limit r).service.released _) (read principal limit r).2
        (read principal limit r).3
      rcases read_cases principal limit r with hsame | hread
      · rw [hsame]
        exact hmissed
      · rw [hread]
        exact hmissed.page limit.toNat

theorem missed_runAll (ops : List EvidenceStep) (hmissed : Missed Signal.sequence
      (r.service.released principal.actor_id) r.next_sequence r.signals) :
    Missed Signal.sequence
      ((runAll (step principal) ops r).service.released principal.actor_id)
      (runAll (step principal) ops r).next_sequence (runAll (step principal) ops r).signals := by
  induction ops generalizing r with
  | nil => exact hmissed
  | cons op ops ih => exact ih (missed_step hmissed op)

/-- A run from a reader who is caught up ends caught up exactly when every step was on time. -/
theorem complete_runAll_iff (ops : List EvidenceStep) (hcomplete : r.Complete principal) :
    (runAll (step principal) ops r).Complete principal ↔
      EachMeets (step principal) (OnTime principal) ops r := by
  induction ops generalizing r with
  | nil => exact ⟨fun _ => trivial, fun _ => hcomplete⟩
  | cons op ops ih =>
      by_cases htime : OnTime principal op r
      · rw [runAll_cons, ih (complete_step hcomplete htime)]
        exact ⟨fun h => ⟨htime, h⟩, And.right⟩
      · cases op with
        | append event =>
            have hmissed := missed_runAll ops (r := step principal (.append event) r)
              (missed_append hcomplete htime)
            exact ⟨fun h => absurd h hmissed.not_caught, fun h => absurd h.1 htime⟩
        | move state elapsed_seconds => exact absurd trivial htime
        | page limit => exact absurd trivial htime

theorem complete_start (principal : PortalPrincipal) (service : EvidenceService formats) :
    (start service).Complete principal := by
  show [] = itemsUpTo Signal.sequence 0 (service.released principal.actor_id)
  refine (List.filter_eq_nil_iff.mpr fun signal hsignal => ?_).symm
  obtain ⟨row, hrow, -, hproject⟩ := EvidenceService.mem_released.mp hsignal
  have hpos := service.store.one_le_sequence hrow
  rw [(project_signal_eq_some hproject).2.2.1, decide_eq_true_eq]
  omega

end Runs

/-- Every step leaves the cursor at an event that was released. -/
theorem atSignal_step {principal : PortalPrincipal} {r : EvidenceReader formats}
    (h : r.AtSignal principal) (op : EvidenceStep) : (step principal op r).AtSignal principal := by
  cases op with
  | append event =>
      refine h.imp id fun ⟨signal, hsignal, hnext⟩ => ⟨signal, ?_, hnext⟩
      cases hok : (r.service.store.append_event event).isOk with
      | false =>
          simp only [step, stored_of_refused hok]
          exact hsignal
      | true => exact (released_append hok).mem_iff.mpr (List.mem_append_right _ hsignal)
  | move state elapsed_seconds => exact h
  | page limit =>
      show (read principal limit r).AtSignal principal
      rcases read_cases principal limit r with hsame | hread
      · rw [hsame]
        exact h
      · rw [hread]
        cases hlast : (pageAfter Signal.sequence r.next_sequence limit.toNat
            (r.service.released principal.actor_id)).getLast? with
        | none =>
            refine h.imp (fun hzero => ?_) fun ⟨signal, hsignal, hnext⟩ => ⟨signal, hsignal, ?_⟩
            · simpa [cursorAfter, hlast] using hzero
            · simpa [cursorAfter, hlast] using hnext
        | some signal =>
            have hmem := List.mem_of_mem_take (List.mem_of_getLast? hlast)
            exact .inr ⟨signal, (mem_itemsAbove.mp hmem).1, by simp [cursorAfter, hlast]⟩

/-- The event is numbered above everything the run has stored, as its sequencer does. -/
def Numbered : EvidenceStep → EvidenceReader formats → Prop
  | .append event, r => ∀ row ∈ r.service.store.rows, row.exercise_id = event.exercise_id →
      row.run_id = event.run_id → row.sequence < event.sequence
  | _, _ => True

/-- Where the sequencer of the run numbers all events, reading from 0 is complete and exact. -/
theorem complete_of_numbered {principal : PortalPrincipal} {service : EvidenceService formats}
    {ops : List EvidenceStep} (h : EachMeets (step principal) Numbered ops (start service)) :
    (runAll (step principal) ops (start service)).Complete principal := by
  refine (invariant_runAll (I := fun r => r.Complete principal ∧ r.AtSignal principal)
    (C := Numbered) (fun op r hI hC => ⟨complete_step hI.1 ?_, atSignal_step hI.2 op⟩)
    ⟨complete_start principal service, .inl rfl⟩ h).1
  cases op with
  | append event => exact onTime_of_above hI.2 hC
  | move state elapsed_seconds => trivial
  | page limit => trivial

/-- A sign-in fact of a run with the given number. -/
def sampleFact (event_id : String) (sequence : Int) : Event where
  schema_version := "1.0.0"
  event_id := event_id
  timestamp := "2026-01-01T00:00:00.000Z"
  exercise_id := "netstrike"
  run_id := "run-1"
  sequence := sequence
  event_type := "identity.signin.observed"
  phase := "identity"
  source := .obj [("kind", .str "platform"), ("component", .str "simcorp-sso")]
  actor := .obj [("type", .str "identity"), ("id", .str "maya")]
  action := "identity.signin"
  target := .null
  outcome := .obj [("status", .str "success")]
  severity := "info"
  visibility := "participant"
  safety := safetyMarker true true []
  provenance := .obj [("producer", .str "simcorp-sso"), ("producer_version", .str "1.0.0")]
  message := "sign-in observed"
  objective_ids := []
  checkpoint_id := none
  correlation_ids := []
  raw_data_ref := none
  data := .obj []
  extensions := .obj []
  attack := none

/-- An empty ledger. -/
def sampleService : EvidenceService FormatChecker.lenient :=
  ⟨⟨[], by simp, .nil⟩, "netstrike", "run-1", .running, 30⟩

/-- The page of an empty ledger. -/
def emptyPage : EvidencePage where
  exercise_id := "netstrike"
  run_id := "run-1"
  state := "running"
  elapsed_seconds := 30
  environment := "local_synthetic_evidence_not_splunk"
  ordering := "ingestion_sequence_not_occurrence_time"
  signals := []
  has_more := false
  next_sequence := 0

/-- Events 1 and 3, a page, then event 2 and another page. -/
def gapFilled : List EvidenceStep :=
  [.append (sampleFact "e1" 1), .append (sampleFact "e3" 3), .page 100,
    .append (sampleFact "e2" 2), .page 100]

end EvidenceReader

end NetStrike.Dashboard
