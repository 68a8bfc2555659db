import NetStrike.Dashboard.SupportAgreement
import NetStrike.Foundation.Paging

/-!
# Participant evidence

`project_signal` of `dashboard/evidence.py` and `participant_evidence` of `dashboard/service.py`. A
`PortalStore` is the `events` table with what `append_event` keeps of it: every row is accepted by
the schema and no two rows clash.

The store is cut at the cursor before the projection and the page is cut after it, which comes to
the same as paging through the released events (`participant_evidence_eq_ok`).
-/

set_option autoImplicit false

namespace NetStrike.Dashboard

open NetStrike.Foundation NetStrike.Shared NetStrike.Orchestrator

/-! ## The store -/

theorem wellFormed_of_validate {formats : FormatChecker} {event : Event}
    (h : EventValidator.validate formats event.toJson = .ok ()) : event.WellFormed formats := by
  refine (eventSchema_valid_iff formats event).mp ?_
  unfold EventValidator.validate at h
  cases hmajor : schemaMajor (event.toJson.get? "schema_version") with
  | error e =>
      rw [hmajor] at h
      cases h
  | ok major =>
      rw [hmajor] at h
      by_contra hvalid
      rw [Bool.not_eq_true] at hvalid
      by_cases hone : major = 1
      · simp [hone, hvalid, bind, Except.bind] at h
      · simp [hone, bind, Except.bind] at h

/-- The `events` table, newest row first. -/
structure PortalStore (formats : FormatChecker) where
  rows : List Event
  wellFormed : ∀ row ∈ rows, row.WellFormed formats
  unique : rows.Pairwise fun a b => ¬ Clash a b

namespace PortalStore

variable {formats : FormatChecker}

/-- What `appendEvent` makes of the rows of a store is the rows of a store. -/
theorem wellFormed_appendEvent {store : PortalStore formats} {event : Event} {rows : List Event}
    (h : appendEvent formats event store.rows = .ok rows) :
    ∀ row ∈ rows, row.WellFormed formats := by
  have hvalid : EventValidator.validate formats (sanitized event).toJson = .ok () := by
    unfold appendEvent at h
    cases hvalid : EventValidator.validate formats (sanitized event).toJson with
    | error e =>
        rw [hvalid] at h
        cases h
    | ok u => rfl
  obtain ⟨rfl, -⟩ := appendEvent_eq_ok h
  intro row hrow
  rcases List.mem_cons.mp hrow with rfl | hold
  · exact wellFormed_of_validate hvalid
  · exact store.wellFormed row hold

theorem unique_appendEvent {store : PortalStore formats} {event : Event} {rows : List Event}
    (h : appendEvent formats event store.rows = .ok rows) :
    rows.Pairwise fun a b => ¬ Clash a b := by
  obtain ⟨rfl, hclash⟩ := appendEvent_eq_ok h
  refine List.pairwise_cons.mpr ⟨fun row hrow hboth => hclash row hrow ?_, store.unique⟩
  rcases hboth with hid | ⟨hexercise, hrun, hsequence⟩
  · exact .inl hid.symm
  · exact .inr ⟨hexercise.symm, hrun.symm, hsequence.symm⟩

/-- `append_event`. -/
def append_event (event : Event) (store : PortalStore formats) :
    Except Exn (PortalStore formats) :=
  match h : appendEvent formats event store.rows with
  | .ok rows => .ok ⟨rows, wellFormed_appendEvent h, unique_appendEvent h⟩
  | .error e => .error e

theorem append_event_eq_ok {event : Event} {store store' : PortalStore formats}
    (h : append_event event store = .ok store') :
    store'.rows = sanitized event :: store.rows ∧ ∀ row ∈ store.rows, ¬ Clash row event := by
  unfold append_event at h
  split at h
  · next rows hrows =>
      injection h with h
      subst h
      exact appendEvent_eq_ok hrows
  · cases h

/-- `events`. -/
def events (store : PortalStore formats) (exercise_id run_id : String) : List Event :=
  storedEvents exercise_id run_id store.rows

/-- The numbers of a run start at 1. -/
theorem one_le_sequence {store : PortalStore formats} {row : Event} (h : row ∈ store.rows) :
    1 ≤ row.sequence := by
  have hvalid := (store.wellFormed row h).sequence
  simpa [JsonType.admits] using hvalid

/-- The events of a run come in strictly ascending order. -/
theorem ascending_events (store : PortalStore formats) (exercise_id run_id : String) :
    Ascending Event.sequence (store.events exercise_id run_id) := by
  have hne : (store.events exercise_id run_id).Pairwise fun a b => a.sequence ≠ b.sequence := by
    have hrows := store.unique.filter fun e => e.exercise_id = exercise_id ∧ e.run_id = run_id
    have hfilter : (store.rows.filter fun e =>
        e.exercise_id = exercise_id ∧ e.run_id = run_id).Pairwise
          fun a b => a.sequence ≠ b.sequence := by
      refine hrows.imp_of_mem fun ha hb hclash hsame => hclash (.inr ?_)
      have ha := of_decide_eq_true (List.mem_filter.mp ha).2
      have hb := of_decide_eq_true (List.mem_filter.mp hb).2
      exact ⟨ha.1.trans hb.1.symm, ha.2.trans hb.2.symm, hsame⟩
    exact (List.perm_insertionSort _ _).symm.pairwise hfilter fun h => Ne.symm h
  have hle : (store.events exercise_id run_id).Pairwise fun a b => a.sequence ≤ b.sequence :=
    List.pairwise_insertionSort _ _
  exact (hle.and hne).imp fun h => lt_of_le_of_ne h.1 h.2

end PortalStore

/-! ## Projection -/

/-- `SIGNAL_PREFIXES`. -/
def signalPrefixes : List String :=
  ["identity.", "helpdesk.", "endpoint.", "directory.", "cloud.", "impact.", "recovery."]

/-- `OWN_RECEIPTS`. -/
def ownReceipts : List String :=
  ["action.execution.completed", "action.authorization.denied", "action.result.replayed"]

/-- `FACT_KEYS`. -/
def factKeys : List String :=
  ["source_ip", "host", "identity_id", "factor_id", "ticket_id", "callback_verified",
    "identity_event_id", "category", "command_id", "account_id", "group", "task_id",
    "active", "fixture_id", "synthetic", "originals_unchanged", "backup_intact",
    "available_originals", "marker_count", "note_present", "baseline_verified",
    "encryption_performed", "confirmed_records", "confirmed_count", "record_count",
    "bucket_id", "principal_id", "key_id", "status", "operation", "external_transfer"]

/-- The text starts with the other one. -/
def startsWith (start text : String) : Bool := start.toList.isPrefixOf text.toList

/-- A string, number or Boolean, a string of at most 512 characters. -/
def plainFact : Json → Bool
  | .str s => decide (s.length ≤ 512)
  | .int _ | .float _ | .bool _ => true
  | _ => false

/-- The facts of an event. -/
def factsOf : Json → List (String × Json)
  | .obj members => members.filter fun m => factKeys.contains m.1 && plainFact m.2
  | _ => []

/-- What a participant sees of an event. -/
structure Signal where
  event_id : String
  sequence : Int
  timestamp : String
  event_type : String
  category : String
  source : Option String
  message : String
  outcome : Option String
  actor_id : Option String
  target_id : Option String
  target_type : Option String
  dry_run : Option Json
  facts : List (String × Json)
deriving DecidableEq

/-- The event is an action receipt of the actor. -/
def ownReceipt (event : Event) (actor_id : String) : Bool :=
  event.visibility = "facilitator" && ownReceipts.contains event.event_type &&
    event.source.str? "kind" = some "action_adapter" && event.actor.str? "id" = some actor_id &&
    event.actor.str? "type" = some "participant"

/-- The event is a module fact for every participant. -/
def publicSignal (event : Event) : Bool :=
  event.visibility = "participant" &&
    signalPrefixes.any fun start => startsWith start event.event_type

/-- The category of a signal. -/
def signalCategory (own_receipt : Bool) (event_type : String) : String :=
  let category := if own_receipt then "response" else
    String.ofList (event_type.toList.takeWhile fun c => c ≠ '.')
  if category = "helpdesk" ∨ category = "identity" then "identity"
  else if category = "endpoint" ∨ category = "directory" then "endpoint"
  else if category = "impact" ∨ category = "recovery" then "recovery"
  else category

/-- `project_signal`. -/
def project_signal (actor_id : String) (event : Event) : Option Signal :=
  if ownReceipt event actor_id || publicSignal event then
    some {
      event_id := event.event_id
      sequence := event.sequence
      timestamp := event.timestamp
      event_type := event.event_type
      category := signalCategory (ownReceipt event actor_id) event.event_type
      source := event.source.str? "component"
      message := event.message
      outcome := event.outcome.str? "status"
      actor_id := event.actor.str? "id"
      target_id := event.target.str? "id"
      target_type := event.target.str? "type"
      dry_run := event.safety.get? "dry_run"
      facts := factsOf event.data }
  else none

/-- What a signal keeps of its event. -/
theorem project_signal_eq_some {actor_id : String} {event : Event} {signal : Signal}
    (h : project_signal actor_id event = some signal) :
    (ownReceipt event actor_id = true ∨ publicSignal event = true) ∧
      signal.event_id = event.event_id ∧ signal.sequence = event.sequence ∧
      signal.event_type = event.event_type ∧ signal.actor_id = event.actor.str? "id" := by
  unfold project_signal at h
  split at h
  · next hreleased =>
      injection h with h
      subst h
      exact ⟨by simpa using hreleased, rfl, rfl, rfl, rfl⟩
  · cases h

/-- A name under a public prefix is not the name of an action event. -/
theorem not_public_of_action {event : Event} (h : startsWith "action." event.event_type = true) :
    publicSignal event = false := by
  have hpre : "action.".toList <+: event.event_type.toList := List.isPrefixOf_iff_prefix.mp h
  have hnone : (signalPrefixes.any fun start => startsWith start event.event_type) = false := by
    refine List.any_eq_false.mpr fun start hstart => ?_
    intro hother
    have hother : start.toList <+: event.event_type.toList := List.isPrefixOf_iff_prefix.mp hother
    -- Of two prefixes of one text, one is a prefix of the other.
    have hcomparable := List.prefix_or_prefix_of_prefix hpre hother
    have hapart : ∀ start ∈ signalPrefixes, ¬ ("action.".toList <+: start.toList ∨
        start.toList <+: "action.".toList) := by decide
    exact hapart start hstart hcomparable
  rw [publicSignal, hnone, Bool.and_false]

/-- A signal of an action event is a receipt of the actor it is released to. -/
theorem receipt_of_action {actor_id : String} {event : Event} {signal : Signal}
    (h : project_signal actor_id event = some signal)
    (haction : startsWith "action." signal.event_type = true) :
    signal.actor_id = some actor_id := by
  obtain ⟨hreleased, -, -, htype, hactor⟩ := project_signal_eq_some h
  rw [htype] at haction
  rcases hreleased with hown | hpublic
  · rw [hactor]
    simp only [ownReceipt, Bool.and_eq_true, decide_eq_true_eq] at hown
    exact hown.1.2
  · rw [not_public_of_action haction] at hpublic
    cases hpublic

/-! ## Pages -/

/-- What a page is made from: the store, and the run with its state and time. -/
structure EvidenceService (formats : FormatChecker) where
  store : PortalStore formats
  exercise_id : String
  run_id : String
  state : RunState
  elapsed_seconds : Int

/-- A page of evidence. -/
structure EvidencePage where
  exercise_id : String
  run_id : String
  state : String
  elapsed_seconds : Int
  environment : String
  ordering : String
  signals : List Signal
  has_more : Bool
  next_sequence : Int
deriving DecidableEq

namespace EvidenceService

variable {formats : FormatChecker}

/-- The events of the run that are released to the actor, in the order of their numbers. -/
def released (service : EvidenceService formats) (actor_id : String) : List Signal :=
  (service.store.events service.exercise_id service.run_id).filterMap (project_signal actor_id)

/-- `participant_evidence`. -/
def participant_evidence (service : EvidenceService formats) (principal : PortalPrincipal)
    (after_sequence limit : Int) : Except Exn EvidencePage :=
  if after_sequence < 0 ∨ ¬ (1 ≤ limit ∧ limit ≤ 100) then
    .error (.of .ValueError "invalid evidence page boundary")
  else
    let signals := ((service.store.events service.exercise_id service.run_id).filter fun event =>
      after_sequence < event.sequence).filterMap (project_signal principal.actor_id)
    let page := signals.take limit.toNat
    .ok {
      exercise_id := service.exercise_id
      run_id := service.run_id
      state := service.state.value
      elapsed_seconds := service.elapsed_seconds
      environment := "local_synthetic_evidence_not_splunk"
      ordering := "ingestion_sequence_not_occurrence_time"
      signals := page
      has_more := decide (limit.toNat < signals.length)
      next_sequence := match page.getLast? with
        | some signal => signal.sequence
        | none => after_sequence }

/-- Filtering by the number before the projection is filtering after it. -/
theorem filterMap_above (events : List Event) (actor_id : String) (cursor : Int) :
    (events.filter fun event => cursor < event.sequence).filterMap (project_signal actor_id) =
      itemsAbove Signal.sequence cursor (events.filterMap (project_signal actor_id)) := by
  induction events with
  | nil => rfl
  | cons event events ih =>
      cases hsignal : project_signal actor_id event with
      | none =>
          rw [List.filterMap_cons_none hsignal, ← ih, List.filter_cons]
          split
          · exact List.filterMap_cons_none hsignal
          · rfl
      | some signal =>
          have hsequence := (project_signal_eq_some hsignal).2.2.1
          rw [List.filterMap_cons_some hsignal, itemsAbove, List.filter_cons, List.filter_cons,
            hsequence]
          split
          · rw [List.filterMap_cons_some hsignal, ih]
            rfl
          · exact ih

/-- A page is the page of the released events after the cursor. -/
theorem participant_evidence_eq_ok {service : EvidenceService formats} {principal : PortalPrincipal}
    {after_sequence limit : Int} {page : EvidencePage}
    (h : service.participant_evidence principal after_sequence limit = .ok page) :
    page.signals = pageAfter Signal.sequence after_sequence limit.toNat
        (service.released principal.actor_id) ∧
      page.next_sequence = cursorAfter Signal.sequence after_sequence page.signals ∧
      (page.has_more = true ↔ limit.toNat <
        (itemsAbove Signal.sequence after_sequence (service.released principal.actor_id)).length) := by
  unfold participant_evidence at h
  split at h
  · cases h
  · injection h with h
    subst h
    rw [filterMap_above]
    refine ⟨rfl, ?_, decide_eq_true_iff⟩
    unfold cursorAfter
    dsimp only
    generalize List.getLast? _ = last
    cases last <;> rfl

theorem ascending_released (service : EvidenceService formats) (actor_id : String) :
    Ascending Signal.sequence (service.released actor_id) := by
  refine List.pairwise_filterMap.mpr ?_
  refine (service.store.ascending_events service.exercise_id service.run_id).imp ?_
  intro a b hlt x hx y hy
  rw [(project_signal_eq_some hx).2.2.1, (project_signal_eq_some hy).2.2.1]
  exact hlt

theorem mem_released {service : EvidenceService formats} {actor_id : String} {signal : Signal} :
    signal ∈ service.released actor_id ↔ ∃ event ∈ service.store.rows,
      (event.exercise_id = service.exercise_id ∧ event.run_id = service.run_id) ∧
        project_signal actor_id event = some signal := by
  simp only [released, PortalStore.events, List.mem_filterMap, mem_storedEvents, and_assoc]

/-- There is more after a page exactly when a released event lies above `next_sequence`, and an
action receipt on it is one of the actor. -/
def PageSound (service : EvidenceService formats) (principal : PortalPrincipal)
    (page : EvidencePage) : Prop :=
  (page.has_more = true ↔
      ∃ signal ∈ service.released principal.actor_id, page.next_sequence < signal.sequence) ∧
    ∀ signal ∈ page.signals, startsWith "action." signal.event_type = true →
      signal.actor_id = some principal.actor_id

theorem pageSound {service : EvidenceService formats} {principal : PortalPrincipal}
    {after_sequence limit : Int} {page : EvidencePage}
    (h : service.participant_evidence principal after_sequence limit = .ok page) :
    service.PageSound principal page := by
  obtain ⟨hsignals, hnext, hmore⟩ := participant_evidence_eq_ok h
  constructor
  · rw [hmore, hnext, hsignals]
    exact (service.ascending_released principal.actor_id).more_iff after_sequence limit.toNat
  · intro signal hsignal haction
    rw [hsignals] at hsignal
    have hreleased := (mem_itemsAbove.mp (List.mem_of_mem_take hsignal)).1
    obtain ⟨event, -, -, hproject⟩ := mem_released.mp hreleased
    exact receipt_of_action hproject haction

end EvidenceService

end NetStrike.Dashboard
