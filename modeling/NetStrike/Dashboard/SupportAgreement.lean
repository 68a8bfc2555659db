import NetStrike.Dashboard.SupportWorkflow
import NetStrike.Orchestrator.SupportLedger

/-!
# The support ledger in the store

How the ledger of a run changes when an event is appended, what `_append` does, and the event that
it lays out. `Agrees` says that the index accepts the ledger of the run and that the ledger is as
the workflow writes it; the rest of the service keeps it (`Agrees.other`), and so does an appended
event that the index accepts (`Agrees.append`).
-/

set_option autoImplicit false

namespace NetStrike.Dashboard

open NetStrike.Foundation NetStrike.Shared NetStrike.Orchestrator NetStrike.Orchestrator.Support

/-! ## The ledger in the store -/

/-- The names of the fields of an event. -/
def eventFields : List String :=
  ["schema_version", "event_id", "timestamp", "exercise_id", "run_id", "sequence", "event_type",
    "phase", "source", "actor", "action", "target", "outcome", "severity", "visibility", "safety",
    "provenance", "message", "objective_ids", "checkpoint_id", "correlation_ids", "raw_data_ref",
    "data", "extensions", "attack"]

theorem eventFields_not_sensitive :
    ∀ k ∈ eventFields, sensitiveKeys.contains (normalizedKey k) = false := by decide

theorem redactSensitive_strs (ss : List String) : redactSensitive (Json.strs ss) = Json.strs ss := by
  have hitems : redactItems (ss.map .str) = ss.map .str := by
    induction ss with
    | nil => rfl
    | cons s ss ih => simp [redactItems, redactSensitive, ih]
  rw [Json.strs, redactSensitive, hitems]

/-- The sanitized event is the redacted dictionary of the event. -/
theorem sanitized_toJson (event : Event) :
    (sanitized event).toJson = redactSensitive event.toJson := by
  have hnullable : ∀ o, redactSensitive (nullable o) = nullable o := by
    intro o
    cases o <;> rfl
  unfold Event.toJson
  rw [redactSensitive, redactMembers_eq_map]
  · cases hattack : event.attack <;>
      simp [sanitized, hattack, optionalMember, redactSensitive, redactSensitive_strs, hnullable]
  · intro m hm
    refine eventFields_not_sensitive m.1 ?_
    have hname := List.mem_map_of_mem (f := Prod.fst) hm
    cases hattack : event.attack with
    | none =>
        rw [hattack] at hname
        exact List.mem_of_mem_take (show m.1 ∈ eventFields.take 24 from hname)
    | some a =>
        rw [hattack] at hname
        exact hname

theorem appendEvent_eq_ok {formats : FormatChecker} {event : Event} {rows rows' : List Event}
    (h : appendEvent formats event rows = .ok rows') :
    rows' = sanitized event :: rows ∧ ∀ row ∈ rows, ¬ Clash row event := by
  unfold appendEvent at h
  cases hvalid : EventValidator.validate formats (sanitized event).toJson with
  | error e => simp [hvalid, bind, Except.bind] at h
  | ok u =>
      simp only [hvalid, bind, Except.bind] at h
      split at h
      · cases h
      · next hclash =>
          injection h with h
          exact ⟨h.symm, fun row hrow hc => hclash ⟨row, hrow, hc⟩⟩

section Stored

variable {exercise_id run_id : String} {event : Event} {rows : List Event}

theorem mem_storedEvents : event ∈ storedEvents exercise_id run_id rows ↔
    event ∈ rows ∧ event.exercise_id = exercise_id ∧ event.run_id = run_id := by
  simp [storedEvents, List.mem_insertionSort]

/-- A row of another run does not change the ledger. -/
theorem storedEvents_cons_of_ne
    (h : ¬ (event.exercise_id = exercise_id ∧ event.run_id = run_id)) :
    storedEvents exercise_id run_id (event :: rows) = storedEvents exercise_id run_id rows := by
  simp [storedEvents, h]

/-- A row of the run is inserted by its number. -/
theorem storedEvents_cons (h : event.exercise_id = exercise_id ∧ event.run_id = run_id) :
    storedEvents exercise_id run_id (event :: rows) =
      (storedEvents exercise_id run_id rows).orderedInsert (fun a b => a.sequence ≤ b.sequence)
        event := by
  simp [storedEvents, h]

end Stored

/-- An event with the largest number comes last. -/
theorem orderedInsert_of_forall_lt {event : Event} {events : List Event}
    (h : ∀ e ∈ events, e.sequence < event.sequence) :
    events.orderedInsert (fun a b => a.sequence ≤ b.sequence) event = events ++ [event] := by
  induction events with
  | nil => rfl
  | cons e es ih =>
      have he := h e List.mem_cons_self
      rw [List.orderedInsert_cons, if_neg (by omega),
        ih fun x hx => h x (List.mem_cons_of_mem e hx)]
      rfl

/-- To insert an event of another producer does not change the support events. -/
theorem supportEvents_orderedInsert {event : Event} (h : ¬ IsSupport event) (events : List Event) :
    supportEvents (events.orderedInsert (fun a b => a.sequence ≤ b.sequence) event) =
      supportEvents events := by
  induction events with
  | nil => simp [supportEvents, h]
  | cons e es ih =>
      rw [List.orderedInsert_cons]
      split
      · simp [supportEvents, List.filter_cons, h]
      · simp only [supportEvents, List.filter_cons] at ih ⊢
        rw [ih]

namespace SupportDesk

variable {W : Type} (desk : SupportDesk W)

/-! ## Appending -/

/-- Only the sequencer and the world changed. -/
structure Drawn (p p' : Portal W) : Prop where
  rows : p'.rows = p.rows
  exercise_id : p'.exercise_id = p.exercise_id
  run_id : p'.run_id = p.run_id
  state : p'.state = p.state
  elapsed_seconds : p'.elapsed_seconds = p.elapsed_seconds

instance : Std.Refl (Drawn (W := W)) := ⟨fun _ => ⟨rfl, rfl, rfl, rfl, rfl⟩⟩

instance : IsTrans (Portal W) Drawn :=
  ⟨fun _ _ _ h h' => ⟨h'.rows.trans h.rows, h'.exercise_id.trans h.exercise_id,
    h'.run_id.trans h.run_id, h'.state.trans h.state,
    h'.elapsed_seconds.trans h.elapsed_seconds⟩⟩

theorem drawn_build (context : EventContext) (call : EventCall) :
    (desk.build context call).Keeps Drawn := by
  intro p
  refine EventBuilder.build_keeps desk.formats desk.sources (R := Drawn) ?_ ?_ ?_ call ⟨context, 0⟩ p
  · exact fun _ _ => ⟨rfl, rfl, rfl, rfl, rfl⟩
  · intro call p
    unfold EventBuilder.eventId
    split
    · exact Std.Refl.refl p
    · exact ⟨rfl, rfl, rfl, rfl, rfl⟩
  · intro call p
    unfold EventBuilder.now
    split
    · exact Std.Refl.refl p
    · exact ⟨rfl, rfl, rfl, rfl, rfl⟩

/-- A built event is laid out from its call under the next number. -/
theorem build_eq_ok {context : EventContext} {call : EventCall} {p p' : Portal W} {event : Event}
    (h : desk.build context call p = (.ok event, p')) :
    ∃ event_id timestamp,
      event = call.assemble context (p.sequencer.sequence + 1) event_id timestamp := by
  unfold build at h
  rw [Raising.focus_apply] at h
  injection h with hvalue _
  obtain ⟨-, hevent⟩ := EventBuilder.build_eq_ok desk.formats desk.sources
    (Prod.ext hvalue rfl : EventBuilder.build desk.formats desk.sources call (⟨context, 0⟩, p) =
      (.ok event, _))
  exact ⟨_, _, hevent⟩

/-- The event that `_append` adds to the ledger. -/
structure Appends (actor_type : String) (call : Portal W → EventCall) (p p' : Portal W)
    (receipt : Receipt) : Prop where
  exercise_id : p'.exercise_id = p.exercise_id
  run_id : p'.run_id = p.run_id
  elapsed_seconds : p'.elapsed_seconds = p.elapsed_seconds
  added : ∃ event_id timestamp,
    let event := (call p).assemble (context p actor_type) (p.sequencer.sequence + 1) event_id
      timestamp
    p'.rows = sanitized event :: p.rows ∧ receipt = SupportDesk.receipt event false ∧
      ∀ row ∈ p.rows, ¬ Clash row event

theorem OtherStep.of_drawn {formats : FormatChecker} {p p' : Portal W} (h : Drawn p p') :
    OtherStep formats p p' := by
  have heq : p' = { p with
      sequencer := p'.sequencer, state := p.state, elapsed_seconds := p.elapsed_seconds,
      world := p'.world } := by
    obtain ⟨hrows, hexercise, hrun, hstate, htime⟩ := h
    cases p'
    simp_all
  rw [heq]
  exact .moved p'.sequencer p.state p'.world (le_refl _)

/-- The construction and the append inside the `try` of `_append`. -/
theorem record_cases (context : EventContext) (call : EventCall) (p : Portal W) :
    (∃ event p₁ rows, (do
        let event ← desk.build context call
        desk.store event
        return event : Py (Portal W) Event) p = (.ok event, { p₁ with rows := rows }) ∧
      desk.build context call p = (.ok event, p₁) ∧ Drawn p p₁ ∧
      appendEvent desk.formats event p.rows = .ok rows) ∨
    (∃ e p₁, (do
        let event ← desk.build context call
        desk.store event
        return event : Py (Portal W) Event) p = (.error e, p₁) ∧ Drawn p p₁) := by
  have hdrawn := drawn_build desk context call p
  cases hbuild : desk.build context call p with
  | mk result p₁ =>
      rw [hbuild] at hdrawn
      cases result with
      | error e => exact Or.inr ⟨e, p₁, Raising.bind_of_error hbuild, hdrawn⟩
      | ok event =>
          rw [Raising.bind_of_ok hbuild]
          cases hrows : appendEvent desk.formats event p₁.rows with
          | error e =>
              refine Or.inr ⟨e, p₁, Raising.bind_of_error ?_, hdrawn⟩
              unfold store
              rw [hrows]
          | ok rows =>
              have hstore : desk.store event p₁ = (.ok (), { p₁ with rows := rows }) := by
                unfold store
                rw [hrows]
              exact Or.inl ⟨event, p₁, rows, Raising.bind_of_ok hstore, rfl, hdrawn,
                hdrawn.rows ▸ hrows⟩

/-- `_append` adds one event, or it ends by steps of the rest of the service. -/
theorem append_cases (actor_type : String) (call : Portal W → EventCall) (events : List Event)
    (p : Portal W) :
    (∃ receipt p', desk.append actor_type call events p = (.ok receipt, p') ∧
      Consistent events p ∧ Appends actor_type call p p' receipt) ∨
    (∃ e p', desk.append actor_type call events p = (.error e, p') ∧
      Relation.ReflTransGen (OtherStep desk.formats) p p') := by
  unfold append
  rw [Raising.require_bind_apply]
  split
  next hconsistent =>
    rw [Raising.gets_bind_apply, Raising.attempt_bind_apply]
    obtain ⟨event, p₁, rows, hrecord, hbuild, hdrawn, hrows⟩ | ⟨e, p₁, hrecord, hdrawn⟩ :=
      record_cases desk (context p actor_type) (call p) p
    · left
      obtain ⟨event_id, timestamp, hevent⟩ := build_eq_ok desk hbuild
      obtain ⟨hadded, hclash⟩ := appendEvent_eq_ok hrows
      subst hevent
      refine ⟨_, { p₁ with rows := rows }, ?_, hconsistent, hdrawn.exercise_id, hdrawn.run_id,
        hdrawn.elapsed_seconds, event_id, timestamp, hadded, rfl, hclash⟩
      simp only [id, hrecord]
      rfl
    · right
      have hsteps := (Relation.ReflTransGen.single (OtherStep.of_drawn hdrawn)).trans
        (desk.stop_steps "support evidence persistence unavailable"
          (entity "system" "exercise-support" none (some "technical_operator")) p₁)
      simp only [id, hrecord, Raising.attempt_bind_apply]
      generalize desk.fail_safe_stop _ _ p₁ = stopped at hsteps ⊢
      obtain ⟨outcome, p₂⟩ := stopped
      cases outcome with
      | ok u => exact ⟨_, p₂, rfl, hsteps⟩
      | error e' =>
          by_cases hcontroller : e'.type.isA .ControllerError = true
          · exact ⟨_, p₂, congrFun (if_pos hcontroller) p₂, hsteps⟩
          · exact ⟨_, p₂, congrFun (if_neg hcontroller) p₂, hsteps⟩
  next hinconsistent => exact Or.inr ⟨_, p, rfl, .refl⟩

/-! ## The appended event -/

section Appended

variable (context : EventContext) (call : EventCall) (sequence : Nat) (event_id timestamp : String)

/-- The members of the data of support events. -/
def dataFields : List String :=
  ["request_id", "request_key", "response_key", "objective_id", "kind", "text", "elapsed_seconds",
    "run_state"]

theorem dataFields_not_sensitive :
    ∀ k ∈ dataFields, sensitiveKeys.contains (normalizedKey k) = false := by decide

/-- Redaction keeps a text or a number of the data. -/
theorem data_get? {key : String} (hkey : key ∈ dataFields) {j : Json}
    (hj : (call.data.getD []).lookup key = some j) (hplain : redactSensitive j = j) :
    (sanitized (call.assemble context sequence event_id timestamp)).data.get? key = some j := by
  have hclean := dataFields_not_sensitive key hkey
  show (redactSensitive (redactSensitive (.obj (call.data.getD [])))).get? key = _
  rw [get?_redactSensitive hclean, get?_redactSensitive hclean]
  show (((call.data.getD []).lookup key).map redactSensitive).map redactSensitive = _
  rw [hj, Option.map_some, Option.map_some, hplain, hplain]

theorem data_str? {key : String} (hkey : key ∈ dataFields) {s : String}
    (hs : (call.data.getD []).lookup key = some (.str s)) :
    (sanitized (call.assemble context sequence event_id timestamp)).data.str? key = some s := by
  unfold Json.str?
  rw [data_get? context call sequence event_id timestamp hkey hs rfl]

/-- Redaction keeps the keys. -/
theorem hasFields_redactSensitive (j : Json) (fields : List String) :
    HasFields (redactSensitive j) fields ↔ HasFields j fields := by
  cases j with
  | obj ms =>
      have hkeys := EventCall.redactMembers_keys ms
      have hall : ∀ ns : List (String × Json),
          (∀ m ∈ ns, m.1 ∈ fields) ↔ ∀ k ∈ ns.map Prod.fst, k ∈ fields := by
        intro ns
        simp
      simp only [redactSensitive, HasFields, hall, hkeys]
  | arr | null | bool | int | float | str => rfl

theorem data_hasFields {fields : List String} :
    HasFields (sanitized (call.assemble context sequence event_id timestamp)).data fields ↔
      HasFields (.obj (call.data.getD [])) fields := by
  show HasFields (redactSensitive (redactSensitive (.obj (call.data.getD [])))) fields ↔ _
  rw [hasFields_redactSensitive, hasFields_redactSensitive]

theorem actor_str? {key : String} (h : sensitiveKeys.contains (normalizedKey key) = false) :
    (sanitized (call.assemble context sequence event_id timestamp)).actor.str? key =
      (Json.obj call.actor).str? key :=
  str?_redactSensitive h _

theorem target_isEntity {entity_type entity_id : String}
    (h : call.target = some (entity entity_type entity_id none none)) :
    IsEntity (sanitized (call.assemble context sequence event_id timestamp)).target entity_type
      entity_id := by
  have htarget : (sanitized (call.assemble context sequence event_id timestamp)).target =
      redactSensitive (.obj (entity entity_type entity_id none none)) := by
    simp [sanitized, EventCall.assemble, h]
  rw [htarget]
  refine ⟨(hasFields_redactSensitive _ _).mpr ?_, str?_redactSensitive (by decide) _,
    str?_redactSensitive (by decide) _⟩
  simp [HasFields, entity, optionalMember, truthy]

theorem entity_role {entity_type entity_id role : String} (h : role ≠ "") :
    (Json.obj (entity entity_type entity_id none (some role))).str? "role" = some role := by
  simp [entity, truthy, h, optionalMember, Json.str?, Json.get?, List.lookup_cons]

/-- The constant part of the events of the support desk. -/
structure DeskCall : Prop where
  component : context.source_component = Support.component
  visibility : call.visibility = "facilitator"
  phase : call.phase = "control"
  status : call.outcome_status = "success"
  dry_run : call.dry_run = false

variable {context call}

theorem DeskCall.provenance (h : DeskCall context call) {index : SupportIndex}
    (hscope : index.scope = none ∨ index.scope = some (context.exercise_id, context.run_id))
    (hlast : index.last_sequence < sequence) :
    Provenance index (sanitized (call.assemble context sequence event_id timestamp)) := by
  refine ⟨hscope, hlast, ?_, h.visibility, h.phase, ?_, ?_, rfl⟩
  · show (redactSensitive context.source).str? "component" = _
    rw [str?_redactSensitive (by decide), ← h.component]
    simp [EventContext.source, Json.str?, Json.get?, List.lookup_cons]
  · show (redactSensitive call.outcome).str? "status" = _
    rw [str?_redactSensitive (by decide), ← h.status]
    simp [EventCall.outcome, Json.str?, Json.get?]
  · show (redactSensitive (safetyMarker call.dry_run _ _)).get? "dry_run" = _
    rw [get?_redactSensitive (by decide), h.dry_run]
    rfl

end Appended

/-! ## The invariant -/

/-- The index accepts the ledger of the run, and the ledger is as the workflow writes it. -/
structure Agrees (p : Portal W) : Prop where
  accepted : ∃ index, indexEvents p.ledger = .ok index
  clean : Clean p.ledger
  normal : ∀ e ∈ p.ledger, IsSupport e →
    ∃ key, rawKey e = .str key ∧ text (.str key) "retry key" 128 = .ok key
  started : 0 ≤ p.elapsed_seconds
  past : ∀ e ∈ p.ledger, IsSupport e → timeOf e ≤ p.elapsed_seconds

section Agreement

variable {p p' : Portal W} {index : SupportIndex}

theorem mem_ledger {e : Event} (h : e ∈ p.ledger) :
    e ∈ p.rows ∧ e.exercise_id = p.exercise_id ∧ e.run_id = p.run_id := mem_storedEvents.mp h

/-- In a consistent ledger every number is at most that of the sequencer. -/
theorem Consistent.sequence_le (h : Consistent p.ledger p) {e : Event} (he : e ∈ p.ledger) :
    e.sequence ≤ p.sequencer.sequence := by
  have hmem : e.sequence ∈ p.ledger.map Event.sequence := List.mem_map_of_mem he
  rw [h.1, List.mem_map] at hmem
  obtain ⟨i, hi, hsequence⟩ := hmem
  rw [List.mem_range] at hi
  rw [h.2, ← hsequence]
  omega

/-- The index stands at the run and below the next number. -/
theorem scope_and_last (hnotes : Notes p.ledger index) (h : Consistent p.ledger p) :
    (index.scope = none ∨ index.scope = some (p.exercise_id, p.run_id)) ∧
      index.last_sequence < (p.sequencer.sequence + 1 : Nat) := by
  rw [hnotes.scope, hnotes.last]
  cases hlast : (supportEvents p.ledger).getLast? with
  | none =>
      refine ⟨Or.inl rfl, ?_⟩
      simp only [Option.map_none, Option.getD_none]
      omega
  | some e =>
      have he : e ∈ p.ledger := List.mem_of_mem_filter (List.mem_of_getLast? hlast)
      obtain ⟨-, hexercise, hrun⟩ := mem_ledger he
      refine ⟨Or.inr (by simp [hexercise, hrun]), ?_⟩
      have := h.sequence_le he
      simp only [Option.map_some, Option.getD_some]
      omega

/-- A key under which the ledger has no event is not in the index. -/
theorem Agrees.key_unused (h : Agrees p) (hnotes : Notes p.ledger index)
    {event_type actor_id key : String} {key_field : String}
    (hfield : key_field =
      if event_type = requestType then "request_key" else "response_key")
    (hnone : ∀ e ∈ p.ledger, ¬ (e.event_type = event_type ∧ actorId e = actor_id ∧
      e.data.get? key_field = some (.str key))) :
    (event_type, actor_id, key) ∉ index.keys := by
  intro hmem
  rw [← List.mem_reverse, hnotes.keys, List.mem_map] at hmem
  obtain ⟨e, he, hkey⟩ := hmem
  obtain ⟨heledger, hsupport⟩ := List.mem_filter.mp he
  obtain ⟨key', hraw, hnormal⟩ := h.normal e heledger (of_decide_eq_true hsupport)
  simp only [keyOf, hraw, hnormal, Prod.mk.injEq] at hkey
  obtain ⟨htype, hactor, rfl⟩ := hkey
  refine hnone e heledger ⟨htype, hactor, ?_⟩
  rw [hfield, ← htype]
  unfold rawKey at hraw
  cases hget : e.data.get? (if e.event_type = requestType then "request_key" else "response_key") with
  | none =>
      rw [hget] at hraw
      cases hraw
  | some j =>
      rw [hget] at hraw
      exact congrArg some hraw

/-- The ledger after `_append`. -/
theorem Appends.ledger {actor_type : String} {call : Portal W → EventCall} {receipt : Receipt}
    (h : Appends actor_type call p p' receipt) (hconsistent : Consistent p.ledger p) :
    ∃ event_id timestamp,
      let event := (call p).assemble (context p actor_type) (p.sequencer.sequence + 1) event_id
        timestamp
      p'.ledger = p.ledger ++ [sanitized event] ∧ receipt = SupportDesk.receipt event false ∧
        ∀ row ∈ p.rows, row.event_id ≠ event_id := by
  obtain ⟨event_id, timestamp, hrows, hreceipt, hclash⟩ := h.added
  refine ⟨event_id, timestamp, ?_, hreceipt, fun row hrow hid => hclash row hrow (Or.inl hid)⟩
  have hsame : (sanitized ((call p).assemble (context p actor_type) (p.sequencer.sequence + 1)
      event_id timestamp)).exercise_id = p.exercise_id ∧
      (sanitized ((call p).assemble (context p actor_type) (p.sequencer.sequence + 1) event_id
        timestamp)).run_id = p.run_id := ⟨rfl, rfl⟩
  unfold Portal.ledger
  rw [hrows, h.exercise_id, h.run_id, storedEvents_cons hsame]
  refine orderedInsert_of_forall_lt fun e he => ?_
  have := hconsistent.sequence_le he
  show e.sequence < ((p.sequencer.sequence + 1 : Nat) : Int)
  omega

/-- An appended support event that the index accepts keeps the agreement. -/
theorem Agrees.append (h : Agrees p) {index : SupportIndex}
    (hindex : indexEvents p.ledger = .ok index) {event : Event}
    (hledger : p'.ledger = p.ledger ++ [event]) (htime : p'.elapsed_seconds = p.elapsed_seconds)
    (haccepted : ∃ index', indexEvent index event = .ok index') (hsupport : IsSupport event)
    (hkey : ∃ key, rawKey event = .str key ∧ text (.str key) "retry key" 128 = .ok key)
    (hnow : timeOf event = p.elapsed_seconds) : Agrees p' := by
  have hmem : ∀ {Q : Event → Prop}, (∀ e ∈ p.ledger, Q e) → Q event → ∀ e ∈ p'.ledger, Q e := by
    intro Q hold hnew e he
    rw [hledger, List.mem_append, List.mem_singleton] at he
    rcases he with he | rfl
    · exact hold e he
    · exact hnew
  constructor
  · obtain ⟨index', hindex'⟩ := haccepted
    refine ⟨index', ?_⟩
    unfold indexEvents at hindex ⊢
    rw [hledger, List.foldlM_append, hindex]
    simp [bind, Except.bind, hindex', pure, Except.pure]
  · exact hmem h.clean (Or.inl hsupport)
  · exact hmem h.normal fun _ => hkey
  · exact htime ▸ h.started
  · rw [htime]
    exact hmem h.past fun _ => hnow.le

/-- The rest of the service keeps the agreement. -/
theorem Agrees.other {formats : FormatChecker} (h : Agrees p) (hstep : OtherStep formats p p') :
    Agrees p' := by
  cases hstep with
  | moved sequencer state world htime =>
      exact ⟨h.accepted, h.clean, h.normal, h.started.trans htime,
        fun e he hsupport => (h.past e he hsupport).trans htime⟩
  | @reset run_id hunused =>
      have hempty : Portal.ledger
          { p with run_id := run_id, state := .ready, elapsed_seconds := 0 } = [] := hunused
      constructor
      · exact ⟨_, by rw [hempty]; rfl⟩
      · exact fun e he => absurd (hempty ▸ he) List.not_mem_nil
      · exact fun e he => absurd (hempty ▸ he) List.not_mem_nil
      · exact le_refl _
      · exact fun e he => absurd (hempty ▸ he) List.not_mem_nil
  | @produced event rows hforeign hrows =>
      obtain ⟨rfl, -⟩ := appendEvent_eq_ok hrows
      have hnew : Foreign (sanitized event) := by
        refine ⟨hforeign.1, ?_⟩
        show (redactSensitive event.source).str? "component" ≠ _
        rw [str?_redactSensitive (by decide)]
        exact hforeign.2
      by_cases hrun : (sanitized event).exercise_id = p.exercise_id ∧
          (sanitized event).run_id = p.run_id
      · have hledger : Portal.ledger { p with rows := sanitized event :: p.rows } =
            p.ledger.orderedInsert (fun a b => a.sequence ≤ b.sequence) (sanitized event) :=
          storedEvents_cons hrun
        have hclean : Clean (Portal.ledger { p with rows := sanitized event :: p.rows }) := by
          intro e he
          rw [hledger, List.mem_orderedInsert] at he
          rcases he with rfl | he
          · exact Or.inr hnew
          · exact h.clean e he
        have hmem : ∀ e ∈ Portal.ledger { p with rows := sanitized event :: p.rows },
            IsSupport e → e ∈ p.ledger := by
          intro e he hsupport
          rw [hledger, List.mem_orderedInsert] at he
          exact he.resolve_left fun heq => hnew.1 (heq ▸ hsupport)
        constructor
        · obtain ⟨index, hindex⟩ := h.accepted
          refine ⟨index, ?_⟩
          rw [indexEvents_supportEvents hclean, hledger, supportEvents_orderedInsert hnew.1,
            ← indexEvents_supportEvents h.clean]
          exact hindex
        · exact hclean
        · exact fun e he hsupport => h.normal e (hmem e he hsupport) hsupport
        · exact h.started
        · exact fun e he hsupport => h.past e (hmem e he hsupport) hsupport
      · have hledger : Portal.ledger { p with rows := sanitized event :: p.rows } = p.ledger :=
          storedEvents_cons_of_ne hrun
        constructor
        · rw [hledger]
          exact h.accepted
        · rw [hledger]
          exact h.clean
        · rw [hledger]
          exact h.normal
        · exact h.started
        · rw [hledger]
          exact h.past

end Agreement

end SupportDesk

end NetStrike.Dashboard
