import NetStrike.Foundation.Runs
import NetStrike.Shared.EventSchema

/-!
# Event builders

`EventSequencer` and `EventBuilder` of `shared/events.py`. `EventCall` is the list of keyword
arguments of `EventBuilder.build` and `EventCall.assemble` the event that they describe.
`EventCall.Accepted` says on the arguments alone when the schema accepts that event
(`assemble_wellFormed_iff`), and `build_apply` is the behaviour of `build` in every case.
-/

set_option autoImplicit false

namespace NetStrike.Shared

open NetStrike.Foundation

/-! ## Arguments of a build -/

/-- `EventContext`. -/
structure EventContext where
  exercise_id : String
  run_id : String
  source_kind : String
  source_component : String
  producer_version : String
  source_host : Option String
deriving DecidableEq

/-- The keyword arguments of `EventBuilder.build`. -/
structure EventCall where
  event_type : String
  phase : String
  actor : List (String × Json)
  action : String
  target : Option (List (String × Json))
  outcome_status : String
  message : String
  severity : String := "info"
  visibility : String := "participant"
  outcome_reason : Option String := none
  dry_run : Bool := false
  within_allowlist : Bool := true
  safety_controls : List String := []
  data : Option (List (String × Json)) := none
  attack_technique_id : Option String := none
  attack_tactic : Option String := none
  objective_ids : List String := []
  checkpoint_id : Option String := none
  correlation_ids : List String := []
  raw_data_ref : Option String := none
  extensions : Option (List (String × Json)) := none
  source_event_id : Option String := none
  integrity_sha256 : Option String := none
  timestamp : Option DateTime := none
  event_id : Option String := none
deriving DecidableEq

/-- `sorted(set(values))`. -/
def sortedSet (values : List String) : List String :=
  values.dedup.insertionSort fun a b => a ≤ b

@[simp] theorem mem_sortedSet (a : String) (values : List String) :
    a ∈ sortedSet values ↔ a ∈ values := by
  simp [sortedSet]

theorem sortedSet_nodup (values : List String) : (sortedSet values).Nodup :=
  (List.perm_insertionSort _ _).nodup_iff.mpr values.nodup_dedup

/-- `list(dict.fromkeys(values))`: the first occurrences in order. -/
def firstOccurrences (values : List String) : List String := values.reverse.dedup.reverse

@[simp] theorem mem_firstOccurrences (a : String) (values : List String) :
    a ∈ firstOccurrences values ↔ a ∈ values := by
  simp [firstOccurrences]

theorem firstOccurrences_nodup (values : List String) : (firstOccurrences values).Nodup := by
  rw [firstOccurrences, List.nodup_reverse]
  exact values.reverse.nodup_dedup

/-- `safety_marker`. -/
def safetyMarker (dry_run within_allowlist : Bool) (controls : List String) : Json :=
  .obj [("simulation_only", .bool true), ("dry_run", .bool dry_run),
    ("within_allowlist", .bool within_allowlist), ("destructive", .bool false),
    ("controls", Json.strs (sortedSet controls))]

/-- The source of an event. -/
def EventContext.source (context : EventContext) : Json :=
  .obj ([("kind", .str context.source_kind), ("component", .str context.source_component)] ++
    optionalMember "host" ((truthy context.source_host).map .str))

namespace EventCall

/-- The outcome of an event. -/
def outcome (call : EventCall) : Json :=
  .obj ([("status", .str call.outcome_status)] ++
    optionalMember "reason" ((truthy call.outcome_reason).map .str))

/-- The provenance of an event. -/
def provenance (call : EventCall) (context : EventContext) : Json :=
  .obj ([("producer", .str context.source_component),
      ("producer_version", .str context.producer_version)] ++
    optionalMember "source_event_id" ((truthy call.source_event_id).map .str) ++
    optionalMember "integrity" ((truthy call.integrity_sha256).map fun digest =>
      .obj [("algorithm", .str "sha256"), ("digest", .str digest)]))

/-- The attack mapping, set when both fields are nonempty. -/
def attack (call : EventCall) : Option Json :=
  match truthy call.attack_technique_id, truthy call.attack_tactic with
  | some technique_id, some tactic =>
      some (.obj [("technique_id", .str technique_id), ("tactic", .str tactic)])
  | _, _ => none

/-- The event that `build` lays out before validation. -/
def assemble (call : EventCall) (context : EventContext) (next_sequence : Nat)
    (event_id timestamp : String) : Event where
  schema_version := "1.0.0"
  event_id := event_id
  timestamp := timestamp
  exercise_id := context.exercise_id
  run_id := context.run_id
  sequence := next_sequence
  event_type := call.event_type
  phase := call.phase
  source := context.source
  actor := .obj call.actor
  action := call.action
  target := match call.target with
    | some target => .obj target
    | none => .null
  outcome := call.outcome
  severity := call.severity
  visibility := call.visibility
  safety := safetyMarker call.dry_run call.within_allowlist call.safety_controls
  provenance := call.provenance context
  message := call.message
  objective_ids := sortedSet call.objective_ids
  checkpoint_id := call.checkpoint_id
  correlation_ids := firstOccurrences call.correlation_ids
  raw_data_ref := call.raw_data_ref
  data := redactSensitive (.obj (call.data.getD []))
  extensions := redactSensitive (.obj (call.extensions.getD []))
  attack := call.attack

/-- `build` refuses one attack field without the other before anything else. -/
def Paired (call : EventCall) : Prop :=
  call.attack_technique_id.isNone = call.attack_tactic.isNone

instance (call : EventCall) : Decidable call.Paired :=
  inferInstanceAs (Decidable (call.attack_technique_id.isNone = call.attack_tactic.isNone))

/-- What the schema asks of the arguments of a build. -/
structure Accepted (formats : FormatChecker) (context : EventContext) (call : EventCall)
    (event_id timestamp : String) : Prop where
  event_id : formats.uuid event_id = true
  timestamp : formats.dateTime timestamp = true ∧ endsWithZPattern.search timestamp = true
  exercise_id : EventSchema.correlationId.valid (.str context.exercise_id) = true
  run_id : EventSchema.correlationId.valid (.str context.run_id) = true
  event_type : EventSchema.eventName.valid (.str call.event_type) = true
  phase : call.phase ∈ EventSchema.phases
  source : EventSchema.source.valid context.source = true
  actor : EventSchema.entity.valid (.obj call.actor) = true
  action : EventSchema.eventName.valid (.str call.action) = true
  target : ∀ target, call.target = some target → EventSchema.entity.valid (.obj target) = true
  outcome : EventSchema.outcome.valid call.outcome = true
  severity : call.severity ∈ EventSchema.severities
  visibility : call.visibility ∈ EventSchema.visibilities
  safety_controls : ∀ control ∈ call.safety_controls, 1 ≤ control.length ∧ control.length ≤ 128
  provenance : (EventSchema.provenance formats).valid (call.provenance context) = true
  message : 1 ≤ call.message.length ∧ call.message.length ≤ 2048
  objective_ids : ∀ objective ∈ call.objective_ids,
    (numberedPattern "LO").search objective = true
  checkpoint_id : ∀ checkpoint, call.checkpoint_id = some checkpoint →
    (numberedPattern "DP").search checkpoint = true
  correlation_ids : ∀ id ∈ call.correlation_ids, EventSchema.correlationId.valid (.str id) = true
  raw_data_ref : ∀ ref, call.raw_data_ref = some ref → formats.uriReference ref = true
  extensions : ∀ m ∈ call.extensions.getD [], extensionNamePattern.search m.1 = true
  attack : ∀ attack, call.attack = some attack → EventSchema.attack.valid attack = true

theorem safetyMarker_valid (dry_run within_allowlist : Bool) (controls : List String) :
    EventSchema.safety.valid (safetyMarker dry_run within_allowlist controls) = true ↔
      ∀ control ∈ controls, 1 ≤ control.length ∧ control.length ≤ 128 := by
  unfold EventSchema.safety safetyMarker
  rw [Schema.valid_closedObject]
  simp only [Schema.validMembers, List.lookup_cons, String.reduceBEq, Schema.valid_stringSet,
    Bool.and_eq_true, Schema.valid_text, sortedSet_nodup]
  simp [JsonType.admits]

/-- A nonempty reason has at most 1024 characters. -/
theorem outcome_valid (call : EventCall) :
    EventSchema.outcome.valid call.outcome = true ↔
      call.outcome_status ∈ EventSchema.outcomeStatuses ∧
        ∀ reason, truthy call.outcome_reason = some reason →
          1 ≤ reason.length ∧ reason.length ≤ 1024 := by
  unfold EventSchema.outcome outcome
  rw [Schema.valid_closedObject]
  cases hreason : truthy call.outcome_reason with
  | none =>
      simp [List.lookup_cons, optionalMember, enumStrings_valid]
  | some reason =>
      simp [List.lookup_cons, optionalMember, enumStrings_valid, Schema.valid_text]

theorem redactMembers_keys (ms : List (String × Json)) :
    (redactMembers ms).map Prod.fst = ms.map Prod.fst := by
  induction ms with
  | nil => rfl
  | cons m ms ih => simp [redactMembers, ih]

/-- Redaction keeps the keys, so the names of extensions are the given ones. -/
theorem extensions_valid (ms : List (String × Json)) :
    (Schema.allOf [.type [.object], .propertyNames (.pattern extensionNamePattern)]).valid
        (redactSensitive (.obj ms)) = true ↔
      ∀ m ∈ ms, extensionNamePattern.search m.1 = true := by
  have hkeys : ∀ p : String → Prop, (∀ m ∈ redactMembers ms, p m.1) ↔ ∀ m ∈ ms, p m.1 := by
    intro p
    have h := redactMembers_keys ms
    constructor
    · intro hr m hm
      have : m.1 ∈ (redactMembers ms).map Prod.fst := h ▸ List.mem_map_of_mem hm
      obtain ⟨n, hn, hnm⟩ := List.mem_map.mp this
      exact hnm ▸ hr n hn
    · intro hs m hm
      have : m.1 ∈ ms.map Prod.fst := h ▸ List.mem_map_of_mem hm
      obtain ⟨n, hn, hnm⟩ := List.mem_map.mp this
      exact hnm ▸ hs n hn
  simpa [redactSensitive, JsonType.admits] using
    hkeys fun k => extensionNamePattern.search k = true

theorem attack_isObj {call : EventCall} {a : Json} (h : call.attack = some a) :
    ∃ ms, a = .obj ms := by
  unfold attack at h
  split at h
  · exact ⟨_, (Option.some.inj h).symm⟩
  · cases h

theorem schemaVersion_valid : (patternString schemaVersionPattern).valid (.str "1.0.0") = true := by
  decide

/-- The schema accepts the laid out event exactly when the arguments are acceptable. -/
theorem assemble_wellFormed_iff (formats : FormatChecker) (context : EventContext)
    (call : EventCall) {next_sequence : Nat} (hseq : 0 < next_sequence)
    (event_id timestamp : String) :
    (call.assemble context next_sequence event_id timestamp).WellFormed formats ↔
      call.Accepted formats context event_id timestamp := by
  constructor
  · intro h
    exact {
      event_id := by simpa [assemble, JsonType.admits] using h.event_id
      timestamp := by
        simpa [assemble, EventSchema.utcDateTime, JsonType.admits]
          using h.timestamp
      exercise_id := h.exercise_id
      run_id := h.run_id
      event_type := h.event_type
      phase := (enumStrings_valid _ _).mp h.phase
      source := h.source
      actor := h.actor
      action := h.action
      target := fun target ht => by
        have := h.target
        simp only [assemble, ht] at this
        rwa [Schema.valid_oneOf_null_obj] at this
      outcome := h.outcome
      severity := (enumStrings_valid _ _).mp h.severity
      visibility := (enumStrings_valid _ _).mp h.visibility
      safety_controls := (safetyMarker_valid _ _ _).mp h.safety
      provenance := h.provenance
      message := (Schema.valid_text _ _ _).mp h.message
      objective_ids := by
        have := ((Schema.valid_stringSet _ _).mp h.objective_ids).1
        simpa [assemble, patternString_valid] using this
      checkpoint_id := fun checkpoint hc => by
        have := h.checkpoint_id
        simp only [assemble, hc, nullable] at this
        rwa [Schema.valid_oneOf_null_str, patternString_valid] at this
      correlation_ids := by
        have := ((Schema.valid_stringSet _ _).mp h.correlation_ids).1
        simpa [assemble] using this
      raw_data_ref := fun ref hr => by
        have := h.raw_data_ref
        simp only [assemble, hr, nullable] at this
        rw [Schema.valid_oneOf_null_str] at this
        simpa [JsonType.admits] using this
      extensions := (extensions_valid _).mp h.extensions
      attack := fun a ha => by
        obtain ⟨ms, rfl⟩ := attack_isObj ha
        rw [← Schema.valid_oneOf_null_obj]
        exact h.attack _ ha }
  · intro h
    exact {
      schema_version := schemaVersion_valid
      event_id := by simpa [assemble, JsonType.admits] using h.event_id
      timestamp := by
        simpa [assemble, EventSchema.utcDateTime, JsonType.admits]
          using h.timestamp
      exercise_id := h.exercise_id
      run_id := h.run_id
      sequence := by
        have : (1 : Int) ≤ next_sequence := by omega
        simp [assemble, JsonType.admits, this]
      event_type := h.event_type
      phase := (enumStrings_valid _ _).mpr h.phase
      source := h.source
      actor := h.actor
      action := h.action
      target := by
        cases ht : call.target with
        | none => simp [assemble, ht, EventSchema.entity,
            Schema.closedObject, JsonType.admits]
        | some target =>
            simp only [assemble, ht]
            rw [Schema.valid_oneOf_null_obj]
            exact h.target target ht
      outcome := h.outcome
      severity := (enumStrings_valid _ _).mpr h.severity
      visibility := (enumStrings_valid _ _).mpr h.visibility
      safety := (safetyMarker_valid _ _ _).mpr h.safety_controls
      provenance := h.provenance
      message := (Schema.valid_text _ _ _).mpr h.message
      objective_ids := by
        refine (Schema.valid_stringSet _ _).mpr ⟨?_, sortedSet_nodup _⟩
        simpa [assemble, patternString_valid] using h.objective_ids
      checkpoint_id := by
        cases hc : call.checkpoint_id with
        | none => simp [assemble, hc, nullable, patternString,
            JsonType.admits]
        | some checkpoint =>
            simp only [assemble, hc, nullable]
            rw [Schema.valid_oneOf_null_str, patternString_valid]
            exact h.checkpoint_id checkpoint hc
      correlation_ids := by
        refine (Schema.valid_stringSet _ _).mpr ⟨?_, firstOccurrences_nodup _⟩
        simpa [assemble] using h.correlation_ids
      raw_data_ref := by
        cases hr : call.raw_data_ref with
        | none => simp [assemble, hr, nullable, JsonType.admits]
        | some ref =>
            simp only [assemble, hr, nullable]
            rw [Schema.valid_oneOf_null_str]
            simpa [JsonType.admits] using h.raw_data_ref ref hr
      data := by simp [assemble, redactSensitive, JsonType.admits]
      extensions := (extensions_valid _).mpr h.extensions
      attack := fun a ha => by
        have hv := h.attack a ha
        obtain ⟨ms, rfl⟩ := attack_isObj ha
        rw [Schema.valid_oneOf_null_obj]
        exact hv }

end EventCall

/-! ## Sequencers and builders -/

/-- `EventSequencer`; the negative starting number that the constructor refuses is excluded. -/
structure EventSequencer where
  sequence : Nat
deriving DecidableEq

/-- `EventSequencer.next`. -/
def EventSequencer.next (s : EventSequencer) : Nat × EventSequencer :=
  (s.sequence + 1, ⟨s.sequence + 1⟩)

/-- `EventSequencer.reset`. -/
def EventSequencer.reset (_ : EventSequencer) (start_sequence : Nat) : EventSequencer :=
  ⟨start_sequence⟩

/-- The state of an `EventBuilder`: its context and the private counter. -/
structure EventBuilder where
  context : EventContext
  sequence : Nat
deriving DecidableEq

/-- The collaborators of a builder, acting on a world `W`. -/
structure EventSources (W : Type) where
  sequence_factory : Option (W → Nat × W)
  clock : W → DateTime × W
  event_id_factory : W → String × W

namespace EventBuilder

variable {W : Type} (formats : FormatChecker) (src : EventSources W)

/-- The next number: from the factory where there is one, else one above the private counter. -/
def nextSequence (b : EventBuilder) (w : W) : Nat × W :=
  match src.sequence_factory with
  | some factory => factory w
  | none => (b.sequence + 1, w)

/-- `event_id or str(self._event_id_factory())`. -/
def eventId (call : EventCall) (w : W) : String × W :=
  match truthy call.event_id with
  | some event_id => (event_id, w)
  | none => src.event_id_factory w

/-- `timestamp or self._clock()`. -/
def now (call : EventCall) (w : W) : DateTime × W :=
  match call.timestamp with
  | some timestamp => (timestamp, w)
  | none => src.clock w

/-- `EventBuilder.build`. -/
def build (call : EventCall) : Py (EventBuilder × W) Event := do
  Raising.require (fun _ => call.Paired) fun _ => .of .EventContractError
    "attack_technique_id and attack_tactic must be supplied together"
  let next_sequence ← Raising.step fun s =>
    ((nextSequence src s.1 s.2).1, (s.1, (nextSequence src s.1 s.2).2))
  Raising.require (fun s => s.1.sequence < next_sequence) fun _ => .of .EventContractError
    "sequence_factory must return strictly increasing positive integers"
  let event_id ← Raising.step fun s => ((eventId src call s.2).1, (s.1, (eventId src call s.2).2))
  let moment ← Raising.step fun s => ((now src call s.2).1, (s.1, (now src call s.2).2))
  let timestamp ← Raising.ofExcept (formatTimestamp moment)
  let context ← Raising.gets fun s => s.1.context
  let event := call.assemble context next_sequence event_id timestamp
  Raising.ofExcept (EventValidator.validate formats event.toJson)
  Raising.modify fun s => ({ s.1 with sequence := next_sequence }, s.2)
  return event

/-! ## What a build does -/

/-- The conditions under which `build` returns an event. -/
structure Builds (call : EventCall) (b : EventBuilder) (w : W) : Prop where
  paired : call.Paired
  increasing : b.sequence < (nextSequence src b w).1
  aware : (now src call (eventId src call (nextSequence src b w).2).2).1.aware = true
  accepted : call.Accepted formats b.context (eventId src call (nextSequence src b w).2).1
    (now src call (eventId src call (nextSequence src b w).2).2).1.isoformat

theorem validate_event (e : Event) (h : e.schema_version = "1.0.0") :
    EventValidator.validate formats e.toJson =
      if (eventSchema formats).valid e.toJson then .ok ()
      else .error (.of .EventValidationError "event schema validation failed") := by
  have hmajor : schemaMajor (e.toJson.get? "schema_version") = .ok 1 := by
    have hget : e.toJson.get? "schema_version" = some (.str "1.0.0") := by
      simp [Event.toJson, Json.get?, h]
    rw [hget]
    decide
  unfold EventValidator.validate
  rw [hmajor]
  rfl

/-- `build` returns the assembled event and remembers its number. -/
theorem build_of_builds {call : EventCall} {b : EventBuilder} {w : W}
    (h : Builds formats src call b w) :
    build formats src call (b, w) =
      (.ok (call.assemble b.context (nextSequence src b w).1
          (eventId src call (nextSequence src b w).2).1
          (now src call (eventId src call (nextSequence src b w).2).2).1.isoformat),
        ({ b with sequence := (nextSequence src b w).1 },
          (now src call (eventId src call (nextSequence src b w).2).2).2)) := by
  have hvalid := (eventSchema_valid_iff formats _).mpr
    ((EventCall.assemble_wellFormed_iff formats b.context call
      (Nat.zero_lt_of_lt h.increasing) _ _).mpr h.accepted)
  simp only [build, Raising.require_bind_apply, Raising.step_bind_apply,
    Raising.gets_bind_apply, Raising.ofExcept_bind_apply, formatTimestamp]
  rw [if_pos h.paired, if_pos h.increasing, if_pos h.aware]
  dsimp only
  rw [validate_event _ _ rfl, if_pos hvalid]
  rfl

/-- A build that returns no event raises a contract error and leaves the builder as it is. Only a
build with unpaired attack fields leaves the sources untouched too. -/
theorem build_of_not_builds {call : EventCall} {b : EventBuilder} {w : W}
    (h : ¬ Builds formats src call b w) :
    ∃ e w', build formats src call (b, w) = (.error e, (b, w')) ∧
      e.type.isA .EventContractError = true ∧
      w' =
        if call.Paired then
          if b.sequence < (nextSequence src b w).1 then
            (now src call (eventId src call (nextSequence src b w).2).2).2
          else (nextSequence src b w).2
        else w := by
  simp only [build, Raising.require_bind_apply, Raising.step_bind_apply,
    Raising.gets_bind_apply, Raising.ofExcept_bind_apply, formatTimestamp]
  by_cases hpaired : call.Paired
  · rw [if_pos hpaired, if_pos hpaired]
    by_cases hincreasing : b.sequence < (nextSequence src b w).1
    · rw [if_pos hincreasing, if_pos hincreasing]
      by_cases haware :
          (now src call (eventId src call (nextSequence src b w).2).2).1.aware = true
      · rw [if_pos haware]
        dsimp only
        have hinvalid : ¬ (eventSchema formats).valid
            (call.assemble b.context (nextSequence src b w).1
              (eventId src call (nextSequence src b w).2).1
              (now src call (eventId src call (nextSequence src b w).2).2).1.isoformat).toJson
            = true := by
          intro hvalid
          have hwell := (eventSchema_valid_iff formats _).mp hvalid
          exact h ⟨hpaired, hincreasing, haware,
            (EventCall.assemble_wellFormed_iff formats b.context call
              (Nat.zero_lt_of_lt hincreasing) _ _).mp hwell⟩
        rw [validate_event _ _ rfl, if_neg hinvalid]
        exact ⟨_, _, rfl, rfl, rfl⟩
      · rw [if_neg haware]
        exact ⟨_, _, rfl, rfl, rfl⟩
    · rw [if_neg hincreasing, if_neg hincreasing]
      exact ⟨_, _, rfl, rfl, rfl⟩
  · rw [if_neg hpaired, if_neg hpaired]
    exact ⟨_, _, rfl, rfl, rfl⟩

/-- The build of an event that meets the schema is not refused by the validator. -/
theorem build_error_of_valid {call : EventCall} {b : EventBuilder} {w : W}
    (hvalid : (eventSchema formats).valid (call.assemble b.context (nextSequence src b w).1
      (eventId src call (nextSequence src b w).2).1
      (now src call (eventId src call (nextSequence src b w).2).2).1.isoformat).toJson = true)
    {e : Exn} {s : EventBuilder × W} (h : build formats src call (b, w) = (.error e, s)) :
    e.type ≠ .EventValidationError := by
  simp only [build, Raising.require_bind_apply, Raising.step_bind_apply,
    Raising.gets_bind_apply, Raising.ofExcept_bind_apply, formatTimestamp] at h
  by_cases hpaired : call.Paired
  · rw [if_pos hpaired] at h
    by_cases hincreasing : b.sequence < (nextSequence src b w).1
    · rw [if_pos hincreasing] at h
      by_cases haware :
          (now src call (eventId src call (nextSequence src b w).2).2).1.aware = true
      · rw [if_pos haware] at h
        dsimp only at h
        rw [validate_event _ _ rfl, if_pos hvalid] at h
        cases h
      · rw [if_neg haware] at h
        cases h
        exact fun heq => nomatch heq
    · rw [if_neg hincreasing] at h
      cases h
      exact fun heq => nomatch heq
  · rw [if_neg hpaired] at h
    cases h
    exact fun heq => nomatch heq

/-- A returned event is the assembled one, from arguments that meet the conditions. -/
theorem build_eq_ok {call : EventCall} {b : EventBuilder} {w : W} {e : Event}
    {s : EventBuilder × W} (h : build formats src call (b, w) = (.ok e, s)) :
    Builds formats src call b w ∧
      e = call.assemble b.context (nextSequence src b w).1
        (eventId src call (nextSequence src b w).2).1
        (now src call (eventId src call (nextSequence src b w).2).2).1.isoformat := by
  by_cases hb : Builds formats src call b w
  · rw [build_of_builds formats src hb] at h
    injection h with h1 _
    injection h1 with h1
    exact ⟨hb, h1.symm⟩
  · obtain ⟨e', w', h', -, -⟩ := build_of_not_builds formats src hb
    rw [h'] at h
    injection h with h1 _
    cases h1

/-- A build keeps a relation on the world that its collaborators keep. -/
theorem build_keeps {R : W → W → Prop} [Std.Refl R] [IsTrans W R]
    (hsequence : ∀ b w, R w (nextSequence src b w).2) (hid : ∀ call w, R w (eventId src call w).2)
    (hnow : ∀ call w, R w (now src call w).2) (call : EventCall) (b : EventBuilder) (w : W) :
    R w (build formats src call (b, w)).2.2 := by
  have hdrawn : R w (now src call (eventId src call (nextSequence src b w).2).2).2 :=
    Trans.trans (Trans.trans (hsequence b w) (hid call _)) (hnow call _)
  by_cases h : Builds formats src call b w
  · rw [build_of_builds formats src h]
    exact hdrawn
  · obtain ⟨e, w', heq, -, rfl⟩ := build_of_not_builds formats src h
    rw [heq]
    dsimp only
    split
    · split
      · exact hdrawn
      · exact hsequence b w
    · exact Std.Refl.refl w

end EventBuilder

end NetStrike.Shared
