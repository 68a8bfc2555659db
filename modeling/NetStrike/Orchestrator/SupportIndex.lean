import Mathlib.Logic.Function.Basic
import NetStrike.Shared.Events

/-!
# The support index

`orchestrator/support.py`. `supportIndex` replays the request and reply events of a ledger and
refuses it at the first one whose provenance, order or correlation is wrong. The loop is a monadic
fold of `indexEvent`, whose state `SupportIndex` holds the local variables of the source.

The events are such as the event schema admits; a member that the schema requires is read without
an error for its absence.
-/

set_option autoImplicit false

namespace NetStrike.Orchestrator

open NetStrike.Foundation NetStrike.Shared

namespace Support

/-! ## Vocabulary -/

/-- `LEARNER_ROLES`. -/
def learnerRoles : List String :=
  ["incident_lead", "soc_analyst", "identity_responder", "endpoint_responder", "cloud_responder"]

/-- `OBJECTIVE_IDS`. -/
def objectiveIds : List String := ["LO1", "LO2", "LO3", "LO4", "LO5"]

/-- `KINDS`. -/
def kinds : List String := ["hint", "clarification", "platform_issue"]

/-- `COMPONENT`. -/
def component : String := "exercise-support"

/-- `REQUEST`. -/
def requestType : String := "exercise.support.requested"

/-- `RESPONSE`. -/
def responseType : String := "exercise.support.responded"

/-- `MAX_REQUESTS`. -/
def maxRequests : Nat := 50

/-- `MAX_ACTOR_REQUESTS`. -/
def maxActorRequests : Nat := 10

/-- The control characters that `text` refuses. -/
def isControl (c : Char) : Bool := c.toNat < 32 && !(c == '\n' || c == '\r' || c == '\t')

/-- What `text` asks of a string. -/
def Plain (maximum : Nat) (s : String) : Prop :=
  ¬ Blank s ∧ s.length ≤ maximum ∧ s.toList.all (fun c => !isControl c) = true

instance (maximum : Nat) (s : String) : Decidable (Plain maximum s) :=
  inferInstanceAs (Decidable (_ ∧ _))

/-- `text`: plain text without the blanks around it. -/
def text (value : Json) (field : String) (maximum : Nat) : Except Exn String :=
  match value with
  | .str s =>
      if Plain maximum s then .ok (strip s)
      else .error (.of .ValueError s!"invalid support {field}")
  | _ => .error (.of .ValueError s!"invalid support {field}")

theorem text_eq_ok {value : Json} {field : String} {maximum : Nat} {s : String}
    (h : text value field maximum = .ok s) :
    ∃ t, value = .str t ∧ Plain maximum t ∧ s = strip t := by
  unfold text at h
  split at h
  next t =>
    split at h
    next hplain =>
      injection h with h
      exact ⟨t, rfl, hplain, h.symm⟩
    · cases h
  · cases h

/-- What `text` returns it accepts unchanged. -/
theorem text_normal {value : Json} {field : String} {maximum : Nat} {s : String}
    (h : text value field maximum = .ok s) (field' : String) :
    text (.str s) field' maximum = .ok s := by
  obtain ⟨t, -, ⟨hblank, hlength, hcontrol⟩, rfl⟩ := text_eq_ok h
  have hplain : Plain maximum (strip t) := by
    refine ⟨?_, (length_strip_le t).trans hlength, ?_⟩
    · rwa [Blank, strip_strip]
    · rw [List.all_eq_true] at hcontrol ⊢
      exact fun c hc => hcontrol c ((strip_within t).subset hc)
  simp only [text]
  rw [if_pos hplain, strip_strip]

/-- The strings of a list of strings. -/
def stringItems : Json → Option (List String)
  | .arr items => items.mapM fun j => match j with
    | .str s => some s
    | _ => none
  | _ => none

/-- `objectives`: one to five distinct objectives, sorted. -/
def objectives (values : Json) : Except Exn (List String) :=
  match stringItems values with
  | some ids =>
      if (1 ≤ ids.length ∧ ids.length ≤ 5) ∧ (∀ v ∈ ids, v ∈ objectiveIds) ∧ ids.Nodup then
        .ok (ids.insertionSort fun a b => a ≤ b)
      else .error (.of .ValueError "invalid support objective scope")
  | none => .error (.of .ValueError "invalid support objective scope")

theorem stringItems_strs (ids : List String) : stringItems (Json.strs ids) = some ids := by
  simp only [stringItems, Json.strs]
  induction ids with
  | nil => rfl
  | cons id ids ih =>
      rw [List.map_cons, List.mapM_cons, ih]
      rfl

/-- What `objectives` returns is in normal form, and it accepts that unchanged. -/
theorem objectives_normal {values : Json} {ids : List String} (h : objectives values = .ok ids) :
    sortedSet ids = ids ∧ objectives (Json.strs ids) = .ok ids := by
  unfold objectives at h
  split at h
  next given hgiven =>
    split at h
    next hvalid =>
      obtain ⟨⟨hpos, hmax⟩, hmem, hnodup⟩ := hvalid
      injection h with h
      have hperm : ids.Perm given := h ▸ List.perm_insertionSort _ given
      have hnodup' : ids.Nodup := hperm.nodup_iff.mpr hnodup
      have hsorted : ids.insertionSort (fun a b => a ≤ b) = ids := by
        rw [← h]
        exact (List.pairwise_insertionSort _ given).insertionSort_eq
      constructor
      · rw [sortedSet, List.Nodup.dedup hnodup', hsorted]
      · unfold objectives
        rw [stringItems_strs]
        have hvalid' : (1 ≤ ids.length ∧ ids.length ≤ 5) ∧ (∀ v ∈ ids, v ∈ objectiveIds) ∧
            ids.Nodup :=
          ⟨hperm.length_eq ▸ ⟨hpos, hmax⟩, fun v hv => hmem v (hperm.mem_iff.mp hv), hnodup'⟩
        dsimp only
        rw [if_pos hvalid', hsorted]
    · cases h
  · cases h

/-! ## Records -/

/-- The reply of a record. -/
structure Reply where
  event_id : String
  kind : String
  text : String
  objective_ids : List String
  responder_id : String
  responder_role : String
  responded_at : String
  elapsed_seconds : Int
  run_state : String
deriving DecidableEq

/-- A question with its reply. -/
structure Record where
  request_id : String
  requester_id : String
  requester_role : String
  objective_id : String
  question : String
  requested_at : String
  elapsed_seconds : Int
  run_state : String
  response : Option Reply
deriving DecidableEq

/-- The local variables of `support_index`; `records` is a dictionary by request id. -/
structure SupportIndex where
  records : List Record
  keys : List (String × String × String)
  counts : String → Nat
  pending : List String
  scope : Option (String × String)
  last_sequence : Int

/-- The variables before the loop. -/
def SupportIndex.empty : SupportIndex := ⟨[], [], fun _ => 0, [], none, 0⟩

/-- The record of a request. -/
def SupportIndex.record? (index : SupportIndex) (request_id : String) : Option Record :=
  index.records.find? fun r => r.request_id = request_id

/-! ## One event -/

/-- The keys of a dictionary are the given ones. -/
def HasFields (data : Json) (fields : List String) : Prop :=
  match data with
  | .obj members => (∀ m ∈ members, m.1 ∈ fields) ∧ ∀ k ∈ fields, k ∈ members.map Prod.fst
  | _ => False

instance (data : Json) (fields : List String) : Decidable (HasFields data fields) := by
  unfold HasFields
  split <;> infer_instance

/-- The dictionary is the given entity. -/
def IsEntity (value : Json) (entity_type entity_id : String) : Prop :=
  HasFields value ["type", "id"] ∧ value.str? "type" = some entity_type ∧
    value.str? "id" = some entity_id

instance (value : Json) (entity_type entity_id : String) :
    Decidable (IsEntity value entity_type entity_id) :=
  inferInstanceAs (Decidable (_ ∧ _))

/-- The event is one of the support desk. -/
def IsSupport (event : Event) : Prop :=
  event.event_type = requestType ∨ event.event_type = responseType

instance (event : Event) : Decidable (IsSupport event) := inferInstanceAs (Decidable (_ ∨ _))

/-- An event of another producer. -/
def Foreign (event : Event) : Prop :=
  ¬ IsSupport event ∧ event.source.str? "component" ≠ some component

/-- The test on the provenance of a support event. -/
def Provenance (index : SupportIndex) (event : Event) : Prop :=
  (index.scope = none ∨ index.scope = some (event.exercise_id, event.run_id)) ∧
    index.last_sequence < event.sequence ∧
    event.source.str? "component" = some component ∧
    event.visibility = "facilitator" ∧
    event.phase = "control" ∧
    event.outcome.str? "status" = some "success" ∧
    event.safety.get? "dry_run" = some (.bool false) ∧
    (JsonType.object.admits event.data = true)

instance (index : SupportIndex) (event : Event) : Decidable (Provenance index event) :=
  inferInstanceAs (Decidable (_ ∧ _))

/-- `scope = event_scope` and `last_sequence = event["sequence"]`. -/
def SupportIndex.note (index : SupportIndex) (event : Event) : SupportIndex :=
  { index with
    scope := some (event.exercise_id, event.run_id), last_sequence := event.sequence }

/-- `data.get("elapsed_seconds")` as an exercise time. -/
def exerciseTime (event : Event) : Except Exn Int :=
  match event.data.get? "elapsed_seconds" with
  | some (.int n) =>
      if 0 ≤ n then .ok n else .error (.of .ValueError "invalid support exercise time")
  | _ => .error (.of .ValueError "invalid support exercise time")

/-- The test on a request. -/
def Requests (index : SupportIndex) (event : Event) (actor_id role objective run_state : String) :
    Prop :=
  HasFields event.data ["request_key", "objective_id", "text", "elapsed_seconds", "run_state"] ∧
    event.actor.str? "type" = some "participant" ∧
    role ∈ learnerRoles ∧
    event.source.str? "kind" = some "participant" ∧
    objective ∈ objectiveIds ∧
    event.objective_ids = [objective] ∧
    run_state ∈ ["running", "paused"] ∧
    event.action = "exercise.support.request" ∧
    IsEntity event.target "support_queue" event.run_id ∧
    actor_id ∉ index.pending ∧
    event.event_id ∉ index.records.map Record.request_id

instance (index : SupportIndex) (event : Event) (actor_id role objective run_state : String) :
    Decidable (Requests index event actor_id role objective run_state) :=
  inferInstanceAs (Decidable (_ ∧ _))

/-- A retry key is used once. -/
def SupportIndex.useKey (index : SupportIndex) (key : String × String × String) :
    Except Exn SupportIndex :=
  if key ∈ index.keys then .error (.of .ValueError "duplicate support retry key")
  else .ok { index with keys := key :: index.keys }

/-- The branch of a request. -/
def indexRequest (index : SupportIndex) (event : Event) (elapsed : Int) (content : String) :
    Except Exn SupportIndex :=
  match event.actor.str? "id", event.actor.str? "role", event.data.str? "objective_id",
    event.data.str? "run_state" with
  | some actor_id, some role, some objective, some run_state =>
      if Requests index event actor_id role objective run_state then do
        let key ← text ((event.data.get? "request_key").getD .null) "retry key" 128
        let counts := Function.update index.counts actor_id (index.counts actor_id + 1)
        if maxActorRequests < counts actor_id ∨ maxRequests ≤ index.records.length then
          throw (.of .ValueError "support request limit exceeded")
        let record : Record := {
          request_id := event.event_id, requester_id := actor_id, requester_role := role,
          objective_id := objective, question := content, requested_at := event.timestamp,
          elapsed_seconds := elapsed, run_state := run_state, response := none }
        let index' : SupportIndex := { index with
          records := index.records ++ [record], counts := counts,
          pending := actor_id :: index.pending }
        index'.useKey (requestType, actor_id, key)
      else .error (.of .ValueError "invalid support request")
  | _, _, _, _ => .error (.of .ValueError "invalid support request")

/-- The test on a reply. -/
def Responds (event : Event) (elapsed : Int) (record : Record)
    (role kind run_state : String) : Prop :=
  HasFields event.data ["request_id", "response_key", "kind", "text", "elapsed_seconds",
      "run_state"] ∧
    record.response = none ∧
    event.actor.str? "type" = some "facilitator" ∧
    role ∈ ["facilitator", "technical_operator"] ∧
    ¬ (role = "technical_operator" ∧ kind ≠ "platform_issue") ∧
    event.source.str? "kind" = some "facilitator" ∧
    kind ∈ kinds ∧
    run_state ∈ ["running", "paused", "stopped"] ∧
    ¬ (run_state = "stopped" ∧ kind ≠ "platform_issue") ∧
    record.elapsed_seconds ≤ elapsed ∧
    event.action = "exercise.support.respond" ∧
    IsEntity event.target "support_request" record.request_id ∧
    event.correlation_ids = [record.request_id]

instance (event : Event) (elapsed : Int) (record : Record) (role kind run_state : String) :
    Decidable (Responds event elapsed record role kind run_state) :=
  inferInstanceAs (Decidable (_ ∧ _))

/-- `record["response"] = …`. -/
def answer (request_id : String) (reply : Reply) (records : List Record) : List Record :=
  records.map fun r => if r.request_id = request_id then { r with response := some reply } else r

/-- The branch of a reply. -/
def indexResponse (index : SupportIndex) (event : Event) (elapsed : Int) (content : String) :
    Except Exn SupportIndex :=
  match (event.data.str? "request_id").bind index.record?, event.actor.str? "id",
    event.actor.str? "role", event.data.str? "kind", event.data.str? "run_state" with
  | some record, some actor_id, some role, some kind, some run_state =>
      if Responds event elapsed record role kind run_state then do
        let scope_ids ← objectives (Json.strs event.objective_ids)
        let key ← text ((event.data.get? "response_key").getD .null) "retry key" 128
        let reply : Reply := {
          event_id := event.event_id, kind := kind, text := content, objective_ids := scope_ids,
          responder_id := actor_id, responder_role := role, responded_at := event.timestamp,
          elapsed_seconds := elapsed, run_state := run_state }
        let index' : SupportIndex := { index with
          records := answer record.request_id reply index.records,
          pending := index.pending.filter fun a => a ≠ record.requester_id }
        index'.useKey (responseType, actor_id, key)
      else .error (.of .ValueError "invalid support response")
  | _, _, _, _, _ => .error (.of .ValueError "invalid support response")

/-- One turn of the loop. -/
def indexEvent (index : SupportIndex) (event : Event) : Except Exn SupportIndex :=
  if IsSupport event then
    if Provenance index event then do
      let elapsed ← exerciseTime event
      let content ← text ((event.data.get? "text").getD .null) "text" 1024
      if event.event_type = requestType then indexRequest (index.note event) event elapsed content
      else indexResponse (index.note event) event elapsed content
    else .error (.of .ValueError "invalid support provenance")
  else if event.source.str? "component" = some component then
    .error (.of .ValueError "unknown support event type")
  else .ok index

/-- The loop of `support_index`. -/
def indexEvents (events : List Event) : Except Exn SupportIndex :=
  events.foldlM indexEvent SupportIndex.empty

/-- `support_index`. -/
def supportIndex (events : List Event) : Except Exn (List Record) :=
  (indexEvents events).map SupportIndex.records

/-! ## Inversion of a turn -/

/-- The string that a member holds. -/
def actorId (event : Event) : String := (event.actor.str? "id").getD ""

theorem useKey_eq_ok {index index' : SupportIndex} {key : String × String × String}
    (h : index.useKey key = .ok index') :
    key ∉ index.keys ∧ index' = { index with keys := key :: index.keys } := by
  unfold SupportIndex.useKey at h
  split at h
  · cases h
  · next hkey =>
      injection h with h
      exact ⟨hkey, h.symm⟩

/-- What an accepted request does to the index. -/
structure RequestTurn (index index' : SupportIndex) (event : Event) (elapsed : Int) : Prop where
  fresh : event.event_id ∉ index.records.map Record.request_id
  idle : actorId event ∉ index.pending
  below : index.counts (actorId event) < maxActorRequests
  room : index.records.length < maxRequests
  added : ∃ record key, record.request_id = event.event_id ∧ record.requester_id = actorId event ∧
    record.response = none ∧ record.elapsed_seconds = elapsed ∧
    text ((event.data.get? "request_key").getD .null) "retry key" 128 = .ok key ∧
    (requestType, actorId event, key) ∉ index.keys ∧
    index' = { index with
      records := index.records ++ [record]
      keys := (requestType, actorId event, key) :: index.keys
      counts := Function.update index.counts (actorId event) (index.counts (actorId event) + 1)
      pending := actorId event :: index.pending }

theorem indexRequest_eq_ok {index index' : SupportIndex} {event : Event} {elapsed : Int}
    {content : String} (h : indexRequest index event elapsed content = .ok index') :
    RequestTurn index index' event elapsed := by
  unfold indexRequest at h
  split at h
  next actor_id role objective run_state hid hrole hobjective hstate =>
    have hactor : actorId event = actor_id := by simp [actorId, hid]
    split at h
    next hreq =>
      obtain ⟨-, -, -, -, -, -, -, -, -, hidle, hfresh⟩ := hreq
      cases hkey : text ((event.data.get? "request_key").getD .null) "retry key" 128 with
      | error e => simp [hkey, bind, Except.bind] at h
      | ok key =>
          simp only [hkey, bind, Except.bind, Function.update_self] at h
          split at h
          · cases h
          · next hlimit =>
              obtain ⟨hbelow, hroom⟩ := not_or.mp hlimit
              obtain ⟨hnew, rfl⟩ := useKey_eq_ok h
              rw [← hactor] at hidle hbelow hnew
              exact {
                fresh := hfresh
                idle := hidle
                below := by omega
                room := by omega
                added := ⟨_, key, rfl, hactor.symm, rfl, rfl, hkey, hnew, by rw [hactor]⟩ }
    · cases h
  · cases h

/-- What an accepted reply does to the index. -/
structure ResponseTurn (index index' : SupportIndex) (event : Event) (elapsed : Int) : Prop where
  answered : ∃ record reply key, event.data.str? "request_id" = some record.request_id ∧
    index.record? record.request_id = some record ∧ record.response = none ∧
    text ((event.data.get? "response_key").getD .null) "retry key" 128 = .ok key ∧
    (responseType, actorId event, key) ∉ index.keys ∧
    index' = { index with
      records := answer record.request_id reply index.records
      keys := (responseType, actorId event, key) :: index.keys
      pending := index.pending.filter fun a => a ≠ record.requester_id }

theorem indexResponse_eq_ok {index index' : SupportIndex} {event : Event} {elapsed : Int}
    {content : String} (h : indexResponse index event elapsed content = .ok index') :
    ResponseTurn index index' event elapsed := by
  unfold indexResponse at h
  split at h
  next record actor_id role kind run_state hrecord hid hrole hkind hstate =>
    have hactor : actorId event = actor_id := by simp [actorId, hid]
    obtain ⟨request_id, hrequest, hfound⟩ := Option.bind_eq_some_iff.mp hrecord
    have hname : record.request_id = request_id := by
      simpa using List.find?_some hfound
    split at h
    next hresp =>
      obtain ⟨-, hopen, -⟩ := hresp
      cases hscope : objectives (Json.strs event.objective_ids) with
      | error e => simp [hscope, bind, Except.bind] at h
      | ok scope_ids =>
          cases hkey : text ((event.data.get? "response_key").getD .null) "retry key" 128 with
          | error e => simp [hscope, hkey, bind, Except.bind] at h
          | ok key =>
              simp only [hscope, hkey, bind, Except.bind] at h
              obtain ⟨hnew, rfl⟩ := useKey_eq_ok h
              rw [← hactor] at hnew
              exact ⟨record, _, key, hname ▸ hrequest, hname ▸ hfound, hopen, hkey, hnew,
                by rw [hactor]⟩
    · cases h
  · cases h

/-- The three ways in which a turn succeeds. -/
theorem indexEvent_eq_ok {index index' : SupportIndex} {event : Event}
    (h : indexEvent index event = .ok index') :
    (¬ IsSupport event ∧ event.source.str? "component" ≠ some component ∧ index' = index) ∨
    (event.event_type = requestType ∧ Provenance index event ∧
      ∃ elapsed, exerciseTime event = .ok elapsed ∧
        RequestTurn (index.note event) index' event elapsed) ∨
    (event.event_type = responseType ∧ Provenance index event ∧
      ∃ elapsed, exerciseTime event = .ok elapsed ∧
        ResponseTurn (index.note event) index' event elapsed) := by
  unfold indexEvent at h
  split at h
  next hsupport =>
    split at h
    next hprov =>
      cases helapsed : exerciseTime event with
      | error e => simp [helapsed, bind, Except.bind] at h
      | ok elapsed =>
          cases hcontent : text ((event.data.get? "text").getD .null) "text" 1024 with
          | error e => simp [helapsed, hcontent, bind, Except.bind] at h
          | ok content =>
              simp only [helapsed, hcontent, bind, Except.bind] at h
              split at h
              next htype => exact Or.inr (Or.inl ⟨htype, hprov, elapsed, rfl, indexRequest_eq_ok h⟩)
              next htype =>
                exact Or.inr (Or.inr ⟨hsupport.resolve_left htype, hprov, elapsed, rfl,
                  indexResponse_eq_ok h⟩)
    · cases h
  next hother =>
    split at h
    · cases h
    next hcomponent =>
      injection h with h
      exact Or.inl ⟨hother, hcomponent, h.symm⟩

/-! ## Turns that succeed -/

/-- A request that passes the tests is indexed. -/
theorem indexEvent_of_requests {index : SupportIndex} {event : Event} {elapsed : Int}
    {actor_id role objective run_state content key : String}
    (htype : event.event_type = requestType) (hprov : Provenance index event)
    (helapsed : exerciseTime event = .ok elapsed)
    (hcontent : text ((event.data.get? "text").getD .null) "text" 1024 = .ok content)
    (hactor : event.actor.str? "id" = some actor_id) (hrole : event.actor.str? "role" = some role)
    (hobjective : event.data.str? "objective_id" = some objective)
    (hstate : event.data.str? "run_state" = some run_state)
    (hrequests : Requests index event actor_id role objective run_state)
    (hkey : text ((event.data.get? "request_key").getD .null) "retry key" 128 = .ok key)
    (hbelow : index.counts actor_id < maxActorRequests)
    (hroom : index.records.length < maxRequests)
    (hnew : (requestType, actor_id, key) ∉ index.keys) :
    ∃ index', indexEvent index event = .ok index' := by
  have hlimit : ¬ (maxActorRequests < index.counts actor_id + 1 ∨
      maxRequests ≤ index.records.length) := by omega
  have hrequests' : Requests (index.note event) event actor_id role objective run_state := hrequests
  unfold indexEvent
  rw [if_pos (show IsSupport event from Or.inl htype), if_pos hprov]
  simp only [helapsed, hcontent, bind, Except.bind]
  rw [if_pos htype]
  unfold indexRequest
  simp only [hactor, hrole, hobjective, hstate, hkey, bind, Except.bind]
  rw [if_pos hrequests']
  simp only [Function.update_self, SupportIndex.note]
  rw [if_neg hlimit]
  exact ⟨_, if_neg hnew⟩

/-- A reply that passes the tests is indexed. -/
theorem indexEvent_of_responds {index : SupportIndex} {event : Event} {elapsed : Int}
    {record : Record} {actor_id role kind run_state content key : String}
    {scope_ids : List String}
    (htype : event.event_type = responseType) (hprov : Provenance index event)
    (helapsed : exerciseTime event = .ok elapsed)
    (hcontent : text ((event.data.get? "text").getD .null) "text" 1024 = .ok content)
    (hrecord : (event.data.str? "request_id").bind index.record? = some record)
    (hactor : event.actor.str? "id" = some actor_id) (hrole : event.actor.str? "role" = some role)
    (hkind : event.data.str? "kind" = some kind)
    (hstate : event.data.str? "run_state" = some run_state)
    (hresponds : Responds event elapsed record role kind run_state)
    (hscope : objectives (Json.strs event.objective_ids) = .ok scope_ids)
    (hkey : text ((event.data.get? "response_key").getD .null) "retry key" 128 = .ok key)
    (hnew : (responseType, actor_id, key) ∉ index.keys) :
    ∃ index', indexEvent index event = .ok index' := by
  have hrequest : event.event_type ≠ requestType := by
    rw [htype]
    decide
  have hrecord' : (event.data.str? "request_id").bind (index.note event).record? = some record :=
    hrecord
  unfold indexEvent
  rw [if_pos (show IsSupport event from Or.inr htype), if_pos hprov]
  simp only [helapsed, hcontent, bind, Except.bind]
  rw [if_neg hrequest]
  unfold indexResponse
  simp only [hrecord', hactor, hrole, hkind, hstate, hkey, hscope, bind, Except.bind]
  rw [if_pos hresponds]
  exact ⟨_, if_neg hnew⟩

end Support

end NetStrike.Orchestrator
