import NetStrike.Foundation.Runs
import NetStrike.Orchestrator.SupportIndex

/-!
# What an accepted support ledger says

`Mirrors done index` relates the variables of the loop to the events read so far: the records are
the requests in order, a record is answered by exactly one reply, and the pending set and the
counters are determined by the records. `mirrors_of_indexEvents` derives it for every ledger that
the index accepts, and `limits_of_supportIndex` reads off the limits on the ledger itself.
-/

set_option autoImplicit false

namespace NetStrike.Orchestrator.Support

open NetStrike.Foundation NetStrike.Shared

/-! ## Requests and replies of a ledger -/

/-- The requests of a ledger. -/
def requests (events : List Event) : List Event :=
  events.filter fun e => e.event_type = requestType

/-- The replies to a request. -/
def replies (request_id : String) (events : List Event) : List Event :=
  events.filter fun e =>
    e.event_type = responseType ∧ e.data.str? "request_id" = some request_id

/-- The requests of an actor. -/
def requestsOf (actor_id : String) (events : List Event) : List Event :=
  (requests events).filter fun e => actorId e = actor_id

/-- The requests of an actor that have no reply. -/
def unanswered (actor_id : String) (events : List Event) : List Event :=
  (requestsOf actor_id events).filter fun e => replies e.event_id events = []

/-- The limits on a ledger. -/
structure Limits (events : List Event) : Prop where
  one_open : ∀ actor_id, (unanswered actor_id events).length ≤ 1
  per_actor : ∀ actor_id, (requestsOf actor_id events).length ≤ maxActorRequests
  per_run : (requests events).length ≤ maxRequests
  one_reply : ∀ request_id, (replies request_id events).length ≤ 1

/-! ## The invariant of the loop -/

/-- The records of an actor. -/
def recordsOf (actor_id : String) (records : List Record) : List Record :=
  records.filter fun r => r.requester_id = actor_id

/-- The records of an actor that wait for a reply. -/
def openRecords (actor_id : String) (records : List Record) : List Record :=
  (recordsOf actor_id records).filter fun r => r.response = none

/-- The index describes the events read so far. -/
structure Mirrors (done : List Event) (index : SupportIndex) : Prop where
  requests : index.records.map (fun r => (r.request_id, r.requester_id)) =
    (requests done).map fun e => (e.event_id, actorId e)
  distinct : (index.records.map Record.request_id).Nodup
  answers : ∀ r ∈ index.records,
    (replies r.request_id done).length = if r.response = none then 0 else 1
  unknown : ∀ id, id ∉ index.records.map Record.request_id → replies id done = []
  pending : ∀ a, a ∈ index.pending ↔ openRecords a index.records ≠ []
  one_open : ∀ a, (openRecords a index.records).length ≤ 1
  counts : ∀ a, index.counts a = (recordsOf a index.records).length
  per_actor : ∀ a, index.counts a ≤ maxActorRequests
  per_run : index.records.length ≤ maxRequests

theorem mirrors_empty : Mirrors [] SupportIndex.empty where
  requests := rfl
  distinct := List.nodup_nil
  answers := fun r hr => absurd hr List.not_mem_nil
  unknown := fun _ _ => rfl
  pending := fun a => by simp [SupportIndex.empty, openRecords, recordsOf]
  one_open := fun a => by simp [SupportIndex.empty, openRecords, recordsOf]
  counts := fun a => rfl
  per_actor := fun a => Nat.zero_le _
  per_run := Nat.zero_le _

section Turns

variable {done : List Event} {index index' : SupportIndex} {event : Event} {elapsed : Int}

/-- An event of another producer leaves the index as it is. -/
theorem Mirrors.skip (h : Mirrors done index) (hother : ¬ IsSupport event) :
    Mirrors (done ++ [event]) index := by
  have hrequest : event.event_type ≠ requestType := fun he => hother (Or.inl he)
  have hresponse : event.event_type ≠ responseType := fun he => hother (Or.inr he)
  have hreplies : ∀ id, replies id (done ++ [event]) = replies id done := by
    intro id
    simp [replies, List.filter_append, hresponse]
  exact { h with
    requests := by
      rw [h.requests]
      simp [Support.requests, List.filter_append, hrequest]
    answers := fun r hr => by
      rw [hreplies]
      exact h.answers r hr
    unknown := fun id hid => by
      rw [hreplies]
      exact h.unknown id hid }

theorem Mirrors.note (h : Mirrors done index) : Mirrors done (index.note event) := { h with }

/-- A request adds its record. -/
theorem Mirrors.request (h : Mirrors done index) (htype : event.event_type = requestType)
    (hturn : RequestTurn index index' event elapsed) : Mirrors (done ++ [event]) index' := by
  obtain ⟨record, key, hid, hactor, hopen, -, -, -, rfl⟩ := hturn.added
  have hresponse : event.event_type ≠ responseType := by
    rw [htype]
    decide
  have hreplies : ∀ id, replies id (done ++ [event]) = replies id done := by
    intro id
    simp [replies, List.filter_append, hresponse]
  have hrecords : ∀ a, recordsOf a (index.records ++ [record]) =
      recordsOf a index.records ++ if actorId event = a then [record] else [] := by
    intro a
    by_cases ha : actorId event = a <;> simp [recordsOf, List.filter_append, hactor, ha]
  have hopened : ∀ a, openRecords a (index.records ++ [record]) =
      openRecords a index.records ++ if actorId event = a then [record] else [] := by
    intro a
    unfold openRecords
    rw [hrecords, List.filter_append]
    by_cases ha : actorId event = a <;> simp [ha, hopen]
  have hidle : openRecords (actorId event) index.records = [] := by
    by_contra hne
    exact hturn.idle ((h.pending _).mpr hne)
  exact {
    requests := by
      simp [Support.requests, List.filter_append, htype, hid, hactor, h.requests]
    distinct := by
      rw [List.map_append, List.nodup_append]
      refine ⟨h.distinct, by simp, ?_⟩
      intro a ha b hb
      rw [List.map_cons, List.map_nil, List.mem_singleton] at hb
      rw [hb, hid]
      rintro rfl
      exact hturn.fresh ha
    answers := by
      intro r hr
      rw [hreplies]
      rcases List.mem_append.mp hr with hr | hr
      · exact h.answers r hr
      · rw [List.mem_singleton] at hr
        subst hr
        rw [hid, h.unknown _ hturn.fresh, hopen]
        rfl
    unknown := by
      intro id hid'
      rw [hreplies]
      rw [List.map_append, List.mem_append, not_or] at hid'
      exact h.unknown id hid'.1
    pending := by
      intro a
      rw [hopened, List.mem_cons, h.pending]
      by_cases ha : actorId event = a
      · simp [ha]
      · simp [ha, Ne.symm ha]
    one_open := by
      intro a
      rw [hopened]
      by_cases ha : actorId event = a
      · rw [← ha, hidle]
        simp
      · simpa [ha] using h.one_open a
    counts := by
      intro a
      rw [hrecords]
      by_cases ha : actorId event = a
      · rw [← ha]
        simp [h.counts]
      · simp [ha, Function.update_of_ne (Ne.symm ha), h.counts]
    per_actor := by
      intro a
      by_cases ha : a = actorId event
      · rw [ha]
        simpa [Nat.succ_le_iff] using hturn.below
      · simpa [Function.update_of_ne ha] using h.per_actor a
    per_run := by
      simpa [Nat.succ_le_iff] using hturn.room }

/-- To answer a request closes its record and no other. -/
theorem openRecords_answer (a id : String) (reply : Reply) (records : List Record) :
    openRecords a (answer id reply records) =
      (openRecords a records).filter fun r => r.request_id ≠ id := by
  induction records with
  | nil => rfl
  | cons r rs ih =>
      simp only [openRecords, recordsOf, answer, List.map_cons, List.filter_filter] at ih ⊢
      by_cases hid : r.request_id = id
      · simp [hid, ih]
      · by_cases hr : r.response = none ∧ r.requester_id = a
        · simp [hid, hr, ih]
        · simp only [List.filter_cons, if_neg hid]
          rw [if_neg (by simpa using hr), if_neg (by simpa [hid] using hr), ih]

theorem length_recordsOf_answer (a id : String) (reply : Reply) (records : List Record) :
    (recordsOf a (answer id reply records)).length = (recordsOf a records).length := by
  induction records with
  | nil => rfl
  | cons r rs ih =>
      simp only [recordsOf, answer, List.map_cons] at ih ⊢
      by_cases ha : r.requester_id = a <;> by_cases hid : r.request_id = id <;>
        simp [ha, hid, ih]

/-- A reply closes its record. -/
theorem Mirrors.response (h : Mirrors done index) (htype : event.event_type = responseType)
    (hturn : ResponseTurn index index' event elapsed) : Mirrors (done ++ [event]) index' := by
  obtain ⟨record, reply, key, hid, hfound, hopen, -, -, rfl⟩ := hturn.answered
  have hmem : record ∈ index.records := List.mem_of_find?_eq_some hfound
  have hrequest : event.event_type ≠ requestType := by
    rw [htype]
    decide
  have hreplies : ∀ id, replies id (done ++ [event]) =
      replies id done ++ if record.request_id = id then [event] else [] := by
    intro id
    by_cases hr : record.request_id = id <;> simp [replies, List.filter_append, htype, hid, hr]
  have hnames : (answer record.request_id reply index.records).map
      (fun r => (r.request_id, r.requester_id)) =
      index.records.map fun r => (r.request_id, r.requester_id) := by
    rw [answer, List.map_map]
    refine List.map_congr_left fun r _ => ?_
    by_cases hr : r.request_id = record.request_id <;> simp [hr]
  have hids : (answer record.request_id reply index.records).map Record.request_id =
      index.records.map Record.request_id := by
    have := congrArg (List.map Prod.fst) hnames
    rwa [List.map_map, List.map_map] at this
  have hwaiting : record ∈ openRecords record.requester_id index.records := by
    simp [openRecords, recordsOf, hmem, hopen]
  exact {
    requests := by
      rw [hnames, h.requests]
      simp [Support.requests, List.filter_append, hrequest]
    distinct := by
      rw [hids]
      exact h.distinct
    answers := by
      intro r hr
      obtain ⟨r', hr', rfl⟩ := List.mem_map.mp hr
      by_cases hsame : r'.request_id = record.request_id
      · have heq : r' = record := List.inj_on_of_nodup_map h.distinct hr' hmem hsame
        have hnone := h.answers record hmem
        rw [if_pos hopen] at hnone
        rw [if_pos hsame, hreplies]
        simp [heq, hnone]
      · rw [if_neg hsame, hreplies, if_neg (Ne.symm hsame), List.append_nil]
        exact h.answers r' hr'
    unknown := by
      intro id hunknown
      rw [hids] at hunknown
      have hne : record.request_id ≠ id := by
        rintro rfl
        exact hunknown (List.mem_map_of_mem hmem)
      rw [hreplies, if_neg hne, List.append_nil]
      exact h.unknown id hunknown
    pending := by
      intro a
      rw [openRecords_answer, List.mem_filter, h.pending]
      have hone := h.one_open a
      by_cases ha : a = record.requester_id
      · -- the only open record of the requester is the answered one
        rw [ha] at hone ⊢
        obtain ⟨r, hr⟩ := List.length_eq_one_iff.mp
          (le_antisymm hone (List.length_pos_of_mem hwaiting))
        rw [hr, List.mem_singleton] at hwaiting
        rw [hr, hwaiting]
        simp
      · have hkeep : (openRecords a index.records).filter
            (fun r => r.request_id ≠ record.request_id) = openRecords a index.records := by
          refine List.filter_eq_self.mpr fun r hr => ?_
          simp only [openRecords, recordsOf, List.mem_filter, decide_eq_true_eq] at hr
          rw [decide_eq_true_eq]
          intro hsame
          have heq : r = record := List.inj_on_of_nodup_map h.distinct hr.1.1 hmem hsame
          exact ha (heq ▸ hr.1.2).symm
        rw [hkeep]
        simp [ha]
    one_open := by
      intro a
      rw [openRecords_answer]
      exact (List.length_filter_le _ _).trans (h.one_open a)
    counts := by
      intro a
      rw [length_recordsOf_answer]
      exact h.counts a
    per_actor := h.per_actor
    per_run := by
      simpa [answer] using h.per_run }

/-- One turn keeps the invariant. -/
theorem Mirrors.turn (h : Mirrors done index) (hturn : indexEvent index event = .ok index') :
    Mirrors (done ++ [event]) index' := by
  obtain ⟨hother, -, rfl⟩ | ⟨htype, -, _, -, hrequest⟩ | ⟨htype, -, _, -, hresponse⟩ :=
    indexEvent_eq_ok hturn
  · exact h.skip hother
  · exact h.note.request htype hrequest
  · exact h.note.response htype hresponse

end Turns

/-- The index of an accepted ledger describes the ledger. -/
theorem mirrors_of_indexEvents {events : List Event} {index : SupportIndex}
    (h : indexEvents events = .ok index) : Mirrors events index :=
  foldlM_invariant mirrors_empty (fun _ _ _ _ hdone hturn => hdone.turn hturn) h

/-- The request ids of the records are the ids of the request events. -/
theorem Mirrors.request_ids {done : List Event} {index : SupportIndex} (h : Mirrors done index) :
    index.records.map Record.request_id = (Support.requests done).map Event.event_id := by
  have := congrArg (List.map Prod.fst) h.requests
  rwa [List.map_map, List.map_map] at this

/-! ## Keys, numbers and times -/

/-- The support events of a ledger. -/
def supportEvents (events : List Event) : List Event := events.filter fun e => IsSupport e

/-- The retry key of a support event. -/
def rawKey (event : Event) : Json :=
  (event.data.get?
    (if event.event_type = requestType then "request_key" else "response_key")).getD .null

/-- The entry of a support event in `keys`. -/
def keyOf (event : Event) : String × String × String :=
  (event.event_type, actorId event,
    match text (rawKey event) "retry key" 128 with
    | .ok key => key
    | .error _ => "")

/-- The exercise time of a support event. -/
def timeOf (event : Event) : Int :=
  match exerciseTime event with
  | .ok elapsed => elapsed
  | .error _ => 0

/-- What the remaining variables of the loop say about the events read so far. -/
structure Notes (done : List Event) (index : SupportIndex) : Prop where
  keys : index.keys.reverse = (supportEvents done).map keyOf
  once : index.keys.Nodup
  scope : index.scope = (supportEvents done).getLast?.map fun e => (e.exercise_id, e.run_id)
  last : index.last_sequence = ((supportEvents done).getLast?.map Event.sequence).getD 0
  times : index.records.map Record.elapsed_seconds = (requests done).map timeOf

theorem notes_empty : Notes [] SupportIndex.empty := ⟨rfl, List.nodup_nil, rfl, rfl, rfl⟩

theorem supportEvents_append (done : List Event) {event : Event} (h : IsSupport event) :
    supportEvents (done ++ [event]) = supportEvents done ++ [event] := by
  simp [supportEvents, List.filter_append, h]

theorem supportEvents_skip (done : List Event) {event : Event} (h : ¬ IsSupport event) :
    supportEvents (done ++ [event]) = supportEvents done := by
  simp [supportEvents, List.filter_append, h]

/-- One turn keeps the notes. -/
theorem Notes.turn {done : List Event} {index index' : SupportIndex} {event : Event}
    (h : Notes done index) (hturn : indexEvent index event = .ok index') :
    Notes (done ++ [event]) index' := by
  obtain ⟨hother, -, rfl⟩ | ⟨htype, -, elapsed, htime, hrequest⟩ |
    ⟨htype, -, elapsed, htime, hresponse⟩ := indexEvent_eq_ok hturn
  · have hrequest : event.event_type ≠ requestType := fun he => hother (Or.inl he)
    constructor
    · rw [supportEvents_skip done hother]
      exact h.keys
    · exact h.once
    · rw [supportEvents_skip done hother]
      exact h.scope
    · rw [supportEvents_skip done hother]
      exact h.last
    · rw [h.times]
      simp [Support.requests, List.filter_append, hrequest]
  · obtain ⟨record, key, -, -, -, helapsed, hkey, hnew, rfl⟩ := hrequest.added
    have hsupport : IsSupport event := Or.inl htype
    have hraw : keyOf event = (requestType, actorId event, key) := by
      simp [keyOf, rawKey, htype, hkey]
    constructor
    · simp [supportEvents_append done hsupport, hraw, ← h.keys, SupportIndex.note]
    · exact List.nodup_cons.mpr ⟨hnew, h.once⟩
    · simp [supportEvents_append done hsupport, SupportIndex.note]
    · simp [supportEvents_append done hsupport, SupportIndex.note]
    · simp [Support.requests, List.filter_append, htype, helapsed, timeOf, htime,
        SupportIndex.note, h.times]
  · obtain ⟨record, reply, key, -, -, -, hkey, hnew, rfl⟩ := hresponse.answered
    have hsupport : IsSupport event := Or.inr htype
    have hrequest : event.event_type ≠ requestType := by
      rw [htype]
      decide
    have hraw : keyOf event = (responseType, actorId event, key) := by
      simp [keyOf, rawKey, htype, hkey, show responseType ≠ requestType by decide]
    constructor
    · simp [supportEvents_append done hsupport, hraw, ← h.keys, SupportIndex.note]
    · exact List.nodup_cons.mpr ⟨hnew, h.once⟩
    · simp [supportEvents_append done hsupport, SupportIndex.note]
    · simp [supportEvents_append done hsupport, SupportIndex.note]
    · have htimes : (answer record.request_id reply index.records).map Record.elapsed_seconds =
          index.records.map Record.elapsed_seconds := by
        rw [answer, List.map_map]
        refine List.map_congr_left fun r _ => ?_
        by_cases hr : r.request_id = record.request_id <;> simp [hr]
      simp [Support.requests, List.filter_append, hrequest, SupportIndex.note, htimes, h.times]

/-- The notes of the index of an accepted ledger. -/
theorem notes_of_indexEvents {events : List Event} {index : SupportIndex}
    (h : indexEvents events = .ok index) : Notes events index :=
  foldlM_invariant notes_empty (fun _ _ _ _ hdone hturn => hdone.turn hturn) h

/-! ## Other events -/

/-- Events that are not of the support desk do not pass for such. -/
def Clean (events : List Event) : Prop := ∀ e ∈ events, IsSupport e ∨ Foreign e

/-- The index depends on the support events only. -/
theorem foldlM_supportEvents {events : List Event} (h : Clean events) :
    ∀ index, events.foldlM indexEvent index = (supportEvents events).foldlM indexEvent index := by
  induction events with
  | nil => exact fun _ => rfl
  | cons e es ih =>
      intro index
      have hes : Clean es := fun x hx => h x (List.mem_cons_of_mem e hx)
      by_cases hsupport : IsSupport e
      · simp only [supportEvents, List.filter_cons, hsupport, decide_true, if_true,
          List.foldlM_cons]
        exact congrArg _ (funext fun index' => ih hes index')
      · obtain ⟨-, hcomponent⟩ := (h e List.mem_cons_self).resolve_left hsupport
        have hskip : indexEvent index e = .ok index := by
          unfold indexEvent
          rw [if_neg hsupport, if_neg hcomponent]
        simp only [supportEvents, List.filter_cons, hsupport, decide_false, List.foldlM_cons, hskip]
        exact ih hes index

theorem indexEvents_supportEvents {events : List Event} (h : Clean events) :
    indexEvents events = indexEvents (supportEvents events) :=
  foldlM_supportEvents h SupportIndex.empty

/-! ## Limits of an accepted ledger -/

section Limits

variable {events : List Event} {index : SupportIndex}

/-- Counting requests is counting records. -/
theorem Mirrors.countP_eq (h : Mirrors events index) (p : String → String → Bool) :
    (Support.requests events).countP (fun e => p e.event_id (actorId e)) =
      index.records.countP fun r => p r.request_id r.requester_id := by
  have := congrArg (List.countP fun q => p q.1 q.2) h.requests
  rw [List.countP_map, List.countP_map] at this
  exact this.symm

theorem Mirrors.replies_eq_nil_iff (h : Mirrors events index) {r : Record}
    (hr : r ∈ index.records) : replies r.request_id events = [] ↔ r.response = none := by
  have hlen := h.answers r hr
  rw [← List.length_eq_zero_iff, hlen]
  split <;> simp_all

theorem Mirrors.length_requestsOf (h : Mirrors events index) (a : String) :
    (requestsOf a events).length = (recordsOf a index.records).length := by
  rw [requestsOf, recordsOf, ← List.countP_eq_length_filter, ← List.countP_eq_length_filter]
  exact h.countP_eq fun _ actor => actor = a

theorem Mirrors.length_unanswered (h : Mirrors events index) (a : String) :
    (unanswered a events).length = (openRecords a index.records).length := by
  have hcount := h.countP_eq fun id actor => replies id events = [] && actor = a
  rw [unanswered, requestsOf, openRecords, recordsOf, List.filter_filter, List.filter_filter,
    ← List.countP_eq_length_filter, ← List.countP_eq_length_filter, hcount]
  refine List.countP_congr fun r hr => ?_
  simp [h.replies_eq_nil_iff hr]

/-- A request has at most one reply, an event that is no request has none. -/
theorem Mirrors.length_replies (h : Mirrors events index) (id : String) :
    (replies id events).length ≤ 1 := by
  by_cases hid : id ∈ index.records.map Record.request_id
  · obtain ⟨r, hr, rfl⟩ := List.mem_map.mp hid
    rw [h.answers r hr]
    split <;> omega
  · rw [h.unknown id hid]
    exact Nat.zero_le _

/-- A ledger that the index accepts keeps the limits. -/
theorem limits_of_supportIndex {records : List Record}
    (h : supportIndex events = .ok records) : Limits events := by
  unfold supportIndex at h
  cases hindex : indexEvents events with
  | error e =>
      rw [hindex] at h
      cases h
  | ok index =>
      have hm := mirrors_of_indexEvents hindex
      exact {
        one_open := fun a => (hm.length_unanswered a).trans_le (hm.one_open a)
        per_actor := fun a => by
          rw [hm.length_requestsOf, ← hm.counts]
          exact hm.per_actor a
        per_run := by
          have hlen := congrArg List.length hm.requests
          rw [List.length_map, List.length_map] at hlen
          exact hlen ▸ hm.per_run
        one_reply := hm.length_replies }

end Limits

end NetStrike.Orchestrator.Support
