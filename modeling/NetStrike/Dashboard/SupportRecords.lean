import NetStrike.Dashboard.SupportAgreement

/-!
# The records of support calls

The events that `request` and `respond` append, why the index accepts them, and what the lookup of
an earlier call finds.
-/

set_option autoImplicit false

namespace NetStrike.Dashboard

open NetStrike.Foundation NetStrike.Shared NetStrike.Orchestrator NetStrike.Orchestrator.Support

namespace SupportDesk

variable {W : Type}

/-! ## Requests -/

theorem memberOf_eq_ok {value : Json} {names : List String} {message name : String}
    (h : memberOf value names message = .ok name) : name ∈ names := by
  unfold memberOf at h
  split at h
  · split at h
    next hmem =>
      injection h with h
      exact h ▸ hmem
    · cases h
  · cases h
  · cases h
  · cases h

/-- The parts of a checked request. -/
theorem question_eq_ok {args : RequestArgs} {q : Question} (h : question args = .ok q) :
    text args.message "question" 1024 = .ok q.message ∧
      text args.idempotency_key "retry key" 128 = .ok q.key ∧ q.objective_id ∈ objectiveIds := by
  unfold question at h
  cases hmessage : text args.message "question" 1024 with
  | error e => simp [hmessage, bind, Except.bind] at h
  | ok message =>
      cases hkey : text args.idempotency_key "retry key" 128 with
      | error e => simp [hmessage, hkey, bind, Except.bind] at h
      | ok key =>
          cases hobjective : memberOf args.objective_id objectiveIds "invalid support objective" with
          | error e => simp [hmessage, hkey, hobjective, bind, Except.bind] at h
          | ok objective =>
              simp only [hmessage, hkey, hobjective, bind, Except.bind, pure, Except.pure,
                Except.ok.injEq] at h
              subst h
              exact ⟨rfl, rfl, memberOf_eq_ok hobjective⟩

/-- An event of the ledger records a call. -/
structure Recorded (event_type key_field actor_id key : String) (expected : List (String × Json))
    (objective_ids : List String) (event : Event) : Prop where
  type : event.event_type = event_type
  actor : actorId event = actor_id
  key : event.data.get? key_field = some (.str key)
  data : ∀ m ∈ expected, event.data.get? m.1 = some m.2
  objectives : event.objective_ids = objective_ids

/-- The exercise time of an appended event. -/
theorem exerciseTime_assemble {context : EventContext} {call : EventCall} {elapsed : Int}
    (hdata : (call.data.getD []).lookup "elapsed_seconds" = some (.int elapsed))
    (hstarted : 0 ≤ elapsed) (sequence : Nat) (event_id timestamp : String) :
    exerciseTime (sanitized (call.assemble context sequence event_id timestamp)) = .ok elapsed := by
  simp only [exerciseTime, data_get? context call sequence event_id timestamp
    (by simp [dataFields]) hdata rfl]
  exact if_pos hstarted

section Request

variable {p : Portal W} {principal : PortalPrincipal} {args : RequestArgs} {q : Question}

/-- The event of a request. -/
def requestEvent (principal : PortalPrincipal) (q : Question) (p : Portal W)
    (event_id timestamp : String) : Event :=
  sanitized ((requestCall principal q.expected [q.objective_id] p).assemble
    (context p "participant") (p.sequencer.sequence + 1) event_id timestamp)

theorem learnerRoles_nonempty {role : String} (h : role ∈ learnerRoles) : role ≠ "" := by
  rintro rfl
  exact absurd h (by decide)

theorem recorded_requestEvent (event_id timestamp : String) :
    Recorded requestType "request_key" principal.actor_id q.key q.expected [q.objective_id]
      (requestEvent principal q p event_id timestamp) := by
  have hdata : ∀ m ∈ q.expected,
      (requestEvent principal q p event_id timestamp).data.get? m.1 = some m.2 := by
    intro m hm
    simp only [Question.expected, List.mem_cons, List.not_mem_nil, or_false] at hm
    rcases hm with rfl | rfl | rfl <;>
      exact data_get? _ _ _ _ _ (by simp [dataFields]) rfl rfl
  refine ⟨rfl, ?_, hdata ("request_key", .str q.key) List.mem_cons_self, hdata, ?_⟩
  · unfold actorId requestEvent
    rw [actor_str? _ _ _ _ _ (by decide)]
    rfl
  · simp [requestEvent, sanitized, EventCall.assemble, requestCall, sortedSet]

/-- The index accepts the event of a request that passed the checks. -/
theorem index_requestEvent {index : SupportIndex} (hmirrors : Mirrors p.ledger index)
    (hnotes : Notes p.ledger index) (hconsistent : Consistent p.ledger p)
    (hstarted : 0 ≤ p.elapsed_seconds) (hrole : principal.role ∈ learnerRoles)
    (hquestion : question args = .ok q) (hstate : p.state = .running ∨ p.state = .paused)
    (hidle : ∀ r ∈ recordsOf principal.actor_id index.records, r.response ≠ none)
    (hbelow : (recordsOf principal.actor_id index.records).length < maxActorRequests)
    (hroom : index.records.length < maxRequests)
    (hkey : (requestType, principal.actor_id, q.key) ∉ index.keys) {event_id timestamp : String}
    (hfresh : ∀ row ∈ p.rows, row.event_id ≠ event_id) :
    ∃ index', indexEvent index (requestEvent principal q p event_id timestamp) = .ok index' := by
  obtain ⟨hmessage, hretry, hobjective⟩ := question_eq_ok hquestion
  obtain ⟨hscope, hlast⟩ := scope_and_last hnotes hconsistent
  have hrecorded : Recorded requestType "request_key" principal.actor_id q.key q.expected
      [q.objective_id] (requestEvent principal q p event_id timestamp) :=
    recorded_requestEvent event_id timestamp
  have hdesk : DeskCall (context p "participant")
      (requestCall principal q.expected [q.objective_id] p) := ⟨rfl, rfl, rfl, rfl, rfl⟩
  have hprovenance := hdesk.provenance (p.sequencer.sequence + 1) event_id timestamp hscope hlast
  have helapsed : exerciseTime (requestEvent principal q p event_id timestamp) =
      .ok p.elapsed_seconds :=
    exerciseTime_assemble rfl hstarted _ event_id timestamp
  have hcontent : text (((requestEvent principal q p event_id timestamp).data.get? "text").getD
      .null) "text" 1024 = .ok q.message := by
    rw [hrecorded.data ("text", .str q.message) (by simp [Question.expected])]
    exact text_normal hmessage "text"
  have hkeytext : text (((requestEvent principal q p event_id timestamp).data.get?
      "request_key").getD .null) "retry key" 128 = .ok q.key := by
    rw [hrecorded.key]
    exact text_normal hretry "retry key"
  have hactor : (requestEvent principal q p event_id timestamp).actor.str? "id" =
      some principal.actor_id :=
    actor_str? _ _ _ _ _ (by decide)
  have hactorRole : (requestEvent principal q p event_id timestamp).actor.str? "role" =
      some principal.role :=
    (actor_str? _ _ _ _ _ (by decide)).trans (entity_role (learnerRoles_nonempty hrole))
  have hobjectiveId : (requestEvent principal q p event_id timestamp).data.str? "objective_id" =
      some q.objective_id :=
    data_str? _ _ _ _ _ (by simp [dataFields]) rfl
  have hrunState : (requestEvent principal q p event_id timestamp).data.str? "run_state" =
      some p.state.value :=
    data_str? _ _ _ _ _ (by simp [dataFields]) rfl
  have hrequests : Requests index (requestEvent principal q p event_id timestamp)
      principal.actor_id principal.role q.objective_id p.state.value := by
    refine ⟨?_, ?_, hrole, ?_, hobjective, hrecorded.objectives, ?_, rfl, ?_, ?_, ?_⟩
    · refine (data_hasFields _ _ _ _ _).mpr ?_
      simp [HasFields, requestCall, Question.expected]
    · exact actor_str? _ _ _ _ _ (by decide)
    · exact str?_redactSensitive (by decide) _
    · rcases hstate with hstate | hstate <;> simp [hstate, RunState.value]
    · exact target_isEntity _ _ _ _ _ rfl
    · rw [hmirrors.pending, not_not, List.eq_nil_iff_forall_not_mem]
      intro r hr
      obtain ⟨hmem, hopen⟩ := List.mem_filter.mp hr
      exact hidle r hmem (of_decide_eq_true hopen)
    · rw [hmirrors.request_ids]
      intro hmem
      obtain ⟨e, he, hid⟩ := List.mem_map.mp hmem
      exact hfresh e (mem_ledger (List.mem_of_mem_filter he)).1 hid
  refine indexEvent_of_requests rfl hprovenance helapsed hcontent hactor hactorRole hobjectiveId
    hrunState hrequests hkeytext ?_ hroom hkey
  rw [hmirrors.counts]
  exact hbelow

end Request

/-! ## Replies -/

section Respond

variable {p : Portal W} {principal : PortalPrincipal} {args : RespondArgs} {a : Answer}

/-- The parts of a checked reply. -/
structure Checked (principal : PortalPrincipal) (args : RespondArgs) (a : Answer) : Prop where
  kind : a.kind ∈ kinds
  technical : ¬ (principal.role = "technical_operator" ∧ a.kind ≠ "platform_issue")
  message : text args.message "reply" 1024 = .ok a.message
  request_id : text args.request_id "request id" 128 = .ok a.request_id
  key : text args.idempotency_key "retry key" 128 = .ok a.key
  scope_ids : objectives args.objective_ids = .ok a.scope_ids

theorem answered_eq_ok (h : answered principal args = .ok a) : Checked principal args a := by
  unfold answered at h
  cases hkind : memberOf args.kind kinds "invalid support reply kind" with
  | error e => simp [hkind, bind, Except.bind] at h
  | ok kind =>
      simp only [hkind, bind, Except.bind] at h
      split at h
      · cases h
      next htechnical =>
        cases hmessage : text args.message "reply" 1024 with
        | error e => simp [hmessage] at h
        | ok message =>
            cases hid : text args.request_id "request id" 128 with
            | error e => simp [hmessage, hid] at h
            | ok request_id =>
                cases hkey : text args.idempotency_key "retry key" 128 with
                | error e => simp [hmessage, hid, hkey] at h
                | ok key =>
                    cases hscope : objectives args.objective_ids with
                    | error e => simp [hmessage, hid, hkey, hscope] at h
                    | ok scope_ids =>
                        simp only [hmessage, hid, hkey, hscope, pure, Except.pure,
                          Except.ok.injEq] at h
                        subst h
                        exact ⟨memberOf_eq_ok hkind, htechnical, hmessage, hid, hkey, hscope⟩

/-- The event of a reply. -/
def responseEvent (principal : PortalPrincipal) (a : Answer) (p : Portal W)
    (event_id timestamp : String) : Event :=
  sanitized ((responseCall principal a.request_id a.expected a.scope_ids p).assemble
    (context p "facilitator") (p.sequencer.sequence + 1) event_id timestamp)

theorem recorded_responseEvent (hscope : sortedSet a.scope_ids = a.scope_ids)
    (event_id timestamp : String) :
    Recorded responseType "response_key" principal.actor_id a.key a.expected a.scope_ids
      (responseEvent principal a p event_id timestamp) := by
  have hdata : ∀ m ∈ a.expected,
      (responseEvent principal a p event_id timestamp).data.get? m.1 = some m.2 := by
    intro m hm
    simp only [Answer.expected, List.mem_cons, List.not_mem_nil, or_false] at hm
    rcases hm with rfl | rfl | rfl | rfl <;>
      exact data_get? _ _ _ _ _ (by simp [dataFields]) rfl rfl
  refine ⟨rfl, ?_, hdata ("response_key", .str a.key) (by simp [Answer.expected]), hdata, hscope⟩
  unfold actorId responseEvent
  rw [actor_str? _ _ _ _ _ (by decide)]
  rfl

/-- The index accepts the event of a reply that passed the checks. -/
theorem index_responseEvent {index : SupportIndex} (hnotes : Notes p.ledger index)
    (hconsistent : Consistent p.ledger p) (hstarted : 0 ≤ p.elapsed_seconds)
    (hrole : principal.role ∈ ["facilitator", "technical_operator"])
    (hchecked : Checked principal args a)
    (hstate : p.state = .running ∨ p.state = .paused ∨ p.state = .stopped)
    (hstopped : ¬ (p.state = .stopped ∧ a.kind ≠ "platform_issue"))
    {record : Record} (hrecord : index.record? a.request_id = some record)
    (hopen : record.response = none) (hpast : record.elapsed_seconds ≤ p.elapsed_seconds)
    (hkey : (responseType, principal.actor_id, a.key) ∉ index.keys) (event_id timestamp : String) :
    ∃ index', indexEvent index (responseEvent principal a p event_id timestamp) = .ok index' := by
  obtain ⟨hscope, hlast⟩ := scope_and_last hnotes hconsistent
  obtain ⟨hsorted, hobjectives⟩ := objectives_normal hchecked.scope_ids
  have hrecorded : Recorded responseType "response_key" principal.actor_id a.key a.expected
      a.scope_ids (responseEvent principal a p event_id timestamp) :=
    recorded_responseEvent hsorted event_id timestamp
  have hdesk : DeskCall (context p "facilitator")
      (responseCall principal a.request_id a.expected a.scope_ids p) := ⟨rfl, rfl, rfl, rfl, rfl⟩
  have hprovenance := hdesk.provenance (p.sequencer.sequence + 1) event_id timestamp hscope hlast
  have helapsed : exerciseTime (responseEvent principal a p event_id timestamp) =
      .ok p.elapsed_seconds :=
    exerciseTime_assemble rfl hstarted _ event_id timestamp
  have hcontent : text (((responseEvent principal a p event_id timestamp).data.get? "text").getD
      .null) "text" 1024 = .ok a.message := by
    rw [hrecorded.data ("text", .str a.message) (by simp [Answer.expected])]
    exact text_normal hchecked.message "text"
  have hkeytext : text (((responseEvent principal a p event_id timestamp).data.get?
      "response_key").getD .null) "retry key" 128 = .ok a.key := by
    rw [hrecorded.key]
    exact text_normal hchecked.key "retry key"
  have hname : record.request_id = a.request_id := by
    simpa using List.find?_some hrecord
  have hfound : ((responseEvent principal a p event_id timestamp).data.str? "request_id").bind
      index.record? = some record := by
    have hid : (responseEvent principal a p event_id timestamp).data.str? "request_id" =
        some a.request_id := data_str? _ _ _ _ _ (by simp [dataFields]) rfl
    rw [hid]
    exact hrecord
  have hactor : (responseEvent principal a p event_id timestamp).actor.str? "id" =
      some principal.actor_id :=
    actor_str? _ _ _ _ _ (by decide)
  have hnonempty : principal.role ≠ "" := by
    intro hempty
    rw [hempty] at hrole
    exact absurd hrole (by decide)
  have hactorRole : (responseEvent principal a p event_id timestamp).actor.str? "role" =
      some principal.role :=
    (actor_str? _ _ _ _ _ (by decide)).trans (entity_role hnonempty)
  have hkind : (responseEvent principal a p event_id timestamp).data.str? "kind" = some a.kind :=
    data_str? _ _ _ _ _ (by simp [dataFields]) rfl
  have hrunState : (responseEvent principal a p event_id timestamp).data.str? "run_state" =
      some p.state.value :=
    data_str? _ _ _ _ _ (by simp [dataFields]) rfl
  have hresponds : Responds (responseEvent principal a p event_id timestamp) p.elapsed_seconds
      record principal.role a.kind p.state.value := by
    refine ⟨?_, hopen, ?_, hrole, hchecked.technical, ?_, hchecked.kind, ?_, ?_, hpast, rfl, ?_, ?_⟩
    · refine (data_hasFields _ _ _ _ _).mpr ?_
      simp [HasFields, responseCall, Answer.expected]
    · exact actor_str? _ _ _ _ _ (by decide)
    · exact str?_redactSensitive (by decide) _
    · rcases hstate with hstate | hstate | hstate <;> simp [hstate, RunState.value]
    · rintro ⟨hvalue, hother⟩
      refine hstopped ⟨?_, hother⟩
      cases hp : p.state <;> simp [hp, RunState.value] at hvalue ⊢
    · rw [hname]
      exact target_isEntity _ _ _ _ _ rfl
    · rw [hname]
      rfl
  have hscopes : objectives (Json.strs (responseEvent principal a p event_id timestamp).objective_ids)
      = .ok a.scope_ids := by
    rw [hrecorded.objectives]
    exact hobjectives
  exact indexEvent_of_responds rfl hprovenance helapsed hcontent hfound hactor hactorRole hkind
    hrunState hresponds hscopes hkeytext hkey

end Respond

/-! ## Retries -/

section Retry

variable {p : Portal W} {event_type key_field actor_id key : String}
  {expected : List (String × Json)} {objective_ids : List String}

/-- What `_retry_request` and `_retry_response` look for. -/
def Under (event_type key_field actor_id key : String) (event : Event) : Prop :=
  event.event_type = event_type ∧ actorId event = actor_id ∧
    event.data.get? key_field = some (.str key)

instance (event_type key_field actor_id key : String) (event : Event) :
    Decidable (Under event_type key_field actor_id key event) :=
  inferInstanceAs (Decidable (_ ∧ _))

/-- The field of the retry key of an event type. -/
def KeyField (event_type key_field : String) : Prop :=
  event_type = requestType ∧ key_field = "request_key" ∨
    event_type = responseType ∧ key_field = "response_key"

theorem Under.rawKey {event : Event} (h : Under event_type key_field actor_id key event)
    (hfield : KeyField event_type key_field) : rawKey event = .str key := by
  obtain ⟨htype, -, hkey⟩ := h
  obtain ⟨rfl, rfl⟩ | ⟨rfl, rfl⟩ := hfield
  · simp [Support.rawKey, htype, hkey]
  · simp [Support.rawKey, htype, hkey, show responseType ≠ requestType by decide]

theorem Recorded.under {event : Event}
    (h : Recorded event_type key_field actor_id key expected objective_ids event) :
    Under event_type key_field actor_id key event := ⟨h.type, h.actor, h.key⟩

theorem Under.isSupport {event : Event} (h : Under event_type key_field actor_id key event)
    (hfield : KeyField event_type key_field) : IsSupport event := by
  obtain ⟨rfl, -⟩ | ⟨rfl, -⟩ := hfield
  · exact Or.inl h.1
  · exact Or.inr h.1

/-- At most one event of an agreeing ledger stands under a key. -/
theorem Agrees.under_unique (h : Agrees p) (hfield : KeyField event_type key_field)
    {e e' : Event} (he : e ∈ p.ledger) (he' : e' ∈ p.ledger)
    (hunder : Under event_type key_field actor_id key e)
    (hunder' : Under event_type key_field actor_id key e') : e' = e := by
  obtain ⟨index, hindex⟩ := h.accepted
  have hnotes := notes_of_indexEvents hindex
  have hnodup : ((supportEvents p.ledger).map keyOf).Nodup := by
    rw [← hnotes.keys, List.nodup_reverse]
    exact hnotes.once
  have hsupport : ∀ {x : Event}, x ∈ p.ledger → Under event_type key_field actor_id key x →
      x ∈ supportEvents p.ledger :=
    fun hx hxunder => List.mem_filter.mpr ⟨hx, decide_eq_true (hxunder.isSupport hfield)⟩
  refine List.inj_on_of_nodup_map hnodup (hsupport he' hunder') (hsupport he hunder) ?_
  rw [keyOf, keyOf, hunder.rawKey hfield, hunder'.rawKey hfield, hunder.1, hunder'.1,
    hunder.2.1, hunder'.2.1]

/-- The lookup finds the event under the key. -/
theorem Agrees.find_under (h : Agrees p) (hfield : KeyField event_type key_field) {e : Event}
    (he : e ∈ p.ledger) (hunder : Under event_type key_field actor_id key e) :
    (p.ledger.find? fun x => x.event_type = event_type ∧ actorId x = actor_id ∧
      x.data.get? key_field = some (.str key)) = some e := by
  cases hfind : p.ledger.find? fun x => x.event_type = event_type ∧ actorId x = actor_id ∧
      x.data.get? key_field = some (.str key) with
  | none =>
      rw [List.find?_eq_none] at hfind
      exact absurd (decide_eq_true hunder) (hfind e he)
  | some e' =>
      have hunder' : Under event_type key_field actor_id key e' :=
        of_decide_eq_true (List.find?_some hfind :)
      rw [h.under_unique hfield he (List.mem_of_find?_eq_some hfind) hunder hunder']

/-- A repeated call finds its receipt. -/
theorem Agrees.retry_of_recorded (h : Agrees p) (hfield : KeyField event_type key_field)
    {e : Event} (he : e ∈ p.ledger)
    (hrecorded : Recorded event_type key_field actor_id key expected objective_ids e) :
    retry event_type key_field p.ledger actor_id key expected objective_ids =
      .ok (some (receipt e true)) := by
  unfold retry
  rw [h.find_under hfield he hrecorded.under]
  exact if_pos ⟨hrecorded.data, hrecorded.objectives⟩

/-- What a successful lookup found. -/
theorem retry_eq_some {events : List Event} {r : Receipt}
    (h : retry event_type key_field events actor_id key expected objective_ids = .ok (some r)) :
    ∃ e ∈ events, Recorded event_type key_field actor_id key expected objective_ids e ∧
      r = receipt e true := by
  unfold retry at h
  split at h
  next e hfind =>
    split at h
    next hsame =>
      injection h with h
      injection h with h
      have hunder : Under event_type key_field actor_id key e :=
        of_decide_eq_true (List.find?_some hfind :)
      exact ⟨e, List.mem_of_find?_eq_some hfind,
        ⟨hunder.1, hunder.2.1, hunder.2.2, hsame.1, hsame.2⟩, h.symm⟩
    · cases h
  · cases h

theorem retry_eq_none {events : List Event}
    (h : retry event_type key_field events actor_id key expected objective_ids = .ok none) :
    ∀ e ∈ events, ¬ (e.event_type = event_type ∧ actorId e = actor_id ∧
      e.data.get? key_field = some (.str key)) := by
  unfold retry at h
  split at h
  · split at h
    · injection h with h
      cases h
    · cases h
  next hfind =>
    rw [List.find?_eq_none] at hfind
    exact fun e he hunder => hfind e he (decide_eq_true hunder)

end Retry

end SupportDesk

end NetStrike.Dashboard
