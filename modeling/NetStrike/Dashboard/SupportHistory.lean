import NetStrike.Dashboard.SupportRecords

/-!
# The support writer and the support index agree

`Step` is one step of a service under the lock of its run: a support call, or a step of the rest of
the service. Every step keeps `Agrees` (`agrees_step`) and every accepted call leaves an event that
records it (`request_spec`, `respond_spec`); `support_ledger_agrees` is the result on whole runs.
-/

set_option autoImplicit false

namespace NetStrike.Dashboard

open NetStrike.Foundation NetStrike.Shared NetStrike.Orchestrator NetStrike.Orchestrator.Support

namespace SupportDesk

variable {W : Type} (desk : SupportDesk W) {p : Portal W}

/-! ## Calls -/

theorem scope_cases (principal : PortalPrincipal) (run_id : String) (roles : List String)
    (p : Portal W) :
    (scope principal run_id roles p = (.ok (), p) ∧ principal.role ∈ roles ∧ run_id = p.run_id) ∨
      ∃ e, scope principal run_id roles p = (.error e, p) := by
  unfold scope
  rw [Raising.require_bind_apply]
  split
  next hrole =>
    rw [Raising.require_apply]
    split
    next hrun => exact Or.inl ⟨rfl, hrole, hrun⟩
    next hrun => exact Or.inr ⟨_, rfl⟩
  next hrole => exact Or.inr ⟨_, rfl⟩

theorem scope_of_mem {principal : PortalPrincipal} {run_id : String} {roles : List String}
    (hrole : principal.role ∈ roles) (hrun : run_id = p.run_id) :
    scope principal run_id roles p = (.ok (), p) := by
  unfold scope
  rw [Raising.require_bind_apply, if_pos hrole, Raising.require_apply, if_pos hrun]

/-- How a call ends: it is refused or fails over to the rest of the service, or an event of the
ledger records it. -/
inductive Ends (event_type key_field actor_id key : String) (expected : List (String × Json))
    (objective_ids : List String) (p : Portal W) : Except Exn Receipt × Portal W → Prop
  | refused {e : Exn} {p' : Portal W}
      (hsteps : Relation.ReflTransGen (OtherStep desk.formats) p p') :
      Ends event_type key_field actor_id key expected objective_ids p (.error e, p')
  | recorded {p' : Portal W} {event : Event} {replayed : Bool} (hagrees : Agrees p')
      (hexercise : p'.exercise_id = p.exercise_id) (hrun : p'.run_id = p.run_id)
      (hrows : p.rows ⊆ p'.rows) (hevent : event ∈ p'.ledger)
      (hrecorded : Recorded event_type key_field actor_id key expected objective_ids event) :
      Ends event_type key_field actor_id key expected objective_ids p
        (.ok (receipt event replayed), p')

/-- What a call has to show of the event that it appends. -/
structure Fit (index : SupportIndex) (event_type key_field actor_id key : String)
    (expected : List (String × Json)) (objective_ids : List String) (p : Portal W) (event : Event) :
    Prop where
  accepted : ∃ index', indexEvent index (sanitized event) = .ok index'
  time : timeOf (sanitized event) = p.elapsed_seconds
  normal : text (.str key) "retry key" 128 = .ok key
  recorded : Recorded event_type key_field actor_id key expected objective_ids (sanitized event)
  receipt : receipt event false = receipt (sanitized event) false

/-- An appended event that the index accepts ends a call. -/
theorem ends_append {event_type key_field actor_id key : String}
    {expected : List (String × Json)} {objective_ids : List String} {actor_type : String}
    {call : Portal W → EventCall} {index : SupportIndex} (h : Agrees p)
    (hindex : indexEvents p.ledger = .ok index) (hfield : KeyField event_type key_field)
    (hfit : ∀ event_id timestamp, Consistent p.ledger p →
      (∀ row ∈ p.rows, row.event_id ≠ event_id) →
      Fit index event_type key_field actor_id key expected objective_ids p
        ((call p).assemble (context p actor_type) (p.sequencer.sequence + 1) event_id timestamp)) :
    Ends desk event_type key_field actor_id key expected objective_ids p
      (desk.append actor_type call p.ledger p) := by
  obtain ⟨r, p', heq, hconsistent, happends⟩ | ⟨e, p', heq, hsteps⟩ :=
    append_cases desk actor_type call p.ledger p
  · rw [heq]
    obtain ⟨event_id, timestamp, hledger, rfl, hfresh⟩ := happends.ledger hconsistent
    have hevent := hfit event_id timestamp hconsistent hfresh
    have hunder := hevent.recorded.under
    rw [hevent.receipt]
    refine .recorded ?_ happends.exercise_id happends.run_id ?_ ?_ hevent.recorded
    · exact h.append hindex hledger happends.elapsed_seconds hevent.accepted
        (hunder.isSupport hfield) ⟨key, hunder.rawKey hfield, hevent.normal⟩ hevent.time
    · obtain ⟨_, _, hrows, -, -⟩ := happends.added
      rw [hrows]
      exact List.subset_cons_self _ _
    · rw [hledger]
      exact List.mem_append_right _ List.mem_cons_self
  · rw [heq]
    exact .refused hsteps

/-- The index of an agreeing ledger. -/
theorem Agrees.supportIndex (h : Agrees p) :
    ∃ index, indexEvents p.ledger = .ok index ∧ Support.supportIndex p.ledger = .ok index.records := by
  obtain ⟨index, hindex⟩ := h.accepted
  exact ⟨index, hindex, by rw [Support.supportIndex, hindex]; rfl⟩

/-- How a request ends. -/
theorem request_ends (h : Agrees p) (principal : PortalPrincipal) (args : RequestArgs) :
    (∃ e, desk.request principal args p = (.error e, p)) ∨
      ∃ q, question args = .ok q ∧ principal.role ∈ learnerRoles ∧ args.run_id = p.run_id ∧
        Ends desk requestType "request_key" principal.actor_id q.key q.expected [q.objective_id] p
          (desk.request principal args p) := by
  have hfield : KeyField requestType "request_key" := Or.inl ⟨rfl, rfl⟩
  unfold request
  obtain ⟨hscope, hrole, hrun⟩ | ⟨e, hscope⟩ := scope_cases principal args.run_id learnerRoles p
  · rw [Raising.bind_of_ok hscope, Raising.ofExcept_bind_apply]
    cases hquestion : question args with
    | error e => exact Or.inl ⟨e, rfl⟩
    | ok q =>
        refine Or.inr ⟨q, rfl, hrole, hrun, ?_⟩
        obtain ⟨index, hindex, hrecords⟩ := h.supportIndex
        have hmirrors := mirrors_of_indexEvents hindex
        have hnotes := notes_of_indexEvents hindex
        dsimp only
        rw [Raising.gets_bind_apply, Raising.ofExcept_bind_apply, hrecords]
        dsimp only
        rw [Raising.ofExcept_bind_apply]
        cases hretry : retry requestType "request_key" p.ledger principal.actor_id q.key q.expected
            [q.objective_id] with
        | error e => exact .refused .refl
        | ok replay =>
            cases replay with
            | some r =>
                obtain ⟨event, hevent, hrecorded, rfl⟩ := retry_eq_some hretry
                exact .recorded h rfl rfl (List.Subset.refl _) hevent hrecorded
            | none =>
                have hkey := h.key_unused hnotes rfl (retry_eq_none hretry)
                dsimp only
                rw [Raising.require_bind_apply]
                split
                next hstate =>
                  rw [Raising.require_bind_apply]
                  split
                  next hidle =>
                    rw [Raising.require_bind_apply]
                    split
                    next hlimits =>
                      refine ends_append desk h hindex hfield
                        fun event_id timestamp hconsistent hfresh => ?_
                      exact {
                        accepted := index_requestEvent hmirrors hnotes hconsistent h.started hrole
                          hquestion hstate hidle hlimits.1 hlimits.2 hkey hfresh
                        time := by
                          rw [timeOf, exerciseTime_assemble rfl h.started]
                        normal := text_normal (question_eq_ok hquestion).2.1 "retry key"
                        recorded := recorded_requestEvent event_id timestamp
                        receipt := rfl }
                    · exact .refused .refl
                  · exact .refused .refl
                · exact .refused .refl
  · exact Or.inl ⟨e, Raising.bind_of_error hscope⟩

/-- A record is not later than the present. -/
theorem Agrees.record_past (h : Agrees p) {index : SupportIndex} (hnotes : Notes p.ledger index)
    {record : Record} (hrecord : record ∈ index.records) :
    record.elapsed_seconds ≤ p.elapsed_seconds := by
  have hmem : record.elapsed_seconds ∈ (requests p.ledger).map timeOf :=
    hnotes.times ▸ List.mem_map_of_mem hrecord
  obtain ⟨e, he, htime⟩ := List.mem_map.mp hmem
  obtain ⟨heledger, htype⟩ := List.mem_filter.mp he
  exact htime ▸ h.past e heledger (Or.inl (of_decide_eq_true htype))

/-- The receipt of a reply does not depend on what redaction does. -/
theorem receipt_responseEvent (principal : PortalPrincipal) (a : Answer) (p : Portal W)
    (event_id timestamp : String) :
    receipt ((responseCall principal a.request_id a.expected a.scope_ids p).assemble
        (context p "facilitator") (p.sequencer.sequence + 1) event_id timestamp) false =
      receipt (responseEvent principal a p event_id timestamp) false := by
  have hid : (responseEvent principal a p event_id timestamp).data.get? "request_id" =
      some (.str a.request_id) := data_get? _ _ _ _ _ (by simp [dataFields]) rfl rfl
  have hraw : ((responseCall principal a.request_id a.expected a.scope_ids p).assemble
      (context p "facilitator") (p.sequencer.sequence + 1) event_id timestamp).data.get? "request_id" =
      some (.str a.request_id) := get?_redactSensitive (by decide) _
  simp only [receipt, hid, hraw]
  rfl

/-- How a reply ends. -/
theorem respond_ends (h : Agrees p) (principal : PortalPrincipal) (args : RespondArgs) :
    (∃ e, desk.respond principal args p = (.error e, p)) ∨
      ∃ a, answered principal args = .ok a ∧
        principal.role ∈ ["facilitator", "technical_operator"] ∧ args.run_id = p.run_id ∧
        Ends desk responseType "response_key" principal.actor_id a.key a.expected a.scope_ids p
          (desk.respond principal args p) := by
  have hfield : KeyField responseType "response_key" := Or.inr ⟨rfl, rfl⟩
  unfold respond
  obtain ⟨hscope, hrole, hrun⟩ | ⟨e, hscope⟩ :=
    scope_cases principal args.run_id ["facilitator", "technical_operator"] p
  · rw [Raising.bind_of_ok hscope, Raising.ofExcept_bind_apply]
    cases hanswered : answered principal args with
    | error e => exact Or.inl ⟨e, rfl⟩
    | ok a =>
        refine Or.inr ⟨a, rfl, hrole, hrun, ?_⟩
        have hchecked := answered_eq_ok hanswered
        obtain ⟨index, hindex, hrecords⟩ := h.supportIndex
        have hnotes := notes_of_indexEvents hindex
        dsimp only
        rw [Raising.gets_bind_apply, Raising.ofExcept_bind_apply, hrecords]
        dsimp only
        rw [Raising.ofExcept_bind_apply]
        cases hretry : retry responseType "response_key" p.ledger principal.actor_id a.key
            a.expected a.scope_ids with
        | error e => exact .refused .refl
        | ok replay =>
            cases replay with
            | some r =>
                obtain ⟨event, hevent, hrecorded, rfl⟩ := retry_eq_some hretry
                exact .recorded h rfl rfl (List.Subset.refl _) hevent hrecorded
            | none =>
                have hkey := h.key_unused hnotes
                  (by rw [if_neg (show responseType ≠ requestType by decide)])
                  (retry_eq_none hretry)
                dsimp only
                rw [Raising.require_bind_apply]
                split
                next hstate =>
                  rw [Raising.require_bind_apply]
                  split
                  next hfound =>
                    rw [Raising.require_bind_apply]
                    split
                    next hopen =>
                      obtain ⟨record, hrecord⟩ := Option.ne_none_iff_exists'.mp hfound
                      have hmem := List.mem_of_find?_eq_some hrecord
                      refine ends_append desk h hindex hfield
                        fun event_id timestamp hconsistent _ => ?_
                      exact {
                        accepted := index_responseEvent hnotes hconsistent h.started hrole hchecked
                          hstate.1 hstate.2 hrecord (hopen record hrecord)
                          (h.record_past hnotes hmem) hkey event_id timestamp
                        time := by
                          rw [timeOf, exerciseTime_assemble rfl h.started]
                        normal := text_normal hchecked.key "retry key"
                        recorded := recorded_responseEvent
                          (objectives_normal hchecked.scope_ids).1 event_id timestamp
                        receipt := receipt_responseEvent principal a p event_id timestamp }
                    · exact .refused .refl
                  · exact .refused .refl
                · exact .refused .refl
  · exact Or.inl ⟨e, Raising.bind_of_error hscope⟩

/-! ## Later calls -/

/-- A request that repeats a recorded one returns the receipt and changes nothing. -/
theorem request_replays (h : Agrees p) {principal : PortalPrincipal} {args : RequestArgs}
    {q : Question} (hrole : principal.role ∈ learnerRoles) (hrun : args.run_id = p.run_id)
    (hquestion : question args = .ok q) {event : Event} (hevent : event ∈ p.ledger)
    (hrecorded : Recorded requestType "request_key" principal.actor_id q.key q.expected
      [q.objective_id] event) :
    desk.request principal args p = (.ok (receipt event true), p) := by
  obtain ⟨index, -, hrecords⟩ := h.supportIndex
  unfold request
  rw [Raising.bind_of_ok (scope_of_mem hrole hrun), Raising.ofExcept_bind_apply, hquestion]
  dsimp only
  rw [Raising.gets_bind_apply, Raising.ofExcept_bind_apply, hrecords]
  dsimp only
  rw [Raising.ofExcept_bind_apply,
    h.retry_of_recorded (Or.inl ⟨rfl, rfl⟩) hevent hrecorded]
  rfl

/-- A reply that repeats a recorded one returns the receipt and changes nothing. -/
theorem respond_replays (h : Agrees p) {principal : PortalPrincipal} {args : RespondArgs}
    {a : Answer} (hrole : principal.role ∈ ["facilitator", "technical_operator"])
    (hrun : args.run_id = p.run_id) (hanswered : answered principal args = .ok a) {event : Event}
    (hevent : event ∈ p.ledger)
    (hrecorded : Recorded responseType "response_key" principal.actor_id a.key a.expected
      a.scope_ids event) :
    desk.respond principal args p = (.ok (receipt event true), p) := by
  obtain ⟨index, -, hrecords⟩ := h.supportIndex
  unfold respond
  rw [Raising.bind_of_ok (scope_of_mem hrole hrun), Raising.ofExcept_bind_apply, hanswered]
  dsimp only
  rw [Raising.gets_bind_apply, Raising.ofExcept_bind_apply, hrecords]
  dsimp only
  rw [Raising.ofExcept_bind_apply,
    h.retry_of_recorded (Or.inr ⟨rfl, rfl⟩) hevent hrecorded]
  rfl

/-- The lookup refuses another payload under a recorded key. -/
theorem Agrees.retry_conflict (h : Agrees p) {event_type key_field actor_id key : String}
    {expected expected' : List (String × Json)} {objective_ids objective_ids' : List String}
    (hfield : KeyField event_type key_field) {event : Event} (hevent : event ∈ p.ledger)
    (hrecorded : Recorded event_type key_field actor_id key expected objective_ids event)
    (hother : ¬ Recorded event_type key_field actor_id key expected' objective_ids' event) :
    retry event_type key_field p.ledger actor_id key expected' objective_ids' =
      .error (.of .ValueError "support retry key conflicts with a previous payload") := by
  unfold retry
  rw [h.find_under hfield hevent hrecorded.under]
  refine if_neg fun hsame => hother ?_
  exact ⟨hrecorded.type, hrecorded.actor, hrecorded.key, hsame.1, hsame.2⟩

/-- Two dictionaries with the same keys that one dictionary extends are equal. -/
theorem members_unique {f : String → Option Json} :
    ∀ {ms ns : List (String × Json)}, ns.map Prod.fst = ms.map Prod.fst →
      (∀ m ∈ ms, f m.1 = some m.2) → (∀ n ∈ ns, f n.1 = some n.2) → ns = ms
  | [], [], _, _, _ => rfl
  | m :: ms, n :: ns, hkeys, hms, hns => by
      obtain ⟨hkey, hkeys⟩ := List.cons.inj hkeys
      have hvalue : n.2 = m.2 := by
        have hn := hns n List.mem_cons_self
        rw [hkey, hms m List.mem_cons_self] at hn
        exact (Option.some.inj hn).symm
      rw [Prod.ext hkey hvalue, members_unique hkeys
        (fun x hx => hms x (List.mem_cons_of_mem m hx))
        fun x hx => hns x (List.mem_cons_of_mem n hx)]

/-- One event records one request under its key. -/
theorem question_unique {actor_id key : String} {q q' : Question} {event : Event}
    (h : Recorded requestType "request_key" actor_id key q.expected [q.objective_id] event)
    (h' : Recorded requestType "request_key" actor_id key q'.expected [q'.objective_id] event) :
    q' = q := by
  have hexpected : q'.expected = q.expected := members_unique (f := fun k => event.data.get? k) rfl h.data h'.data
  cases q
  cases q'
  simp_all [Question.expected]

/-- One event records one reply under its key. -/
theorem answer_unique {actor_id key : String} {a a' : Answer} {event : Event}
    (h : Recorded responseType "response_key" actor_id key a.expected a.scope_ids event)
    (h' : Recorded responseType "response_key" actor_id key a'.expected a'.scope_ids event) :
    a' = a := by
  have hexpected : a'.expected = a.expected := members_unique (f := fun k => event.data.get? k) rfl h.data h'.data
  have hscope : a'.scope_ids = a.scope_ids := h'.objectives.symm.trans h.objectives
  cases a
  cases a'
  simp_all [Answer.expected]

/-- A request with another payload under a recorded key is refused and changes nothing. -/
theorem request_conflicts (h : Agrees p) {actor_id : String} {q : Question} {event : Event}
    (hevent : event ∈ p.ledger)
    (hrecorded : Recorded requestType "request_key" actor_id q.key q.expected [q.objective_id] event)
    {principal : PortalPrincipal} {args : RequestArgs} (hactor : principal.actor_id = actor_id)
    (hkey : text args.idempotency_key "retry key" 128 = .ok q.key)
    (hother : question args ≠ .ok q) : ∃ e, desk.request principal args p = (.error e, p) := by
  unfold request
  obtain ⟨hscope, -, -⟩ | ⟨e, hscope⟩ := scope_cases principal args.run_id learnerRoles p
  · rw [Raising.bind_of_ok hscope, Raising.ofExcept_bind_apply]
    cases hquestion : question args with
    | error e => exact ⟨e, rfl⟩
    | ok q' =>
        obtain ⟨index, -, hrecords⟩ := h.supportIndex
        have hsame : q'.key = q.key := by
          have := (question_eq_ok hquestion).2.1
          rw [hkey] at this
          exact (Except.ok.inj this).symm
        dsimp only
        rw [Raising.gets_bind_apply, Raising.ofExcept_bind_apply, hrecords]
        dsimp only
        rw [Raising.ofExcept_bind_apply, hactor, hsame,
          h.retry_conflict (Or.inl ⟨rfl, rfl⟩) hevent hrecorded]
        · exact ⟨_, rfl⟩
        · intro hrecorded'
          rw [question_unique hrecorded hrecorded'] at hquestion
          exact hother hquestion
  · exact ⟨e, Raising.bind_of_error hscope⟩

/-- A reply with another payload under a recorded key is refused and changes nothing. -/
theorem respond_conflicts (h : Agrees p) {actor_id : String} {a : Answer} {event : Event}
    (hevent : event ∈ p.ledger)
    (hrecorded : Recorded responseType "response_key" actor_id a.key a.expected a.scope_ids event)
    {principal : PortalPrincipal} {args : RespondArgs} (hactor : principal.actor_id = actor_id)
    (hkey : text args.idempotency_key "retry key" 128 = .ok a.key)
    (hother : answered principal args ≠ .ok a) :
    ∃ e, desk.respond principal args p = (.error e, p) := by
  unfold respond
  obtain ⟨hscope, -, -⟩ | ⟨e, hscope⟩ :=
    scope_cases principal args.run_id ["facilitator", "technical_operator"] p
  · rw [Raising.bind_of_ok hscope, Raising.ofExcept_bind_apply]
    cases hanswered : answered principal args with
    | error e => exact ⟨e, rfl⟩
    | ok a' =>
        obtain ⟨index, -, hrecords⟩ := h.supportIndex
        have hsame : a'.key = a.key := by
          have := (answered_eq_ok hanswered).key
          rw [hkey] at this
          exact (Except.ok.inj this).symm
        dsimp only
        rw [Raising.gets_bind_apply, Raising.ofExcept_bind_apply, hrecords]
        dsimp only
        rw [Raising.ofExcept_bind_apply, hactor, hsame,
          h.retry_conflict (Or.inr ⟨rfl, rfl⟩) hevent hrecorded]
        · exact ⟨_, rfl⟩
        · intro hrecorded'
          rw [answer_unique hrecorded hrecorded'] at hanswered
          exact hother hanswered
  · exact ⟨e, Raising.bind_of_error hscope⟩

/-! ## Whole runs -/

/-- One step of the service. -/
inductive Step : Portal W → Portal W → Prop
  | request (principal : PortalPrincipal) (args : RequestArgs) (p : Portal W) :
      Step p (desk.request principal args p).2
  | respond (principal : PortalPrincipal) (args : RespondArgs) (p : Portal W) :
      Step p (desk.respond principal args p).2
  | other {p p' : Portal W} (hstep : OtherStep desk.formats p p') : Step p p'

/-- The service from one state to another. -/
abbrev Reaches : Portal W → Portal W → Prop := Relation.ReflTransGen desk.Step

/-- Rows are never deleted and the exercise stays. -/
structure Extends (p p' : Portal W) : Prop where
  exercise_id : p'.exercise_id = p.exercise_id
  rows : p.rows ⊆ p'.rows

theorem Extends.refl (p : Portal W) : Extends p p := ⟨rfl, List.Subset.refl _⟩

theorem Extends.trans {p p' p'' : Portal W} (h : Extends p p') (h' : Extends p' p'') :
    Extends p p'' :=
  ⟨h'.exercise_id.trans h.exercise_id, List.Subset.trans h.rows h'.rows⟩

/-- An event of the ledger is in the ledger as long as the run is the same. -/
theorem Extends.mem_ledger {p p' : Portal W} (h : Extends p p') (hrun : p'.run_id = p.run_id)
    {event : Event} (hevent : event ∈ p.ledger) : event ∈ p'.ledger := by
  obtain ⟨hrow, hexercise, hid⟩ := mem_storedEvents.mp hevent
  exact mem_storedEvents.mpr ⟨h.rows hrow, hexercise.trans h.exercise_id.symm, hid.trans hrun.symm⟩

theorem extends_other {p p' : Portal W} (h : OtherStep desk.formats p p') : Extends p p' := by
  cases h with
  | produced hevent hrows =>
      obtain ⟨rfl, -⟩ := appendEvent_eq_ok hrows
      exact ⟨rfl, List.subset_cons_self _ _⟩
  | moved => exact ⟨rfl, List.Subset.refl _⟩
  | reset => exact ⟨rfl, List.Subset.refl _⟩

theorem others_spec {p p' : Portal W} (h : Agrees p)
    (hsteps : Relation.ReflTransGen (OtherStep desk.formats) p p') : Agrees p' ∧ Extends p p' := by
  induction hsteps with
  | refl => exact ⟨h, Extends.refl p⟩
  | tail _ hstep ih => exact ⟨ih.1.other hstep, ih.2.trans (extends_other desk hstep)⟩

theorem Ends.spec {event_type key_field actor_id key : String} {expected : List (String × Json)}
    {objective_ids : List String} {result : Except Exn Receipt × Portal W} (h : Agrees p)
    (hends : Ends desk event_type key_field actor_id key expected objective_ids p result) :
    Agrees result.2 ∧ Extends p result.2 := by
  cases hends with
  | refused hsteps => exact others_spec desk h hsteps
  | recorded hagrees hexercise _ hrows => exact ⟨hagrees, hexercise, hrows⟩

/-- Every step keeps the agreement and the rows. -/
theorem agrees_step {p p' : Portal W} (h : Agrees p) (hstep : desk.Step p p') :
    Agrees p' ∧ Extends p p' := by
  cases hstep with
  | request principal args =>
      obtain ⟨e, heq⟩ | ⟨q, -, -, -, hends⟩ := request_ends desk h principal args
      · rw [heq]
        exact ⟨h, Extends.refl p⟩
      · exact hends.spec desk h
  | respond principal args =>
      obtain ⟨e, heq⟩ | ⟨a, -, -, -, hends⟩ := respond_ends desk h principal args
      · rw [heq]
        exact ⟨h, Extends.refl p⟩
      · exact hends.spec desk h
  | other hstep => exact ⟨h.other hstep, extends_other desk hstep⟩

/-- Every run keeps the agreement and the rows. -/
theorem agrees_reaches {p p' : Portal W} (h : Agrees p) (hreach : desk.Reaches p p') :
    Agrees p' ∧ Extends p p' := by
  induction hreach with
  | refl => exact ⟨h, Extends.refl p⟩
  | tail _ hstep ih =>
      obtain ⟨hagrees, hextends⟩ := agrees_step desk ih.1 hstep
      exact ⟨hagrees, ih.2.trans hextends⟩

/-- A run starts with an empty ledger. -/
theorem agrees_of_empty {p : Portal W} (hledger : p.ledger = []) (hstarted : 0 ≤ p.elapsed_seconds) :
    Agrees p := by
  constructor
  · exact ⟨_, by rw [hledger]; rfl⟩
  · exact fun e he => absurd (hledger ▸ he) List.not_mem_nil
  · exact fun e he => absurd (hledger ▸ he) List.not_mem_nil
  · exact hstarted
  · exact fun e he => absurd (hledger ▸ he) List.not_mem_nil

/-- An accepted call has an event that records it. -/
theorem Ends.of_ok {event_type key_field actor_id key : String} {expected : List (String × Json)}
    {objective_ids : List String} {r : Receipt} {p' : Portal W}
    (h : Ends desk event_type key_field actor_id key expected objective_ids p (.ok r, p')) :
    Agrees p' ∧ p'.run_id = p.run_id ∧ ∃ event ∈ p'.ledger,
      Recorded event_type key_field actor_id key expected objective_ids event ∧
        { r with replayed := true } = receipt event true := by
  cases h with
  | recorded hagrees _ hrun _ hevent hrecorded => exact ⟨hagrees, hrun, _, hevent, hrecorded, rfl⟩

theorem request_run_id (h : Agrees p) {principal : PortalPrincipal} {args : RequestArgs}
    {r : Receipt} (hok : (desk.request principal args p).1 = .ok r) :
    (desk.request principal args p).2.run_id = p.run_id := by
  obtain ⟨e, heq⟩ | ⟨q, -, -, -, hends⟩ := request_ends desk h principal args
  · rw [heq] at hok
    cases hok
  · rw [show desk.request principal args p = (.ok r, _) from Prod.ext hok rfl] at hends
    exact hends.of_ok.2.1

/-- In every state of a service that started with an empty ledger: the index accepts the ledger,
the limits hold, a call that was accepted earlier in the same run is answered by its receipt and
appends nothing when it is repeated, and another payload under its retry key is refused. -/
theorem support_ledger_agrees {start p : Portal W} (hledger : start.ledger = [])
    (hstarted : 0 ≤ start.elapsed_seconds) (hreach : desk.Reaches start p) :
    (∃ records, supportIndex p.ledger = .ok records) ∧ Limits p.ledger ∧
    (∀ principal args r p' later, desk.request principal args p = (.ok r, p') →
      desk.Reaches p' later → later.run_id = p.run_id →
      desk.request principal args later = (.ok { r with replayed := true }, later) ∧
      ∀ principal' args', principal'.actor_id = principal.actor_id →
        text args'.idempotency_key "retry key" 128 = text args.idempotency_key "retry key" 128 →
        question args' ≠ question args →
        ∃ e, desk.request principal' args' later = (.error e, later)) ∧
    (∀ principal args r p' later, desk.respond principal args p = (.ok r, p') →
      desk.Reaches p' later → later.run_id = p.run_id →
      desk.respond principal args later = (.ok { r with replayed := true }, later) ∧
      ∀ principal' args', principal'.actor_id = principal.actor_id →
        text args'.idempotency_key "retry key" 128 = text args.idempotency_key "retry key" 128 →
        answered principal' args' ≠ answered principal args →
        ∃ e, desk.respond principal' args' later = (.error e, later)) := by
  have hagrees := (agrees_reaches desk (agrees_of_empty hledger hstarted) hreach).1
  obtain ⟨index, -, hrecords⟩ := hagrees.supportIndex
  refine ⟨⟨_, hrecords⟩, limits_of_supportIndex hrecords, ?_, ?_⟩
  · intro principal args r p' later heq hlater hrun
    obtain ⟨e, herror⟩ | ⟨q, hquestion, hrole, hid, hends⟩ :=
      request_ends desk hagrees principal args
    · rw [herror] at heq
      injection heq with heq _
      cases heq
    · rw [heq] at hends
      obtain ⟨hagrees', hrun', event, hevent, hrecorded, hreceipt⟩ := hends.of_ok
      obtain ⟨hlast, hextends⟩ := agrees_reaches desk hagrees' hlater
      have hpresent := hextends.mem_ledger (hrun.trans hrun'.symm) hevent
      rw [hreceipt]
      refine ⟨request_replays desk hlast hrole (hid.trans hrun.symm) hquestion hpresent hrecorded, ?_⟩
      intro principal' args' hactor hkey hother
      rw [(question_eq_ok hquestion).2.1] at hkey
      rw [hquestion] at hother
      exact request_conflicts desk hlast hpresent hrecorded hactor hkey hother
  · intro principal args r p' later heq hlater hrun
    obtain ⟨e, herror⟩ | ⟨a, hanswered, hrole, hid, hends⟩ :=
      respond_ends desk hagrees principal args
    · rw [herror] at heq
      injection heq with heq _
      cases heq
    · rw [heq] at hends
      obtain ⟨hagrees', hrun', event, hevent, hrecorded, hreceipt⟩ := hends.of_ok
      obtain ⟨hlast, hextends⟩ := agrees_reaches desk hagrees' hlater
      have hpresent := hextends.mem_ledger (hrun.trans hrun'.symm) hevent
      rw [hreceipt]
      refine ⟨respond_replays desk hlast hrole (hid.trans hrun.symm) hanswered hpresent hrecorded, ?_⟩
      intro principal' args' hactor hkey hother
      rw [(answered_eq_ok hanswered).key] at hkey
      rw [hanswered] at hother
      exact respond_conflicts desk hlast hpresent hrecorded hactor hkey hother

/-- A service whose clock stands still and whose stop does nothing. -/
def sampleDesk : SupportDesk Nat where
  formats := .lenient
  clock := fun n => (⟨true, 1767225600000000⟩, n)
  event_id_factory := fun n => ("e0", n + 1)
  fail_safe_stop := fun _ _ p => (.ok (), p)
  stop_steps := fun _ _ _ => .refl

/-- A running exercise before its first event. -/
def samplePortal : Portal Nat := ⟨[], "netstrike", "run-1", ⟨0⟩, .running, 30, 0⟩

/-- A question with blanks around its text. -/
def sampleRequest : RequestArgs :=
  ⟨"run-1", .str " key-1 ", .str "LO2", .str "Where do I look? "⟩

/-- The receipt of the question. -/
def sampleReceipt : Receipt := ⟨"run-1", "e0", .str "e0", "requested", false⟩

theorem support_ledger_agrees_sample :
    let asked := sampleDesk.request ⟨"analyst-1", "soc_analyst"⟩ sampleRequest samplePortal
    asked.1 = .ok sampleReceipt ∧ Limits samplePortal.ledger ∧
      sampleDesk.request ⟨"analyst-1", "soc_analyst"⟩ sampleRequest asked.2 =
        (.ok { sampleReceipt with replayed := true }, asked.2) := by
  have hasked : (sampleDesk.request ⟨"analyst-1", "soc_analyst"⟩ sampleRequest samplePortal).1 =
      .ok sampleReceipt := by decide +kernel
  have hrun := request_run_id sampleDesk (agrees_of_empty rfl (by decide)) hasked
  have h := support_ledger_agrees sampleDesk (show samplePortal.ledger = [] from rfl) (by decide) .refl
  have hsplit : ∀ {x : Except Exn Receipt × Portal Nat}, x.1 = .ok sampleReceipt →
      x = (.ok sampleReceipt, x.2) := fun hx => Prod.ext hx rfl
  exact ⟨hasked, h.2.1, (h.2.2.1 _ _ _ _ _ (hsplit hasked) .refl hrun).1⟩

end SupportDesk

end NetStrike.Dashboard
