import NetStrike.Dashboard.Store
import NetStrike.Foundation.Runs
import NetStrike.Shared.LedgerReload
import Mathlib.Algebra.Order.Ring.Unbundled.Rat

/-!
# Runs of the store

`Contents` is what a store is for: the accepted events, submissions, audit records and archives,
oldest first, with no text, no key and no table. Every call of the store either raises and leaves
the tables as they were or makes one `Change` of the contents (`Holds.writes`), so the tables of
every run hold its contents.
-/

set_option autoImplicit false

namespace NetStrike.Dashboard

open NetStrike.Foundation NetStrike.Foundation.Raising NetStrike.Shared NetStrike.Orchestrator
open NetStrike.Orchestrator.Aar

/-! ## Documents -/

section Redaction

variable {isFloat : Rat → Prop}

mutual

theorem genuine_redactSensitive : ∀ {j : Json}, j.Genuine isFloat →
    (redactSensitive j).Genuine isFloat
  | .null, h | .bool _, h | .int _, h | .float _, h | .str _, h => h
  | .arr _, h => genuine_redactItems h
  | .obj _, h => ⟨by rw [EventCall.redactMembers_keys]; exact h.1, genuine_redactMembers h.2⟩

theorem genuine_redactItems : ∀ {items : List Json}, Json.GenuineItems isFloat items →
    Json.GenuineItems isFloat (redactItems items)
  | [], h => h
  | _ :: _, h => ⟨genuine_redactSensitive h.1, genuine_redactItems h.2⟩

theorem genuine_redactMembers : ∀ {ms : List (String × Json)}, Json.GenuineMembers isFloat ms →
    Json.GenuineMembers isFloat (redactMembers ms)
  | [], h => h
  | _ :: _, h => by
      refine ⟨?_, genuine_redactMembers h.2⟩
      split
      · trivial
      · exact genuine_redactSensitive h.1

end

end Redaction

namespace Archive.Env

variable (env : Archive.Env)

/-- A dictionary as a caller hands it over. -/
structure Document where
  members : List (String × Json)
  genuine : (Json.obj members).Genuine env.ft.isFloat

/-- The dictionary as a value. -/
def Document.json {env : Archive.Env} (d : env.Document) : Json := .obj d.members

variable {env}

theorem dumps_eq_ok {j : Json} {text : List Char} (h : env.dumps j = .ok text) :
    j.short = true ∧ text = j.dumpChars env.ft.repr := by
  obtain ⟨_, hshort, h⟩ := Checked.bind_eq_ok h
  injection h with h
  exact ⟨Checked.require_eq_ok hshort, h.symm⟩

/-- What was written is read back with sorted keys. -/
theorem loads_dumpChars {j : Json} (h : j.Proper env.ft.isFloat) :
    env.loads (j.dumpChars env.ft.repr) = .ok j.sortKeys := by
  have hread := Json.loads_dumpChars Json.dict_faithful h (Or.inl rfl)
  rw [List.append_nil] at hread
  rw [loads, hread]
  rfl

end Archive.Env

namespace Store

/-! ## Rows -/

section Rows

variable {t t' : Tables} {u : Unit}

/-- A constraint: no two rows agree on the columns. -/
def Distinct {ρ κ : Type} (columns : ρ → κ) (rows : List ρ) : Prop := (rows.map columns).Nodup

theorem Distinct.snoc {ρ κ : Type} {columns : ρ → κ} {rows : List ρ} {row : ρ}
    (h : Distinct columns rows) (hrow : columns row ∉ rows.map columns) :
    Distinct columns (rows ++ [row]) := by
  rw [Distinct, List.map_append, List.map_singleton]
  exact List.nodup_append.mpr ⟨h, List.nodup_singleton _, fun a ha b hb =>
    List.mem_singleton.mp hb ▸ fun heq => hrow (heq ▸ ha)⟩

theorem Distinct.filter {ρ κ : Type} {columns : ρ → κ} {rows : List ρ}
    (h : Distinct columns rows) (p : ρ → Bool) : Distinct columns (rows.filter p) :=
  h.sublist (List.filter_sublist.map columns)

/-- A key is found in one row. -/
theorem Distinct.filter_eq {ρ κ : Type} [DecidableEq κ] {columns : ρ → κ} {rows : List ρ} {row : ρ}
    (h : Distinct columns rows) (hrow : row ∈ rows) :
    rows.filter (fun r => columns r = columns row) = [row] := by
  induction rows with
  | nil => cases hrow
  | cons r rows ih =>
      rw [Distinct, List.map_cons, List.nodup_cons] at h
      rcases List.mem_cons.mp hrow with rfl | hrow
      · -- No later row has the key.
        have hrest : rows.filter (fun s => columns s = columns row) = [] := by
          refine List.filter_eq_nil_iff.mpr fun s hs heq => h.1 ?_
          exact of_decide_eq_true heq ▸ List.mem_map_of_mem hs
        rw [List.filter_cons_of_pos (by exact decide_eq_true rfl), hrest]
      · have hne : ¬ columns r = columns row := fun heq =>
          h.1 (heq ▸ List.mem_map_of_mem hrow)
        rw [List.filter_cons_of_neg (by exact fun heq => hne (of_decide_eq_true heq))]
        exact ih h.2 hrow

/-- A search that determines the key finds the row that has it. -/
theorem Distinct.find?_eq {ρ κ : Type} {columns : ρ → κ} {rows : List ρ} {row : ρ}
    (h : Distinct columns rows) (hrow : row ∈ rows) {p : ρ → Bool} (hp : p row = true)
    (honly : ∀ r, p r = true → columns r = columns row) : rows.find? p = some row := by
  cases hfound : rows.find? p with
  | none => exact absurd hp (List.find?_eq_none.mp hfound row hrow)
  | some r =>
      have hsame := honly r (List.find?_some hfound)
      rw [List.inj_on_of_nodup_map h (List.mem_of_find?_eq_some hfound) hrow hsame]

/-- A constraint that is met lets the insertion go on. -/
theorem unique_bind_eq_ok {α ρ κ : Type} [DecidableEq κ] {rows : Tables → List ρ} {columns : ρ → κ}
    {row : ρ} {name : String} {f : Unit → Py Tables α} {a : α}
    (h : (unique rows columns row name >>= f) t = (.ok a, t')) :
    columns row ∉ (rows t).map columns ∧ f () t = (.ok a, t') := by
  rw [unique, require_bind_apply] at h
  split at h
  · next hfree =>
      refine ⟨fun hmem => ?_, h⟩
      obtain ⟨r, hr, heq⟩ := List.mem_map.mp hmem
      exact hfree r hr heq
  · cases h

/-- An inserted event has a number and clashes with no row. -/
theorem insertEvent_eq_ok {event : Json} {payload : List Char}
    (h : insertEvent event payload t = (.ok u, t')) :
    ∃ q, integerColumn (event.get? "sequence") = .ok q ∧
      (eventRow event q payload).event_id ∉ t.events.map EventRow.event_id ∧
      (eventRow event q payload).position ∉ t.events.map EventRow.position ∧
      t' = { t with events := t.events ++ [eventRow event q payload] } := by
  obtain ⟨q, hq, h⟩ := ofExcept_bind_eq_ok h
  obtain ⟨hid, h⟩ := unique_bind_eq_ok h
  obtain ⟨hposition, h⟩ := unique_bind_eq_ok h
  exact ⟨q, hq, hid, hposition, (Prod.mk.inj h).2.symm⟩

theorem insertIdentity_eq_ok {row : IdentityRow} (h : insertIdentity row t = (.ok u, t')) :
    row.audit_id ∉ t.identity_audit.map IdentityRow.audit_id ∧
      row.event_id ∉ t.identity_audit.map IdentityRow.event_id ∧
      row.source ∉ t.identity_audit.map IdentityRow.source ∧
      t' = { t with identity_audit := t.identity_audit ++ [row] } := by
  obtain ⟨haudit, h⟩ := unique_bind_eq_ok h
  obtain ⟨hevent, h⟩ := unique_bind_eq_ok h
  obtain ⟨hsource, h⟩ := unique_bind_eq_ok h
  exact ⟨haudit, hevent, hsource, (Prod.mk.inj h).2.symm⟩

theorem insertArchive_eq_ok {record : Archive.Metadata} {encoded : List Char}
    (h : insertArchive record encoded t = (.ok u, t')) :
    let row := archiveRow record encoded
      (nextId (t.review_archives.map ArchiveRow.archive_sequence))
    row.archive_id ∉ t.review_archives.map ArchiveRow.archive_id ∧
      row.audit_event_id ∉ t.review_archives.map ArchiveRow.audit_event_id ∧
      row.content ∉ t.review_archives.map ArchiveRow.content ∧
      t' = { t with review_archives := t.review_archives ++ [row] } := by
  rw [insertArchive, gets_bind_apply] at h
  obtain ⟨hid, h⟩ := unique_bind_eq_ok h
  obtain ⟨haudit, h⟩ := unique_bind_eq_ok h
  obtain ⟨hcontent, h⟩ := unique_bind_eq_ok h
  exact ⟨hid, haudit, hcontent, (Prod.mk.inj h).2.symm⟩

theorem lt_nextId {ids : List Nat} {n : Nat} (h : n ∈ ids) : n < nextId ids := by
  refine Nat.lt_succ_of_le ?_
  induction ids with
  | nil => cases h
  | cons m ids ih =>
      rcases List.mem_cons.mp h with rfl | h
      · exact Nat.le_max_left _ _
      · exact (ih h).trans (Nat.le_max_right _ _)

theorem integerColumn_eq_ok {value : Option Json} {q : Rat} (h : integerColumn value = .ok q) :
    value.bind Json.numeric? = some q := by
  unfold integerColumn at h
  split at h
  · split at h
    · injection h with h
      exact congrArg some h
    · cases h
  · injection h with h
    exact congrArg some h
  · cases h

end Rows

/-! ## Loops over rows -/

section Loops

variable {α β γ : Type}

theorem mapM_total {f : β → Except Exn γ} {r : α → β} {g : α → γ} {as : List α}
    (h : ∀ a ∈ as, f (r a) = .ok (g a)) : (as.map r).mapM f = .ok (as.map g) := by
  induction as with
  | nil => rfl
  | cons a as ih =>
      rw [List.map_cons, List.mapM_cons, h a List.mem_cons_self,
        ih fun b hb => h b (List.mem_cons_of_mem a hb)]
      rfl

theorem mapM_exists {f : α → Except Exn β} {R : α → β → Prop} {as : List α}
    (h : ∀ a ∈ as, ∃ b, f a = .ok b ∧ R a b) : ∃ bs, as.mapM f = .ok bs ∧ List.Forall₂ R as bs := by
  induction as with
  | nil => exact ⟨[], rfl, List.Forall₂.nil⟩
  | cons a as ih =>
      obtain ⟨b, hb, hR⟩ := h a List.mem_cons_self
      obtain ⟨bs, hbs, hall⟩ := ih fun a' ha' => h a' (List.mem_cons_of_mem a ha')
      refine ⟨b :: bs, ?_, List.Forall₂.cons hR hall⟩
      rw [List.mapM_cons, hb, hbs]
      rfl

end Loops

/-! ## Contents -/

/-- What one accepted call records. -/
inductive Change where
  | event (event : Json)
  | submission (row : SubmissionRow)
  | identity (event : Json) (row : IdentityRow)
  | deletion (exercise_id run_id : String)
  | archive (record : Archive.Metadata) (bundle audit : Json)

/-- The accepted documents, oldest first. -/
structure Contents where
  events : List Json
  submissions : List SubmissionRow
  identity : List IdentityRow
  archives : List (Archive.Metadata × Json × Json)

/-- Nothing yet. -/
def Contents.empty : Contents := ⟨[], [], [], []⟩

/-- The contents with one change. -/
def Contents.apply (c : Contents) : Change → Contents
  | .event e => { c with events := c.events ++ [e] }
  | .submission row => { c with submissions := c.submissions ++ [row] }
  | .identity e row => { c with events := c.events ++ [e], identity := c.identity ++ [row] }
  | .deletion exercise_id run_id => { c with
      identity := c.identity.filter fun row =>
        ¬ OfRun IdentityRow.exercise_id IdentityRow.run_id exercise_id run_id row }
  | .archive record bundle audit => { c with
      events := c.events ++ [audit]
      archives := c.archives ++ [(record, bundle, audit)] }

/-- The contents after a call with the given outcome. -/
def Contents.after (c : Contents) : Except Exn Change → Contents
  | .ok change => c.apply change
  | .error _ => c

/-- The number of an event. -/
def number (e : Json) : Rat := (Archive.sequenceNumber e).getD 0

/-- The event is of the run and the audience may see it; no audience stands for all. -/
def Released (exercise_id run_id : String) (visibilities : Option (List String)) (e : Json) :
    Prop :=
  eventText e "exercise_id" = exercise_id ∧ eventText e "run_id" = run_id ∧
    (visibilities.getD [] = [] ∨ eventText e "visibility" ∈ visibilities.getD [])

instance (exercise_id run_id : String) (visibilities : Option (List String)) :
    DecidablePred (Released exercise_id run_id visibilities) :=
  fun _ => inferInstanceAs (Decidable (_ ∧ _))

/-- The released events in the order of their numbers. -/
def Contents.select (c : Contents) (exercise_id run_id : String)
    (visibilities : Option (List String)) : List Json :=
  (c.events.filter fun e => Released exercise_id run_id visibilities e).insertionSort
    fun a b => number a ≤ number b

end Store

namespace Archive.Env

open Store

/-! ## Calls -/

section Calls

variable (env : Archive.Env)

/-- The calls that write. -/
inductive Call where
  | append_event (event : env.Document)
  | save_submission (exercise_id run_id actor_id submission_type : String)
      (payload result : env.Document) (now : DateTime)
  | append_identity_audit (event : env.Document) (record : IdentityRow)
  | delete_identity_audit (exercise_id run_id : String)
  | append_review_archive (bundle audit : env.Document)

/-- Perform a call; it returns what it has recorded. -/
def perform : env.Call → Py Tables Change
  | .append_event event => do
      let e ← env.appendEvent event.json
      return .event e
  | .save_submission exercise_id run_id actor_id submission_type payload result now => do
      let submission_id ← env.saveSubmission exercise_id run_id actor_id submission_type
        payload.json result.json now
      return .submission ⟨submission_id, exercise_id, run_id, actor_id, submission_type,
        now.isoformat, (redactSensitive payload.json).sortKeys,
        (redactSensitive result.json).sortKeys⟩
  | .append_identity_audit event record => do
      let _ ← env.appendIdentityAudit event.json record
      return .identity (redactSensitive event.json)
        { record with event_id := eventText (redactSensitive event.json) "event_id" }
  | .delete_identity_audit exercise_id run_id => do
      let _ ← deleteIdentityAudit exercise_id run_id
      return .deletion exercise_id run_id
  | .append_review_archive bundle audit => do
      let record ← env.appendReviewArchive bundle.json audit.json
      return .archive record bundle.json audit.json

/-- A call on the tables, with the contents as a history. -/
def step (call : env.Call) (s : Tables × Contents) : Tables × Contents :=
  ((env.perform call s.1).2, s.2.after (env.perform call s.1).1)

/-- The tables and the contents after a series of calls on a new database. -/
def run (calls : List env.Call) : Tables × Contents :=
  runAll env.step calls (Tables.empty, Contents.empty)

/-- A call that raises changes no table. -/
theorem perform_atomic (call : env.Call) : AllOrNothing id (env.perform call) := by
  cases call with
  | append_event event =>
      -- Validation and encoding write nothing, and the insertions are one transaction.
      exact (AllOrNothing.bind (Keeps.ofExcept _) fun _ =>
        AllOrNothing.bind (Keeps.ofExcept _) fun _ =>
          (AllOrNothing.transaction id _).bind_pure _).bind_pure _
  | save_submission =>
      -- Once both documents are encoded nothing raises.
      refine AllOrNothing.bind_pure (AllOrNothing.bind (Keeps.ofExcept _) fun _ =>
        AllOrNothing.bind (Keeps.ofExcept _) fun _ => ?_) _
      intro s e s' h
      cases h
  | append_identity_audit event record =>
      exact (AllOrNothing.bind (Keeps.ofExcept _) fun _ =>
        AllOrNothing.bind (Keeps.ofExcept _) fun _ =>
          (AllOrNothing.transaction id _).bind_pure _).bind_pure _
  | delete_identity_audit =>
      intro s e s' h
      cases h
  | append_review_archive bundle audit =>
      exact (AllOrNothing.bind (Keeps.ofExcept _) fun _ =>
        AllOrNothing.bind (Keeps.ofExcept _) fun _ =>
          AllOrNothing.bind (Keeps.ofExcept _) fun _ =>
            (AllOrNothing.transaction id _).bind_pure _).bind_pure _

end Calls

/-! ## The tables hold the contents -/

section Holds

variable (env : Archive.Env)

/-- What every stored event is. -/
structure Stored (e : Json) : Prop where
  proper : e.Proper env.ft.isFloat
  valid : EventValidator.validate env.formats e = .ok ()
  numbered : ∃ q, Archive.sequenceNumber e = some q

/-- The row of a stored event. -/
def rowOf (e : Json) : EventRow := eventRow e (number e) (e.dumpChars env.ft.repr)

/-- The tables hold the contents, and each constraint. -/
structure Holds (t : Tables) (c : Contents) : Prop where
  events : t.events = c.events.map env.rowOf
  stored : ∀ e ∈ c.events, env.Stored e
  event_ids : Distinct EventRow.event_id t.events
  positions : Distinct EventRow.position t.events
  submissions : t.submissions = c.submissions
  submission_ids : (t.submissions.map SubmissionRow.submission_id).Pairwise (· < ·)
  identity : t.identity_audit = c.identity
  audit_ids : Distinct IdentityRow.audit_id t.identity_audit
  audit_events : Distinct IdentityRow.event_id t.identity_audit
  sources : Distinct IdentityRow.source t.identity_audit
  references : ∀ row ∈ t.identity_audit, ∃ e ∈ c.events, eventText e "event_id" = row.event_id

variable {env} {t t' : Tables} {c : Contents} {u : Unit}

theorem holds_empty : env.Holds Tables.empty Contents.empty where
  events := rfl
  stored := fun _ h => absurd h List.not_mem_nil
  event_ids := List.nodup_nil
  positions := List.nodup_nil
  submissions := rfl
  submission_ids := List.Pairwise.nil
  identity := rfl
  audit_ids := List.nodup_nil
  audit_events := List.nodup_nil
  sources := List.nodup_nil
  references := fun _ h => absurd h List.not_mem_nil

/-- An accepted event is stored. -/
theorem stored_of_checks {event : Json} {payload : List Char}
    (hgenuine : event.Genuine env.ft.isFloat)
    (hvalid : EventValidator.validate env.formats event = .ok ())
    (hpayload : env.dumps event = .ok payload)
    (hinsert : insertEvent event payload t = (.ok u, t')) :
    env.Stored event ∧ payload = event.dumpChars env.ft.repr := by
  obtain ⟨hshort, htext⟩ := dumps_eq_ok hpayload
  obtain ⟨q, hq, -⟩ := insertEvent_eq_ok hinsert
  exact ⟨⟨Json.proper_of_genuine hgenuine hshort, hvalid, q, integerColumn_eq_ok hq⟩, htext⟩

theorem Holds.addEvent (h : env.Holds t c) {event : Json}
    (hinsert : insertEvent event (event.dumpChars env.ft.repr) t = (.ok u, t'))
    (hstored : env.Stored event) : env.Holds t' { c with events := c.events ++ [event] } := by
  obtain ⟨q, hq, hid, hposition, rfl⟩ := insertEvent_eq_ok hinsert
  have hrow : eventRow event q (event.dumpChars env.ft.repr) = env.rowOf event := by
    rw [rowOf, number, Archive.sequenceNumber, integerColumn_eq_ok hq]
    rfl
  refine ⟨?_, ?_, h.event_ids.snoc hid, h.positions.snoc hposition, h.submissions,
    h.submission_ids, h.identity, h.audit_ids, h.audit_events, h.sources, ?_⟩
  · rw [List.map_append, List.map_singleton, ← hrow, ← h.events]
  · intro e he
    rcases List.mem_append.mp he with he | he
    · exact h.stored e he
    · exact List.mem_singleton.mp he ▸ hstored
  · intro row hrow'
    obtain ⟨e, he, hid⟩ := h.references row hrow'
    exact ⟨e, List.mem_append_left _ he, hid⟩

theorem Holds.addIdentity (h : env.Holds t c) {row : IdentityRow}
    (hinsert : insertIdentity row t = (.ok u, t'))
    (hevent : ∃ e ∈ c.events, eventText e "event_id" = row.event_id) :
    env.Holds t' { c with identity := c.identity ++ [row] } := by
  obtain ⟨haudit, hid, hsource, rfl⟩ := insertIdentity_eq_ok hinsert
  refine ⟨h.events, h.stored, h.event_ids, h.positions, h.submissions, h.submission_ids, ?_,
    h.audit_ids.snoc haudit, h.audit_events.snoc hid, h.sources.snoc hsource, ?_⟩
  · exact congrArg (· ++ [row]) h.identity
  · intro r hr
    rcases List.mem_append.mp hr with hr | hr
    · exact h.references r hr
    · exact List.mem_singleton.mp hr ▸ hevent

theorem Holds.addArchive (h : env.Holds t c) {record : Archive.Metadata} {encoded : List Char}
    (hinsert : insertArchive record encoded t = (.ok u, t')) (bundle audit : Json) :
    env.Holds t' { c with archives := c.archives ++ [(record, bundle, audit)] } := by
  obtain ⟨-, -, -, rfl⟩ := insertArchive_eq_ok hinsert
  exact ⟨h.events, h.stored, h.event_ids, h.positions, h.submissions, h.submission_ids, h.identity,
    h.audit_ids, h.audit_events, h.sources, h.references⟩

theorem Holds.addSubmission (h : env.Holds t c) {row : SubmissionRow}
    (hid : row.submission_id = nextId (t.submissions.map SubmissionRow.submission_id)) :
    env.Holds { t with submissions := t.submissions ++ [row] }
      { c with submissions := c.submissions ++ [row] } := by
  refine ⟨h.events, h.stored, h.event_ids, h.positions, congrArg (· ++ [row]) h.submissions, ?_,
    h.identity, h.audit_ids, h.audit_events, h.sources, h.references⟩
  rw [List.map_append, List.pairwise_append]
  refine ⟨h.submission_ids, List.pairwise_singleton _ _, fun a ha b hb => ?_⟩
  rw [List.mem_singleton.mp hb, hid]
  exact lt_nextId ha

theorem Holds.removeIdentity (h : env.Holds t c) (keep : IdentityRow → Bool) :
    env.Holds { t with identity_audit := t.identity_audit.filter keep }
      { c with identity := c.identity.filter keep } := by
  refine ⟨h.events, h.stored, h.event_ids, h.positions, h.submissions, h.submission_ids,
    congrArg (List.filter keep) h.identity, h.audit_ids.filter keep, h.audit_events.filter keep,
    h.sources.filter keep, ?_⟩
  intro row hrow
  exact h.references row (List.mem_of_mem_filter hrow)

/-! ## Steps -/

theorem appendEvent_eq_ok {event : env.Document} {e : Json}
    (h : env.appendEvent event.json t = (.ok e, t')) :
    e = redactSensitive event.json ∧ env.Stored e ∧
      insertEvent e (e.dumpChars env.ft.repr) t = (.ok (), t') := by
  obtain ⟨_, hvalid, h⟩ := ofExcept_bind_eq_ok h
  obtain ⟨payload, hpayload, h⟩ := ofExcept_bind_eq_ok h
  obtain ⟨_, t₃, hinsert, h⟩ := bind_eq_ok h
  have hinsert := transaction_eq_ok hinsert
  obtain ⟨he, ht₃⟩ := Prod.mk.inj h
  obtain rfl := Except.ok.inj he
  subst ht₃
  obtain ⟨hstored, htext⟩ := stored_of_checks (genuine_redactSensitive event.genuine) hvalid
    hpayload hinsert
  exact ⟨rfl, hstored, htext ▸ hinsert⟩

theorem appendIdentityAudit_eq_ok {event : env.Document} {record : IdentityRow}
    {result : IdentityAudit} (h : env.appendIdentityAudit event.json record t = (.ok result, t')) :
    let e := redactSensitive event.json
    env.Stored e ∧ ∃ t₁, insertEvent e (e.dumpChars env.ft.repr) t = (.ok (), t₁) ∧
      insertIdentity { record with event_id := eventText e "event_id" } t₁ = (.ok (), t') := by
  obtain ⟨_, hvalid, h⟩ := ofExcept_bind_eq_ok h
  obtain ⟨payload, hpayload, h⟩ := ofExcept_bind_eq_ok h
  obtain ⟨_, t₃, hboth, h⟩ := bind_eq_ok h
  obtain ⟨_, t₄, hinsert, hidentity⟩ := bind_eq_ok (transaction_eq_ok hboth)
  obtain ⟨-, ht₃⟩ := Prod.mk.inj h
  subst ht₃
  obtain ⟨hstored, htext⟩ := stored_of_checks (genuine_redactSensitive event.genuine) hvalid
    hpayload hinsert
  exact ⟨hstored, t₄, htext ▸ hinsert, hidentity⟩

theorem metadata_valid {bundle audit : Json} {record : Archive.Metadata}
    (h : env.metadata bundle audit = .ok record) :
    EventValidator.validate env.formats audit = .ok () := by
  obtain ⟨_, -, h⟩ := Checked.bind_eq_ok h
  obtain ⟨_, hvalid, -⟩ := Checked.bind_eq_ok h
  exact hvalid

theorem appendReviewArchive_eq_ok {bundle audit : env.Document} {record : Archive.Metadata}
    (h : env.appendReviewArchive bundle.json audit.json t = (.ok record, t')) :
    env.Stored audit.json ∧ env.metadata bundle.json audit.json = .ok record ∧
      ∃ encoded t₁, env.encodeBundle bundle.json = .ok encoded ∧
        insertArchive record encoded t = (.ok (), t₁) ∧
        insertEvent audit.json (audit.json.dumpChars env.ft.repr) t₁ = (.ok (), t') := by
  obtain ⟨encoded, hencoded, h⟩ := ofExcept_bind_eq_ok h
  obtain ⟨m, hrecord, h⟩ := ofExcept_bind_eq_ok h
  obtain ⟨payload, hpayload, h⟩ := ofExcept_bind_eq_ok h
  obtain ⟨_, t₄, hboth, h⟩ := bind_eq_ok h
  obtain ⟨_, t₅, harchive, hinsert⟩ := bind_eq_ok (transaction_eq_ok hboth)
  obtain ⟨hm, ht₄⟩ := Prod.mk.inj h
  obtain rfl := Except.ok.inj hm
  subst ht₄
  obtain ⟨hstored, htext⟩ := stored_of_checks audit.genuine (metadata_valid hrecord) hpayload
    hinsert
  exact ⟨hstored, hrecord, encoded, t₅, hencoded, harchive, htext ▸ hinsert⟩

variable (env) in
/-- What an accepted call does to the tables. -/
def Writes (t t' : Tables) : Change → Prop
  | .event e => env.Stored e ∧ insertEvent e (e.dumpChars env.ft.repr) t = (.ok (), t')
  | .submission row =>
      row.submission_id = nextId (t.submissions.map SubmissionRow.submission_id) ∧
        t' = { t with submissions := t.submissions ++ [row] }
  | .identity e row => env.Stored e ∧ row.event_id = eventText e "event_id" ∧
      ∃ t₁, insertEvent e (e.dumpChars env.ft.repr) t = (.ok (), t₁) ∧
        insertIdentity row t₁ = (.ok (), t')
  | .deletion exercise_id run_id => t' = { t with
      identity_audit := t.identity_audit.filter fun row =>
        ¬ OfRun IdentityRow.exercise_id IdentityRow.run_id exercise_id run_id row }
  | .archive record bundle audit =>
      env.Stored audit ∧ bundle.Genuine env.ft.isFloat ∧ env.metadata bundle audit = .ok record ∧
        ∃ encoded t₁, env.encodeBundle bundle = .ok encoded ∧
          insertArchive record encoded t = (.ok (), t₁) ∧
          insertEvent audit (audit.dumpChars env.ft.repr) t₁ = (.ok (), t')

theorem writes_of_perform {call : env.Call} {change : Change}
    (hok : env.perform call t = (.ok change, t')) : env.Writes t t' change := by
  cases call with
  | append_event event =>
      obtain ⟨e, t₁, happend, hreturn⟩ := bind_eq_ok hok
      obtain ⟨hchange, ht₁⟩ := Prod.mk.inj hreturn
      obtain rfl := Except.ok.inj hchange
      subst ht₁
      obtain ⟨-, hwritten⟩ := appendEvent_eq_ok happend
      exact hwritten
  | save_submission exercise_id run_id actor_id submission_type payload result now =>
      obtain ⟨submission_id, t₁, hsave, hreturn⟩ := bind_eq_ok hok
      obtain ⟨hchange, ht₁⟩ := Prod.mk.inj hreturn
      obtain rfl := Except.ok.inj hchange
      subst ht₁
      obtain ⟨_, -, hsave⟩ := ofExcept_bind_eq_ok hsave
      obtain ⟨_, -, hsave⟩ := ofExcept_bind_eq_ok hsave
      obtain ⟨hid, ht⟩ := Prod.mk.inj hsave
      obtain rfl := Except.ok.inj hid
      exact ⟨rfl, ht.symm⟩
  | append_identity_audit event record =>
      obtain ⟨result, t₁, happend, hreturn⟩ := bind_eq_ok hok
      obtain ⟨hchange, ht₁⟩ := Prod.mk.inj hreturn
      obtain rfl := Except.ok.inj hchange
      subst ht₁
      obtain ⟨hstored, hwritten⟩ := appendIdentityAudit_eq_ok happend
      exact ⟨hstored, rfl, hwritten⟩
  | delete_identity_audit exercise_id run_id =>
      obtain ⟨deleted, t₁, hdelete, hreturn⟩ := bind_eq_ok hok
      obtain ⟨hchange, ht₁⟩ := Prod.mk.inj hreturn
      obtain rfl := Except.ok.inj hchange
      subst ht₁
      exact (Prod.mk.inj hdelete).2.symm
  | append_review_archive bundle audit =>
      obtain ⟨record, t₁, happend, hreturn⟩ := bind_eq_ok hok
      obtain ⟨hchange, ht₁⟩ := Prod.mk.inj hreturn
      obtain rfl := Except.ok.inj hchange
      subst ht₁
      obtain ⟨hstored, hrecord, hwritten⟩ := appendReviewArchive_eq_ok happend
      exact ⟨hstored, bundle.genuine, hrecord, hwritten⟩

/-- An accepted call keeps the tables and the contents together. -/
theorem Holds.writes (h : env.Holds t c) {change : Change} (hwrites : env.Writes t t' change) :
    env.Holds t' (c.apply change) := by
  cases change with
  | event e => exact h.addEvent hwrites.2 hwrites.1
  | submission row =>
      obtain ⟨hid, rfl⟩ := hwrites
      exact h.addSubmission hid
  | identity e row =>
      obtain ⟨hstored, hid, t₁, hinsert, hidentity⟩ := hwrites
      -- The row refers to the event that was inserted before it.
      exact (h.addEvent hinsert hstored).addIdentity hidentity
        ⟨e, List.mem_append_right _ (List.mem_singleton_self e), hid.symm⟩
  | deletion exercise_id run_id =>
      rw [Writes] at hwrites
      subst hwrites
      exact h.removeIdentity _
  | archive record bundle audit =>
      obtain ⟨hstored, -, -, encoded, t₁, -, harchive, hinsert⟩ := hwrites
      -- The source writes the archive first and its event after it.
      exact (h.addArchive harchive bundle audit).addEvent hinsert hstored

/-- The run rule: what every accepted call keeps is so after any series of calls. -/
theorem invariant_run {I : Tables → Contents → Prop} (hempty : I Tables.empty Contents.empty)
    (hwrites : ∀ {t t' : Tables} {c : Contents} {change : Change}, I t c →
      env.Writes t t' change → I t' (c.apply change)) (calls : List env.Call) :
    I (env.run calls).1 (env.run calls).2 := by
  have hstep : ∀ (call : env.Call) (s : Tables × Contents), I s.1 s.2 → True →
      I (env.step call s).1 (env.step call s).2 := by
    intro call s hs _
    cases hr : env.perform call s.1 with
    | mk r t' =>
        cases r with
        | ok change =>
            rw [Env.step, hr]
            exact hwrites hs (writes_of_perform hr)
        | error e =>
            -- A refused call adds nothing to the contents either.
            have hsame : t' = s.1 := env.perform_atomic call s.1 e t' hr
            rw [Env.step, hr, hsame]
            exact hs
  exact invariant_runAll (I := fun s => I s.1 s.2) (C := fun _ _ => True)
    (s := (Tables.empty, Contents.empty)) hstep hempty
    (EachMeets.of_forall env.step (fun _ _ => trivial) calls _)

/-- The tables of every run hold its contents. -/
theorem holds_run (calls : List env.Call) : env.Holds (env.run calls).1 (env.run calls).2 :=
  invariant_run holds_empty (fun h hwrites => h.writes hwrites) calls

/-! ## Queries -/

theorem number_sortKeys {e : Json} (h : e.Proper env.ft.isFloat) :
    number e.sortKeys = number e := by
  rw [number, number, Archive.sequenceNumber, Archive.sequenceNumber, Json.get?_sortKeys h]
  cases e.get? "sequence" with
  | none => rfl
  | some j => exact congrArg (Option.getD · 0) (Json.numeric?_sortKeys j)

/-- The query finds the released events. -/
theorem Holds.events_eq (h : env.Holds t c) (exercise_id run_id : String)
    (visibilities : Option (List String)) :
    env.events exercise_id run_id visibilities t =
      .ok ((c.select exercise_id run_id visibilities).map Json.sortKeys) := by
  have hrows : ((t.events.filter fun row =>
      OfRun EventRow.exercise_id EventRow.run_id exercise_id run_id row ∧
        (visibilities.getD [] = [] ∨ row.visibility ∈ visibilities.getD [])).insertionSort
          fun a b => a.sequence ≤ b.sequence) =
      (c.select exercise_id run_id visibilities).map env.rowOf := by
    rw [Contents.select, h.events, List.filter_map]
    rw [List.map_insertionSort (r := fun a b => number a ≤ number b)
      (s := fun a b : EventRow => a.sequence ≤ b.sequence) env.rowOf _ fun _ _ _ _ => Iff.rfl]
    congr 2
    refine List.filter_congr fun e _ => decide_eq_decide.mpr ?_
    exact and_assoc
  rw [Env.events, hrows]
  refine mapM_total fun e he => ?_
  have hmem : e ∈ c.events :=
    List.mem_of_mem_filter ((List.perm_insertionSort _ _).mem_iff.mp he)
  exact loads_dumpChars (h.stored e hmem).proper

/-- The events of a run have different numbers. -/
theorem Holds.select_ascending (h : env.Holds t c) (exercise_id run_id : String)
    (visibilities : Option (List String)) :
    (c.select exercise_id run_id visibilities).Pairwise fun a b => number a < number b := by
  -- Two events of the run differ in their positions, and so in their numbers.
  have hdistinct : (c.events.filter fun e => Released exercise_id run_id visibilities e).Pairwise
      fun a b => number a ≠ number b := by
    have hpositions : c.events.Pairwise fun a b =>
        (env.rowOf a).position ≠ (env.rowOf b).position := by
      have hall := h.positions
      rw [Distinct, h.events, List.map_map] at hall
      exact List.pairwise_map.mp hall
    refine (hpositions.filter _).imp_of_mem fun ha hb hne hsame => hne ?_
    have ha := of_decide_eq_true (List.mem_filter.mp ha).2
    have hb := of_decide_eq_true (List.mem_filter.mp hb).2
    show (_, _, _) = (_, _, _)
    simp only [rowOf, eventRow, ha.1, hb.1, ha.2.1, hb.2.1, hsame]
  have hne : (c.select exercise_id run_id visibilities).Pairwise fun a b => number a ≠ number b :=
    (List.perm_insertionSort _ _).symm.pairwise hdistinct fun h => Ne.symm h
  have hle : (c.select exercise_id run_id visibilities).Pairwise fun a b => number a ≤ number b :=
    List.pairwise_insertionSort _ _
  exact (hle.and hne).imp fun h => lt_of_le_of_ne h.1 h.2

end Holds

end Archive.Env

end NetStrike.Dashboard
