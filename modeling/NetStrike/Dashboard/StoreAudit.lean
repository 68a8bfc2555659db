import NetStrike.Dashboard.StoreRuns
import Mathlib.Data.String.Basic

/-!
# The audit projection of the store

`identity_audit` joins each audit record with its event. A record and its event are written in one
transaction and records refer to events by an id that no other event has, so the join finds exactly
one event for each record: the query returns every record of the run that was accepted and not
deleted since, with the provenance of its event.
-/

set_option autoImplicit false

namespace NetStrike.Dashboard

open NetStrike.Foundation NetStrike.Shared NetStrike.Orchestrator NetStrike.Orchestrator.Aar

namespace Store

/-! ## The join -/

instance : Std.Total Before where
  total a b := by
    rcases lt_trichotomy a.1.occurred_at b.1.occurred_at with hlt | heq | hgt
    · exact Or.inl (Or.inl hlt)
    · rcases le_total a.2.sequence b.2.sequence with hle | hle
      · exact Or.inl (Or.inr ⟨heq, hle⟩)
      · exact Or.inr (Or.inr ⟨heq.symm, hle⟩)
    · exact Or.inr (Or.inl hgt)

instance : IsTrans (IdentityRow × EventRow) Before where
  trans a b c hab hbc := by
    rcases hab with hab | ⟨hab, hseq⟩
    · rcases hbc with hbc | ⟨hbc, -⟩
      · exact Or.inl (lt_trans hab hbc)
      · exact Or.inl (hbc ▸ hab)
    · rcases hbc with hbc | ⟨hbc, hseq'⟩
      · exact Or.inl (hab ▸ hbc)
      · exact Or.inr ⟨hab.trans hbc, hseq.trans hseq'⟩

/-- Where every row refers to an event, the join keeps the rows. -/
theorem joined_fst {rows : List IdentityRow} {events : List EventRow}
    (hevents : Distinct EventRow.event_id events)
    (hrefers : ∀ row ∈ rows, ∃ event ∈ events, event.event_id = row.event_id) :
    (joined rows events).map Prod.fst = rows := by
  induction rows with
  | nil => rfl
  | cons row rows ih =>
      obtain ⟨event, hevent, hid⟩ := hrefers row List.mem_cons_self
      rw [joined, List.flatMap_cons, List.map_append, ← hid, hevents.filter_eq hevent]
      refine congrArg (row :: ·) ?_
      exact ih fun r hr => hrefers r (List.mem_cons_of_mem _ hr)

theorem mem_joined {rows : List IdentityRow} {events : List EventRow}
    {pair : IdentityRow × EventRow} (h : pair ∈ joined rows events) :
    pair.1 ∈ rows ∧ pair.2 ∈ events ∧ pair.2.event_id = pair.1.event_id := by
  obtain ⟨row, hrow, hpair⟩ := List.mem_flatMap.mp h
  obtain ⟨event, hevent, rfl⟩ := List.mem_map.mp hpair
  obtain ⟨hmem, hid⟩ := List.mem_filter.mp hevent
  exact ⟨hrow, hmem, of_decide_eq_true hid⟩

/-- The audit record with the provenance of an event of its id. -/
def Shows (c : Contents) (row : IdentityRow) (item : IdentityAudit) : Prop :=
  item.toIdentityRow = row ∧ ∃ e ∈ c.events, eventText e "event_id" = row.event_id ∧
    (e.get? "provenance").map Json.sortKeys = some item.provenance

/-- Items that show pairs one by one show their records. -/
theorem shows_records {c : Contents} {pairs : List (IdentityRow × EventRow)}
    {items : List IdentityAudit}
    (h : List.Forall₂ (fun pair item => Shows c pair.1 item) pairs items) :
    items.map IdentityAudit.toIdentityRow = pairs.map Prod.fst ∧
      ∀ item ∈ items, Shows c item.toIdentityRow item := by
  induction h with
  | nil => exact ⟨rfl, fun item hitem => absurd hitem List.not_mem_nil⟩
  | cons hshows _ ih =>
      refine ⟨by rw [List.map_cons, List.map_cons, hshows.1, ih.1], ?_⟩
      intro item hitem
      rcases List.mem_cons.mp hitem with rfl | hitem
      · exact hshows.1 ▸ hshows
      · exact ih.2 item hitem

end Store

namespace Archive.Env

open Store

/-! ## Queries -/

variable {env : Archive.Env} {t : Tables} {c : Contents}

/-- A stored event has a provenance. -/
theorem Stored.provenance {e : Json} (h : env.Stored e) : ∃ p, e.get? "provenance" = some p := by
  have hvalid := schema_valid h.valid
  cases e with
  | obj ms =>
      have hnamed : ("provenance", EventSchema.provenance env.formats) ∈
          EventSchema.propertySchemas env.formats := by simp [EventSchema.propertySchemas]
      obtain ⟨p, hp, -⟩ := Schema.required_of_closedObject hvalid
        (by decide : "provenance" ∈ EventSchema.requiredNames) hnamed
      exact ⟨p, hp⟩
  | null | bool | int | float | str | arr =>
      obtain ⟨q, hq⟩ := h.numbered
      cases hq

theorem Holds.refers (h : env.Holds t c) {row : IdentityRow} (hrow : row ∈ t.identity_audit) :
    ∃ event ∈ t.events, event.event_id = row.event_id := by
  obtain ⟨e, he, hid⟩ := h.references row hrow
  exact ⟨env.rowOf e, h.events ▸ List.mem_map_of_mem he, hid⟩

/-- A joined pair is shown with the provenance of its event. -/
theorem Holds.shows (h : env.Holds t c) {rows : List IdentityRow} {pair : IdentityRow × EventRow}
    (hpair : pair ∈ joined rows t.events) :
    ∃ item, env.identityAuditResult pair = .ok item ∧ Shows c pair.1 item := by
  obtain ⟨-, hevent, hid⟩ := mem_joined hpair
  rw [h.events] at hevent
  obtain ⟨e, he, hrow⟩ := List.mem_map.mp hevent
  have hstored := h.stored e he
  obtain ⟨p, hp⟩ := hstored.provenance
  have hloads : env.loads pair.2.payload = .ok e.sortKeys := by
    rw [← hrow]
    exact loads_dumpChars hstored.proper
  have hmember : Archive.member e.sortKeys "provenance" = .ok p.sortKeys := by
    rw [Archive.member, Json.get?_sortKeys hstored.proper, hp]
    rfl
  refine ⟨{ pair.1 with provenance := p.sortKeys }, ?_, rfl, e, he, ?_, ?_⟩
  · rw [identityAuditResult, Checked.bind_of_eq_ok hloads, Checked.bind_of_eq_ok hmember]
    rfl
  · rw [← hid, ← hrow]
    rfl
  · rw [hp]
    rfl

/-- The rows of a run that the table holds. -/
def recordsOf (c : Contents) (exercise_id run_id : String) : List IdentityRow :=
  c.identity.filter fun row =>
    OfRun IdentityRow.exercise_id IdentityRow.run_id exercise_id run_id row

theorem Holds.identityAudit_eq (h : env.Holds t c) (exercise_id run_id : String) :
    ∃ found, env.identityAudit exercise_id run_id t = .ok found ∧
      (found.map IdentityAudit.toIdentityRow).Perm (recordsOf c exercise_id run_id) ∧
      (∀ item ∈ found, Shows c item.toIdentityRow item) ∧
      found.Pairwise fun a b => a.occurred_at ≤ b.occurred_at := by
  let rows := t.identity_audit.filter fun row =>
    OfRun IdentityRow.exercise_id IdentityRow.run_id exercise_id run_id row
  let sorted := (joined rows t.events).insertionSort Before
  have hshows : ∀ pair ∈ sorted, ∃ item, env.identityAuditResult pair = .ok item ∧
      Shows c pair.1 item := fun pair hpair =>
    h.shows ((List.perm_insertionSort _ _).mem_iff.mp hpair)
  obtain ⟨found, hfound, hall⟩ := mapM_exists hshows
  obtain ⟨hrows, hitems⟩ := shows_records hall
  refine ⟨found, hfound, ?_, hitems, ?_⟩
  · rw [hrows]
    refine ((List.perm_insertionSort _ _).map Prod.fst).trans ?_
    rw [joined_fst h.event_ids fun row hrow => h.refers (List.mem_of_mem_filter hrow)]
    show List.Perm (t.identity_audit.filter _) (c.identity.filter _)
    rw [h.identity]
  · -- The sort compares the times first, and items keep the order of their pairs.
    have hsorted : sorted.Pairwise Before := List.pairwise_insertionSort _ _
    have htimes : (sorted.map Prod.fst).Pairwise fun a b => a.occurred_at ≤ b.occurred_at := by
      rw [List.pairwise_map]
      refine hsorted.imp fun hbefore => ?_
      rcases hbefore with hlt | ⟨heq, -⟩
      · exact le_of_lt hlt
      · exact le_of_eq heq
    rw [← hrows, List.pairwise_map] at htimes
    exact htimes

/-- A source key finds the record that has it. -/
theorem Holds.bySource_eq (h : env.Holds t c)
    (exercise_id run_id source_service source_event_id : String) :
    ∃ found, env.identityAuditBySource exercise_id run_id source_service source_event_id t =
        .ok found ∧
      (∀ item, found = some item → Shows c item.toIdentityRow item) ∧
      found.map IdentityAudit.toIdentityRow = c.identity.find? fun row =>
        row.source = (exercise_id, run_id, source_service, source_event_id) := by
  obtain ⟨key, hkey⟩ : ∃ key, key = (exercise_id, run_id, source_service, source_event_id) :=
    ⟨_, rfl⟩
  rw [identityAuditBySource, ← hkey]
  cases hfind : c.identity.find? fun row => row.source = key with
  | none =>
      have hrows : (t.identity_audit.filter fun row => row.source = key) = [] := by
        rw [h.identity]
        exact List.filter_eq_nil_iff.mpr fun row hrow => List.find?_eq_none.mp hfind row hrow
      refine ⟨none, ?_, ?_, rfl⟩
      · rw [hrows]
        rfl
      · intro item hitem
        cases hitem
  | some row =>
      have hmem : row ∈ t.identity_audit := h.identity ▸ List.mem_of_find?_eq_some hfind
      have hsource : row.source = key := by
        have hfound := List.find?_some hfind
        exact of_decide_eq_true hfound
      -- No other record has the key.
      have hrows : (t.identity_audit.filter fun r => r.source = key) = [row] :=
        hsource ▸ h.sources.filter_eq hmem
      -- The record is joined with its one event.
      have hfst : (joined [row] t.events).map Prod.fst = [row] :=
        joined_fst h.event_ids fun r hr => List.mem_singleton.mp hr ▸ h.refers hmem
      obtain ⟨pair, hpair⟩ : ∃ pair, joined [row] t.events = [pair] := by
        apply List.length_eq_one_iff.mp
        rw [← List.length_map (f := Prod.fst), hfst]
        rfl
      have hjoined : pair ∈ joined [row] t.events := hpair ▸ List.mem_singleton_self pair
      obtain ⟨item, hitem, hshows⟩ := h.shows hjoined
      have hrow : pair.1 = row := by
        rw [hpair] at hfst
        exact (List.cons.inj hfst).1
      refine ⟨some item, ?_, ?_, congrArg some (hshows.1.trans hrow)⟩
      · rw [hrows, hpair, List.head?_cons]
        show (env.identityAuditResult pair >>= fun a => pure (some a)) = _
        rw [hitem]
        rfl
      · intro found hfound
        obtain rfl := Option.some.inj hfound
        exact hshows.1 ▸ hshows

end Archive.Env

end NetStrike.Dashboard
