import NetStrike.Dashboard.StoreRuns

/-!
# Archives in the store

An accepted archive keeps its number, its metadata, its bundle and its audit event, whatever is
written or refused later. So `review_archive` and `review_archive_by_hash` are queries on the
accepted archives: they validate again what was captured, read back with sorted keys.
-/

set_option autoImplicit false

namespace NetStrike.Dashboard

open NetStrike.Foundation NetStrike.Foundation.Checked NetStrike.Shared NetStrike.Orchestrator
open NetStrike.Orchestrator.Aar

namespace Store

/-! ## Numbers -/

theorem nextId_le {ids : List Nat} {n : Nat} (h : ∀ i ∈ ids, i ≤ n) : nextId ids ≤ n + 1 := by
  refine Nat.succ_le_succ ?_
  induction ids with
  | nil => exact Nat.zero_le n
  | cons i ids ih =>
      refine Nat.max_le.mpr ⟨h i List.mem_cons_self, ?_⟩
      exact ih fun j hj => h j (List.mem_cons_of_mem i hj)

/-- Rows numbered from one leave no gap. -/
theorem nextId_range' (n : Nat) : nextId (List.range' 1 n) = n + 1 := by
  apply Nat.le_antisymm
  · apply nextId_le
    intro i hi
    have hbounds := List.mem_range'_1.mp hi
    omega
  · cases n with
    | zero => exact Nat.le_refl 1
    | succ n =>
        apply lt_nextId
        apply List.mem_range'_1.mpr
        omega

/-! ## Bundles -/

theorem shortMembers_iff {ms : List (String × Json)} :
    Json.shortMembers ms = true ↔ ∀ m ∈ ms, m.2.short = true := by
  induction ms with
  | nil => exact iff_of_true rfl fun m hm => absurd hm List.not_mem_nil
  | cons m ms ih => rw [Json.shortMembers, Bool.and_eq_true_iff, ih, List.forall_mem_cons]

/-- A bundle has a text where it has one without its digest, which is a string. -/
theorem short_of_unsigned {isFloat : Rat → Prop} {bundle : Json} {digest : String}
    (hgenuine : bundle.Genuine isFloat) (hdigest : bundle.str? "content_sha256" = some digest)
    (hshort : (unsigned bundle).short = true) : bundle.short = true := by
  cases bundle with
  | obj ms =>
      have hrest := shortMembers_iff.mp hshort
      apply shortMembers_iff.mpr
      intro m hm
      by_cases hkey : m.1 = "content_sha256"
      · -- The one member that was taken out is the string.
        have hmember : (Json.obj ms).get? "content_sha256" = some m.2 :=
          hkey ▸ Json.lookup_of_mem hgenuine.1 hm
        rw [Json.str?, hmember] at hdigest
        cases hvalue : m.2 with
        | str => rfl
        | null | bool | int | float | arr | obj =>
            rw [hvalue] at hdigest
            cases hdigest
      · exact hrest m (List.mem_filter.mpr ⟨hm, decide_eq_true hkey⟩)
  | null | bool | int | float | str | arr => exact hshort

theorem str?_sortKeys_of_nodup {ms : List (String × Json)} (h : (ms.map Prod.fst).Nodup)
    (key : String) : (Json.obj ms).sortKeys.str? key = (Json.obj ms).str? key := by
  rw [Json.sortKeys, Json.str?, Json.str?, Json.get?, Json.get?, Schema.lookup_sortMembers h]
  cases ms.lookup key with
  | none => rfl
  | some child => cases child <;> rfl

end Store

namespace Archive

open Store

/-- The columns of a row are read back from its metadata. -/
theorem Metadata.str?_sortKeys (m : Metadata) (key : String) :
    m.toJson.sortKeys.str? key = m.toJson.str? key := by
  apply str?_sortKeys_of_nodup
  show (["archive_id", "archive_version", "captured_at", "capture_reason", "capture_boundary",
    "captured_by", "exercise_id", "run_id", "scenario_id", "run_state", "bundle_sha256",
    "event_count", "submission_count", "last_sequence", "review_status", "reviewed_objectives",
    "audit_event_id"] : List String).Nodup
  decide

namespace Env

variable {env : Archive.Env} {t t' : Tables} {c : Contents}

/-! ## Accepted archives -/

theorem short_of_report {bundle : Json} {report : Report}
    (hgenuine : bundle.Genuine env.ft.isFloat) (h : env.buildReport bundle = .ok report) :
    bundle.short = true := by
  obtain ⟨b, hb, -⟩ := bind_eq_ok h
  unfold Aar.Env.validateBundle at hb
  obtain ⟨_, -, hb⟩ := bind_eq_ok hb
  obtain ⟨_, -, hb⟩ := bind_eq_ok hb
  obtain ⟨exercise_id, -, hb⟩ := bind_eq_ok hb
  obtain ⟨run_id, -, hb⟩ := bind_eq_ok hb
  obtain ⟨scenario_id, -, hb⟩ := bind_eq_ok hb
  obtain ⟨run_state, -, hb⟩ := bind_eq_ok hb
  obtain ⟨checkpoint_ids, -, hb⟩ := bind_eq_ok hb
  obtain ⟨content_sha256, hdigest, hb⟩ := bind_eq_ok hb
  obtain ⟨_, hmatch, -⟩ := bind_eq_ok hb
  obtain ⟨_, hshort, -⟩ := bind_eq_ok hdigest
  exact short_of_unsigned hgenuine (require_eq_ok hmatch) (require_eq_ok hshort)

theorem encodeBundle_eq_ok {bundle : Json} {encoded : List Char}
    (hgenuine : bundle.Genuine env.ft.isFloat) (h : env.encodeBundle bundle = .ok encoded) :
    encoded = bundle.dumpChars env.ft.repr ∧ encoded.length ≤ maxBytes ∧
      bundle.Proper env.ft.isFloat := by
  obtain ⟨report, hreport, h⟩ := bind_eq_ok h
  obtain ⟨_, -, h⟩ := bind_eq_ok h
  obtain ⟨_, -, h⟩ := bind_eq_ok h
  obtain ⟨_, -, h⟩ := bind_eq_ok h
  obtain ⟨_, hsize, h⟩ := bind_eq_ok h
  obtain rfl := Except.ok.inj h
  exact ⟨rfl, require_eq_ok hsize,
    Json.proper_of_genuine hgenuine (short_of_report hgenuine hreport)⟩

theorem archiveId_eq_ok {value identifier : String} (h : archiveId value = .ok identifier) :
    archiveId identifier = .ok identifier := by
  have hsame := h
  unfold archiveId at hsame
  split at hsame
  · injection hsame with hsame
    exact hsame ▸ h
  · cases hsame

theorem metadata_eq_ok {bundle audit : Json} {record : Metadata}
    (h : env.metadata bundle audit = .ok record) :
    record.audit_event_id = eventId audit ∧
      archiveId record.archive_id = .ok record.archive_id := by
  unfold metadata at h
  obtain ⟨_, -, h⟩ := bind_eq_ok h
  obtain ⟨_, -, h⟩ := bind_eq_ok h
  obtain ⟨report, -, h⟩ := bind_eq_ok h
  obtain ⟨target, -, h⟩ := bind_eq_ok h
  obtain ⟨archive_id, hid, h⟩ := bind_eq_ok h
  obtain ⟨reason, -, h⟩ := bind_eq_ok h
  obtain ⟨role, -, h⟩ := bind_eq_ok h
  obtain ⟨_, -, h⟩ := bind_eq_ok h
  obtain ⟨capture_reason, -, h⟩ := bind_eq_ok h
  obtain ⟨capture_role, -, h⟩ := bind_eq_ok h
  obtain ⟨_, -, h⟩ := bind_eq_ok h
  obtain ⟨_, -, h⟩ := bind_eq_ok h
  obtain ⟨instant, -, h⟩ := bind_eq_ok h
  obtain rfl := Except.ok.inj h
  exact ⟨rfl, archiveId_eq_ok hid⟩

variable (env) in
/-- The row of an accepted archive with its number. -/
def archiveRowOf (a : (Metadata × Json × Json) × Nat) : ArchiveRow :=
  archiveRow a.1.1 (a.1.2.1.dumpChars env.ft.repr) a.2

variable (env) in
/-- What every accepted archive is. -/
structure Archived (c : Contents) (a : Metadata × Json × Json) : Prop where
  proper : a.2.1.Proper env.ft.isFloat
  genuine : a.2.1.Genuine env.ft.isFloat
  small : (a.2.1.dumpChars env.ft.repr).length ≤ maxBytes
  identified : archiveId a.1.archive_id = .ok a.1.archive_id
  audit_id : a.1.audit_event_id = eventId a.2.2
  audited : a.2.2 ∈ c.events

variable (env) in
/-- The table holds the accepted archives, numbered from one. -/
structure Archives (t : Tables) (c : Contents) : Prop where
  rows : t.review_archives = (c.archives.zipIdx 1).map env.archiveRowOf
  archived : ∀ a ∈ c.archives, env.Archived c a
  ids : Distinct ArchiveRow.archive_id t.review_archives

theorem archives_empty : env.Archives Tables.empty Contents.empty where
  rows := rfl
  archived := fun _ h => absurd h List.not_mem_nil
  ids := List.nodup_nil

theorem Archived.mono {c' : Contents} {a : Metadata × Json × Json} (h : env.Archived c a)
    (hevents : ∀ e ∈ c.events, e ∈ c'.events) : env.Archived c' a :=
  { h with audited := hevents _ h.audited }

/-- What leaves the table and the events leaves the archives. -/
theorem Archives.frame {c' : Contents} (h : env.Archives t c)
    (hrows : t'.review_archives = t.review_archives) (harchives : c'.archives = c.archives)
    (hevents : ∀ e ∈ c.events, e ∈ c'.events) : env.Archives t' c' where
  rows := by rw [hrows, harchives, h.rows]
  archived := fun a ha => (h.archived a (harchives ▸ ha)).mono hevents
  ids := hrows ▸ h.ids

/-- The next number is that of the next archive. -/
theorem Archives.nextId_eq (h : env.Archives t c) :
    nextId (t.review_archives.map ArchiveRow.archive_sequence) = 1 + c.archives.length := by
  have hnumbers : t.review_archives.map ArchiveRow.archive_sequence =
      List.range' 1 c.archives.length := by
    rw [h.rows, List.map_map, ← List.zipIdx_map_snd]
    rfl
  rw [hnumbers, nextId_range', Nat.add_comm]

theorem Archives.add (h : env.Archives t c) {record : Metadata} {bundle audit : Json}
    (hgenuine : bundle.Genuine env.ft.isFloat) {encoded : List Char}
    (hencoded : env.encodeBundle bundle = .ok encoded)
    (hrecord : env.metadata bundle audit = .ok record)
    (hinsert : insertArchive record encoded t = (.ok (), t')) :
    env.Archives t' (c.apply (.archive record bundle audit)) := by
  obtain ⟨htext, hsize, hproper⟩ := encodeBundle_eq_ok hgenuine hencoded
  obtain ⟨haudit, hidentified⟩ := metadata_eq_ok hrecord
  obtain ⟨hid, -, -, rfl⟩ := insertArchive_eq_ok hinsert
  refine ⟨?_, ?_, h.ids.snoc hid⟩
  · -- The table numbers the row by its largest number, the contents by the length.
    show _ ++ [_] = ((c.archives ++ [(record, bundle, audit)]).zipIdx 1).map env.archiveRowOf
    rw [List.zipIdx_append, List.map_append, ← h.rows, h.nextId_eq, htext]
    rfl
  · intro a ha
    rcases List.mem_append.mp ha with ha | ha
    · exact (h.archived a ha).mono fun e he => List.mem_append_left _ he
    · obtain rfl := List.mem_singleton.mp ha
      exact ⟨hproper, hgenuine, htext ▸ hsize, hidentified, haudit,
        List.mem_append_right _ (List.mem_singleton_self audit)⟩

/-- No accepted call changes an archive. -/
theorem Archives.writes (h : env.Archives t c) {change : Change}
    (hwrites : env.Writes t t' change) : env.Archives t' (c.apply change) := by
  cases change with
  | event e =>
      obtain ⟨q, -, -, -, rfl⟩ := insertEvent_eq_ok hwrites.2
      exact h.frame rfl rfl fun e he => List.mem_append_left _ he
  | submission row =>
      obtain ⟨-, rfl⟩ := hwrites
      exact h.frame rfl rfl fun e he => he
  | identity e row =>
      obtain ⟨-, -, t₁, hinsert, hidentity⟩ := hwrites
      obtain ⟨q, -, -, -, rfl⟩ := insertEvent_eq_ok hinsert
      obtain ⟨-, -, -, rfl⟩ := insertIdentity_eq_ok hidentity
      exact h.frame rfl rfl fun e he => List.mem_append_left _ he
  | deletion exercise_id run_id =>
      rw [Writes] at hwrites
      subst hwrites
      exact h.frame rfl rfl fun e he => he
  | archive record bundle audit =>
      obtain ⟨-, hgenuine, hrecord, encoded, t₁, hencoded, harchive, hinsert⟩ := hwrites
      obtain ⟨q, -, -, -, rfl⟩ := insertEvent_eq_ok hinsert
      exact (h.add hgenuine hencoded hrecord harchive).frame rfl rfl fun e he => he

/-- The table of every run holds the accepted archives. -/
theorem archives_run (calls : List env.Call) : env.Archives (env.run calls).1 (env.run calls).2 :=
  invariant_run archives_empty (fun h hwrites => h.writes hwrites) calls

/-! ## Queries -/

variable (env) in
/-- An accepted archive with its number, validated again. -/
def snapshot (a : (Metadata × Json × Json) × Nat) : Except Exn Snapshot := do
  let report ← env.validateSnapshot a.1.1.toJson.sortKeys a.1.2.1.sortKeys a.1.2.2.sortKeys
  return ⟨a.1.1.toJson.sortKeys, a.2, a.1.2.1.sortKeys, report⟩

variable (env) in
/-- The accepted archive whose metadata meet a condition. -/
def archiveOf (p : Metadata → Bool) (c : Contents) : Except Exn (Option Snapshot) :=
  match (c.archives.zipIdx 1).find? fun a => p a.1.1 with
  | none => .ok none
  | some a => do return some (← env.snapshot a)

/-- A row is read back as the archive that was accepted. -/
theorem Archived.reviewSnapshot_eq {a : Metadata × Json × Json} (h : env.Archived c a)
    (hholds : env.Holds t c) (n : Nat) :
    env.reviewSnapshot t (env.archiveRowOf (a, n)) = env.snapshot (a, n) := by
  have hsize : (env.archiveRowOf (a, n)).bundle.length ≤ maxBytes := h.small
  have hbundle : env.loads (env.archiveRowOf (a, n)).bundle = .ok a.2.1.sortKeys :=
    loads_dumpChars h.proper
  have hid : (env.archiveRowOf (a, n)).audit_event_id = (env.rowOf a.2.2).event_id := h.audit_id
  have hevent : env.rowOf a.2.2 ∈ t.events := hholds.events ▸ List.mem_map_of_mem h.audited
  have haudit : env.loads (env.rowOf a.2.2).payload = .ok a.2.2.sortKeys :=
    loads_dumpChars (hholds.stored a.2.2 h.audited).proper
  have hfound : given (invalid "review archive audit is missing")
      (t.events.find? fun event => event.event_id = (env.archiveRowOf (a, n)).audit_event_id) =
        .ok (env.rowOf a.2.2) := by
    have hfirst := hholds.event_ids.find?_eq hevent (p := fun event =>
      event.event_id = (env.archiveRowOf (a, n)).audit_event_id) (decide_eq_true hid.symm)
      fun event hp => (of_decide_eq_true hp).trans hid
    rw [hfirst]
    rfl
  -- No check before the validation fails, and none after it.
  rw [reviewSnapshot, bind_of_eq_ok (require_of hsize), bind_of_eq_ok hbundle,
    bind_of_eq_ok hfound, bind_of_eq_ok haudit]
  refine congrArg (env.validateSnapshot _ _ _ >>= ·) (funext fun report => ?_)
  refine bind_of_eq_ok (require_of ⟨?_, ?_, ?_, ?_, ?_⟩)
  · exact a.1.str?_sortKeys "archive_id"
  · exact a.1.str?_sortKeys "exercise_id"
  · exact a.1.str?_sortKeys "run_id"
  · exact a.1.str?_sortKeys "bundle_sha256"
  · exact a.1.str?_sortKeys "audit_event_id"

theorem Archives.snapshotOf_eq (h : env.Archives t c) (hholds : env.Holds t c)
    {p : ArchiveRow → Bool} {q : Metadata → Bool}
    (hpq : ∀ a, p (env.archiveRowOf a) = q a.1.1) : env.snapshotOf p t = env.archiveOf q c := by
  have hfind : t.review_archives.find? p =
      ((c.archives.zipIdx 1).find? fun a => q a.1.1).map env.archiveRowOf := by
    rw [h.rows, List.find?_map]
    congr 2
    exact funext hpq
  rw [snapshotOf, archiveOf, hfind]
  -- Both sides find the same archive; the row is then read back.
  cases hfirst : (c.archives.zipIdx 1).find? fun a => q a.1.1 with
  | none => rfl
  | some a =>
      have ha : a.1 ∈ c.archives :=
        List.fst_mem_of_mem_zipIdx (List.mem_of_find?_eq_some hfirst)
      show (env.reviewSnapshot t (env.archiveRowOf (a.1, a.2)) >>= _) = _
      rw [(h.archived a.1 ha).reviewSnapshot_eq hholds a.2]

/-- **Archives are kept as they were captured.** After any series of calls, some of them refused,
both lookups are queries on the accepted archives, numbered from one in the order of their
acceptance: they find the archive that was captured and validate it again. An archive has its own id
and its audit event is among the accepted events, and what is read back of its bundle is equal to
what was captured. -/
theorem archives_kept (env : Archive.Env) (calls : List env.Call) :
    (∀ exercise_id identifier, env.reviewArchive exercise_id identifier (env.run calls).1 = do
        let _ ← archiveId identifier
        env.archiveOf (fun m => m.exercise_id = exercise_id ∧ m.archive_id = identifier)
          (env.run calls).2) ∧
    (∀ exercise_id run_id digest,
      env.reviewArchiveByHash exercise_id run_id digest (env.run calls).1 =
        env.archiveOf (fun m => m.exercise_id = exercise_id ∧ m.run_id = run_id ∧
          m.bundle_sha256 = digest) (env.run calls).2) ∧
    ((env.run calls).2.archives.map fun a => a.1.archive_id).Nodup ∧
    ∀ a ∈ (env.run calls).2.archives,
      a.2.2 ∈ (env.run calls).2.events ∧ a.2.1.same a.2.1.sortKeys = true := by
  have hholds := holds_run calls
  have harchives := archives_run calls
  refine ⟨?_, ?_, ?_, ?_⟩
  · intro exercise_id identifier
    have hquery : env.snapshotOf (fun row => row.exercise_id = exercise_id ∧
        row.archive_id = identifier) (env.run calls).1 =
        env.archiveOf (fun m => m.exercise_id = exercise_id ∧ m.archive_id = identifier)
          (env.run calls).2 := harchives.snapshotOf_eq hholds fun _ => rfl
    rw [reviewArchive, hquery]
  · intro exercise_id run_id digest
    apply harchives.snapshotOf_eq hholds
    intro a
    apply decide_eq_decide.mpr
    show (_, _, _) = (_, _, _) ↔ _
    rw [Prod.mk.injEq, Prod.mk.injEq]
    exact Iff.rfl
  · have hids := harchives.ids
    rw [Distinct, harchives.rows, List.map_map] at hids
    have hnames : ((env.run calls).2.archives.zipIdx 1).map
        (ArchiveRow.archive_id ∘ env.archiveRowOf) =
        (((env.run calls).2.archives.zipIdx 1).map Prod.fst).map fun a => a.1.archive_id := by
      rw [List.map_map]
      rfl
    rwa [hnames, List.zipIdx_map_fst] at hids
  · intro a ha
    have harchived := harchives.archived a ha
    exact ⟨harchived.audited, Json.same_sortKeys harchived.genuine⟩

end Env

end Archive

end NetStrike.Dashboard
