import NetStrike.Orchestrator.Ledger

/-!
# Replaying the event log

A `Board` is what `snapshot` shows of a run besides its ids, its clock and its error texts. `replay`
rebuilds a board from the events alone, and `checkpointPath` is the list of that name in
`build_report` of `orchestrator/aar.py`.

Each notice of the controller has one effect on the board, whatever the board (`replayEvent_ready`
and its siblings).
-/

set_option autoImplicit false

namespace NetStrike.Orchestrator

open NetStrike.Foundation NetStrike.Shared

/-! ## Reading events -/

/-- The id of the target of an event. -/
def subjectOf (event : Event) : Option Json := event.target.get? "id"

/-- The subject, where it is a string. -/
def subjectId (event : Event) : String :=
  match subjectOf event with
  | some (.str id) => id
  | _ => ""

/-- `data["elapsed_seconds"]`, where it is an integer. -/
def elapsedOf (event : Event) : Option Int :=
  match event.data.get? "elapsed_seconds" with
  | some (.int seconds) => some seconds
  | _ => none

/-- `data["result"]`, where it is the name of an outcome. -/
def resultIn (event : Event) : Option CheckpointOutcome :=
  match event.data.get? "result" with
  | some (.str name) => byValue CheckpointOutcome.value [.pass, .miss] name
  | _ => none

/-- The event reports an end item. -/
def endsByKind (event : Event) : Bool := event.data.get? "item_kind" == some (.str "end")

/-! ## The replay -/

/-- The part of a snapshot that the events determine. -/
@[ext] structure Board where
  state : RunState
  status : String → ItemStatus
  delivered_at_seconds : String → Option Int
  checkpoint_results : String → Option CheckpointOutcome

namespace Board

/-- The board of a new run. -/
def initial : Board := ⟨.ready, fun _ => .pending, fun _ => none, fun _ => none⟩

/-- Set the status of an item. -/
def mark (item_id : String) (status : ItemStatus) (b : Board) : Board :=
  { b with status := Function.update b.status item_id status }

/-- Mark an item delivered at a time. -/
def deliver (item_id : String) (seconds : Option Int) (b : Board) : Board :=
  { b.mark item_id .delivered with
    delivered_at_seconds := Function.update b.delivered_at_seconds item_id seconds }

/-- Record the result of a checkpoint. -/
def resolve (checkpoint_id : String) (result : Option CheckpointOutcome) (b : Board) : Board :=
  { b with checkpoint_results := Function.update b.checkpoint_results checkpoint_id result }

end Board

/-- The effect of one event; `ends` says which deliveries complete the run. -/
def replayEvent (ends : Event → Bool) (b : Board) (event : Event) : Board :=
  match event.event_type with
  | "scenario.run.started" => { b with state := .running }
  | "scenario.run.paused" => { b with state := .paused }
  | "scenario.run.resumed" => { b with state := .running }
  | "scenario.run.stopped" => { b with state := .stopped }
  | "scenario.run.reset" => Board.initial
  | "scenario.item.ready" => b.mark (subjectId event) .ready
  | "scenario.item.failed" => b.mark (subjectId event) .failed
  | "scenario.item.skipped" => b.mark (subjectId event) .skipped
  | "scenario.item.delivered" =>
      { b.deliver (subjectId event) (elapsedOf event) with
        state := if ends event then .completed else b.state }
  | "scenario.checkpoint.resolved" =>
      (b.deliver (subjectId event) (elapsedOf event)).resolve (subjectId event) (resultIn event)
  | _ => b

/-- The board that a list of events describes. -/
def replay (ends : Event → Bool) (events : List Event) : Board :=
  events.foldl (replayEvent ends) Board.initial

theorem replay_append (ends : Event → Bool) (events : List Event) (event : Event) :
    replay ends (events ++ [event]) = replayEvent ends (replay ends events) event := by
  rw [replay, List.foldl_append]
  rfl

/-! ## The checkpoint path of the report -/

/-- An entry of `checkpoint_path`. -/
structure CheckpointEntry where
  checkpoint_id : Option Json
  result : Option Json
  event_id : String
  elapsed_seconds : Option Json
  verifier_checks : Json

/-- The entry that an event makes. -/
def checkpointEntry (event : Event) : Option CheckpointEntry :=
  if event.event_type = "scenario.checkpoint.resolved" then
    some ⟨subjectOf event, event.data.get? "result", event.event_id,
      event.data.get? "elapsed_seconds", (event.data.get? "verifier_checks").getD (.obj [])⟩
  else none

/-- `checkpoint_path` of `build_report`. -/
def checkpointPath (events : List Event) : List CheckpointEntry := events.filterMap checkpointEntry

/-- The events since the last reset, which are the ledger of the current run. -/
def currentRun (events : List Event) : List Event :=
  events.foldl (fun run event =>
    if event.event_type = "scenario.run.reset" then [event] else run ++ [event]) []

theorem currentRun_append (events : List Event) (event : Event) :
    currentRun (events ++ [event]) =
      if event.event_type = "scenario.run.reset" then [event]
      else currentRun events ++ [event] := by
  rw [currentRun, List.foldl_append]
  rfl

/-- The results that the path gives for a checkpoint. -/
def pathResults (path : List CheckpointEntry) (checkpoint_id : String) : List (Option Json) :=
  (path.filter fun entry => entry.checkpoint_id = some (.str checkpoint_id)).map
    CheckpointEntry.result

/-- The path has one entry for each recorded result and no other. -/
def PathMatches (path : List CheckpointEntry)
    (checkpoint_results : String → Option CheckpointOutcome) : Prop :=
  ∀ checkpoint_id, pathResults path checkpoint_id =
    match checkpoint_results checkpoint_id with
    | some result => [some (.str result.value)]
    | none => []

/-- A resolution adds the one entry of its checkpoint. -/
theorem PathMatches.resolved {events : List Event}
    {checkpoint_results : String → Option CheckpointOutcome} {checkpoint_id : String}
    {result : CheckpointOutcome}
    (h : PathMatches (checkpointPath (currentRun events)) checkpoint_results) (event : Event)
    (hnone : checkpoint_results checkpoint_id = none)
    (htype : event.event_type = "scenario.checkpoint.resolved")
    (hsubject : subjectOf event = some (.str checkpoint_id))
    (hresult : event.data.get? "result" = some (.str result.value)) :
    PathMatches (checkpointPath (currentRun (events ++ [event])))
      (Function.update checkpoint_results checkpoint_id (some result)) := by
  have hreset : event.event_type ≠ "scenario.run.reset" := by rw [htype]; decide
  have hentry : checkpointEntry event = some ⟨some (.str checkpoint_id), some (.str result.value),
      event.event_id, event.data.get? "elapsed_seconds",
      (event.data.get? "verifier_checks").getD (.obj [])⟩ := by
    rw [checkpointEntry, if_pos htype, hsubject, hresult]
  intro id
  rw [currentRun_append, if_neg hreset, checkpointPath, List.filterMap_append,
    List.filterMap_cons, hentry, List.filterMap_nil]
  have hold := h id
  unfold pathResults at hold ⊢
  rw [List.filter_append, List.map_append]
  by_cases hid : id = checkpoint_id
  · subst hid
    rw [hnone] at hold
    rw [Function.update_self, show List.filterMap checkpointEntry (currentRun events) =
      checkpointPath (currentRun events) from rfl, hold]
    simp
  · rw [Function.update_of_ne hid, ← hold]
    have hne : ¬ checkpoint_id = id := fun heq => hid heq.symm
    simp [hne, checkpointPath]

/-! ## What the controller writes into an event -/

namespace Controller

variable {W : Type} (env : Controller W)

/-- What `snapshot` shows of the board. -/
def board (c : ScenarioController W) : Board where
  state := c.state
  status := fun id => (c.items id).status
  delivered_at_seconds := fun id => (c.items id).delivered_at_seconds
  checkpoint_results := c.checkpoint_results

/-! ### Members of the data -/

section Members

variable {k : String} {v : Json}

/-- One member of the right operand of `{**base, **extra}`. -/
def setMember (ms : List (String × Json)) (m : String × Json) : List (String × Json) :=
  if ms.any fun n => n.1 == m.1 then ms.map fun n => if n.1 == m.1 then m else n else ms ++ [m]

theorem mergeMembers_cons (base : List (String × Json)) (m : String × Json)
    (extra : List (String × Json)) :
    mergeMembers base (m :: extra) = mergeMembers (setMember base m) extra := rfl

theorem lookup_replace_of_ne {m : String × Json} (h : k ≠ m.1) (ms : List (String × Json)) :
    (ms.map fun n => if n.1 == m.1 then m else n).lookup k = ms.lookup k := by
  obtain ⟨key, child⟩ := m
  have hkey : (k == key) = false := beq_false_of_ne h
  induction ms with
  | nil => rfl
  | cons n ms ih =>
      obtain ⟨name, value⟩ := n
      rw [List.map_cons]
      by_cases hn : name = key
      · rw [if_pos (beq_iff_eq.mpr hn), List.lookup_cons, List.lookup_cons, ih, hn, hkey]
      · rw [if_neg fun hbeq => hn (beq_iff_eq.mp hbeq), List.lookup_cons, List.lookup_cons, ih]

theorem lookup_replace_self {m : String × Json} {ms : List (String × Json)}
    (h : (ms.any fun n => n.1 == m.1) = true) :
    (ms.map fun n => if n.1 == m.1 then m else n).lookup m.1 = some m.2 := by
  obtain ⟨key, child⟩ := m
  induction ms with
  | nil => cases h
  | cons n ms ih =>
      obtain ⟨name, value⟩ := n
      rw [List.map_cons]
      by_cases hn : name = key
      · rw [if_pos (beq_iff_eq.mpr hn), List.lookup_cons_self]
      · have hne : (key == name) = false := beq_false_of_ne (Ne.symm hn)
        rw [if_neg fun hbeq => hn (beq_iff_eq.mp hbeq), List.lookup_cons, hne]
        exact ih (by simpa [hn] using h)

theorem lookup_setMember (ms : List (String × Json)) (m : String × Json) :
    (setMember ms m).lookup k = if k = m.1 then some m.2 else ms.lookup k := by
  unfold setMember
  split_ifs with hany hk hk
  · rw [hk]
    exact lookup_replace_self hany
  · exact lookup_replace_of_ne hk ms
  · have hnone : ms.lookup m.1 = none := by
      rw [List.lookup_eq_none_iff]
      intro n hn
      by_contra hne
      have heq : m.1 = n.1 := by simpa using hne
      exact hany (List.any_eq_true.mpr ⟨n, hn, beq_iff_eq.mpr heq.symm⟩)
    rw [hk, List.lookup_append, hnone, Option.none_or]
    exact List.lookup_cons_self
  · obtain ⟨key, child⟩ := m
    have hkey : (k == key) = false := beq_false_of_ne hk
    rw [List.lookup_append, List.lookup_cons, hkey, List.lookup_nil, Option.or_none]

/-- A key whose entries all carry `v`, in the left or the right operand, is looked up as `v`. -/
theorem lookup_mergeMembers {base extra : List (String × Json)}
    (hall : ∀ m ∈ extra, m.1 = k → m.2 = v)
    (h : base.lookup k = some v ∨ k ∈ extra.map Prod.fst) :
    (mergeMembers base extra).lookup k = some v := by
  induction extra generalizing base with
  | nil =>
      rcases h with h | h
      · exact h
      · cases h
  | cons m extra ih =>
      rw [mergeMembers_cons]
      refine ih (fun n hn => hall n (List.mem_cons_of_mem m hn)) ?_
      rw [lookup_setMember]
      by_cases hk : k = m.1
      · rw [if_pos hk, hall m List.mem_cons_self hk.symm]
        exact Or.inl rfl
      · rw [if_neg hk]
        rcases h with h | h
        · exact Or.inl h
        · rw [List.map_cons] at h
          exact Or.inr (List.mem_of_ne_of_mem hk h)

theorem mem_setMember {n m : String × Json} {ms : List (String × Json)} (h : n ∈ setMember ms m) :
    n = m ∨ n ∈ ms := by
  unfold setMember at h
  split_ifs at h
  · obtain ⟨x, hx, hxn⟩ := List.mem_map.mp h
    split_ifs at hxn
    · exact Or.inl hxn.symm
    · exact Or.inr (hxn ▸ hx)
  · rcases List.mem_append.mp h with h | h
    · exact Or.inr h
    · exact Or.inl (List.mem_singleton.mp h)

theorem mem_mergeMembers {n : String × Json} {base extra : List (String × Json)}
    (h : n ∈ mergeMembers base extra) : n ∈ base ∨ n ∈ extra := by
  induction extra generalizing base with
  | nil => exact Or.inl h
  | cons m extra ih =>
      rcases ih (mergeMembers_cons base m extra ▸ h) with h | h
      · rcases mem_setMember h with rfl | h
        · exact Or.inr List.mem_cons_self
        · exact Or.inl h
      · exact Or.inr (List.mem_cons_of_mem m h)

/-- Redaction keeps the member of a key that is not sensitive. -/
theorem lookup_redactMembers (hk : sensitiveKeys.contains (normalizedKey k) = false)
    (ms : List (String × Json)) :
    (redactMembers ms).lookup k = (ms.lookup k).map redactSensitive := by
  induction ms with
  | nil => rfl
  | cons m ms ih =>
      obtain ⟨key, child⟩ := m
      rw [redactMembers, List.lookup_cons, List.lookup_cons, ih]
      by_cases hkey : k = key
      · subst hkey
        rw [hk]
        simp
      · have hbeq : (k == key) = false := by simpa using hkey
        rw [hbeq]

end Members

/-! ### The effects of the notices -/

section Effects

variable {n : Notice} {c : ScenarioController W} {item : ScenarioItem} {k : String} {v : Json}

theorem subjectOf_eventOf (h : n.item = some item) :
    subjectOf (env.eventOf n c) = some (.str item.item_id) := by
  simp [subjectOf, eventOf, callOf, emitCall, EventCall.assemble, h, Json.get?, entity,
    List.lookup_cons]

theorem subjectId_eventOf (h : n.item = some item) :
    subjectId (env.eventOf n c) = item.item_id := by
  unfold subjectId
  rw [env.subjectOf_eventOf h]

/-- A member of the data that is no secret is read back from the event. -/
theorem data_eventOf (hk : sensitiveKeys.contains (normalizedKey k) = false)
    (hv : redactSensitive v = v) (hall : ∀ m ∈ n.data, m.1 = k → m.2 = v)
    (h : ([("scenario_id", .str env.definition.scenario_id),
        ("elapsed_seconds", .int c.elapsed_seconds)] : List (String × Json)).lookup k = some v ∨
      k ∈ n.data.map Prod.fst) :
    (env.eventOf n c).data.get? k = some v := by
  show (redactMembers (mergeMembers _ n.data)).lookup k = some v
  rw [lookup_redactMembers hk, lookup_mergeMembers hall h, Option.map_some, hv]

theorem elapsedOf_eventOf (h : ∀ m ∈ n.data, m.1 ≠ "elapsed_seconds") :
    elapsedOf (env.eventOf n c) = some c.elapsed_seconds := by
  have hget : (env.eventOf n c).data.get? "elapsed_seconds" = some (.int c.elapsed_seconds) :=
    env.data_eventOf (by decide) rfl (fun m hm hk => absurd hk (h m hm)) (Or.inl rfl)
  unfold elapsedOf
  rw [hget]

variable (ends : Event → Bool) (b : Board)

theorem replayEvent_ready :
    replayEvent ends b (env.eventOf (readyNotice item) c) = b.mark item.item_id .ready := by
  rw [← env.subjectId_eventOf (n := readyNotice item) (c := c) rfl]
  rfl

theorem replayEvent_failed (reason : String) (data : List (String × Json)) :
    replayEvent ends b (env.eventOf (failedNotice item reason data) c) =
      b.mark item.item_id .failed := by
  rw [← env.subjectId_eventOf (n := failedNotice item reason data) (c := c) rfl]
  rfl

theorem replayEvent_skipped (item_id reason : String) :
    replayEvent ends b (env.eventOf (skippedNotice item item_id reason) c) =
      b.mark item.item_id .skipped := by
  rw [← env.subjectId_eventOf (n := skippedNotice item item_id reason) (c := c) rfl]
  rfl

theorem replayEvent_delivered (actor_role message : String) (data : List (String × Json)) :
    replayEvent ends b (env.eventOf (deliveredNotice item actor_role message data) c) =
      { b.deliver item.item_id
          (elapsedOf (env.eventOf (deliveredNotice item actor_role message data) c)) with
        state := if ends (env.eventOf (deliveredNotice item actor_role message data) c)
          then .completed else b.state } := by
  rw [← env.subjectId_eventOf (n := deliveredNotice item actor_role message data) (c := c) rfl]
  rfl

section Resolved

variable (checkpoint_id : String) (passed : Bool) (evidence_ids : List String) (reason : String)
  (checks : Option Json)

theorem mem_resolvedNotice {m : String × Json}
    (h : m ∈ (resolvedNotice item checkpoint_id passed evidence_ids reason checks).data) :
    m = ("result", .str (resultOf passed).value) ∨
      m.1 ∈ ["reason", "evidence_ids", "verifier_checks"] := by
  simp only [resolvedNotice, List.mem_append, List.mem_cons, List.not_mem_nil, or_false] at h
  rcases h with (rfl | rfl | rfl) | h
  · exact Or.inl rfl
  · exact Or.inr List.mem_cons_self
  · exact Or.inr (List.mem_cons_of_mem _ List.mem_cons_self)
  · cases checks with
    | none => cases h
    | some j =>
        rw [optionalMember, List.mem_singleton] at h
        rw [h]
        exact Or.inr (by simp)

theorem result_resolved :
    (env.eventOf (resolvedNotice item checkpoint_id passed evidence_ids reason checks) c).data.get?
      "result" = some (.str (resultOf passed).value) := by
  refine env.data_eventOf (by decide) rfl (fun m hm hk => ?_) (Or.inr List.mem_cons_self)
  rcases mem_resolvedNotice _ _ _ _ _ hm with rfl | hkey
  · rfl
  · rw [hk] at hkey
    exact absurd hkey (by decide)

theorem replayEvent_resolved :
    replayEvent ends b
        (env.eventOf (resolvedNotice item checkpoint_id passed evidence_ids reason checks) c) =
      (b.deliver item.item_id (some c.elapsed_seconds)).resolve item.item_id
        (some (resultOf passed)) := by
  have hresult : resultIn (env.eventOf
      (resolvedNotice item checkpoint_id passed evidence_ids reason checks) c) =
        some (resultOf passed) := by
    unfold resultIn
    rw [env.result_resolved]
    cases passed <;> decide
  have helapsed : elapsedOf (env.eventOf
      (resolvedNotice item checkpoint_id passed evidence_ids reason checks) c) =
        some c.elapsed_seconds := by
    refine env.elapsedOf_eventOf fun m hm hk => ?_
    rcases mem_resolvedNotice _ _ _ _ _ hm with rfl | hkey
    · exact absurd (show "result" = "elapsed_seconds" from hk) (by decide)
    · rw [hk] at hkey
      exact absurd hkey (by decide)
  rw [← hresult, ← helapsed, ← env.subjectId_eventOf (c := c)
    (n := resolvedNotice item checkpoint_id passed evidence_ids reason checks) rfl]
  rfl

end Resolved

theorem replayEvent_run {before after : RunState} {event_type : String}
    (h : (before, after, event_type) ∈ runChanges) (action message : String) :
    replayEvent ends b (env.eventOf (runNotice event_type action message) c) =
      { b with state := after } := by
  simp only [runChanges, List.mem_cons, List.not_mem_nil, or_false, Prod.mk.injEq] at h
  rcases h with ⟨-, rfl, rfl⟩ | ⟨-, rfl, rfl⟩ | ⟨-, rfl, rfl⟩ <;> rfl

theorem replayEvent_stopped (reason : String) :
    replayEvent ends b (env.eventOf (stoppedNotice reason) c) = { b with state := .stopped } := rfl

theorem replayEvent_reset (previous_run_id : String) :
    replayEvent ends b (env.eventOf (resetNotice previous_run_id) c) = Board.initial := rfl

end Effects

end Controller

end NetStrike.Orchestrator
