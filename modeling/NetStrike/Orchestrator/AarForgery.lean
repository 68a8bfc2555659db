import NetStrike.Orchestrator.AarOutline

/-!
# Forged report structure

A report is `Unforgeable` when the lines of its Markdown follow its outline, no metacharacter of a
value is active and every value can be read back. `report_text_iff` says of which reports that
holds: no text may have a carriage return, which `_md` lets through, and the time of a checkpoint,
which no validator reads and which is not escaped, must be harmless by itself.
-/

set_option autoImplicit false

namespace NetStrike.Orchestrator.Aar

open NetStrike.Foundation NetStrike.Foundation.Checked NetStrike.Shared

/-! ## Outlines -/

/-- The lines with their fixed texts; a value is struck out. -/
def outline (report : Report) : List (List (Option String)) :=
  (markdownLines report).map fun line => line.map Piece.literal?

/-- A text that has the fixed texts in their order, with anything in the gaps. -/
inductive Fits : List (Option String) → List Char → Prop where
  | nil : Fits [] []
  | literal (s : String) {pattern : List (Option String)} {text : List Char} :
      Fits pattern text → Fits (some s :: pattern) (s.toList ++ text)
  | gap (word : List Char) {pattern : List (Option String)} {text : List Char} :
      Fits pattern text → Fits (none :: pattern) (word ++ text)

/-- A text struck out; whether it was empty can be seen. -/
def struck (s : String) : String := if s = "" then "" else "struck out"

/-- A judgment without its texts. -/
def Judgment.bare (judgment : Judgment) : Judgment :=
  { judgment with
    rationale := ""
    evidence_ids := []
    override_reason := struck judgment.override_reason
    platform_reason := struck judgment.platform_reason
    improvement_actions := []
    event_id := ""
    evaluator_id := ""
    timestamp := "" }

/-- An objective without its texts. -/
def ObjectiveReview.bare (item : ObjectiveReview) : ObjectiveReview :=
  { item with history := item.history.map Judgment.bare }

/-- A reply without its texts. -/
def bareReply (reply : Support.Reply) : Support.Reply :=
  { reply with
    event_id := "", kind := "", text := "", objective_ids := [], responder_id := "",
    responder_role := "", responded_at := "" }

/-- A request without its texts. -/
def bareRequest (request : Support.Record) : Support.Record :=
  { request with
    request_id := "", requester_id := "", requester_role := "", objective_id := "", question := "",
    requested_at := "", response := request.response.map bareReply }

/-- A corrective action without its texts. -/
def bareAction (entry : Objective × ImprovementAction) : Objective × ImprovementAction :=
  (entry.1, ⟨"", "", "", ""⟩)

/-- A checkpoint without its texts. -/
def bareVisit (_ : CheckpointVisit) : CheckpointVisit := ⟨.null, .null, "", .null, .null⟩

/-- An event of the timeline without its texts. -/
def bareEntry (entry : TimelineEntry) : TimelineEntry :=
  ⟨"", entry.sequence, "", "", "", "", .null⟩

/-- A report without its texts. -/
def Report.bare (report : Report) : Report :=
  { report with
    exercise_id := ""
    run_id := ""
    scenario_id := ""
    bundle_sha256 := ""
    objectives := report.objectives.map ObjectiveReview.bare
    checkpoint_path := report.checkpoint_path.map bareVisit
    timeline := report.timeline.map bareEntry
    submissions := []
    support_requests := report.support_requests.map bareRequest
    platform_observations := []
    improvement_actions := report.improvement_actions.map bareAction }

/-- The struck out lines. -/
def patterns (lines : List Line) : List (List (Option String)) :=
  lines.map fun line => line.map Piece.literal?

theorem patterns_append (lines lines' : List Line) :
    patterns (lines ++ lines') = patterns lines ++ patterns lines' := List.map_append

/-- Items that give the same pattern may be exchanged. -/
theorem patterns_flatMap_map {α : Type} {f : α → List Line} {g : α → α}
    (h : ∀ a, patterns (f (g a)) = patterns (f a)) (items : List α) :
    patterns ((items.map g).flatMap f) = patterns (items.flatMap f) := by
  induction items with
  | nil => rfl
  | cons a items ih =>
      rw [List.map_cons, List.flatMap_cons, List.flatMap_cons, patterns_append, patterns_append, h,
        ih]

theorem patterns_map_map {α : Type} (f : α → Line) (g : α → α)
    (h : ∀ a, (f (g a)).map Piece.literal? = (f a).map Piece.literal?) (items : List α) :
    patterns ((items.map g).map f) = patterns (items.map f) := by
  rw [patterns, patterns, List.map_map, List.map_map, List.map_map]
  exact List.map_congr_left fun a _ => h a

theorem emptyLines_map {α β : Type} (f : α → β) (items : List α) (notice : String) :
    emptyLines (items.map f) notice = emptyLines items notice := by
  cases items <;> rfl

theorem patterns_reasonLines (label reason : String) :
    patterns (reasonLines label (struck reason)) = patterns (reasonLines label reason) := by
  unfold reasonLines struck
  split
  · rfl
  · rw [if_neg (by decide)]
    rfl

theorem patterns_historyLines (history : List Judgment) :
    patterns (historyLines (history.map Judgment.bare)) = patterns (historyLines history) := by
  unfold historyLines
  rw [List.length_map]
  split
  · rw [patterns_append, patterns_append, patterns_append, patterns_append,
      patterns_map_map historyLine Judgment.bare fun previous => rfl]
  · rfl

theorem patterns_objectiveLines (item : ObjectiveReview) :
    patterns (objectiveLines item.bare) = patterns (objectiveLines item) := by
  have hjudgment : item.bare.judgment = item.judgment.map Judgment.bare := List.getLast?_map
  unfold objectiveLines
  rw [hjudgment]
  cases item.judgment with
  | none => rfl
  | some judgment =>
      simp only [Option.map_some, patterns_append, judgmentLines]
      rw [show judgment.bare.override_reason = struck judgment.override_reason from rfl,
        show judgment.bare.platform_reason = struck judgment.platform_reason from rfl,
        show item.bare.history = item.history.map Judgment.bare from rfl,
        patterns_reasonLines, patterns_reasonLines, patterns_historyLines]
      rfl

theorem patterns_requestLines (request : Support.Record) :
    patterns (requestLines (bareRequest request)) = patterns (requestLines request) := by
  unfold requestLines bareRequest
  cases request.response with
  | none => rfl
  | some reply => rfl

/-- **The outline does not depend on the texts.** -/
theorem outline_bare (report : Report) : outline report.bare = outline report := by
  show patterns (markdownLines report.bare) = patterns (markdownLines report)
  simp only [markdownLines, patterns_append, Report.bare, emptyLines_map,
    patterns_flatMap_map patterns_objectiveLines, patterns_flatMap_map patterns_requestLines]
  rw [patterns_map_map actionLine bareAction fun entry => rfl,
    patterns_map_map visitLine bareVisit fun visit => rfl,
    patterns_map_map timelineLine bareEntry fun entry => rfl]
  rfl

namespace Env

variable (env : Env)

/-- A line fits its own pattern. -/
theorem fits_lineText (line : Line) : Fits (line.map Piece.literal?) (env.lineText line) := by
  induction line with
  | nil => exact .nil
  | cons piece line ih =>
      cases piece with
      | literal s => exact .literal s ih
      | plain value => exact .gap (env.str value) ih
      | escaped value => exact .gap (md (env.str value)) ih

/-- **The text of a report cannot forge its structure.** -/
structure Unforgeable (report : Report) : Prop where
  /-- The lines of the text are the lines of the outline. -/
  lines : List.Forall₂ Fits (outline report.bare ++ [[]]) (breakLines (env.renderMarkdown report))
  /-- No metacharacter of a value is active. -/
  inert : ∀ line ∈ markdownLines report, ∀ piece ∈ line, piece.literal? = none →
    Inert (env.pieceText piece)
  /-- The values are read back, line breaks as spaces. -/
  readable : ∀ line ∈ markdownLines report, ∀ piece ∈ line, ∀ value,
    piece = .plain value ∨ piece = .escaped value →
      unescape (env.pieceText piece) = spaced (env.str value)

/-- No text has a carriage return, and the times of the checkpoints are harmless. -/
structure Decent (report : Report) : Prop where
  texts : ∀ value ∈ report.fields, '\r' ∉ env.str value
  times : ∀ visit ∈ report.checkpoint_path, Harmless (env.str visit.elapsed_seconds)

/-- The numbers of a report are harmless. -/
def NumbersHarmless (report : Report) : Prop :=
  ∀ value ∈ report.numbers, Harmless (env.str value)

variable {env}

/-- Of a decent report every piece is harmless or escaped. -/
theorem breakless_lineText {report : Report} (hnumbers : env.NumbersHarmless report)
    (h : env.Decent report) {line : Line} (hline : line ∈ markdownLines report) :
    '\n' ∉ env.lineText line ∧ '\r' ∉ env.lineText line := by
  have hpiece : ∀ piece ∈ line, '\n' ∉ env.pieceText piece ∧ '\r' ∉ env.pieceText piece := by
    intro piece hpiece
    cases piece with
    | literal s =>
        have hs := fixed_markdownLines report s (mem_collect.mpr ⟨line, hline, _, hpiece, rfl⟩)
        exact ⟨hs.feed, hs.carriage⟩
    | plain value =>
        have hmem := (mem_collect_plain report value).mp
          (mem_collect.mpr ⟨line, hline, _, hpiece, rfl⟩)
        have hharmless : Harmless (env.str value) := by
          rcases hmem with hmem | ⟨visit, hvisit, rfl⟩
          · exact hnumbers value hmem
          · exact h.times visit hvisit
        exact ⟨fun hc => (hharmless _ hc).2.1 rfl, fun hc => (hharmless _ hc).2.2 rfl⟩
    | escaped value =>
        have hmem : value ∈ report.fields := by
          rw [← collect_escaped]
          exact mem_collect.mpr ⟨line, hline, _, hpiece, rfl⟩
        rw [pieceText]
        exact breakless_md (h.texts value hmem)
  simp only [lineText, List.mem_flatMap, not_exists, not_and]
  exact ⟨fun piece hp => (hpiece piece hp).1, fun piece hp => (hpiece piece hp).2⟩

/-- The Markdown of a report is unforgeable exactly when the report is decent. -/
theorem unforgeable_iff {report : Report} (hnumbers : env.NumbersHarmless report) :
    env.Unforgeable report ↔ env.Decent report := by
  constructor
  · intro h
    refine ⟨fun value hvalue => ?_, fun visit hvisit => ?_⟩
    · rw [← collect_escaped] at hvalue
      obtain ⟨line, hline, piece, hpiece, heq⟩ := mem_collect.mp hvalue
      cases piece with
      | escaped found =>
          obtain rfl := Option.some.inj heq
          have hread := h.readable line hline _ hpiece found (Or.inr rfl)
          rw [pieceText, unescape_md] at hread
          exact return_notMem_of_spaced hread
      | literal s | plain found => cases heq
    · have hplain := (mem_collect_plain report _).mpr (Or.inr ⟨visit, hvisit, rfl⟩)
      obtain ⟨line, hline, piece, hpiece, heq⟩ := mem_collect.mp hplain
      cases piece with
      | plain found =>
          obtain rfl := Option.some.inj heq
          exact harmless_iff.mpr ⟨h.inert line hline _ hpiece rfl,
            h.readable line hline _ hpiece _ (Or.inl rfl)⟩
      | literal s | escaped found => cases heq
  · intro h
    have hplain : ∀ line ∈ markdownLines report, ∀ value, Piece.plain value ∈ line →
        Harmless (env.str value) := by
      intro line hline value hpiece
      have hmem := (mem_collect_plain report value).mp
        (mem_collect.mpr ⟨line, hline, _, hpiece, rfl⟩)
      rcases hmem with hmem | ⟨visit, hvisit, rfl⟩
      · exact hnumbers value hmem
      · exact h.times visit hvisit
    refine ⟨?_, ?_, ?_⟩
    · have hne : (markdownLines report).map env.lineText ≠ [] := by
        simp [markdownLines, headLines]
      rw [outline_bare, renderMarkdown, breakLines_join hne]
      · refine List.rel_append ?_ (.cons .nil .nil)
        rw [outline, List.forall₂_map_left_iff, List.forall₂_map_right_iff]
        exact List.forall₂_same.mpr fun line _ => env.fits_lineText line
      · intro text htext
        obtain ⟨line, hline, rfl⟩ := List.mem_map.mp htext
        exact breakless_lineText hnumbers h hline
    · intro line hline piece hpiece hvalue
      cases piece with
      | literal s => cases hvalue
      | plain value => exact (harmless_iff.mp (hplain line hline value hpiece)).1
      | escaped value =>
          rw [pieceText]
          exact inert_md _
    · rintro line hline piece hpiece value (rfl | rfl)
      · exact (harmless_iff.mp (hplain line hline value hpiece)).2
      · have hmem : value ∈ report.fields := by
          rw [← collect_escaped]
          exact mem_collect.mpr ⟨line, hline, _, hpiece, rfl⟩
        rw [pieceText, unescape_md, spaced_eq_map (h.texts value hmem)]

end Env

/-! ## The numbers of an accepted bundle -/

theorem harmless_of_isNumberChar {text : List Char} (h : ∀ c ∈ text, isNumberChar c = true) :
    Harmless text := by
  intro c hc
  have hsound : ∀ d ∈ special ++ ['\n', '\r'], isNumberChar d = false := by decide
  have hne : ∀ d ∈ special ++ ['\n', '\r'], c ≠ d := by
    rintro d hd rfl
    exact absurd (h c hc) (by rw [hsound c hd]; exact Bool.false_ne_true)
  exact ⟨fun hmem => hne c (List.mem_append_left _ hmem) rfl, hne _ (by decide), hne _ (by decide)⟩

section Numbers

variable {env : Env}

theorem harmless_int (n : Int) : Harmless (env.str (.int n)) :=
  harmless_of_isNumberChar fun _ hc => isNumberChar_toString n hc

/-- The text of a number is harmless, a Boolean included. -/
theorem harmless_numeric {value : Json} (hvalue : value.Genuine env.ft.isFloat) {q : Rat}
    (h : value.numeric? = some q) : Harmless (env.str value) := by
  cases value with
  | bool b => cases b <;> exact of_decide_eq_true rfl
  | int n => exact harmless_int n
  | float q => exact harmless_of_isNumberChar fun _ hc => env.ft.isNumberChar hvalue hc
  | null | str | arr | obj => exact nomatch h

theorem genuine_dataOf {event : Json} (h : event.Genuine env.ft.isFloat) :
    (dataOf event).Genuine env.ft.isFloat := by
  unfold dataOf
  cases hdata : event.get? "data" with
  | none => trivial
  | some data => exact h.get? hdata

/-- The revision of a judgment is the one that its event records. -/
theorem judge_revision {events : List Json} {replay : Replay} {event : Json} {judgment : Judgment}
    (h : judge events replay event = .ok judgment) :
    judgment.revision = ((dataOf event).get? "revision").getD .null := by
  unfold judge at h
  obtain ⟨_, -, h⟩ := bind_eq_ok h
  obtain ⟨_, -, h⟩ := bind_eq_ok h
  obtain ⟨_, -, h⟩ := bind_eq_ok h
  obtain ⟨objective, -, h⟩ := bind_eq_ok h
  obtain ⟨observation, -, h⟩ := bind_eq_ok h
  obtain ⟨payload, -, h⟩ := bind_eq_ok h
  dsimp only at h
  split at h
  · obtain ⟨_, -, h⟩ := bind_eq_ok h
    rw [← Except.ok.inj h]
  · cases h

theorem validateJudgments_revision {events : List Json} {references : List String}
    {judged : List Judgment} (h : validateJudgments events references = .ok judged) :
    ∀ judgment ∈ judged, ∃ event ∈ events,
      judgment.revision = ((dataOf event).get? "revision").getD .null := by
  obtain ⟨replay, hfold, h⟩ := bind_eq_ok h
  rw [← Except.ok.inj h]
  refine foldlM_invariant (I := fun done replay => ∀ judgment ∈ replay.judged, ∃ event ∈ done,
    judgment.revision = ((dataOf event).get? "revision").getD .null)
    (fun _ hj => absurd hj List.not_mem_nil) ?_ hfold
  intro done event replay replay' hI hturn judgment hj
  unfold replayEvent at hturn
  split at hturn
  · obtain ⟨found, hjudge, hturn⟩ := bind_eq_ok hturn
    rw [← Except.ok.inj hturn] at hj
    rcases List.mem_append.mp hj with hj | hj
    · obtain ⟨e, he, heq⟩ := hI judgment hj
      exact ⟨e, List.mem_append_left _ he, heq⟩
    · rw [List.mem_singleton.mp hj]
      exact ⟨event, List.mem_append_right _ List.mem_cons_self, judge_revision hjudge⟩
  · rw [← Except.ok.inj hturn] at hj
    obtain ⟨e, he, heq⟩ := hI judgment hj
    exact ⟨e, List.mem_append_left _ he, heq⟩

/-- Every event of an accepted ledger has gone through the event schema. -/
theorem eventReferences_valid {value : Option Json} {exercise_id run_id : String}
    {found : List Json × List String}
    (h : env.eventReferences value exercise_id run_id = .ok found) :
    value = some (.arr found.1) ∧ ∀ event ∈ found.1,
      IsDict (some event) ∧ EventValidator.validate env.formats event = .ok () := by
  unfold Env.eventReferences at h
  split at h
  · next events =>
      obtain ⟨_, -, h⟩ := bind_eq_ok h
      obtain ⟨seen, hfold, h⟩ := bind_eq_ok h
      obtain rfl := Except.ok.inj h
      refine ⟨rfl, ?_⟩
      refine foldlM_invariant (I := fun done _ => ∀ event ∈ done, IsDict (some event) ∧
        EventValidator.validate env.formats event = .ok ())
        (fun _ he => absurd he List.not_mem_nil) ?_ hfold
      intro done event seen seen' hI hturn
      obtain ⟨_, hdict, hturn⟩ := bind_eq_ok hturn
      obtain ⟨_, hvalid, -⟩ := bind_eq_ok hturn
      rw [List.forall_mem_append]
      refine ⟨hI, fun e he => ?_⟩
      rw [List.mem_singleton.mp he]
      exact ⟨require_eq_ok hdict, hvalid⟩
  · exact nomatch h

/-- The sequence of a valid event is a number. -/
theorem sequence_numeric {formats : FormatChecker} {event : Json} (hdict : IsDict (some event))
    (h : EventValidator.validate formats event = .ok ()) :
    ∃ q, ((event.get? "sequence").getD .null).numeric? = some q := by
  have hvalid := schema_valid h
  cases event with
  | obj ms =>
      have hnamed : ("sequence", Schema.allOf [.type [.integer], .minimum 1]) ∈
          EventSchema.propertySchemas formats := by simp [EventSchema.propertySchemas]
      obtain ⟨j, hj, hschema⟩ := Schema.required_of_closedObject hvalid
        (by decide : "sequence" ∈ EventSchema.requiredNames) hnamed
      rw [Json.get?, hj, Option.getD_some]
      cases j with
      | int n => exact ⟨_, rfl⟩
      | float q => exact ⟨_, rfl⟩
      | null | bool | str | arr | obj => simp [JsonType.admits] at hschema
  | null | bool | int | float | str | arr => cases hdict

/-- What validation has found out about a bundle. -/
theorem validateBundle_eq_ok {bundle : Json} {b : Bundle} (h : env.validateBundle bundle = .ok b) :
    bundle.get? "events" = some (.arr b.events) ∧
      (∀ event ∈ b.events, IsDict (some event) ∧
        EventValidator.validate env.formats event = .ok ()) ∧
      ∃ references, validateJudgments b.events references = .ok b.judged := by
  unfold Env.validateBundle at h
  obtain ⟨_, -, h⟩ := bind_eq_ok h
  obtain ⟨_, -, h⟩ := bind_eq_ok h
  obtain ⟨exercise_id, -, h⟩ := bind_eq_ok h
  obtain ⟨run_id, -, h⟩ := bind_eq_ok h
  obtain ⟨scenario_id, -, h⟩ := bind_eq_ok h
  obtain ⟨run_state, -, h⟩ := bind_eq_ok h
  obtain ⟨checkpoint_ids, -, h⟩ := bind_eq_ok h
  obtain ⟨content_sha256, -, h⟩ := bind_eq_ok h
  obtain ⟨_, -, h⟩ := bind_eq_ok h
  obtain ⟨⟨events, event_ids⟩, hevents, h⟩ := bind_eq_ok h
  obtain ⟨⟨submissions, references⟩, -, h⟩ := bind_eq_ok h
  obtain ⟨_, -, h⟩ := bind_eq_ok h
  obtain ⟨judged, hjudged, h⟩ := bind_eq_ok h
  obtain rfl := Except.ok.inj h
  obtain ⟨hget, hvalid⟩ := eventReferences_valid hevents
  exact ⟨hget, hvalid, references, hjudged⟩

theorem mapM_review {bundle : Bundle} {items : List ObjectiveReview} {objectives : List Objective}
    (h : objectives.mapM (review bundle) = .ok items) :
    ∀ item ∈ items, ∀ judgment ∈ item.history, judgment ∈ bundle.judged := by
  induction objectives generalizing items with
  | nil =>
      rw [← Except.ok.inj h]
      exact fun _ hi => nomatch hi
  | cons objective objectives ih =>
      rw [List.mapM_cons] at h
      obtain ⟨first, hfirst, h⟩ := bind_eq_ok h
      obtain ⟨rest, hrest, h⟩ := bind_eq_ok h
      rw [← Except.ok.inj h, List.forall_mem_cons]
      refine ⟨?_, ih hrest⟩
      obtain ⟨observation, -, hfirst⟩ := bind_eq_ok hfirst
      rw [← Except.ok.inj hfirst]
      exact fun judgment hj => List.mem_of_mem_filter hj

/-- **The numbers of a report are harmless.** -/
theorem numbersHarmless {bundle : Json} {report : Report} (hgenuine : bundle.Genuine env.ft.isFloat)
    (h : env.buildReport bundle = .ok report) : env.NumbersHarmless report := by
  obtain ⟨b, hb, h⟩ := bind_eq_ok h
  obtain ⟨hget, hvalid, references, hjudged⟩ := validateBundle_eq_ok hb
  have hevent : ∀ event ∈ b.events, event.Genuine env.ft.isFloat := fun event he =>
    (hgenuine.get? hget).item he
  have hrevision : ∀ judgment ∈ b.judged, Harmless (env.str judgment.revision) := by
    intro judgment hj
    obtain ⟨event, he, heq⟩ := validateJudgments_revision hjudged judgment hj
    refine harmless_numeric ?_ judgment.counted
    rw [heq]
    cases hrev : (dataOf event).get? "revision" with
    | none => trivial
    | some revision => exact (genuine_dataOf (hevent event he)).get? hrev
  obtain ⟨items, hitems, h⟩ := bind_eq_ok h
  obtain ⟨path, -, h⟩ := bind_eq_ok h
  obtain ⟨requests, -, h⟩ := bind_eq_ok h
  obtain rfl := Except.ok.inj h
  have hhistory := mapM_review hitems
  intro value hvalue
  simp only [Report.numbers, List.mem_append, List.mem_singleton, List.mem_flatMap,
    List.mem_map] at hvalue
  rcases hvalue with ((rfl | ⟨item, hitem, hvalue⟩) | ⟨request, -, hvalue⟩) |
    ⟨entry, ⟨event, he, rfl⟩, rfl⟩
  · exact harmless_int _
  · cases hjudgment : item.judgment with
    | none =>
        rw [hjudgment] at hvalue
        cases hvalue
    | some judgment =>
        rw [hjudgment] at hvalue
        rcases List.mem_cons.mp hvalue with rfl | hvalue
        · exact hrevision judgment (hhistory item hitem judgment
            (List.mem_of_getLast? hjudgment))
        · split at hvalue
          · obtain ⟨previous, hprevious, rfl⟩ := List.mem_map.mp hvalue
            exact hrevision previous (hhistory item hitem previous hprevious)
          · cases hvalue
  · rcases List.mem_cons.mp hvalue with rfl | hvalue
    · exact harmless_int _
    · split at hvalue
      · rw [List.mem_singleton.mp hvalue]
        exact harmless_int _
      · cases hvalue
  · obtain ⟨q, hq⟩ := sequence_numeric (hvalid event he).1 (hvalid event he).2
    refine harmless_numeric ?_ hq
    show ((event.get? "sequence").getD .null).Genuine env.ft.isFloat
    cases hseq : event.get? "sequence" with
    | none => trivial
    | some j => exact (hevent event he).get? hseq

end Numbers

/-- **The text of a report cannot forge its structure exactly when the report is decent**: no text
has a carriage return and the times of the checkpoints are harmless. -/
theorem report_text_iff (env : Env) {bundle : Json} {report : Report}
    (hgenuine : bundle.Genuine env.ft.isFloat) (h : env.buildReport bundle = .ok report) :
    env.Unforgeable report ↔ env.Decent report :=
  Env.unforgeable_iff (numbersHarmless hgenuine h)

/-! ## Samples -/

/-- An event with the given message. -/
def sampleEvent (message : String) : Json :=
  .obj [("schema_version", .str "1.0.0"),
    ("event_id", .str "6f8f1f9e-5a0b-4c7e-9d53-0d6a3c1b2f10"),
    ("timestamp", .str "2026-01-01T00:00:00.000Z"), ("exercise_id", .str "EX"),
    ("run_id", .str "RUN"), ("sequence", .int 1), ("event_type", .str "cloud.key.revoked"),
    ("phase", .str "cloud"), ("source", .obj [("kind", .str "test"), ("component", .str "c")]),
    ("actor", .obj [("type", .str "user"), ("id", .str "a")]), ("action", .str "cloud.revoke"),
    ("target", .null), ("outcome", .obj [("status", .str "success")]), ("severity", .str "low"),
    ("visibility", .str "internal"),
    ("safety", .obj [("simulation_only", .bool true), ("dry_run", .bool true),
      ("within_allowlist", .bool true), ("destructive", .bool false)]),
    ("provenance", .obj [("producer", .str "p"), ("producer_version", .str "1.0.0")]),
    ("message", .str message), ("data", .obj [])]

/-- A bundle of one event. -/
def sampleBundle (message content_sha256 : String) : Json :=
  .obj [("bundle_version", .str "1.0.0"), ("rubric_version", .str "1.0.0"),
    ("exercise_id", .str "EX"), ("run_id", .str "RUN"), ("scenario_id", .str "SC"),
    ("run_state", .str "stopped"), ("checkpoint_ids", .arr [.str "DP1"]),
    ("events", .arr [sampleEvent message]), ("submissions", .arr []),
    ("content_sha256", .str content_sha256)]

/-- The digests of the two sample bundles; only the second has a backslash in its text. -/
def sampleDigest (escaped : Bool) : String :=
  if escaped then "7a714177340dc2a229e5401715a1d5c1a65203c5dbc0a8f9773c7a56df4aa6d2"
  else "571bf8fa6bf9a7c6a7e4263ebaea8d659f414661cb8abfd50a07b91e3b2c7a6f"

/-- The environment of the samples. -/
def sampleEnv : Env where
  formats := .lenient
  ft := .half
  printable _ := true
  sha256 text := sampleDigest (text.contains '\\')

/-- A bundle without carriage returns. -/
def plainBundle : Json := sampleBundle "Key revoked." (sampleDigest false)

/-- A bundle whose message holds two carriage returns and the text of a heading. -/
def forgedBundle : Json := sampleBundle "Key\r\r## Revoked." (sampleDigest true)

theorem accepted_of {bundle : Json} {test : Report → Bool}
    (h : (sampleEnv.buildReport bundle).map test = .ok true) :
    ∃ report, sampleEnv.buildReport bundle = .ok report ∧ test report = true := by
  cases hreport : sampleEnv.buildReport bundle with
  | error e =>
      rw [hreport] at h
      exact nomatch h
  | ok report =>
      rw [hreport] at h
      exact ⟨report, rfl, Except.ok.inj h⟩

/-- The report of the sample bundle has no carriage return and no checkpoint. -/
theorem plainBundle_accepted :
    (sampleEnv.buildReport plainBundle).map (fun report =>
      report.fields.all (fun value => !(sampleEnv.str value).contains '\r') &&
        report.checkpoint_path.isEmpty) = .ok true := by
  decide +kernel

/-- The message of the forged bundle reaches the timeline. -/
theorem forgedBundle_accepted :
    (sampleEnv.buildReport forgedBundle).map (fun report =>
      report.timeline.map TimelineEntry.message == ["Key\r\r## Revoked."]) = .ok true := by
  decide

theorem plainBundle_genuine : plainBundle.Genuine sampleEnv.ft.isFloat := by
  simp [plainBundle, sampleBundle, sampleEvent, Json.Genuine, Json.GenuineItems,
    Json.GenuineMembers]

/-- The report of the sample bundle follows its outline. -/
theorem report_text_sample :
    ∃ report, sampleEnv.buildReport plainBundle = .ok report ∧ sampleEnv.Unforgeable report := by
  obtain ⟨report, hreport, htest⟩ := accepted_of plainBundle_accepted
  rw [Bool.and_eq_true, List.all_eq_true, List.isEmpty_iff] at htest
  refine ⟨report, hreport, (report_text_iff sampleEnv plainBundle_genuine hreport).mpr ⟨?_, ?_⟩⟩
  · intro value hvalue
    have hclean := htest.1 value hvalue
    simpa using hclean
  · rw [htest.2]
    exact fun _ hvisit => absurd hvisit List.not_mem_nil

/-- A carriage return inside a message makes lines that the outline does not have. -/
theorem lines_forged (env : Env) {report : Report} {entry : TimelineEntry}
    (before after : List Char) {c : Char} (hentry : entry ∈ report.timeline) (hc : c ≠ '\n')
    (h : md (env.str (.str entry.message)) = before ++ '\r' :: c :: after) :
    ¬ List.Forall₂ Fits (outline report.bare ++ [[]]) (breakLines (env.renderMarkdown report)) := by
  have hline : timelineLine entry ∈ markdownLines report := by
    rw [markdownLines]
    exact List.mem_append_right _ (List.mem_map_of_mem hentry)
  have htext : ∃ left right, env.lineText (timelineLine entry) =
      left ++ '\r' :: c :: right := by
    refine ⟨env.lineText [.literal "- #", .plain entry.sequence, .literal " ",
      prose entry.timestamp, .literal " · ", prose entry.event_type, .literal " · "] ++ before,
      after ++ env.lineText [.literal " · ", prose entry.event_id], ?_⟩
    simp only [Env.lineText, timelineLine, List.flatMap_cons, List.flatMap_nil, List.append_nil,
      prose, Env.pieceText, h, List.append_assoc, List.cons_append]
  obtain ⟨left, right, htext⟩ := htext
  have hmore := length_lt_breakLines (List.mem_map_of_mem hline) hc htext
  intro hfits
  have hlength := hfits.length_eq
  rw [outline_bare, List.length_append, outline, List.length_map, List.length_singleton,
    Env.renderMarkdown] at hlength
  rw [List.length_map] at hmore
  omega

/-- The message of an accepted bundle adds lines to its report. -/
theorem carriage_returns_forge_lines :
    ∃ report, sampleEnv.buildReport forgedBundle = .ok report ∧
      ¬ List.Forall₂ Fits (outline report.bare ++ [[]])
        (breakLines (sampleEnv.renderMarkdown report)) ∧
      ¬ sampleEnv.Unforgeable report := by
  obtain ⟨report, hreport, htest⟩ := accepted_of forgedBundle_accepted
  rw [beq_iff_eq] at htest
  obtain ⟨entry, hentry, hmessage⟩ : ∃ entry ∈ report.timeline,
      entry.message = "Key\r\r## Revoked." := by
    have hmem : "Key\r\r## Revoked." ∈ report.timeline.map TimelineEntry.message :=
      htest ▸ List.mem_cons_self
    exact List.mem_map.mp hmem
  have hmd : md (sampleEnv.str (.str entry.message)) =
      "Key".toList ++ '\r' :: '\r' :: "\\#\\# Revoked.".toList := by
    rw [hmessage]
    decide
  have hforged := lines_forged sampleEnv _ _ hentry (by decide) hmd
  exact ⟨report, hreport, hforged, fun h => hforged h.lines⟩

end NetStrike.Orchestrator.Aar
