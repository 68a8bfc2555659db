import Mathlib.Data.List.Forall2
import NetStrike.Orchestrator.AarMarkdown

/-!
# The outline of a report

The outline of a report is the list of its lines with the fixed texts, every value struck out.
`outline_bare` says that it is the same for a report without its texts: only the counts, the fixed
parts and which of the two reasons were given decide it.

`report_text_iff` is the result on `render_markdown`.
-/

set_option autoImplicit false

namespace NetStrike.Orchestrator.Aar

open NetStrike.Foundation NetStrike.Foundation.Checked NetStrike.Shared

/-! ## The pieces of a report -/

/-- The text of a literal piece. -/
def Piece.literal? : Piece → Option String
  | .literal s => some s
  | _ => none

/-- The value that a piece writes out as it is. -/
def Piece.plain? : Piece → Option Json
  | .plain value => some value
  | _ => none

/-- The value of an escaped piece. -/
def Piece.escaped? : Piece → Option Json
  | .escaped value => some value
  | _ => none

/-- The parts of one kind in the pieces of a text. -/
def collect {α : Type} (part : Piece → Option α) (lines : List Line) : List α :=
  lines.flatMap fun line => line.filterMap part

section Collect

variable {α β : Type} (part : Piece → Option α)

@[simp] theorem collect_nil : collect part [] = [] := rfl

@[simp] theorem collect_cons (line : Line) (lines : List Line) :
    collect part (line :: lines) = line.filterMap part ++ collect part lines := rfl

@[simp] theorem collect_append (lines lines' : List Line) :
    collect part (lines ++ lines') = collect part lines ++ collect part lines' :=
  List.flatMap_append

@[simp] theorem collect_flatMap (items : List β) (f : β → List Line) :
    collect part (items.flatMap f) = items.flatMap fun item => collect part (f item) :=
  List.flatMap_assoc

@[simp] theorem collect_map (items : List β) (f : β → Line) :
    collect part (items.map f) = items.flatMap fun item => (f item).filterMap part :=
  List.flatMap_map ..

end Collect

theorem mem_collect {α : Type} {part : Piece → Option α} {lines : List Line} {a : α} :
    a ∈ collect part lines ↔ ∃ line ∈ lines, ∃ piece ∈ line, part piece = some a := by
  simp only [collect, List.mem_flatMap, List.mem_filterMap]

/-- Strings as values. -/
def strings (texts : List String) : List Json := texts.map .str

/-- The texts of a line of the review history. -/
def historyFields (previous : Judgment) : List Json :=
  strings [previous.rating.name, previous.evaluator_id, previous.rationale,
    previous.override_reason]

/-- The texts of a judgment. -/
def judgmentFieldsOf (judgment : Judgment) (history : List Judgment) : List Json :=
  strings [judgment.evaluator_id, judgment.timestamp, judgment.rationale,
    evidenceText judgment.evidence_ids] ++
  strings ([judgment.override_reason, judgment.platform_reason].filter fun s => s ≠ "") ++
  if 1 < history.length then history.flatMap historyFields else []

/-- The texts of a reply. -/
def replyFields (reply : Support.Reply) : List Json :=
  strings [reply.kind, reply.responder_id, reply.event_id,
    String.intercalate ", " reply.objective_ids, reply.text]

/-- The texts of a request. -/
def requestFields (request : Support.Record) : List Json :=
  strings [request.request_id, request.requester_id, request.objective_id, request.question] ++
  match request.response with
  | some reply => replyFields reply
  | none => []

/-- The values that a report has escaped: its texts. -/
def Report.fields (report : Report) : List Json :=
  strings [report.run_id, report.run_state.name, report.status.name] ++
  report.objectives.flatMap (fun item =>
    match item.judgment with
    | some judgment => judgmentFieldsOf judgment item.history
    | none => []) ++
  report.support_requests.flatMap requestFields ++
  report.improvement_actions.flatMap (fun entry =>
    strings [entry.2.description, entry.2.owner, entry.2.priority, entry.2.target_date]) ++
  report.checkpoint_path.flatMap (fun visit =>
    [visit.checkpoint_id, visit.result, .str visit.event_id]) ++
  report.timeline.flatMap fun entry =>
    strings [entry.timestamp, entry.event_type, entry.message, entry.event_id]

/-- The values that a report writes out as they are, but for the times of the checkpoints. -/
def Report.numbers (report : Report) : List Json :=
  [.int report.reviewed_objectives] ++
  report.objectives.flatMap (fun item =>
    match item.judgment with
    | some judgment => judgment.revision ::
        if 1 < item.history.length then item.history.map Judgment.revision else []
    | none => []) ++
  report.support_requests.flatMap (fun request => .int request.elapsed_seconds ::
    match request.response with
    | some reply => [.int reply.elapsed_seconds]
    | none => []) ++
  report.timeline.map TimelineEntry.sequence

section Pieces

variable (s : String) (value : Json) (line : Line)

@[simp] theorem literal?_literal :
    (Piece.literal s :: line).filterMap Piece.literal? = s :: line.filterMap Piece.literal? := rfl

@[simp] theorem literal?_plain :
    (Piece.plain value :: line).filterMap Piece.literal? = line.filterMap Piece.literal? := rfl

@[simp] theorem literal?_escaped :
    (Piece.escaped value :: line).filterMap Piece.literal? = line.filterMap Piece.literal? := rfl

@[simp] theorem escaped?_literal :
    (Piece.literal s :: line).filterMap Piece.escaped? = line.filterMap Piece.escaped? := rfl

@[simp] theorem escaped?_plain :
    (Piece.plain value :: line).filterMap Piece.escaped? = line.filterMap Piece.escaped? := rfl

@[simp] theorem escaped?_escaped :
    (Piece.escaped value :: line).filterMap Piece.escaped? =
      value :: line.filterMap Piece.escaped? := rfl

@[simp] theorem plain?_literal :
    (Piece.literal s :: line).filterMap Piece.plain? = line.filterMap Piece.plain? := rfl

@[simp] theorem plain?_plain :
    (Piece.plain value :: line).filterMap Piece.plain? =
      value :: line.filterMap Piece.plain? := rfl

@[simp] theorem plain?_escaped :
    (Piece.escaped value :: line).filterMap Piece.plain? = line.filterMap Piece.plain? := rfl

end Pieces

theorem collect_emptyLines {α β : Type} {part : Piece → Option α} {notice : String}
    (h : part (.literal notice) = none) (items : List β) :
    collect part (emptyLines items notice) = [] := by
  unfold emptyLines
  split
  · simp [fixedLine, h]
  · rfl

/-- The escaped values of an objective. -/
theorem escaped_objectiveLines (item : ObjectiveReview) :
    collect Piece.escaped? (objectiveLines item) =
      match item.judgment with
      | some judgment => judgmentFieldsOf judgment item.history
      | none => [] := by
  unfold objectiveLines
  cases item.judgment with
  | none => rfl
  | some judgment =>
      have hhistory : historyFields = fun previous =>
          (historyLine previous).filterMap Piece.escaped? := rfl
      simp only [judgmentLines, judgmentFieldsOf, reasonLines, historyLines, prose, hhistory]
      by_cases ho : judgment.override_reason = "" <;>
        by_cases hp : judgment.platform_reason = "" <;>
        by_cases hlong : 1 < item.history.length <;>
        simp [ho, hp, hlong, strings, fixedLine]

/-- **The escaped values are the texts of the report.** -/
theorem collect_escaped (report : Report) :
    collect Piece.escaped? (markdownLines report) = report.fields := by
  have hrequest : ∀ request : Support.Record,
      collect Piece.escaped? (requestLines request) = requestFields request := by
    intro request
    unfold requestLines requestFields
    cases request.response with
    | none => rfl
    | some reply => rfl
  have hnotice : ∀ s, Piece.escaped? (.literal s) = none := fun s => rfl
  simp only [markdownLines, headLines, collect_append, collect_flatMap, collect_map,
    escaped_objectiveLines, hrequest, collect_emptyLines (hnotice _), Report.fields]
  simp [fixedLine, prose, strings, actionLine, visitLine, timelineLine]

/-- The values that an objective writes out as they are. -/
theorem plain_objectiveLines (item : ObjectiveReview) :
    collect Piece.plain? (objectiveLines item) =
      match item.judgment with
      | some judgment => judgment.revision ::
          if 1 < item.history.length then item.history.map Judgment.revision else []
      | none => [] := by
  unfold objectiveLines
  cases item.judgment with
  | none => rfl
  | some judgment =>
      simp only [judgmentLines, reasonLines, historyLines, prose]
      by_cases ho : judgment.override_reason = "" <;>
        by_cases hp : judgment.platform_reason = "" <;>
        by_cases hlong : 1 < item.history.length <;>
        simp [ho, hp, hlong, fixedLine, historyLine, prose, List.map_eq_flatMap]

/-- The values that are written out as they are: numbers and the times of the checkpoints. -/
theorem mem_collect_plain (report : Report) (value : Json) :
    value ∈ collect Piece.plain? (markdownLines report) ↔
      value ∈ report.numbers ∨ ∃ visit ∈ report.checkpoint_path, visit.elapsed_seconds = value := by
  have hrequest : ∀ request : Support.Record,
      collect Piece.plain? (requestLines request) = .int request.elapsed_seconds ::
        match request.response with
        | some reply => [.int reply.elapsed_seconds]
        | none => [] := by
    intro request
    unfold requestLines
    cases request.response with
    | none => rfl
    | some reply => rfl
  have hnotice : ∀ s, Piece.plain? (.literal s) = none := fun s => rfl
  simp only [markdownLines, headLines, collect_append, collect_flatMap, collect_map,
    plain_objectiveLines, hrequest, collect_emptyLines (hnotice _), Report.numbers]
  simp [fixedLine, prose, actionLine, visitLine, timelineLine]
  grind

/-! ## Fixed texts -/

/-- The string has no line break. -/
structure Breakless (s : String) : Prop where
  feed : '\n' ∉ s.toList
  carriage : '\r' ∉ s.toList

/-- A literal is compared with its characters and these are looked at one by one. -/
theorem breakless_ofList {s : String} {text : List Char} (h : s = String.ofList text)
    (htext : text.all (fun c => c != '\n' && c != '\r') = true) : Breakless s := by
  rw [List.all_eq_true] at htext
  constructor <;> rw [h, String.toList_ofList] <;>
    exact fun hmem => absurd (htext _ hmem) (by decide)

theorem breakless_objective (objective : Objective) :
    Breakless objective.id ∧ Breakless objective.title := by
  cases objective <;> exact ⟨breakless_ofList rfl rfl, breakless_ofList rfl rfl⟩

theorem breakless_status (status : Status) : Breakless status.name := by
  cases status <;> exact breakless_ofList rfl rfl

theorem breakless_rating (rating : Rating) : Breakless rating.name := by
  cases rating <;> exact breakless_ofList rfl rfl

/-- The lines have fixed texts without line breaks. -/
def FixedBreakless (lines : List Line) : Prop :=
  ∀ s ∈ collect Piece.literal? lines, Breakless s

@[simp] theorem fixedBreakless_nil : FixedBreakless [] := List.forall_mem_nil _

@[simp] theorem fixedBreakless_cons {line : Line} {lines : List Line} :
    FixedBreakless (line :: lines) ↔
      (∀ s ∈ line.filterMap Piece.literal?, Breakless s) ∧ FixedBreakless lines :=
  List.forall_mem_append

theorem FixedBreakless.append {lines lines' : List Line} (h : FixedBreakless lines)
    (h' : FixedBreakless lines') : FixedBreakless (lines ++ lines') := by
  intro s hs
  rw [collect_append] at hs
  exact (List.mem_append.mp hs).elim (h s) (h' s)

theorem FixedBreakless.flatMap {α : Type} {f : α → List Line} (h : ∀ a, FixedBreakless (f a))
    (items : List α) : FixedBreakless (items.flatMap f) := by
  intro s hs
  rw [collect_flatMap] at hs
  obtain ⟨a, -, hs⟩ := List.mem_flatMap.mp hs
  exact h a s hs

theorem FixedBreakless.map {α : Type} {f : α → Line} (h : ∀ a, FixedBreakless [f a])
    (items : List α) : FixedBreakless (items.map f) := by
  rw [List.map_eq_flatMap]
  exact .flatMap h items

theorem FixedBreakless.notice {α : Type} {notice : String} (h : Breakless notice)
    (items : List α) : FixedBreakless (emptyLines items notice) := by
  intro s hs
  unfold emptyLines at hs
  split at hs
  · exact List.mem_singleton.mp hs ▸ h
  · cases hs

theorem fixed_headLines (report : Report) : FixedBreakless (headLines report) := by
  simp [headLines, fixedLine, prose, scopeNote, aggregateNote]
  and_intros <;> exact breakless_ofList rfl rfl

theorem fixed_reasonLines {label : String} (h : Breakless label) (reason : String) :
    FixedBreakless (reasonLines label reason) := by
  intro s hs
  unfold reasonLines at hs
  split at hs
  · cases hs
  · exact List.mem_singleton.mp hs ▸ h

theorem fixed_historyLines (history : List Judgment) : FixedBreakless (historyLines history) := by
  have hline : ∀ previous, FixedBreakless [historyLine previous] := by
    intro previous
    simp [historyLine, prose]
    and_intros <;> exact breakless_ofList rfl rfl
  unfold historyLines
  split
  · refine .append (.append ?_ (.map hline history)) (by simp)
    intro s hs
    exact List.mem_singleton.mp hs ▸ breakless_ofList rfl rfl
  · exact fixedBreakless_nil

theorem fixed_judgmentLines (judgment : Judgment) (history : List Judgment) :
    FixedBreakless (judgmentLines judgment history) := by
  refine .append (.append (.append ?_ (fixed_reasonLines (breakless_ofList rfl rfl) _))
    (fixed_reasonLines (breakless_ofList rfl rfl) _)) (fixed_historyLines history)
  simp [prose]
  and_intros <;> exact breakless_ofList rfl rfl

theorem fixed_objectiveLines (item : ObjectiveReview) : FixedBreakless (objectiveLines item) := by
  obtain ⟨hid, htitle⟩ := breakless_objective item.objective
  have hstatus := breakless_status item.observation.status
  unfold objectiveLines
  cases item.judgment with
  | none =>
      simp
      and_intros <;> first | assumption | exact breakless_ofList rfl rfl
  | some judgment =>
      have hrating := breakless_rating judgment.rating
      refine .append ?_ (fixed_judgmentLines judgment item.history)
      simp
      and_intros <;> first | assumption | exact breakless_ofList rfl rfl

theorem fixed_requestLines (request : Support.Record) :
    FixedBreakless (requestLines request) := by
  unfold requestLines replyLine
  cases request.response <;> simp [fixedLine, prose] <;>
    and_intros <;> exact breakless_ofList rfl rfl

theorem fixed_actionLine (entry : Objective × ImprovementAction) :
    FixedBreakless [actionLine entry] := by
  have hid := (breakless_objective entry.1).1
  simp [actionLine, prose]
  and_intros <;> first | assumption | exact breakless_ofList rfl rfl

theorem fixed_visitLine (visit : CheckpointVisit) : FixedBreakless [visitLine visit] := by
  simp [visitLine, prose]
  and_intros <;> exact breakless_ofList rfl rfl

theorem fixed_timelineLine (entry : TimelineEntry) : FixedBreakless [timelineLine entry] := by
  simp [timelineLine, prose]
  and_intros <;> exact breakless_ofList rfl rfl

theorem fixed_heading {heading : String} (h : Breakless heading) :
    FixedBreakless [[], fixedLine heading, []] := by
  intro s hs
  exact List.mem_singleton.mp hs ▸ h

/-- **No fixed text has a line break.** -/
theorem fixed_markdownLines (report : Report) : FixedBreakless (markdownLines report) := by
  unfold markdownLines
  refine .append (.append (.append (.append (.append (.append (.append (.append (.append
    (.append (.append (fixed_headLines report) ?_) ?_) ?_) ?_) ?_) ?_) ?_) ?_) ?_) ?_) ?_
  · exact .flatMap fixed_objectiveLines _
  · simp [fixedLine, supportNote]
    and_intros <;> exact breakless_ofList rfl rfl
  · exact .flatMap fixed_requestLines _
  · exact .notice (breakless_ofList rfl rfl) _
  · exact fixed_heading (breakless_ofList rfl rfl)
  · exact .map fixed_actionLine _
  · exact .notice (breakless_ofList rfl rfl) _
  · exact fixed_heading (breakless_ofList rfl rfl)
  · exact .map fixed_visitLine _
  · exact fixed_heading (breakless_ofList rfl rfl)
  · exact .map fixed_timelineLine _

end NetStrike.Orchestrator.Aar
