import NetStrike.Foundation.Escaping
import NetStrike.Foundation.Runs
import NetStrike.Orchestrator.Aar

/-!
# The Markdown of a report

`_md` and `render_markdown` of `orchestrator/aar.py`. A line is a list of pieces as in the format
strings of the source: literal text, a value that is written out as it is, or a value that goes
through `_md`.

`report_text_iff` says of which reports the text follows the outline, holds no active metacharacter
and can be read back.
-/

set_option autoImplicit false

namespace NetStrike.Orchestrator.Aar

open NetStrike.Foundation NetStrike.Foundation.Checked NetStrike.Shared

/-! ## Escaping -/

/-- The replacements of `html.escape`, in their order. -/
def htmlTable : List (Char × List Char) :=
  [('&', ['&', 'a', 'm', 'p', ';']), ('<', ['&', 'l', 't', ';']), ('>', ['&', 'g', 't', ';']),
    ('"', ['&', 'q', 'u', 'o', 't', ';']), ('\'', ['&', '#', 'x', '2', '7', ';'])]

/-- The characters that `_md` puts a backslash before, in their order. -/
def markdownCharacters : List Char := ['\\', '\x60', '*', '_', '[', ']', '#', '|', '>']

/-- `_md`, after `str`. -/
def md (text : List Char) : List Char :=
  let text := replace '\n' [' '] (replaceAll htmlTable text)
  markdownCharacters.foldl (fun t c => replace c ['\\', c] t) text

/-- The metacharacters of HTML and Markdown that `_md` escapes. -/
def special : List Char := htmlTable.map Prod.fst ++ markdownCharacters

/-- What stands for a metacharacter in an inert text: a backslash escape of a character that HTML
leaves alone, or a character reference, whose own number sign is escaped. -/
def inertTokens : List (List Char) :=
  (['\\', '\x60', '*', '_', '[', ']', '#', '|'].map fun c => ['\\', c]) ++
  [['&', 'a', 'm', 'p', ';'], ['&', 'l', 't', ';'], ['&', 'g', 't', ';'],
    ['&', 'q', 'u', 'o', 't', ';'], ['&', '\\', '#', 'x', '2', '7', ';']]

/-- No metacharacter of the text is active. -/
def Inert (text : List Char) : Prop := Composed (fun c => c ∉ special) inertTokens text

/-- The backslash escapes. -/
def backslashEscapes : List (List Char × List Char) :=
  markdownCharacters.map fun c => (['\\', c], [c])

/-- The character references. -/
def characterReferences : List (List Char × List Char) :=
  htmlTable.map fun m => (m.2, [m.1])

/-- Undo the backslash escapes, then the character references. -/
def unescape (text : List Char) : List Char :=
  decode characterReferences (decode backslashEscapes text)

/-- Line breaks replaced by spaces. -/
def spaced (text : List Char) : List Char :=
  text.map fun c => if c = '\n' ∨ c = '\r' then ' ' else c

/-! ## What escaping does to one character -/

/-- All replacements of `_md`. -/
def mdTable : List (Char × List Char) :=
  htmlTable ++ [('\n', [' '])] ++ markdownCharacters.map fun c => (c, ['\\', c])

theorem md_eq_replaceAll (text : List Char) : md text = replaceAll mdTable text := by
  rw [mdTable, replaceAll_append, replaceAll_append]
  rfl

/-- The text that `_md` makes of one character. -/
def token (c : Char) : List Char := md [c]

theorem md_eq_flatMap (text : List Char) : md text = text.flatMap token := by
  have htoken : token = fun c => replaceAll mdTable [c] := funext fun c => md_eq_replaceAll [c]
  rw [htoken, md_eq_replaceAll, replaceAll_eq_flatMap]

/-- A character is a metacharacter, a line feed or left alone. -/
theorem token_cases (c : Char) :
    c ∈ special ∨ c = '\n' ∨ c ∉ special ∧ c ≠ '\n' ∧ token c = [c] := by
  by_cases hspecial : c ∈ special
  · exact Or.inl hspecial
  by_cases hfeed : c = '\n'
  · exact Or.inr (Or.inl hfeed)
  refine Or.inr (Or.inr ⟨hspecial, hfeed, ?_⟩)
  rw [token, md_eq_replaceAll]
  apply replaceAll_of_notMem
  intro hmem
  have hkeys : ∀ d ∈ mdTable.map Prod.fst, d ∈ special ∨ d = '\n' := by decide
  exact (hkeys c hmem).elim hspecial hfeed

/-- A metacharacter becomes an inert token, which is read back. -/
theorem token_special : ∀ c ∈ special, token c ∈ inertTokens := by decide

/-- Line feeds become spaces. -/
def spacedFeed (c : Char) : Char := if c = '\n' then ' ' else c

theorem decode_backslashEscapes_cons {c : Char} (h : c ≠ '\\') (rest : List Char) :
    decode backslashEscapes (c :: rest) = c :: decode backslashEscapes rest := by
  apply decode_cons
  intro m hm rest
  obtain ⟨d, -, rfl⟩ := List.mem_map.mp hm
  have hne : ('\\' == c) = false := beq_false_of_ne (Ne.symm h)
  simp [List.isPrefixOf, hne]

theorem decode_characterReferences_cons {c : Char} (h : c ≠ '&') (rest : List Char) :
    decode characterReferences (c :: rest) = c :: decode characterReferences rest := by
  apply decode_cons
  intro m hm rest
  have hhead : ∀ m ∈ characterReferences, m.1.head? = some '&' := by decide
  have hne : ('&' == c) = false := beq_false_of_ne (Ne.symm h)
  cases hword : m.1 with
  | nil => exact absurd (hword ▸ hhead m hm) (by decide)
  | cons d word =>
      have hd := hhead m hm
      rw [hword] at hd
      rw [Option.some.inj hd, List.isPrefixOf, hne, Bool.false_and]

theorem unescape_cons {c : Char} (h : c ∉ special) (rest : List Char) :
    unescape (c :: rest) = c :: unescape rest := by
  have hslash : c ≠ '\\' := fun heq => h (heq ▸ by decide)
  have hamp : c ≠ '&' := fun heq => h (heq ▸ by decide)
  rw [unescape, decode_backslashEscapes_cons hslash, decode_characterReferences_cons hamp]
  rfl

theorem unescape_token_special {c : Char} (h : c ∈ special) (rest : List Char) :
    unescape (token c ++ rest) = c :: unescape rest := by
  simp only [special, htmlTable, markdownCharacters, List.map_cons, List.map_nil, List.cons_append,
    List.nil_append, List.mem_cons, List.not_mem_nil, or_false] at h
  rcases h with rfl | rfl | rfl | rfl | rfl | rfl | rfl | rfl | rfl | rfl | rfl | rfl | rfl | rfl <;>
    rfl

/-- Every inert token is read as one character. -/
theorem unescape_inertToken {word : List Char} (h : word ∈ inertTokens) (rest : List Char) :
    ∃ c, unescape (word ++ rest) = c :: unescape rest := by
  simp only [inertTokens, List.map_cons, List.map_nil, List.cons_append, List.nil_append,
    List.mem_cons, List.not_mem_nil, or_false] at h
  rcases h with rfl | rfl | rfl | rfl | rfl | rfl | rfl | rfl | rfl | rfl | rfl | rfl | rfl <;>
    exact ⟨_, rfl⟩

/-- Every character of a prose is read back, a line feed as a space. -/
theorem unescape_token (c : Char) (rest : List Char) :
    unescape (token c ++ rest) = spacedFeed c :: unescape rest := by
  rcases token_cases c with hspecial | rfl | ⟨hspecial, hfeed, htoken⟩
  · have hfeed : c ≠ '\n' := fun heq => absurd (heq ▸ hspecial) (by decide)
    rw [unescape_token_special hspecial, spacedFeed, if_neg hfeed]
  · exact unescape_cons (by decide) rest
  · rw [htoken, spacedFeed, if_neg hfeed]
    exact unescape_cons hspecial rest

/-! ## What escaping does to a text -/

/-- **No metacharacter of an escaped text is active.** -/
theorem inert_md (text : List Char) : Inert (md text) := by
  rw [md_eq_flatMap]
  refine Composed.flatMap (fun c => ?_) text
  rcases token_cases c with hspecial | rfl | ⟨hspecial, -, htoken⟩
  · have hword : Inert (token c ++ []) := .token (token_special c hspecial) .nil
    rwa [List.append_nil] at hword
  · exact Composed.of_forall (by decide)
  · rw [htoken]
    exact .plain hspecial .nil

/-- **An escaped text is read back**, its line feeds as spaces. -/
theorem unescape_md (text : List Char) : unescape (md text) = text.map spacedFeed := by
  rw [md_eq_flatMap]
  induction text with
  | nil => rfl
  | cons c text ih => rw [List.flatMap_cons, unescape_token, ih, List.map_cons]

theorem breakless_inertTokens : ∀ word ∈ inertTokens, '\n' ∉ word ∧ '\r' ∉ word := by decide

/-- An escaped text has no line feed, and the carriage returns of the text. -/
theorem breakless_md {text : List Char} (h : '\r' ∉ text) : '\n' ∉ md text ∧ '\r' ∉ md text := by
  have htoken : ∀ c ∈ text, '\n' ∉ token c ∧ '\r' ∉ token c := by
    intro c hc
    rcases token_cases c with hspecial | rfl | ⟨-, hfeed, heq⟩
    · exact breakless_inertTokens _ (token_special c hspecial)
    · decide
    · rw [heq, List.mem_singleton, List.mem_singleton]
      exact ⟨Ne.symm hfeed, fun heq => h (heq ▸ hc)⟩
  rw [md_eq_flatMap]
  simp only [List.mem_flatMap, not_exists, not_and]
  exact ⟨fun c hc => (htoken c hc).1, fun c hc => (htoken c hc).2⟩

theorem breakless_spaced (text : List Char) : '\n' ∉ spaced text ∧ '\r' ∉ spaced text := by
  have hsound : ∀ c d : Char, (if c = '\n' ∨ c = '\r' then ' ' else c) = d → d ≠ '\n' ∧ d ≠ '\r' := by
    intro c d hd
    split at hd
    · exact hd ▸ by decide
    · next hbreak => exact hd ▸ not_or.mp hbreak
  simp only [spaced, List.mem_map, not_exists, not_and]
  exact ⟨fun c _ hc => (hsound c _ hc).1 rfl, fun c _ hc => (hsound c _ hc).2 rfl⟩

/-- A text whose line feeds alone are replaced has no carriage return. -/
theorem return_notMem_of_spaced {text : List Char} (h : text.map spacedFeed = spaced text) :
    '\r' ∉ text := by
  intro hmem
  have hreturn : '\r' ∈ text.map spacedFeed := List.mem_map.mpr ⟨'\r', hmem, rfl⟩
  exact (breakless_spaced text).2 (h ▸ hreturn)

theorem spaced_eq_map {text : List Char} (h : '\r' ∉ text) : spaced text = text.map spacedFeed := by
  apply List.map_congr_left
  intro c hc
  have hreturn : c ≠ '\r' := fun heq => h (heq ▸ hc)
  simp only [spacedFeed, hreturn, or_false]

/-- A text without metacharacters is read as it is. -/
theorem unescape_of_plain {text : List Char} (h : ∀ c ∈ text, c ∉ special) :
    unescape text = text := by
  induction text with
  | nil => rfl
  | cons c text ih =>
      rw [List.forall_mem_cons] at h
      rw [unescape_cons h.1, ih h.2]

/-- The characters of a text that is written out as it is, when it can do no harm. -/
def Harmless (text : List Char) : Prop := ∀ c ∈ text, c ∉ special ∧ c ≠ '\n' ∧ c ≠ '\r'

instance (text : List Char) : Decidable (Harmless text) :=
  inferInstanceAs (Decidable (∀ c ∈ text, _))

/-- **A text written out as it is** is inert and read back only when it is harmless. -/
theorem harmless_iff {text : List Char} :
    Harmless text ↔ Inert text ∧ unescape text = spaced text := by
  constructor
  · intro h
    have hplain : ∀ c ∈ text, c ∉ special := fun c hc => (h c hc).1
    have hsame : ∀ c ∈ text, (if c = '\n' ∨ c = '\r' then ' ' else c) = id c := by
      intro c hc
      exact if_neg (not_or.mpr (h c hc).2)
    refine ⟨Composed.of_forall hplain, ?_⟩
    rw [unescape_of_plain hplain, spaced, List.map_congr_left hsame, List.map_id]
  rintro ⟨hinert, hread⟩
  have htoken : ∀ word ∈ inertTokens, ∀ rest,
      (unescape (word ++ rest)).length < word.length + (unescape rest).length := by
    intro word hword rest
    have hlong : ∀ word ∈ inertTokens, 1 < word.length := by decide
    obtain ⟨c, hc⟩ := unescape_inertToken hword rest
    have hword := hlong word hword
    rw [hc, List.length_cons]
    omega
  -- Reading back would shorten every token, and the spaced text is as long as the text.
  have hlength : (unescape text).length = text.length := by
    rw [hread, spaced, List.length_map]
  have hplain : ∀ c ∈ text, c ∉ special :=
    (hinert.forall_of_length (fun c rest hc => unescape_cons hc rest) htoken).2 hlength
  have hsame : text = spaced text := (unescape_of_plain hplain).symm.trans hread
  obtain ⟨hfeed, hreturn⟩ := breakless_spaced text
  rw [← hsame] at hfeed hreturn
  exact fun c hc => ⟨hplain c hc, fun heq => hfeed (heq ▸ hc), fun heq => hreturn (heq ▸ hc)⟩

/-! ## Lines -/

/-- A part of a format string. -/
inductive Piece where
  | literal (s : String)
  | plain (value : Json)
  | escaped (value : Json)

/-- A line of the report. -/
abbrev Line := List Piece

/-- A line of fixed text. -/
def fixedLine (s : String) : Line := [.literal s]

/-- An escaped string. -/
def prose (s : String) : Piece := .escaped (.str s)

/-- The lines before the objectives. -/
def headLines (report : Report) : List Line :=
  [fixedLine "# Operation Silent Spider — After-action review",
    [],
    [.literal "Run: ", prose report.run_id, .literal " · State: ", prose report.run_state.name,
      .literal " · Report: ", prose report.status.name],
    [],
    fixedLine scopeNote,
    [],
    fixedLine aggregateNote,
    [],
    [.literal "Reviewed objectives: ", .plain (.int report.reviewed_objectives), .literal "/5"],
    [],
    fixedLine "## Objective results",
    []]

/-- `", ".join(…) or "not observed"`. -/
def evidenceText (ids : List String) : String :=
  let joined := String.intercalate ", " ids
  if joined = "" then "not observed" else joined

/-- The line of a reason that was given. -/
def reasonLines (label reason : String) : List Line :=
  if reason = "" then [] else [[.literal label, prose reason], []]

/-- A line of the review history. -/
def historyLine (previous : Judgment) : Line :=
  [.literal "- Revision ", .plain previous.revision, .literal ": ", prose previous.rating.name,
    .literal " by ", prose previous.evaluator_id, .literal "; ", prose previous.rationale,
    .literal "; change reason: ", prose previous.override_reason]

/-- The review history, from the second judgment on. -/
def historyLines (history : List Judgment) : List Line :=
  if 1 < history.length then
    [fixedLine "Review history:", []] ++ history.map historyLine ++ [[]]
  else []

/-- The lines of a judgment. -/
def judgmentLines (judgment : Judgment) (history : List Judgment) : List Line :=
  [[.literal "Evaluator: ", prose judgment.evaluator_id, .literal " · Revision ",
      .plain judgment.revision, .literal " · ", prose judgment.timestamp],
    [],
    [.literal "Rationale: ", prose judgment.rationale],
    [],
    [.literal "Evidence: ", prose (evidenceText judgment.evidence_ids)],
    []] ++
  reasonLines "Override Reason: " judgment.override_reason ++
  reasonLines "Platform Reason: " judgment.platform_reason ++
  historyLines history

/-- The lines of an objective. -/
def objectiveLines (item : ObjectiveReview) : List Line :=
  [[.literal "### ", .literal item.objective.id, .literal " — ", .literal item.objective.title],
    [],
    [.literal "Machine observation: ", .literal item.observation.status.name],
    [],
    [.literal "Rating: ", .literal (match item.judgment with
      | some judgment => judgment.rating.name
      | none => "awaiting evaluator review")],
    []] ++
  match item.judgment with
  | some judgment => judgmentLines judgment item.history
  | none => []

/-- The line of a reply. -/
def replyLine (reply : Support.Reply) : Line :=
  [.literal "  - ", prose reply.kind, .literal " by ", prose reply.responder_id, .literal " at ",
    .plain (.int reply.elapsed_seconds), .literal " seconds; event ", prose reply.event_id,
    .literal "; scope ", prose (String.intercalate ", " reply.objective_ids), .literal ": ",
    prose reply.text]

/-- The lines of a request. -/
def requestLines (request : Support.Record) : List Line :=
  [[.literal "- Request ", prose request.request_id, .literal " by ", prose request.requester_id,
      .literal " for ", prose request.objective_id, .literal " at ",
      .plain (.int request.elapsed_seconds), .literal " seconds: ", prose request.question],
    match request.response with
    | some reply => replyLine reply
    | none => fixedLine
        "  - No staff reply recorded; request alone does not prove assistance was given."]

/-- A line that stands for an empty list. -/
def emptyLines {α : Type} (items : List α) (notice : String) : List Line :=
  if items.isEmpty then [fixedLine notice] else []

/-- The line of a corrective action. -/
def actionLine (entry : Objective × ImprovementAction) : Line :=
  [.literal "- ", .literal entry.1.id, .literal ": ", prose entry.2.description,
    .literal " — owner ", prose entry.2.owner, .literal ", priority ", prose entry.2.priority,
    .literal ", target ", prose entry.2.target_date]

/-- The line of a checkpoint. -/
def visitLine (visit : CheckpointVisit) : Line :=
  [.literal "- ", .escaped visit.checkpoint_id, .literal ": ", .escaped visit.result,
    .literal " at ", .plain visit.elapsed_seconds, .literal " seconds; event ",
    prose visit.event_id]

/-- A line of the timeline. -/
def timelineLine (entry : TimelineEntry) : Line :=
  [.literal "- #", .plain entry.sequence, .literal " ", prose entry.timestamp, .literal " · ",
    prose entry.event_type, .literal " · ", prose entry.message, .literal " · ",
    prose entry.event_id]

/-- `lines` of `render_markdown`. -/
def markdownLines (report : Report) : List Line :=
  headLines report ++
  report.objectives.flatMap objectiveLines ++
  [fixedLine "## Human assistance", [], fixedLine supportNote, []] ++
  report.support_requests.flatMap requestLines ++
  emptyLines report.support_requests
    "No portal support requests recorded; off-platform assistance is not excluded." ++
  [[], fixedLine "## Corrective actions", []] ++
  report.improvement_actions.map actionLine ++
  emptyLines report.improvement_actions "No corrective actions recorded." ++
  [[], fixedLine "## Checkpoint path", []] ++
  report.checkpoint_path.map visitLine ++
  [[], fixedLine "## Facilitator timeline (ingestion order)", []] ++
  report.timeline.map timelineLine

namespace Env

variable (env : Env)

/-- `str`. -/
def str (value : Json) : List Char := value.pyStr env.ft.repr env.printable

/-- The text of a piece. -/
def pieceText : Piece → List Char
  | .literal s => s.toList
  | .plain value => env.str value
  | .escaped value => md (env.str value)

/-- The text of a line. -/
def lineText (line : Line) : List Char := line.flatMap env.pieceText

/-- `render_markdown`. -/
def renderMarkdown (report : Report) : List Char :=
  join '\n' ((markdownLines report).map env.lineText) ++ ['\n']

end Env

end NetStrike.Orchestrator.Aar
