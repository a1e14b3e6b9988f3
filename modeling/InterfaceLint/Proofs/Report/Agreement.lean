import InterfaceLint.Proofs.CheckRun.Verbosity
import InterfaceLint.Proofs.Text.Columns

/-!
# The two reports on a check

The report for readers and the report for tools tell the same of the findings
of a check, one after the other: a block in the one, an object in the other.
The numbers in the last line are those of the result, and these are the numbers
of findings that went into the check.  Only the report for readers can fail to
be laid out, when a caret is out of reach.
-/

set_option autoImplicit false

namespace InterfaceLint

/-! ## What is told of a finding -/

/-- What both reports tell of a finding.  A finding about a whole file has no
position. -/
structure Told where
  id : String
  severity : String
  message : String
  path : String
  position? : Option (UInt64 × UInt64)
  note? : Option String

def Finding.told (finding : Finding) : Told where
  id := finding.rule.id
  severity := finding.severity.name
  message := finding.message
  path := finding.place.path
  position? := match finding.place with
    | .source location => some (location.line, location.col)
    | .file _ => none
  note? := finding.note?

namespace Told

def place (told : Told) : String :=
  match told.position? with
  | some (line, col) => told.path ++ ":" ++ toString line.toNat ++ ":" ++ toString col.toNat
  | none => told.path

/-- The object of the report for tools; without a position line and column are
zero, and without a note there is no field for it. -/
def object (told : Told) : Json.Value :=
  .object ([("id", .text told.id), ("severity", .text told.severity),
    ("message", .text told.message), ("file", .text told.path),
    ("line", .ofCount (told.position?.elim 0 Prod.fst)),
    ("col", .ofCount (told.position?.elim 0 Prod.snd))] ++
    told.note?.toList.map fun note => ("note", .text note))

end Told

namespace Report

open Json

/-- The row for a note, if there is one. -/
inductive NoteTells : Option String → Markup → Prop
  | some {note : String} {row : Markup} (indent : Nat)
      (text : row.render false = blanks indent ++ " = note: " ++ note ++ "\n") :
      NoteTells (.some note) row
  | none : NoteTells .none []

/-- A span that belongs neither to a headline nor to a note nor to the line of
success: a rule is dimmed, a note has its label, and success is green. -/
def Aside (span : Span) : Prop :=
  span.style.dimmed = false ∧ span ≠ noteLabel ∧ span.style.colour ≠ some .green

/-- The block of the report for readers: severity, message, rule and place, then
the snippet, the note and the hint. -/
inductive BlockTells (told : Told) : Markup → Prop
  | rows {top snippet note hint : Markup}
      (head : top.render false = told.severity ++ ": " ++ told.message ++ "  " ++ told.id ++ "\n" ++
        "  --> " ++ told.place ++ "\n")
      (noted : NoteTells told.note? note)
      (others : ∀ span ∈ snippet ++ hint, Aside span) :
      BlockTells told (top ++ snippet ++ note ++ hint ++ [Markup.lineEnd])

/-- The report for readers: blocks and the numbers, or that nothing was found. -/
inductive TextTells (modelCount errors warnings : Nat) : List Told → Markup → Prop
  | blocks {told : List Told} {pieces : List Markup} {last : Markup} (nonempty : told ≠ [])
      (each : List.Forall₂ BlockTells told pieces)
      (numbers : last.render false =
        "✘ " ++ toString told.length ++ " " ++ plural "problem" told.length ++ " (" ++
          toString errors ++ " " ++ plural "error" errors ++ ", " ++ toString warnings ++ " " ++
          plural "warning" warnings ++ ")\n") :
      TextTells modelCount errors warnings told (pieces.flatten ++ last)
  | success {line : Markup}
      (text : line.render false =
        "✓ Checked " ++ toString modelCount ++ " model " ++ plural "file" modelCount ++
          " - no issues found\n") :
      TextTells modelCount errors warnings [] line

/-- The report for tools: a reader takes the list of objects and leaves the line
break. -/
def JsonTells (told : List Told) (text : String) : Prop :=
  ∀ steps, text.length < steps →
    (readValue steps 2).Reads text.toList (.list (told.map Told.object)) ['\n']

/-! ## Single findings -/

theorem render_false (markup : Markup) :
    markup.render false = String.join (markup.map Span.text) := by
  rw [Markup.render]
  rfl

theorem told_object (finding : Finding) : finding.told.object = .object (jsonMembers finding) := by
  have line : finding.told.position?.elim 0 Prod.fst = finding.place.line := by
    unfold Finding.told
    cases finding.place <;> rfl
  have col : finding.told.position?.elim 0 Prod.snd = finding.place.col := by
    unfold Finding.told
    cases finding.place <;> rfl
  rw [Told.object, line, col, jsonMembers, Finding.told]
  cases finding.note? <;> rfl

theorem told_place (finding : Finding) : finding.told.place = finding.place.display := by
  unfold Told.place Finding.told
  cases finding.place <;> rfl

theorem head_text (finding : Finding) :
    Markup.render false (headline finding ++ placeRow finding.place) =
      finding.severity.name ++ ": " ++ finding.message ++ "  " ++ finding.rule.id ++ "\n" ++
        "  --> " ++ finding.place.display ++ "\n" := by
  rw [← String.toList_inj]
  simp [render_false, headline, placeRow, Span.plain, Span.coloured, blue, Markup.lineEnd]

theorem remark_noteTells (indent : Nat) (note? : Option String) :
    NoteTells note? (remark indent noteLabel note?) := by
  cases note? with
  | none => exact .none
  | some note =>
      refine .some indent ?_
      rw [← String.toList_inj]
      simp [render_false, remark, remarkRow, noteLabel, blue, Span.plain, Span.coloured,
        Markup.lineEnd]

theorem severityColour_ne_green (severity : Severity) : severityColour severity ≠ .green := by
  cases severity <;> decide

theorem snippet_aside (severity : Severity) (place : Place) :
    ∀ span ∈ snippet severity place, Aside span := by
  have colour := severityColour_ne_green severity
  cases place with
  | file path => simp [snippet]
  | source location =>
      cases known : location.sourceLine <;>
        simp [snippet, known, Aside, sourceRow, caretRow, noteLabel, blue, Span.plain,
          Span.coloured, Style.plain, Markup.lineEnd, colour]

theorem hint_aside (indent : Nat) (hint? : Option String) :
    ∀ span ∈ remark indent hintLabel hint?, Aside span := by
  cases hint? <;>
    simp [remark, remarkRow, Aside, noteLabel, hintLabel, blue, Span.plain, Span.coloured,
      Style.plain, Markup.lineEnd]

theorem block_tells (finding : Finding) : BlockTells finding.told (block finding) := by
  refine .rows ?_ (remark_noteTells _ finding.note?) ?_
  · rw [told_place]
    exact head_text finding
  · intro span listed
    rcases List.mem_append.mp listed with inSnippet | inHint
    · exact snippet_aside finding.severity finding.place span inSnippet
    · exact hint_aside _ finding.hint? span inHint

/-! ## Whole reports -/

theorem summary_text (findings : List Finding) :
    (summary findings).render false =
      "✘ " ++ toString findings.length ++ " " ++ plural "problem" findings.length ++ " (" ++
        toString (Finding.countOf .error findings) ++ " " ++
        plural "error" (Finding.countOf .error findings) ++ ", " ++
        toString (Finding.countOf .warning findings) ++ " " ++
        plural "warning" (Finding.countOf .warning findings) ++ ")\n" := by
  rw [← String.toList_inj]
  simp [render_false, summary, Span.plain, Span.coloured, Markup.lineEnd]

theorem success_text (modelCount : Nat) :
    (success modelCount).render false =
      "✓ Checked " ++ toString modelCount ++ " model " ++ plural "file" modelCount ++
        " - no issues found\n" := by
  rw [← String.toList_inj]
  simp [render_false, success, Span.plain, Span.coloured, Markup.lineEnd]

theorem json_tells (findings : List Finding) :
    JsonTells (findings.map Finding.told) (json findings) := by
  have value : Value.list ((findings.map Finding.told).map Told.object) = jsonValue findings := by
    rw [jsonValue, List.map_map]
    congr 2
    funext finding
    exact told_object finding
  rw [JsonTells, value]
  exact (json_isOneArray findings).read

/-! ## The line of success -/

/-- Green is for success alone, whatever the texts of a finding. -/
theorem block_not_green (finding : Finding) :
    ∀ span ∈ block finding, span.style.colour ≠ some .green := by
  have colour := severityColour_ne_green finding.severity
  have head : ∀ span ∈ headline finding ++ placeRow finding.place,
      span.style.colour ≠ some .green := by
    simp [headline, placeRow, blue, Span.plain, Span.coloured, Style.plain, Markup.lineEnd, colour]
  have note : ∀ span ∈ remark (gutter finding.place) noteLabel finding.note?,
      span.style.colour ≠ some .green := by
    cases finding.note? <;>
      simp [remark, remarkRow, noteLabel, blue, Span.plain, Span.coloured, Style.plain,
        Markup.lineEnd]
  intro span listed
  rw [block, List.mem_append, List.mem_append, List.mem_append, List.mem_append] at listed
  rcases listed with (((inHead | inSnippet) | inNote) | inHint) | atEnd
  · exact head span inHead
  · exact (snippet_aside _ _ span inSnippet).2.2
  · exact note span inNote
  · exact (hint_aside _ _ span inHint).2.2
  · rw [List.mem_singleton.mp atEnd]
    intro green
    cases green

theorem summary_not_green (findings : List Finding) :
    ∀ span ∈ summary findings, span.style.colour ≠ some .green := by
  simp [summary, Span.plain, Span.coloured, Style.plain, Markup.lineEnd]

end Report

/-! ## Printing the result of a check -/

namespace CheckResult

/-- What is printed of a result.  It is nothing when a caret is out of reach of
the report for readers. -/
def printed? (result : CheckResult) (format : OutputFormat) : Option Markup :=
  if format = .json || result.findings.all Report.fits then some (result.report format) else none

theorem printed?_json (result : CheckResult) :
    result.printed? .json = some [.plain (Report.json result.findings)] := by
  simp [printed?, report]

theorem printed?_text_eq_none_iff {result : CheckResult} :
    result.printed? .text = none ↔ ∃ finding ∈ result.findings, finding.place.Overlong := by
  simp [printed?, Report.fits_iff]

theorem printed?_text_eq_some_iff {result : CheckResult} {printed : Markup} :
    result.printed? .text = some printed ↔
      (∀ finding ∈ result.findings, ¬ finding.place.Overlong) ∧ result.report .text = printed := by
  simp [printed?, Report.fits_iff]

variable {result : CheckResult}

theorem report_text (ordered : Finding.Ascending result.findings) :
    result.report .text =
      if result.findings = [] then Report.success result.modelCount
      else result.findings.flatMap Report.block ++ Report.summary result.findings := by
  -- The report sorts once more, which moves nothing.
  rw [report, Report.text, Finding.sorted_eq_self ordered]
  by_cases none : result.findings = [] <;> simp [none]

theorem report_text_tells (ordered : Finding.Ascending result.findings) :
    Report.TextTells result.modelCount result.errorCount result.warningCount
      (result.findings.map Finding.told) (result.report .text) := by
  rw [report_text ordered]
  by_cases none : result.findings = []
  · rw [if_pos none, none]
    exact .success (Report.success_text result.modelCount)
  · rw [if_neg none, List.flatMap]
    refine .blocks ?_ ?_ ?_
    · simpa using none
    · rw [List.forall₂_map_left_iff, List.forall₂_map_right_iff, List.forall₂_same]
      intro finding _
      exact Report.block_tells finding
    · rw [List.length_map]
      exact Report.summary_text result.findings

theorem success_infix_report_text_iff (ordered : Finding.Ascending result.findings) :
    Report.success result.modelCount <:+: result.report .text ↔ result.findings = [] := by
  rw [report_text ordered]
  by_cases none : result.findings = []
  · simp [none]
  · rw [if_neg none, iff_false_right none]
    intro within
    have mark : Span.coloured .green "✓" ∈ Report.success result.modelCount := by
      simp [Report.success]
    rcases List.mem_append.mp (within.subset mark) with inBlocks | inSummary
    · obtain ⟨finding, _, inBlock⟩ := List.mem_flatMap.mp inBlocks
      exact Report.block_not_green finding _ inBlock rfl
    · exact Report.summary_not_green result.findings _ inSummary rfl

end CheckResult

/-- Reports, numbers and exit status of the result for some findings tell the same. -/
structure ReportsAgree (findings : List Finding) (result : CheckResult) : Prop where
  ordered : Finding.Ascending result.findings
  same : result.findings.Perm findings
  errors : result.errorCount = Finding.countOf .error findings
  warnings : result.warningCount = Finding.countOf .warning findings
  unreadable : result.unreadableCount = findings.countP Finding.isUnreadable
  /-- Only a file that could not be read is told without position and without note. -/
  wholeFile : ∀ finding ∈ findings,
    (finding.told.position? = none ↔ finding.isUnreadable = true) ∧
      (finding.told.note? = none ↔ finding.isUnreadable = true)
  /-- The report for readers can be missing; the one for tools cannot. -/
  brokenOff : result.printed? .text = none ↔ ∃ finding ∈ findings, finding.place.Overlong
  text : ∀ printed, result.printed? .text = some printed →
    Report.TextTells result.modelCount result.errorCount result.warningCount
      (result.findings.map Finding.told) printed
  success : ∀ printed, result.printed? .text = some printed →
    (Report.success result.modelCount <:+: printed ↔ result.findings.map Finding.told = [])
  json : ∃ text, result.printed? .json = some [.plain text] ∧
    Report.JsonTells (result.findings.map Finding.told) text
  exitStatus : result.exitStatus = .failure ↔ 0 < result.errorCount

theorem reports_agree (modelCount : Nat) (findings : List Finding) :
    ReportsAgree findings (CheckResult.ofFindings modelCount findings) := by
  have ordered : Finding.Ascending (CheckResult.ofFindings modelCount findings).findings :=
    Finding.sorted_ascending findings
  have same : (CheckResult.ofFindings modelCount findings).findings.Perm findings :=
    Finding.sorted_perm findings
  exact {
    ordered
    same
    errors := same.countP_eq _
    warnings := same.countP_eq _
    unreadable := same.countP_eq _
    wholeFile := by
      intro finding _
      cases finding <;> simp [Finding.told, Finding.place, Finding.note?, Finding.isUnreadable]
    brokenOff := by
      rw [CheckResult.printed?_text_eq_none_iff]
      simp only [same.mem_iff]
    text := by
      intro printed isPrinted
      rw [← (CheckResult.printed?_text_eq_some_iff.mp isPrinted).2]
      exact CheckResult.report_text_tells ordered
    success := by
      intro printed isPrinted
      rw [← (CheckResult.printed?_text_eq_some_iff.mp isPrinted).2, List.map_eq_nil_iff]
      exact CheckResult.success_infix_report_text_iff ordered
    json := ⟨_, CheckResult.printed?_json _, Report.json_tells _⟩
    exitStatus := by simp [CheckResult.exitStatus] }

/-! ## A caret out of reach -/

theorem Report.caretOffset_replicate (location : Location) (count : Nat) :
    caretOffset location (String.ofList (List.replicate count 'x')) =
      min (location.col.toNat - 1) count := by
  have narrow : Text.IsNarrow 'x' := ⟨by decide, by decide⟩
  rw [caretOffset, String.toList_ofList, List.take_replicate, Text.width_replicate narrow]

def distantFinding : Finding :=
  .declaration {
    location := {
      file := "a.cs"
      line := 3
      col := 65537
      sourceLine := some (String.ofList (List.replicate 65536 'x')) }
    method := "Use"
    fault := .notGeneric
    severity := .error }

theorem distantFinding_overlong : distantFinding.place.Overlong := by
  refine ⟨_, rfl, ?_⟩
  rw [Report.caretOffset_replicate]
  decide

/-- The report for readers does not have the block that the one for tools has an
object for. -/
theorem distantFinding_reported_to_tools_only :
    (CheckResult.ofFindings 1 [distantFinding]).printed? .text = none ∧
      (CheckResult.ofFindings 1 [distantFinding]).printed? .json ≠ none := by
  refine ⟨?_, ?_⟩
  · rw [CheckResult.printed?_text_eq_none_iff]
    exact ⟨distantFinding, (Finding.sorted_perm _).mem_iff.mpr (.head _), distantFinding_overlong⟩
  · rw [CheckResult.printed?_json]
    exact nofun

end InterfaceLint
