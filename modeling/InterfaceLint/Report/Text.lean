import InterfaceLint.Finding
import InterfaceLint.Markup
import InterfaceLint.Text.Width

/-!
# The report for readers

Each finding is a block: a headline, the place, the source line with a caret
under the column if the line is known, and a note and a hint.  A summary
follows the blocks.
-/

set_option autoImplicit false

namespace InterfaceLint.Report

/-! ## Pieces of a block -/

def severityColour : Severity → Colour
  | .error => .red
  | .warning => .yellow
  | .info => .blue

def blue (text : String) : Span := .coloured .blue text

def blanks (count : Nat) : String := String.ofList (List.replicate count ' ')

/-- The columns in front of the caret: the width of the characters before the
column, all of the line if it is shorter. -/
def caretOffset (location : Location) (sourceLine : String) : Nat :=
  Text.width (sourceLine.toList.take (location.col.toNat - 1))

/-- Digits of the line number, which is how far the rows are indented. -/
def gutter : Place → Nat
  | .source location => (toString location.line.toNat).length
  | .file _ => 1

def headline (finding : Finding) : Markup :=
  [⟨finding.severity.name, { bold := true, colour := some (severityColour finding.severity) }⟩,
    .plain (": " ++ finding.message ++ "  "),
    ⟨finding.rule.id, { dimmed := true, colour := some .cyan }⟩, Markup.lineEnd]

def placeRow (place : Place) : Markup :=
  [.plain "  ", blue "-->", .plain (" " ++ place.display), Markup.lineEnd]

def sourceRow (location : Location) (sourceLine : String) : Markup :=
  [blue (toString location.line.toNat), .plain " ", blue "|", .plain (" " ++ sourceLine),
    Markup.lineEnd]

def caretRow (severity : Severity) (location : Location) (sourceLine : String) : Markup :=
  [.plain (blanks (gutter (.source location)) ++ " "), blue "|",
    .plain (" " ++ blanks (caretOffset location sourceLine)),
    .coloured (severityColour severity) "^", Markup.lineEnd]

def snippet (severity : Severity) : Place → Markup
  | .source location =>
    match location.sourceLine with
    | some sourceLine => sourceRow location sourceLine ++ caretRow severity location sourceLine
    | none => []
  | .file _ => []

def remarkRow (indent : Nat) (label : Span) (text : String) : Markup :=
  [.plain (blanks indent ++ " "), blue "=", .plain " ", label, .plain (" " ++ text), Markup.lineEnd]

def noteLabel : Span := ⟨"note:", { bold := true }⟩

def hintLabel : Span := ⟨"hint:", { bold := true, colour := some .cyan }⟩

def remark (indent : Nat) (label : Span) : Option String → Markup
  | some text => remarkRow indent label text
  | none => []

def block (finding : Finding) : Markup :=
  let indent := gutter finding.place
  headline finding ++ placeRow finding.place ++ snippet finding.severity finding.place ++
    remark indent noteLabel finding.note? ++ remark indent hintLabel finding.hint? ++
    [Markup.lineEnd]

/-! ## Reports -/

def plural (noun : String) (count : Nat) : String := if count = 1 then noun else noun ++ "s"

def summary (findings : List Finding) : Markup :=
  let problems := findings.length
  let errors := Finding.countOf .error findings
  let warnings := Finding.countOf .warning findings
  [.coloured .red "✘",
    .plain (" " ++ toString problems ++ " " ++ plural "problem" problems ++ " (" ++
      toString errors ++ " "),
    .coloured .red (plural "error" errors),
    .plain (", " ++ toString warnings ++ " "), .coloured .yellow (plural "warning" warnings),
    .plain ")", Markup.lineEnd]

def text (findings : List Finding) : Markup :=
  if findings.isEmpty then []
  else
    let ordered := Finding.sorted findings
    ordered.flatMap block ++ summary ordered

/-- The widest caret offset that can be laid out. -/
def greatestOffset : Nat := 65535

def fits (finding : Finding) : Bool :=
  match finding.place with
  | .source location =>
    match location.sourceLine with
    | some sourceLine => caretOffset location sourceLine ≤ greatestOffset
    | none => true
  | .file _ => true

def success (modelCount : Nat) : Markup :=
  [.coloured .green "✓", .plain " ",
    .coloured .green ("Checked " ++ toString modelCount ++ " model " ++ plural "file" modelCount ++
      " - no issues found"), Markup.lineEnd]

def warningLabel : Span := ⟨"warning:", { bold := true, colour := some .yellow }⟩

/-- The line about model files that could not be read; left out when each was
reported already. -/
def unreadableWarning (count : Nat) (verbose : Bool) : Markup :=
  if 0 < count && !verbose then
    [warningLabel, .plain (" " ++ toString count ++ " model file(s) could not be parsed (use "),
      .coloured .cyan "-v", .plain " for details)", Markup.lineEnd]
  else []

/-! ## The table of rules -/

def padRight (width : Nat) (text : String) : String := text ++ blanks (width - text.length)

def descriptorRows (descriptor : Descriptor) : Markup :=
  [⟨descriptor.id, { bold := true }⟩,
    .plain ("  " ++ padRight 7 descriptor.defaultSeverity.name ++ " " ++
      padRight 15 descriptor.category ++ " " ++ descriptor.title), Markup.lineEnd,
    .plain (blanks 8), ⟨descriptor.format, { dimmed := true }⟩, Markup.lineEnd]

def rulesTable : Markup := Rule.descriptors.flatMap descriptorRows

end InterfaceLint.Report
