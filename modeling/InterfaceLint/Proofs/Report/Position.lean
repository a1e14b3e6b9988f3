import InterfaceLint.Proofs.Report.Agreement
import InterfaceLint.Proofs.Report.Colouring
import InterfaceLint.Proofs.Template.Substitution

/-!
# Positions in the report for readers

A place is printed as file, line and column.  A file name may hold colons and
digits of its own; line and column hold no colon, so they are read off the end and
the printed text stands for one place only.

Under the source line stands a caret.  The columns in front of it are those of the
text in front of the reported character, since the row above starts with narrow
characters and a blank, and these add up with any text behind them.
-/

set_option autoImplicit false

namespace InterfaceLint

/-! ## Printed places -/

def Location.SamePlace (left right : Location) : Prop :=
  left.file = right.file ∧ left.line = right.line ∧ left.col = right.col

theorem eq_nil_of_separator {sep : Char} {gap right right' : List Char} (free : sep ∉ right)
    (same : sep :: right = gap ++ sep :: right') : gap = [] := by
  cases gap with
  | nil => rfl
  | cons c gap =>
      -- Then the separator would stand behind the one in front.
      obtain ⟨-, later⟩ := List.cons.inj same
      exact absurd (by rw [later]; simp) free

/-- The last separator splits a text in one way only. -/
theorem append_separator_inj {sep : Char} {left left' right right' : List Char}
    (free : sep ∉ right) (free' : sep ∉ right')
    (same : left ++ sep :: right = left' ++ sep :: right') : left = left' ∧ right = right' := by
  have lefts : left = left' := by
    rcases List.append_eq_append_iff.mp same with ⟨gap, longer, rest⟩ | ⟨gap, longer, rest⟩
    · rw [eq_nil_of_separator free rest, List.append_nil] at longer
      exact longer.symm
    · rw [eq_nil_of_separator free' rest, List.append_nil] at longer
      exact longer
  subst lefts
  exact ⟨rfl, (List.cons.inj (List.append_cancel_left same)).2⟩

namespace Location

theorem toList_display (location : Location) :
    location.display.toList =
      (location.file.toList ++ ':' :: Nat.toDigits 10 location.line.toNat) ++
        ':' :: Nat.toDigits 10 location.col.toNat := by
  simp [display]

theorem samePlace_of_display {left right : Location} (same : left.display = right.display) :
    left.SamePlace right := by
  have noColon (number : Nat) : ':' ∉ Nat.toDigits 10 number :=
    Template.not_mem_toDigits rfl number
  rw [← String.toList_inj, toList_display, toList_display] at same
  obtain ⟨front, cols⟩ := append_separator_inj (noColon _) (noColon _) same
  obtain ⟨files, lines⟩ := append_separator_inj (noColon _) (noColon _) front
  exact ⟨String.toList_inj.mp files, UInt64.toNat_inj.mp (Template.toDigits_injective lines),
    UInt64.toNat_inj.mp (Template.toDigits_injective cols)⟩

end Location

theorem Report.placeRow_render (colouring : Bool) (place : Place) :
    (placeRow place).render colouring =
      "  " ++ (blue "-->").render colouring ++ " " ++ place.display ++ "\n" := by
  rw [← String.toList_inj]
  simp [placeRow, Markup.render, Markup.lineEnd, Span.render, Span.plain, Style.plain, Style.codes]

/-- Two printed locations are the same exactly if file, line and column are, and so
are the rows that point to them. -/
theorem printed_location_eq_iff (left right : Location) :
    (left.display = right.display ↔ left.SamePlace right) ∧
      ∀ colouring,
        ((Report.placeRow (.source left)).render colouring =
            (Report.placeRow (.source right)).render colouring ↔ left.SamePlace right) := by
  have displays : left.display = right.display ↔ left.SamePlace right := by
    refine ⟨Location.samePlace_of_display, ?_⟩
    rintro ⟨file, line, col⟩
    rw [Location.display, Location.display, file, line, col]
  refine ⟨displays, fun colouring => ?_⟩
  rw [Report.placeRow_render, Report.placeRow_render, ← displays, ← String.toList_inj,
    ← String.toList_inj]
  simp [Place.display]

/-! ## Rows below a place -/

def Location.digits (location : Location) : Nat := (toString location.line.toNat).length

def Location.lead (location : Location) : String := toString location.line.toNat ++ " | "

def Finding.remarks (finding : Finding) : List String :=
  (finding.note?.map ("note: " ++ ·)).toList ++ (finding.hint?.map ("hint: " ++ ·)).toList

def StandsBehind (columns : Nat) (mark : Char) (row : List Char) : Prop :=
  ∃ front back, row = front ++ mark :: back ∧ mark ∉ front ∧ Text.width front = columns

/-- The rows below the place of a finding: the source line, the caret, then the
remarks. -/
structure Snippet (finding : Finding) (location : Location) (line : String) where
  source : List Char
  caret : List Char
  remarks : List (List Char)
  source_eq : source = (location.lead ++ line).toList
  unbroken : '\n' ∉ source ∧ '\n' ∉ caret
  sourceBar : StandsBehind (location.digits + 1) '|' source
  caretBar : StandsBehind (location.digits + 1) '|' caret
  /-- The caret stands under the character in the column, counted from one, or
  behind the row if the line ends before. -/
  caretMark : StandsBehind
    (Text.width (source.take (location.lead.length + (max location.col.toNat 1 - 1)))) '^' caret
  blank : caret.filter (· ≠ ' ') = ['|', '^']
  remarked : List.Forall₂ (fun remark row =>
    StandsBehind (location.digits + 1) '=' row ∧ ("= " ++ remark).toList <:+ row)
    finding.remarks remarks

namespace Snippet

variable {finding : Finding} {location : Location} {line : String}

def rows (snippet : Snippet finding location line) : List (List Char) :=
  snippet.source :: snippet.caret :: snippet.remarks

/-- The report shows these rows as those of the finding, right below its headline
and its place. -/
def ShownIn (snippet : Snippet finding location line) (report : String) : Prop :=
  ∃ front back, report.toList =
    front ++ (finding.severity.name ++ ": " ++ finding.message ++ "  " ++ finding.rule.id ++ "\n" ++
      "  --> " ++ location.display ++ "\n").toList ++
      snippet.rows.flatMap (· ++ ['\n']) ++ '\n' :: back

end Snippet

/-! ## Columns of the rows -/

theorem isNarrow_bar : Text.IsNarrow '|' := ⟨by decide, by decide⟩

theorem standsBehind_blanks (count : Nat) {mark : Char} (visible : mark ≠ ' ') (back : List Char) :
    StandsBehind count mark (List.replicate count ' ' ++ mark :: back) :=
  ⟨_, back, rfl, fun member => visible (List.eq_of_mem_replicate member),
    Text.width_replicate Text.isNarrow_blank count⟩

namespace Location

variable (location : Location)

theorem digits_eq : location.digits = (Nat.toDigits 10 location.line.toNat).length := by
  rw [digits, Nat.toString_eq_repr, ← String.length_toList, Nat.toList_repr]

theorem isNarrow_of_mem_digits : ∀ c ∈ Nat.toDigits 10 location.line.toNat, Text.IsNarrow c :=
  fun _ member =>
    Text.isNarrow_of_isDigit (Nat.isDigit_of_mem_toDigits (by decide) (by decide) member)

theorem toList_lead :
    location.lead.toList = (Nat.toDigits 10 location.line.toNat ++ [' ', '|']) ++ [' '] := by
  simp [lead]

/-- The text in front of a source line adds its length to the width of what follows. -/
theorem width_lead_append (text : List Char) :
    Text.width (location.lead.toList ++ text) = location.digits + 3 + Text.width text := by
  have narrow : ∀ c ∈ Nat.toDigits 10 location.line.toNat ++ [' ', '|'], Text.IsNarrow c := by
    rw [List.forall_mem_append]
    refine ⟨location.isNarrow_of_mem_digits, ?_⟩
    simp [Text.isNarrow_blank, isNarrow_bar]
  rw [toList_lead, List.append_assoc, List.singleton_append, Text.width_narrow_append narrow,
    digits_eq]
  simp

theorem standsBehind_lead (line : String) :
    StandsBehind (location.digits + 1) '|' (location.lead ++ line).toList := by
  refine ⟨Nat.toDigits 10 location.line.toNat ++ [' '], ' ' :: line.toList, ?_, ?_, ?_⟩
  · simp [lead]
  · simp [Template.not_mem_toDigits]
  · rw [Text.width_narrow]
    · simp [digits_eq]
    · rw [List.forall_mem_append]
      exact ⟨location.isNarrow_of_mem_digits, by simp [Text.isNarrow_blank]⟩

/-- The columns of the caret are counted on the source line alone, and its row starts
with as many columns as that of the line. -/
theorem width_take_source (line : String) :
    Text.width ((location.lead ++ line).toList.take
        (location.lead.length + (max location.col.toNat 1 - 1))) =
      location.digits + 3 + Report.caretOffset location line := by
  -- Column zero and column one are the same place.
  have fromOne : max location.col.toNat 1 - 1 = location.col.toNat - 1 := by omega
  rw [fromOne, String.toList_append, ← String.length_toList, List.take_length_add_append,
    width_lead_append, Report.caretOffset]

end Location

/-! ## The rows of a finding -/

namespace Snippet

variable (finding : Finding) (location : Location) {line : String}

def caretBehind (columns : Nat) : List Char :=
  (List.replicate (location.digits + 1) ' ' ++ '|' :: ' ' :: List.replicate columns ' ') ++ ['^']

theorem caretBehind_standsBehind (columns : Nat) :
    StandsBehind (location.digits + 3 + columns) '^' (caretBehind location columns) := by
  refine ⟨_, [], rfl, by simp, ?_⟩
  rw [Text.width_narrow (by simp [Text.isNarrow_blank, isNarrow_bar]), List.length_append,
    List.length_cons, List.length_cons, List.length_replicate, List.length_replicate]
  omega

def ofFinding (unbroken : '\n' ∉ line.toList) : Snippet finding location line where
  source := (location.lead ++ line).toList
  caret := caretBehind location (Report.caretOffset location line)
  remarks := finding.remarks.map fun remark =>
    List.replicate (location.digits + 1) ' ' ++ ("= " ++ remark).toList
  source_eq := rfl
  unbroken := by
    constructor
    · simp [Location.lead, Template.not_mem_toDigits, unbroken]
    · simp [caretBehind]
  sourceBar := location.standsBehind_lead line
  caretBar := by
    rw [caretBehind, List.append_assoc]
    exact standsBehind_blanks _ (by decide) _
  caretMark := by
    rw [location.width_take_source line]
    exact caretBehind_standsBehind location _
  blank := by simp [caretBehind]
  remarked := by
    rw [List.forall₂_map_right_iff, List.forall₂_same]
    intro remark _
    have equals : ("= " ++ remark).toList = '=' :: ' ' :: remark.toList := by simp
    refine ⟨?_, List.suffix_append _ _⟩
    rw [equals]
    exact standsBehind_blanks _ (by decide) _

end Snippet

namespace Report

theorem toList_blanks (count : Nat) : (blanks count).toList = List.replicate count ' ' := by
  rw [blanks, String.toList_ofList]

theorem remark_text (indent : Nat) (label : Span) (text? : Option String) :
    ((remark indent label text?).render false).toList =
      text?.toList.flatMap fun text =>
        List.replicate (indent + 1) ' ' ++ ("= " ++ label.text ++ " " ++ text).toList ++
          ['\n'] := by
  cases text? with
  | none => rfl
  | some text =>
      simp [remark, remarkRow, render_false, blue, Span.plain, Span.coloured, Markup.lineEnd,
        toList_blanks, List.replicate_add]

theorem remarks_text (finding : Finding) (indent : Nat) :
    (Markup.render false (remark indent noteLabel finding.note? ++
        remark indent hintLabel finding.hint?)).toList =
      finding.remarks.flatMap fun remark =>
        List.replicate (indent + 1) ' ' ++ ("= " ++ remark).toList ++ ['\n'] := by
  rw [Markup.render_append, String.toList_append, remark_text, remark_text, Finding.remarks,
    List.flatMap_append]
  congr 1
  · cases finding.note? <;> simp [noteLabel]
  · cases finding.hint? <;> simp [hintLabel]

variable {finding : Finding} {location : Location} {line : String}

theorem snippet_text (known : location.sourceLine = some line) (severity : Severity) :
    ((snippet severity (.source location)).render false).toList =
      (location.lead ++ line).toList ++ '\n' ::
        Snippet.caretBehind location (caretOffset location line) ++ ['\n'] := by
  simp [snippet, known, render_false, sourceRow, caretRow, Snippet.caretBehind, Location.lead,
    blue, Span.plain, Span.coloured, toList_blanks, gutter, Markup.lineEnd, Location.digits,
    List.replicate_add]

theorem block_text (place : finding.place = .source location)
    (known : location.sourceLine = some line) (unbroken : '\n' ∉ line.toList) :
    ((block finding).render false).toList =
      (finding.severity.name ++ ": " ++ finding.message ++ "  " ++ finding.rule.id ++ "\n" ++
        "  --> " ++ location.display ++ "\n").toList ++
        (Snippet.ofFinding finding location unbroken).rows.flatMap (· ++ ['\n']) ++ ['\n'] := by
  have indent : gutter finding.place = location.digits := by
    rw [place]
    rfl
  have parts : block finding = headline finding ++ placeRow finding.place ++
      snippet finding.severity finding.place ++
      (remark location.digits noteLabel finding.note? ++
        remark location.digits hintLabel finding.hint?) ++ [Markup.lineEnd] := by
    simp [block, indent]
  rw [parts, Markup.render_append, Markup.render_append, Markup.render_append, head_text,
    String.toList_append, String.toList_append, String.toList_append, remarks_text, place,
    snippet_text known]
  simp [Snippet.rows, Snippet.ofFinding, render_false, Markup.lineEnd, Span.plain, Place.display,
    List.flatMap_map]

/-- A report shows the rows of each of its findings. -/
theorem shownIn_of_mem {findings : List Finding} {rest : Markup} (listed : finding ∈ findings)
    (place : finding.place = .source location) (known : location.sourceLine = some line)
    (unbroken : '\n' ∉ line.toList) :
    (Snippet.ofFinding finding location unbroken).ShownIn
      (Markup.render false (findings.flatMap block ++ rest)) := by
  obtain ⟨earlier, later, rfl⟩ := List.append_of_mem listed
  have apart : (earlier ++ finding :: later).flatMap block ++ rest =
      earlier.flatMap block ++ block finding ++ (later.flatMap block ++ rest) := by
    simp
  refine ⟨(Markup.render false (earlier.flatMap block)).toList,
    (Markup.render false (later.flatMap block ++ rest)).toList, ?_⟩
  rw [apart, Markup.render_append, Markup.render_append, String.toList_append,
    String.toList_append, block_text place known unbroken]
  simp

end Report

/-- In every report that can be laid out the caret of a finding stands under the
reported column, and the bars and the marks of the remarks stand in one column
behind the line number. -/
theorem caret_under_column (modelCount : Nat) (findings : List Finding)
    (within : ∀ finding ∈ findings, ¬ finding.place.Overlong) :
    ∃ printed, (CheckResult.ofFindings modelCount findings).printed? .text = some printed ∧
      ∀ finding ∈ findings, ∀ location line, finding.place = .source location →
        location.sourceLine = some line → '\n' ∉ line.toList →
          ∃ snippet : Snippet finding location line, snippet.ShownIn (printed.render false) := by
  have sorted : (CheckResult.ofFindings modelCount findings).findings.Perm findings :=
    Finding.sorted_perm findings
  have ordered : Finding.Ascending (CheckResult.ofFindings modelCount findings).findings :=
    Finding.sorted_ascending findings
  refine ⟨_, CheckResult.printed?_text_eq_some_iff.mpr ⟨?_, rfl⟩, ?_⟩
  · intro finding member
    exact within finding (sorted.mem_iff.mp member)
  · intro finding listed location line place known unbroken
    have member := sorted.mem_iff.mpr listed
    refine ⟨.ofFinding finding location unbroken, ?_⟩
    rw [CheckResult.report_text ordered, if_neg (List.ne_nil_of_mem member)]
    exact Report.shownIn_of_mem member place known unbroken

def wideLocation : Location :=
  { file := "Program.cs", line := 7, col := 13, sourceLine := some "var 名前 = 0; Use<Logger>();" }

def wideFinding : Finding :=
  .call {
    location := wideLocation
    method := "Use"
    typeArgument := "Demo.Logger"
    kind := .classType
    severity := .error }

def endedLocation : Location :=
  { file := "C:3", line := 18446744073709551615, col := 18446744073709551615,
    sourceLine := some "void Use<T>()" }

def endedFinding : Finding :=
  .declaration {
    location := endedLocation
    method := "Use"
    fault := .noInterfaceConstraint "T"
    severity := .warning }

theorem caret_under_column_wide :
    (∀ finding ∈ [wideFinding, endedFinding], ¬ finding.place.Overlong) ∧
      ∃ printed,
        (CheckResult.ofFindings 2 [wideFinding, endedFinding]).printed? .text = some printed ∧
          (∃ snippet : Snippet wideFinding wideLocation "var 名前 = 0; Use<Logger>();",
            snippet.ShownIn (printed.render false)) ∧
          ∃ snippet : Snippet endedFinding endedLocation "void Use<T>()",
            snippet.ShownIn (printed.render false) := by
  have within : ∀ finding ∈ [wideFinding, endedFinding], ¬ finding.place.Overlong := by
    intro finding listed
    rw [← Report.fits_iff]
    revert finding
    decide +kernel
  obtain ⟨printed, isPrinted, shown⟩ := caret_under_column 2 [wideFinding, endedFinding] within
  refine ⟨within, printed, isPrinted, ?_, ?_⟩
  · exact shown wideFinding (by simp) wideLocation _ rfl rfl (by decide)
  · exact shown endedFinding (by simp) endedLocation _ rfl rfl (by decide)

end InterfaceLint
