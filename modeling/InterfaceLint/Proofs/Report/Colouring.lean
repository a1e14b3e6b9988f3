import InterfaceLint.Proofs.Finding.Ties
import InterfaceLint.Report.Text

/-!
# Colouring adds escape sequences only

A coloured text is the plain one with escape sequences put in.  Taking out of it
everything from an escape character to the next `m` gives the plain text back, if
that has no escape character of its own.  So the layout of the reports, computed
on plain texts, does not depend on colouring.
-/

set_option autoImplicit false

namespace InterfaceLint

/-! ## Taking out escape sequences -/

/-- The text outside of escape sequences, each of which goes from an escape
character to the next `m`.  The flag tells whether a sequence is open. -/
def outsideEscapes : Bool → List Char → List Char
  | _, [] => []
  | true, c :: text => outsideEscapes (c != 'm') text
  | false, c :: text =>
    if c = escapeChar then outsideEscapes true text else c :: outsideEscapes false text

def stripEscapes (text : String) : String := String.ofList (outsideEscapes false text.toList)

/-- A text without the escape character. -/
def IsClean (text : String) : Prop := escapeChar ∉ text.toList

/-- A text that is written out is judged by its characters. -/
theorem isClean_ofList {chars : List Char} (clean : escapeChar ∉ chars) :
    IsClean (String.ofList chars) := by
  rwa [IsClean, String.toList_ofList]

theorem isClean_append_iff {left right : String} :
    IsClean (left ++ right) ↔ IsClean left ∧ IsClean right := by
  simp only [IsClean, String.toList_append, List.mem_append, not_or]

theorem isClean_toString (number : Nat) : IsClean (toString number) := by
  intro member
  rw [Nat.toString_eq_repr, Nat.toList_repr] at member
  exact absurd (Nat.isDigit_of_mem_toDigits (by decide) (by decide) member) (by decide)

theorem outsideEscapes_clean {text : List Char} (clean : escapeChar ∉ text) (rest : List Char) :
    outsideEscapes false (text ++ rest) = text ++ outsideEscapes false rest := by
  induction text with
  | nil => rfl
  | cons c text induction =>
      rw [List.mem_cons, not_or] at clean
      rw [List.cons_append, outsideEscapes, if_neg (Ne.symm clean.1), induction clean.2,
        List.cons_append]

/-- An open sequence ends at the first `m`. -/
theorem outsideEscapes_sequence {body : List Char} (noEnd : 'm' ∉ body) (rest : List Char) :
    outsideEscapes true (body ++ 'm' :: rest) = outsideEscapes false rest := by
  induction body with
  | nil => rfl
  | cons c body induction =>
      rw [List.mem_cons, not_or] at noEnd
      have goesOn : (c != 'm') = true := bne_iff_ne.mpr (Ne.symm noEnd.1)
      rw [List.cons_append, outsideEscapes, goesOn, induction noEnd.2]

theorem Style.end_not_mem_codes (style : Style) : 'm' ∉ (";".intercalate style.codes).toList := by
  obtain ⟨bold, dimmed, colour⟩ := style
  cases colour with
  | none => cases bold <;> cases dimmed <;> decide
  | some colour => cases bold <;> cases dimmed <;> cases colour <;> decide

theorem outsideEscapes_span {span : Span} (clean : IsClean span.text) (rest : List Char) :
    outsideEscapes false ((span.render true).toList ++ rest) =
      span.text.toList ++ outsideEscapes false rest := by
  unfold Span.render
  split
  · have opening : escapeChar.toString.toList = [escapeChar] := rfl
    have start : "[".toList = ['['] := rfl
    have ending : "m".toList = ['m'] := rfl
    have reset : "[0m".toList = ['[', '0', 'm'] := rfl
    have noEnd : 'm' ∉ '[' :: (";".intercalate span.style.codes).toList := by
      rw [List.mem_cons, not_or]
      exact ⟨by decide, span.style.end_not_mem_codes⟩
    simp only [String.toList_append, opening, start, ending, reset, List.append_assoc,
      List.cons_append, List.nil_append]
    rw [outsideEscapes, if_pos rfl, ← List.cons_append, outsideEscapes_sequence noEnd,
      outsideEscapes_clean clean, outsideEscapes, if_pos rfl]
    rfl
  · exact outsideEscapes_clean clean rest

theorem Markup.render_cons (colouring : Bool) (span : Span) (markup : Markup) :
    Markup.render colouring (span :: markup) =
      span.render colouring ++ Markup.render colouring markup := by
  rw [render, render, List.map_cons, String.join_cons]

theorem Markup.render_append (colouring : Bool) (left right : Markup) :
    Markup.render colouring (left ++ right) =
      Markup.render colouring left ++ Markup.render colouring right := by
  rw [render, render, render, List.map_append, String.join_append]

def Markup.IsClean (markup : Markup) : Prop := ∀ span ∈ markup, InterfaceLint.IsClean span.text

theorem Markup.isClean_nil : Markup.IsClean [] := nofun

theorem Markup.isClean_cons_iff {span : Span} {markup : Markup} :
    Markup.IsClean (span :: markup) ↔ InterfaceLint.IsClean span.text ∧ Markup.IsClean markup :=
  List.forall_mem_cons

theorem Markup.isClean_append_iff {left right : Markup} :
    Markup.IsClean (left ++ right) ↔ Markup.IsClean left ∧ Markup.IsClean right :=
  List.forall_mem_append

theorem Markup.strip_render {markup : Markup} (clean : markup.IsClean) :
    stripEscapes (markup.render true) = markup.render false := by
  rw [stripEscapes]
  induction markup with
  | nil => rfl
  | cons span markup induction =>
      obtain ⟨here, later⟩ := isClean_cons_iff.mp clean
      rw [render_cons, render_cons, String.toList_append, outsideEscapes_span here,
        String.ofList_append, String.ofList_toList, induction later]
      rfl

/-! ## Texts of a finding -/

def Location.texts (location : Location) : List String :=
  location.file :: location.sourceLine.toList

def Finding.texts : Finding → List String
  | .call finding => finding.location.texts ++ [finding.method, finding.typeArgument]
  | .declaration finding =>
    finding.location.texts ++ finding.method ::
      match finding.fault with
      | .notGeneric => []
      | .noInterfaceConstraint parameter => [parameter]
  | .unreadable model => [model.path, model.error]

theorem Location.isClean_display {location : Location} (file : IsClean location.file) :
    IsClean location.display := by
  have colon : IsClean ":" := isClean_ofList (by decide)
  simp only [display, isClean_append_iff, isClean_toString, file, colon, and_self]

theorem TypeKind.isClean_withArticle (kind : TypeKind) : IsClean kind.withArticle := by
  have article (vowel : Bool) : IsClean (if vowel then "an " else "a ") := by
    cases vowel <;> exact isClean_ofList (by decide)
  have named : IsClean kind.label := by
    cases kind <;> simp only [label, code] <;> exact isClean_ofList (by decide)
  exact isClean_append_iff.mpr ⟨article _, named⟩

theorem Descriptor.message_nil (descriptor : Descriptor) :
    descriptor.message [] = descriptor.format := by
  rw [message, Template.fill, Template.fillFrom, String.ofList_toList]

namespace Finding

/-- What a report shows of a finding. -/
structure ShowsClean (finding : Finding) : Prop where
  message : IsClean finding.message
  place : IsClean finding.place.display
  sourceLine : ∀ location, finding.place = .source location →
    ∀ line ∈ location.sourceLine, IsClean line
  note : ∀ note ∈ finding.note?, IsClean note
  hint : ∀ hint ∈ finding.hint?, IsClean hint

theorem showsClean_call {finding : CallFinding}
    (clean : ∀ text ∈ texts (.call finding), IsClean text) : ShowsClean (.call finding) where
  message := by
    rw [message, Descriptor.message_nil]
    exact isClean_ofList (by decide)
  place := Location.isClean_display (clean _ (by simp [texts, Location.texts]))
  sourceLine := by
    rintro location same line known
    cases same
    exact clean line (by simp [texts, Location.texts, Option.mem_def.mp known])
  note := by
    rintro note ⟨⟩
    have method : IsClean finding.method := clean _ (by simp [texts])
    have typeArgument : IsClean finding.typeArgument := clean _ (by simp [texts])
    simp only [isClean_append_iff, method, typeArgument, TypeKind.isClean_withArticle, and_true]
    and_intros <;> exact isClean_ofList (by decide)
  hint := by
    rintro hint ⟨⟩
    exact isClean_ofList (by decide)

theorem showsClean_declaration {finding : DeclarationFinding}
    (clean : ∀ text ∈ texts (.declaration finding), IsClean text) :
    ShowsClean (.declaration finding) where
  message := by
    have method : IsClean finding.method := clean _ (by simp [texts])
    rw [message, Rule.markerDeclaration_message]
    simp only [isClean_append_iff, method, and_true]
    and_intros <;> exact isClean_ofList (by decide)
  place := Location.isClean_display (clean _ (by simp [texts, Location.texts]))
  sourceLine := by
    rintro location same line known
    cases same
    exact clean line (by simp [texts, Location.texts, Option.mem_def.mp known])
  note := by
    rintro note ⟨⟩
    cases fault : finding.fault with
    | notGeneric => exact isClean_ofList (by decide)
    | noInterfaceConstraint parameter =>
        have named : IsClean parameter := clean _ (by simp [texts, fault])
        have described :
            IsClean ("type parameter '" ++ parameter ++ "' has no interface constraint") := by
          simp only [isClean_append_iff, named, and_true]
          and_intros <;> exact isClean_ofList (by decide)
        exact described
  hint := by rintro hint ⟨⟩

theorem showsClean {finding : Finding} (clean : ∀ text ∈ finding.texts, IsClean text) :
    finding.ShowsClean := by
  cases finding with
  | call finding => exact showsClean_call clean
  | declaration finding => exact showsClean_declaration clean
  | unreadable model =>
      exact {
        message := clean _ (by simp [texts, message])
        place := clean _ (by simp [texts, Finding.place, Place.display])
        sourceLine := nofun
        note := nofun
        hint := nofun }

end Finding

namespace Report

/-! ## Rows of the reports -/

theorem text_plain (text : String) : (Span.plain text).text = text := rfl

theorem text_coloured (colour : Colour) (text : String) :
    (Span.coloured colour text).text = text := rfl

theorem text_blue (text : String) : (blue text).text = text := rfl

theorem isClean_blanks (count : Nat) : IsClean (blanks count) := by
  refine isClean_ofList fun member => ?_
  exact absurd (List.eq_of_mem_replicate member) (by decide)

theorem isClean_severity (severity : Severity) : IsClean severity.name := by
  cases severity <;> simp only [Severity.name] <;> exact isClean_ofList (by decide)

theorem isClean_lineEnd : IsClean Markup.lineEnd.text :=
  show IsClean "\n" from isClean_ofList (by decide)

theorem isClean_plural {noun : String} (clean : IsClean noun) (count : Nat) :
    IsClean (plural noun count) := by
  unfold plural
  split
  · exact clean
  · exact isClean_append_iff.mpr ⟨clean, isClean_ofList (by decide)⟩

theorem headline_isClean {finding : Finding} (shows : finding.ShowsClean) :
    (headline finding).IsClean := by
  have id : IsClean finding.rule.id := by
    cases finding <;> exact isClean_ofList (by decide)
  simp only [headline, Markup.isClean_cons_iff, Markup.isClean_nil, text_plain, isClean_append_iff,
    isClean_severity, isClean_lineEnd, shows.message, id, true_and, and_true]
  and_intros <;> exact isClean_ofList (by decide)

theorem placeRow_isClean {place : Place} (clean : IsClean place.display) :
    (placeRow place).IsClean := by
  simp only [placeRow, Markup.isClean_cons_iff, Markup.isClean_nil, text_plain, text_blue,
    isClean_append_iff, isClean_lineEnd, clean, and_true]
  and_intros <;> exact isClean_ofList (by decide)

theorem snippet_isClean (severity : Severity) {place : Place}
    (clean : ∀ location, place = .source location → ∀ line ∈ location.sourceLine, IsClean line) :
    (snippet severity place).IsClean := by
  cases place with
  | file path => exact Markup.isClean_nil
  | source location =>
      rw [snippet]
      cases known : location.sourceLine with
      | none => exact Markup.isClean_nil
      | some line =>
          have lineClean : IsClean line := clean location rfl line known
          simp only [sourceRow, caretRow, Markup.isClean_append_iff, Markup.isClean_cons_iff,
            Markup.isClean_nil, text_plain, text_blue, text_coloured, isClean_append_iff,
            isClean_toString, isClean_blanks, isClean_lineEnd, lineClean, true_and, and_true]
          and_intros <;> exact isClean_ofList (by decide)

theorem remark_isClean (indent : Nat) {label : Span} (labelClean : IsClean label.text)
    {remark? : Option String} (clean : ∀ text ∈ remark?, IsClean text) :
    (remark indent label remark?).IsClean := by
  cases remark? with
  | none => exact Markup.isClean_nil
  | some text =>
      have textClean : IsClean text := clean text rfl
      simp only [remark, remarkRow, Markup.isClean_cons_iff, Markup.isClean_nil, text_plain,
        text_blue, isClean_append_iff, isClean_blanks, isClean_lineEnd, labelClean, textClean,
        true_and, and_true]
      and_intros <;> exact isClean_ofList (by decide)

theorem block_isClean {finding : Finding} (shows : finding.ShowsClean) :
    (block finding).IsClean := by
  have noteClean : IsClean noteLabel.text := isClean_ofList (by decide)
  have hintClean : IsClean hintLabel.text := isClean_ofList (by decide)
  simp only [block, Markup.isClean_append_iff, Markup.isClean_cons_iff, Markup.isClean_nil,
    isClean_lineEnd, and_true]
  refine ⟨⟨⟨⟨headline_isClean shows, placeRow_isClean shows.place⟩, ?_⟩, ?_⟩, ?_⟩
  · exact snippet_isClean finding.severity shows.sourceLine
  · exact remark_isClean _ noteClean shows.note
  · exact remark_isClean _ hintClean shows.hint

theorem summary_isClean (findings : List Finding) : (summary findings).IsClean := by
  have problem : IsClean "problem" := isClean_ofList (by decide)
  have error : IsClean "error" := isClean_ofList (by decide)
  have warning : IsClean "warning" := isClean_ofList (by decide)
  simp only [summary, Markup.isClean_cons_iff, Markup.isClean_nil, text_plain, text_coloured,
    isClean_append_iff, isClean_toString, isClean_lineEnd, isClean_plural problem,
    isClean_plural error, isClean_plural warning, true_and, and_true]
  and_intros <;> exact isClean_ofList (by decide)

theorem text_isClean {findings : List Finding}
    (clean : ∀ finding ∈ findings, ∀ text ∈ finding.texts, IsClean text) :
    (text findings).IsClean := by
  unfold text
  split
  · exact Markup.isClean_nil
  · refine Markup.isClean_append_iff.mpr ⟨?_, summary_isClean _⟩
    intro span listed
    obtain ⟨finding, member, inBlock⟩ := List.mem_flatMap.mp listed
    have among : finding ∈ findings := (Finding.sorted_perm findings).mem_iff.mp member
    exact block_isClean (Finding.showsClean (clean finding among)) span inBlock

theorem success_isClean (modelCount : Nat) : (success modelCount).IsClean := by
  have file : IsClean "file" := isClean_ofList (by decide)
  simp only [success, Markup.isClean_cons_iff, Markup.isClean_nil, text_plain, text_coloured,
    isClean_append_iff, isClean_toString, isClean_lineEnd, isClean_plural file, and_true]
  and_intros <;> exact isClean_ofList (by decide)

theorem unreadableWarning_isClean (count : Nat) (verbose : Bool) :
    (unreadableWarning count verbose).IsClean := by
  have label : IsClean warningLabel.text := isClean_ofList (by decide)
  unfold unreadableWarning
  split
  · simp only [Markup.isClean_cons_iff, Markup.isClean_nil, text_plain, text_coloured,
      isClean_append_iff, isClean_toString, isClean_lineEnd, label, true_and, and_true]
    and_intros <;> exact isClean_ofList (by decide)
  · exact Markup.isClean_nil

theorem descriptorRows_isClean {descriptor : Descriptor} (id : IsClean descriptor.id)
    (title : IsClean descriptor.title) (format : IsClean descriptor.format)
    (category : IsClean descriptor.category) : (descriptorRows descriptor).IsClean := by
  simp only [descriptorRows, padRight, Markup.isClean_cons_iff, Markup.isClean_nil, text_plain,
    isClean_append_iff, isClean_severity, isClean_blanks, isClean_lineEnd, id, title, format,
    category, true_and, and_true]
  and_intros <;> exact isClean_ofList (by decide)

theorem rulesTable_isClean : rulesTable.IsClean := by
  have table : rulesTable = descriptorRows Rule.interfaceArgumentDescriptor ++
      (descriptorRows Rule.markerDeclarationDescriptor ++ []) := rfl
  have title : IsClean Rule.markerDeclarationDescriptor.title :=
    isClean_append_iff.mpr ⟨isClean_ofList (by decide), isClean_ofList (by decide)⟩
  rw [table, Markup.isClean_append_iff, Markup.isClean_append_iff]
  refine ⟨?_, ?_, Markup.isClean_nil⟩
  · apply descriptorRows_isClean <;> exact isClean_ofList (by decide)
  · refine descriptorRows_isClean ?_ title ?_ ?_ <;> exact isClean_ofList (by decide)

end Report

/-- Without the escape sequences a coloured report is the plain one, if no finding
carries an escape character; so are the line of success, the warning about model
files and the table of rules, whatever the numbers. -/
theorem colouring_adds_escapes_only (findings : List Finding)
    (clean : ∀ finding ∈ findings, ∀ text ∈ finding.texts, escapeChar ∉ text.toList) :
    stripEscapes ((Report.text findings).render true) = (Report.text findings).render false ∧
      (∀ modelCount, stripEscapes ((Report.success modelCount).render true) =
        (Report.success modelCount).render false) ∧
      (∀ count verbose, stripEscapes ((Report.unreadableWarning count verbose).render true) =
        (Report.unreadableWarning count verbose).render false) ∧
      stripEscapes (Report.rulesTable.render true) = Report.rulesTable.render false :=
  ⟨Markup.strip_render (Report.text_isClean clean),
    fun modelCount => Markup.strip_render (Report.success_isClean modelCount),
    fun count verbose => Markup.strip_render (Report.unreadableWarning_isClean count verbose),
    Markup.strip_render Report.rulesTable_isClean⟩

/-- Findings with texts that look like escape sequences but for the escape
character. -/
def bracketedFindings : List Finding :=
  [.call {
      location := { file := "[m", line := 12, col := 4, sourceLine := some "a\x5b31mb" }
      method := "[0m"
      typeArgument := "m"
      kind := .enumType
      severity := .warning },
    .unreadable { path := "m.icg.json", error := "[1;31m" }]

theorem colouring_adds_escapes_only_bracketed :
    (∀ finding ∈ bracketedFindings, ∀ text ∈ finding.texts, escapeChar ∉ text.toList) ∧
      stripEscapes ((Report.text bracketedFindings).render true) =
        (Report.text bracketedFindings).render false := by
  have clean : ∀ finding ∈ bracketedFindings, ∀ text ∈ finding.texts, escapeChar ∉ text.toList := by
    decide
  exact ⟨clean, (colouring_adds_escapes_only bracketedFindings clean).1⟩

end InterfaceLint
