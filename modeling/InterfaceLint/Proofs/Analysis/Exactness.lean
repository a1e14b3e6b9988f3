import InterfaceLint.Proofs.Analysis.Violation
import InterfaceLint.Proofs.Finding.StableSort

/-!
# An analysis reports the violations, each once

What an analysis has to report is said of the document alone: one finding for
each call and each declaration that violates an enabled rule.  On a document
with pairwise different keys the analysis reports these findings in order, and
as often as they are due.
-/

set_option autoImplicit false

namespace InterfaceLint

/-! ## Findings item by item -/

def AnalysisOptions.effectiveSeverity (options : AnalysisOptions) (rule : Rule) : Severity :=
  (options.severity? rule).getD .error

namespace Model

def callFinding? (model : Model) (options : AnalysisOptions) (call : Call) : Option Finding :=
  if options.enabled .interfaceArgument && (options.analyzeGenerated || !call.generated) then
    (CallSite.check model call).map fun finding => options.adjust (.call finding)
  else none

def declarationFinding? (model : Model) (options : AnalysisOptions) (symbol : Symbol) :
    Option Finding :=
  symbol.method?.bind fun method =>
    if options.enabled .markerDeclaration && (options.analyzeGenerated || !method.generated) then
      (Declaration.check model method).map fun finding => options.adjust (.declaration finding)
    else none

/-- The findings with their severities are those of the calls one by one, then
those of the symbols one by one. -/
theorem rawFindings_map_adjust (model : Model) (options : AnalysisOptions) :
    (model.rawFindings options).map options.adjust =
      model.document.calls.filterMap (model.callFinding? options) ++
        model.document.symbols.filterMap (model.declarationFinding? options) := by
  unfold rawFindings CallSite.checkAll Declaration.checkAll methods calls
  rw [List.map_append]
  congr 1
  · by_cases enabled : options.enabled .interfaceArgument
    · rw [if_pos enabled, List.map_map, List.filterMap_filter, List.map_filterMap]
      congr 1
      funext call
      simp only [callFinding?, enabled, Bool.true_and]
      split <;> rfl
    · simp [callFinding?, enabled]
  · by_cases enabled : options.enabled .markerDeclaration
    · rw [if_pos enabled, List.map_map, List.filterMap_filter, List.map_filterMap,
        List.filterMap_filterMap]
      congr 1
      funext symbol
      cases symbol with
      | method method =>
          simp only [declarationFinding?, Symbol.method?, Option.bind_some, enabled, Bool.true_and]
          split <;> rfl
      | type type => rfl
    · have none : model.declarationFinding? options = fun _ => none := by
        funext symbol
        simp [declarationFinding?, enabled]
      simp [enabled, none]

theorem analyze_eq_sorted (model : Model) (options : AnalysisOptions) :
    model.analyze options =
      Finding.sorted (model.document.calls.filterMap (model.callFinding? options) ++
        model.document.symbols.filterMap (model.declarationFinding? options)) := by
  rw [analyze, rawFindings_map_adjust]

theorem analyze_perm (model : Model) (options : AnalysisOptions) :
    (model.analyze options).Perm
      (model.document.calls.filterMap (model.callFinding? options) ++
        model.document.symbols.filterMap (model.declarationFinding? options)) := by
  rw [analyze_eq_sorted]
  exact Finding.sorted_perm _

end Model

/-! ## What is due -/

/-- Each item contributes the one result related to it, or nothing when there is
none; the results stand in the order of the items. -/
inductive PicksEach {α β : Type} (related : α → β → Prop) : List α → List β → Prop
  | nil : PicksEach related [] []
  | take {item : α} {result : β} {items : List α} {results : List β} (fits : related item result)
      (rest : PicksEach related items results) :
      PicksEach related (item :: items) (result :: results)
  | skip {item : α} {items : List α} {results : List β} (none : ∀ result, ¬ related item result)
      (rest : PicksEach related items results) : PicksEach related (item :: items) results

/-- Where a relation is that of a partial function, the results are its values. -/
theorem picksEach_iff_eq_filterMap {α β : Type} {related : α → β → Prop} {pick : α → Option β}
    (picked : ∀ item result, pick item = some result ↔ related item result) :
    ∀ (items : List α) (results : List β),
      PicksEach related items results ↔ results = items.filterMap pick := by
  intro items
  induction items with
  | nil =>
      intro results
      constructor
      · intro picks
        cases picks
        rfl
      · intro empty
        rw [empty]
        exact .nil
  | cons item items induction =>
      intro results
      cases choice : pick item with
      | none =>
          have unrelated : ∀ result, ¬ related item result := by
            intro result fits
            rw [(picked item result).mpr fits] at choice
            cases choice
          rw [List.filterMap_cons_none choice, ← induction]
          constructor
          · intro picks
            cases picks with
            | take fits _ => exact absurd fits (unrelated _)
            | skip _ rest => exact rest
          · exact .skip unrelated
      | some result =>
          rw [List.filterMap_cons_some choice]
          constructor
          · intro picks
            cases picks with
            | take fits rest =>
                rw [(picked item _).mpr fits] at choice
                rw [Option.some.inj choice, (induction _).mp rest]
            | skip none _ => exact absurd ((picked item result).mp choice) (none result)
          · intro split
            rw [split]
            exact .take ((picked item result).mp choice) ((induction _).mpr rfl)

theorem PicksEach.eq_nil {α β : Type} {related : α → β → Prop} {items : List α} {results : List β}
    (picks : PicksEach related items results)
    (unrelated : ∀ item result, ¬ related item result) : results = [] := by
  induction picks with
  | nil => rfl
  | take fits _ _ => exact absurd fits (unrelated _ _)
  | skip _ _ induction => exact induction

/-- A call violates the rule on type arguments, the rule is enabled and the call
is looked at; the finding tells the violation. -/
def CallSite.Due (document : Document) (options : AnalysisOptions) (call : Call)
    (finding : Finding) : Prop :=
  options.enabled .interfaceArgument = true ∧
    (call.generated = false ∨ options.analyzeGenerated = true) ∧
    ∃ target type, CallSite.Violation document call target type ∧
      finding = .call (CallSite.describe call target type
        (options.effectiveSeverity .interfaceArgument))

/-- A symbol is a marked method declared in source that violates the rule on
declarations, the rule is enabled and the method is looked at; the finding
tells the violation at the first location. -/
def Declaration.Due (document : Document) (options : AnalysisOptions) (symbol : Symbol)
    (finding : Finding) : Prop :=
  options.enabled .markerDeclaration = true ∧
    ∃ method, symbol = .method method ∧
      (method.generated = false ∨ options.analyzeGenerated = true) ∧ method.Marked ∧
      ∃ location fault, method.locations.head? = some location ∧
        Declaration.Violation document method fault ∧
        finding = .declaration (Declaration.describe method location fault
          (options.effectiveSeverity .markerDeclaration))

def Document.Due (document : Document) (options : AnalysisOptions) (findings : List Finding) :
    Prop :=
  ∃ atCalls atDeclarations,
    PicksEach (CallSite.Due document options) document.calls atCalls ∧
    PicksEach (Declaration.Due document options) document.symbols atDeclarations ∧
    findings.Perm (atCalls ++ atDeclarations)

theorem AnalysisOptions.adjust_call (options : AnalysisOptions) (call : Call) (target : Method)
    (type : TypeSymbol) :
    options.adjust (.call (CallSite.describe call target type .error)) =
      .call (CallSite.describe call target type
        (options.effectiveSeverity .interfaceArgument)) := by
  cases override : options.severity? .interfaceArgument <;>
    simp [adjust, Finding.rule, override, effectiveSeverity, Finding.withSeverity,
      CallSite.describe]

theorem AnalysisOptions.adjust_declaration (options : AnalysisOptions) (method : Method)
    (location : Location) (fault : DeclarationFault) :
    options.adjust (.declaration (Declaration.describe method location fault .error)) =
      .declaration (Declaration.describe method location fault
        (options.effectiveSeverity .markerDeclaration)) := by
  cases override : options.severity? .markerDeclaration <;>
    simp [adjust, Finding.rule, override, effectiveSeverity, Finding.withSeverity,
      Declaration.describe]

namespace Model

theorem callFinding?_eq_some_iff {model : Model} (faithful : model.Faithful)
    (options : AnalysisOptions) (call : Call) (finding : Finding) :
    model.callFinding? options call = some finding ↔
      CallSite.Due model.document options call finding := by
  simp only [callFinding?, Option.ite_none_right_eq_some, Bool.and_eq_true, Bool.or_eq_true,
    Bool.not_eq_true', Option.map_eq_some_iff, CallSite.check_eq_some_iff faithful,
    CallSite.Due]
  constructor
  · intro due
    obtain ⟨⟨enabled, lookedAt⟩, _, ⟨target, type, violation, rfl⟩, rfl⟩ := due
    exact ⟨enabled, lookedAt.symm, target, type, violation, options.adjust_call call target type⟩
  · intro due
    obtain ⟨enabled, lookedAt, target, type, violation, rfl⟩ := due
    exact ⟨⟨enabled, lookedAt.symm⟩, _, ⟨target, type, violation, rfl⟩,
      options.adjust_call call target type⟩

theorem declarationFinding?_eq_some_iff {model : Model} (faithful : model.Faithful)
    (options : AnalysisOptions) (symbol : Symbol) (finding : Finding) :
    model.declarationFinding? options symbol = some finding ↔
      Declaration.Due model.document options symbol finding := by
  simp only [declarationFinding?, Option.bind_eq_some_iff, Symbol.method?_eq_some_iff,
    Option.ite_none_right_eq_some, Bool.and_eq_true, Bool.or_eq_true, Bool.not_eq_true',
    Option.map_eq_some_iff, Declaration.check_eq_some_iff faithful, Declaration.Due]
  constructor
  · intro due
    obtain ⟨method, isMethod, ⟨enabled, lookedAt⟩, _, ⟨marked, location, fault, located,
      violation, rfl⟩, rfl⟩ := due
    exact ⟨enabled, method, isMethod, lookedAt.symm, marked, location, fault, located, violation,
      options.adjust_declaration method location fault⟩
  · intro due
    obtain ⟨enabled, method, isMethod, lookedAt, marked, location, fault, located, violation,
      rfl⟩ := due
    exact ⟨method, isMethod, ⟨enabled, lookedAt.symm⟩, _, ⟨marked, location, fault, located,
      violation, rfl⟩, options.adjust_declaration method location fault⟩

/-- The findings due are determined up to their order. -/
theorem due_iff_perm {model : Model} (faithful : model.Faithful) (options : AnalysisOptions)
    (findings : List Finding) :
    model.document.Due options findings ↔ findings.Perm (model.analyze options) := by
  have atCalls := picksEach_iff_eq_filterMap (model.callFinding?_eq_some_iff faithful options)
  have atDeclarations :=
    picksEach_iff_eq_filterMap (model.declarationFinding?_eq_some_iff faithful options)
  simp only [Document.Due, atCalls, atDeclarations]
  constructor
  · intro picks
    obtain ⟨_, _, rfl, rfl, same⟩ := picks
    exact same.trans (model.analyze_perm options).symm
  · intro same
    exact ⟨_, _, rfl, rfl, same.trans (model.analyze_perm options)⟩

end Model

/-- An analysis of a document with pairwise different keys is in order and
reports exactly the findings that are due. -/
theorem analyze_reports_exactly_due (document : Document) (options : AnalysisOptions)
    (distinct : (document.symbols.map Symbol.key).Nodup) :
    ∃ model, Model.ofDocument document = .ok model ∧
      Finding.Ascending (model.analyze options) ∧
      ∀ findings, document.Due options findings ↔ findings.Perm (model.analyze options) := by
  obtain ⟨model, built⟩ := Model.ofDocument_isOk_iff_nodup.mpr distinct
  have faithful := Model.ofDocument_faithful built
  refine ⟨model, built, Finding.sorted_ascending _, ?_⟩
  intro findings
  rw [← Model.ofDocument_document built]
  exact Model.due_iff_perm faithful options findings

/-- A marked method that lacks a constraint, a marked caller, and calls with a
class from outside, from the marked caller and from generated code. -/
def delegatingDocument : Document :=
  let marker : Attribute := ⟨some markerName⟩
  let call : Call :=
    { target := some "M:Use", typeArguments := ["Logger"], location := ⟨"a.cs", 9, 5, none⟩ }
  { symbols := [
      .type { name := "IService", kind := .interfaceType },
      .type { name := "Logger", kind := .classType },
      .method { id := "M:Use", name := "Use", typeParameters := [{ name := "T" }],
                attributes := [⟨none⟩, marker], locations := [⟨"a.cs", 3, 17, none⟩] },
      .method { id := "M:Outer", name := "Outer", attributes := [marker],
                typeParameters := [{ name := "T", constraints := ["Logger", "IService"] }],
                locations := [⟨"a.cs", 5, 17, none⟩] }]
    calls := [call, call, { call with enclosingMethod := some "M:Outer" },
      { call with generated := true }, { call with typeArguments := ["IService"] }] }

theorem delegatingDocument_reports_exactly_due :
    (delegatingDocument.symbols.map Symbol.key).Nodup ∧
      ∃ model, Model.ofDocument delegatingDocument = .ok model ∧
        Finding.Ascending (model.analyze .default) ∧
        ∀ findings, delegatingDocument.Due .default findings ↔
          findings.Perm (model.analyze .default) :=
  ⟨by decide, analyze_reports_exactly_due delegatingDocument .default (by decide)⟩

end InterfaceLint
