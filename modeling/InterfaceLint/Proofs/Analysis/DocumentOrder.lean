import InterfaceLint.CheckRun
import InterfaceLint.Proofs.Analysis.Lookups
import InterfaceLint.Proofs.Finding.Ties
import InterfaceLint.Report.Json

/-!
# Analysis of rearranged documents

The order in which a document lists symbols and calls does not matter to what is
found, nor to the place, rule and message at each position of the result.  It
does matter to findings that compare equal: they stand in the order of their
calls, so a result is the same for every order of the calls exactly when such
findings are equal.
-/

set_option autoImplicit false

namespace InterfaceLint

namespace Model

/-! ## Other orders of symbols and calls -/

section

variable {model rearranged : Model} (faithful : model.Faithful)
  (rearrangedFaithful : rearranged.Faithful)
  (symbols : rearranged.document.symbols.Perm model.document.symbols)
include faithful rearrangedFaithful symbols

theorem answersLike_of_perm : model.AnswersLike rearranged := by
  have listed : ∀ symbol, symbol ∈ rearranged.document.symbols ↔
      ∃ original ∈ model.document.symbols, id original = symbol := by
    intro symbol
    simp [symbols.mem_iff]
  exact faithful.answersLike rearrangedFaithful (fun _ => rfl) listed (fun _ => rfl) (fun _ => rfl)

theorem findings_perm_of_perm (calls : rearranged.document.calls.Perm model.document.calls)
    (options : AnalysisOptions) :
    (rearranged.document.calls.filterMap (rearranged.callFinding? options) ++
        rearranged.document.symbols.filterMap (rearranged.declarationFinding? options)).Perm
      (model.document.calls.filterMap (model.callFinding? options) ++
        model.document.symbols.filterMap (model.declarationFinding? options)) := by
  have alike := answersLike_of_perm faithful rearrangedFaithful symbols
  have sameCalls : rearranged.callFinding? options = model.callFinding? options :=
    funext fun call => (alike.callFinding?_eq options call).symm
  have sameDeclarations :
      rearranged.declarationFinding? options = model.declarationFinding? options :=
    funext fun symbol => (alike.declarationFinding?_eq options symbol).symm
  rw [sameCalls, sameDeclarations]
  exact (calls.filterMap _).append (symbols.filterMap _)

end

end Model

/-- The comparison of findings is a total preorder, and the order of symbols and
calls in a document changes the result only among findings that compare equal. -/
theorem analyze_of_rearranged_document :
    (∀ first second : Finding,
      Finding.order second first = (Finding.order first second).swap) ∧
    (∀ (first second third : Finding) (outcome : Ordering),
      Finding.order first second = outcome → Finding.order second third = outcome →
        Finding.order first third = outcome) ∧
    (∀ first second third : Finding,
      (Finding.order first second).isLE → (Finding.order second third).isLE →
        (Finding.order first third).isLE) ∧
    ∀ (document other : Document) (model : Model), Model.ofDocument document = .ok model →
      other.symbols.Perm document.symbols → other.calls.Perm document.calls →
        ∃ rearranged, Model.ofDocument other = .ok rearranged ∧
          ∀ options : AnalysisOptions,
            (rearranged.analyze options).Perm (model.analyze options) ∧
            (rearranged.analyze options).map Finding.compared =
              (model.analyze options).map Finding.compared := by
  refine ⟨fun first second => Std.OrientedCmp.eq_swap, ?_, fun first second third =>
    Std.TransCmp.isLE_trans, ?_⟩
  · intro first second third outcome left right
    cases outcome with
    | lt => exact Std.TransCmp.lt_trans left right
    | eq => exact Std.TransCmp.eq_trans left right
    | gt => exact Std.TransCmp.gt_trans left right
  · intro document other model built symbols calls
    have distinct := Model.ofDocument_isOk_iff_nodup.mp ⟨model, built⟩
    have otherDistinct := (symbols.map Symbol.key).nodup_iff.mpr distinct
    obtain ⟨rearranged, otherBuilt⟩ := Model.ofDocument_isOk_iff_nodup.mpr otherDistinct
    refine ⟨rearranged, otherBuilt, ?_⟩
    intro options
    have sameDocument := Model.ofDocument_document built
    have sameOther := Model.ofDocument_document otherBuilt
    subst sameDocument sameOther
    have perm := Model.findings_perm_of_perm (Model.ofDocument_faithful built)
      (Model.ofDocument_faithful otherBuilt) symbols calls options
    rw [Model.analyze_eq_sorted, Model.analyze_eq_sorted]
    refine ⟨?_, Finding.sorted_map_compared_eq_of_perm perm⟩
    exact (Finding.sorted_perm _).trans (perm.trans (Finding.sorted_perm _).symm)

theorem delegatingDocument_rearranged :
    let other : Document :=
      { symbols := delegatingDocument.symbols.reverse, calls := delegatingDocument.calls.reverse }
    ∃ model rearranged, Model.ofDocument delegatingDocument = .ok model ∧
      Model.ofDocument other = .ok rearranged ∧
      (rearranged.analyze .default).Perm (model.analyze .default) ∧
      (rearranged.analyze .default).map Finding.compared =
        (model.analyze .default).map Finding.compared := by
  intro other
  obtain ⟨model, built⟩ := (@Model.ofDocument_isOk_iff_nodup delegatingDocument).mpr (by decide)
  obtain ⟨rearranged, otherBuilt, reports⟩ :=
    analyze_of_rearranged_document.2.2.2 delegatingDocument other model built
      (List.reverse_perm _) (List.reverse_perm _)
  exact ⟨model, rearranged, built, otherBuilt, reports .default⟩

/-! ## Findings that compare equal -/

theorem AnalysisOptions.adjust_rule (options : AnalysisOptions) (finding : Finding) :
    (options.adjust finding).rule = finding.rule := by
  unfold adjust
  split
  · cases finding <;> rfl
  · rfl

theorem Finding.exists_call_of_rule {finding : Finding}
    (isCall : finding.rule = .interfaceArgument) : ∃ reported, finding = .call reported := by
  cases finding with
  | call reported => exact ⟨reported, rfl⟩
  | declaration reported => cases isCall
  | unreadable model => cases isCall

namespace Model

variable {model : Model} {options : AnalysisOptions}

theorem rule_of_callFinding? {call : Call} {finding : Finding}
    (found : model.callFinding? options call = some finding) :
    finding.rule = .interfaceArgument := by
  rw [callFinding?, Option.ite_none_right_eq_some, Option.map_eq_some_iff] at found
  obtain ⟨_, reported, _, rfl⟩ := found
  exact options.adjust_rule (.call reported)

theorem rule_of_declarationFinding? {symbol : Symbol} {finding : Finding}
    (found : model.declarationFinding? options symbol = some finding) :
    finding.rule = .markerDeclaration := by
  obtain ⟨method, _, found⟩ := Option.bind_eq_some_iff.mp found
  rw [Option.ite_none_right_eq_some, Option.map_eq_some_iff] at found
  obtain ⟨_, reported, _, rfl⟩ := found
  exact options.adjust_rule (.declaration reported)

theorem call_mem_analyze_iff {finding : CallFinding} :
    Finding.call finding ∈ model.analyze options ↔
      ∃ call ∈ model.document.calls, model.callFinding? options call = some (.call finding) := by
  rw [(model.analyze_perm options).mem_iff, List.mem_append, List.mem_filterMap, or_iff_left]
  intro atDeclaration
  obtain ⟨symbol, _, found⟩ := List.mem_filterMap.mp atDeclaration
  cases rule_of_declarationFinding? found

/-- The index is not concerned with the calls. -/
theorem ofDocument_with_calls {document : Document} (built : ofDocument document = .ok model)
    (calls : List Call) :
    ofDocument { document with calls } =
      .ok { document := { document with calls }, index := model.index } := by
  obtain ⟨index, indexed, rfl⟩ := ofDocument_eq_ok_iff.mp built
  exact ofDocument_eq_ok_iff.mpr ⟨index, indexed, rfl⟩

theorem analyze_with_calls (calls : List Call) :
    Model.analyze { document := { model.document with calls }, index := model.index } options =
      Finding.sorted (calls.filterMap (model.callFinding? options) ++
        model.document.symbols.filterMap (model.declarationFinding? options)) := by
  have alike : model.AnswersLike
      { document := { model.document with calls }, index := model.index } :=
    ⟨fun _ => rfl, fun _ => rfl⟩
  rw [analyze_eq_sorted, funext (alike.callFinding?_eq options),
    funext (alike.declarationFinding?_eq options)]

def CallTiesEqual (model : Model) (options : AnalysisOptions) : Prop :=
  ∀ first second : CallFinding, Finding.call first ∈ model.analyze options →
    Finding.call second ∈ model.analyze options →
    first.location.file = second.location.file → first.location.line = second.location.line →
    first.location.col = second.location.col → first = second

theorem analyze_calls_order_iff :
    (∀ calls : List Call, calls.Perm model.document.calls →
      Finding.sorted (calls.filterMap (model.callFinding? options) ++
        model.document.symbols.filterMap (model.declarationFinding? options)) =
      model.analyze options) ↔ model.CallTiesEqual options := by
  constructor
  · intro alike first second firstReported secondReported file line col
    have tied := Finding.order_call_eq_iff.mpr ⟨file, line, col⟩
    obtain ⟨firstCall, firstListed, firstFound⟩ := call_mem_analyze_iff.mp firstReported
    obtain ⟨secondCall, secondListed, secondFound⟩ := call_mem_analyze_iff.mp secondReported
    -- Each of the two calls is put in front, so its finding is the first of its ties.
    have firstFront := alike _ (List.perm_cons_erase firstListed).symm
    have secondFront := alike _ (List.perm_cons_erase secondListed).symm
    rw [List.filterMap_cons_some firstFound, List.cons_append] at firstFront
    rw [List.filterMap_cons_some secondFound, List.cons_append] at secondFront
    exact Finding.call.inj (Finding.eq_of_sorted_cons_eq tied (firstFront.trans secondFront.symm))
  · intro tiesEqual calls perm
    rw [analyze_eq_sorted]
    apply (@Finding.sorted_surrounded_eq_iff [] _ _ _).mpr
    apply Finding.sorted_eq_of_perm (perm.filterMap _)
    intro first firstMember second secondMember tied
    obtain ⟨firstCall, firstListed, firstFound⟩ := List.mem_filterMap.mp firstMember
    obtain ⟨secondCall, secondListed, secondFound⟩ := List.mem_filterMap.mp secondMember
    obtain ⟨first, rfl⟩ := Finding.exists_call_of_rule (rule_of_callFinding? firstFound)
    obtain ⟨second, rfl⟩ := Finding.exists_call_of_rule (rule_of_callFinding? secondFound)
    obtain ⟨file, line, col⟩ := Finding.order_call_eq_iff.mp tied
    rw [tiesEqual first second (call_mem_analyze_iff.mpr ⟨firstCall, firstListed, firstFound⟩)
      (call_mem_analyze_iff.mpr ⟨secondCall, secondListed, secondFound⟩) file line col]

end Model

/-- In the result over several models each one shows as its analysis does. -/
theorem CheckContext.result_eq_iff (context : CheckContext) (options : AnalysisOptions)
    (before after : List LoadedModel) (failures : List UnreadableModel) (path : String)
    (model other : Model) :
    context.result options { models := before ++ { path, model := other } :: after, failures } =
        context.result options { models := before ++ { path, model } :: after, failures } ↔
      other.analyze options = model.analyze options := by
  have inOrder (model : Model) :
      Finding.sorted (model.analyze options) = model.analyze options :=
    Finding.sorted_eq_self (Finding.sorted_ascending _)
  simp only [result, CheckResult.ofFindings, CheckResult.mk.injEq, and_true, List.flatMap_append,
    List.flatMap_cons, List.append_assoc, Finding.sorted_surrounded_eq_iff, inOrder]

/-- Findings compare equal when they are of one kind and agree in place and, for
declarations, in the method; whole files only when they are equal.  Lists of
findings are sorted into the same when such findings stand alike in them, and the
order of the calls does not show in a result exactly when the findings at calls of
one place are equal. -/
theorem ties_stand_as_found :
    (∀ first second : Finding, Finding.order first second = .eq ↔ Finding.Tied first second) ∧
    (∀ left right : List Finding, Finding.sorted left = Finding.sorted right ↔
      ∀ finding, Finding.tiedWith finding left = Finding.tiedWith finding right) ∧
    (∀ findings : List Finding,
      (∀ other : List Finding, other.Perm findings →
        Finding.sorted other = Finding.sorted findings) ↔
      ∀ first ∈ findings, ∀ second ∈ findings,
        Finding.order first second = .eq → first = second) ∧
    ∀ (document : Document) (model : Model) (options : AnalysisOptions),
      Model.ofDocument document = .ok model →
      ((∀ calls : List Call, calls.Perm document.calls →
        ∃ rearranged, Model.ofDocument { document with calls } = .ok rearranged ∧
          rearranged.analyze options = model.analyze options) ↔ model.CallTiesEqual options) ∧
      ∀ (context : CheckContext) (before after : List LoadedModel)
        (failures : List UnreadableModel) (path : String) (other : Model),
        context.result options { models := before ++ { path, model := other } :: after, failures } =
            context.result options { models := before ++ { path, model } :: after, failures } ↔
          other.analyze options = model.analyze options := by
  refine ⟨fun _ _ => Finding.order_eq_iff_tied, fun _ _ => Finding.sorted_eq_iff_tiedWith_eq,
    fun _ => Finding.sorted_arrangements_eq_iff, ?_⟩
  intro document model options built
  refine ⟨?_, fun context before after failures path other =>
    context.result_eq_iff options before after failures path model other⟩
  have sameDocument := Model.ofDocument_document built
  subst sameDocument
  simp only [Model.ofDocument_with_calls built, Except.ok.injEq, exists_eq_left',
    Model.analyze_with_calls, Model.analyze_calls_order_iff]

/-! ## Calls that begin at one place -/

def chainedTarget : Method :=
  { id := "M:Use", name := "Use", typeParameters := [{ name := "T" }],
    attributes := [⟨some markerName⟩] }

def chainedCall (argument : String) : Call :=
  { target := some "M:Use", typeArguments := [argument], location := ⟨"a.cs", 9, 5, none⟩ }

def chainedDocument : Document :=
  { symbols := [.type { name := "Logger", kind := .classType },
      .type { name := "Point", kind := .structType }, .method chainedTarget]
    calls := [chainedCall "Logger", chainedCall "Point"] }

theorem ties_stand_as_found_chainedDocument :
    ∃ model, Model.ofDocument chainedDocument = .ok model ∧
      ((∀ calls : List Call, calls.Perm chainedDocument.calls →
        ∃ rearranged, Model.ofDocument { chainedDocument with calls } = .ok rearranged ∧
          rearranged.analyze .default = model.analyze .default) ↔
        model.CallTiesEqual .default) := by
  obtain ⟨model, built⟩ := (@Model.ofDocument_isOk_iff_nodup chainedDocument).mpr (by decide)
  exact ⟨model, built, (ties_stand_as_found.2.2.2 chainedDocument model .default built).1⟩

def chainedFinding (argument : String) (kind : TypeKind) : Finding :=
  .call { location := ⟨"a.cs", 9, 5, none⟩, method := "Use", typeArgument := argument, kind,
          severity := .error }

theorem chainedFinding_ascending (first second : String) (firstKind secondKind : TypeKind) :
    Finding.Ascending [chainedFinding first firstKind, chainedFinding second secondKind] := by
  refine List.pairwise_pair.mpr (le_of_eq ?_)
  rfl

theorem chainedDocument_callFinding? {model : Model}
    (built : Model.ofDocument chainedDocument = .ok model) {argument : String} {kind : TypeKind}
    (listed : Symbol.type { name := argument, kind } ∈ chainedDocument.symbols)
    (notInterface : kind ≠ .interfaceType) :
    model.callFinding? .default (chainedCall argument) = some (chainedFinding argument kind) := by
  rw [Model.callFinding?_eq_some_iff (Model.ofDocument_faithful built),
    Model.ofDocument_document built]
  refine ⟨rfl, .inl rfl, chainedTarget, { name := argument, kind }, ?_, rfl⟩
  exact {
    targetListed := by decide
    targetNamed := rfl
    generic := by decide
    marked := ⟨⟨some markerName⟩, List.mem_singleton_self _, rfl⟩
    notExempt := by
      rintro ⟨caller, _, named, _⟩
      cases named
    typeListed := listed
    typeNamed := rfl
    notInterface }

/-- Chained calls in either order. -/
theorem chainedDocument_analyze {model : Model}
    (built : Model.ofDocument chainedDocument = .ok model) {first second : String}
    {firstKind secondKind : TypeKind}
    (firstFound : model.callFinding? .default (chainedCall first) =
      some (chainedFinding first firstKind))
    (secondFound : model.callFinding? .default (chainedCall second) =
      some (chainedFinding second secondKind)) :
    Model.analyze
        { document := { chainedDocument with calls := [chainedCall first, chainedCall second] }
          index := model.index } .default =
      [chainedFinding first firstKind, chainedFinding second secondKind] := by
  have analysis := @Model.analyze_with_calls model .default [chainedCall first, chainedCall second]
  have noDeclarations :
      chainedDocument.symbols.filterMap (model.declarationFinding? .default) = [] := rfl
  rw [Model.ofDocument_document built, noDeclarations, List.filterMap_cons_some firstFound,
    List.filterMap_cons_some secondFound] at analysis
  exact analysis.trans (Finding.sorted_eq_self (chainedFinding_ascending _ _ _ _))

/-- The two findings compare equal and differ, and they are reported in the order
of the calls. -/
theorem chainedDocument_reports_in_call_order :
    let atLogger := chainedFinding "Logger" .classType
    let atPoint := chainedFinding "Point" .structType
    (Finding.order atLogger atPoint = .eq ∧ atLogger ≠ atPoint) ∧
      Finding.sorted [atLogger, atPoint] ≠ Finding.sorted [atPoint, atLogger] ∧
      Report.json [atLogger, atPoint] ≠ Report.json [atPoint, atLogger] ∧
      ∃ model swapped, Model.ofDocument chainedDocument = .ok model ∧
        Model.ofDocument { chainedDocument with calls := chainedDocument.calls.reverse } =
          .ok swapped ∧
        model.analyze .default = [atLogger, atPoint] ∧
        swapped.analyze .default = [atPoint, atLogger] := by
  intro atLogger atPoint
  have asFound : Finding.sorted [atLogger, atPoint] = [atLogger, atPoint] :=
    Finding.sorted_eq_self (chainedFinding_ascending _ _ _ _)
  have swappedAsFound : Finding.sorted [atPoint, atLogger] = [atPoint, atLogger] :=
    Finding.sorted_eq_self (chainedFinding_ascending _ _ _ _)
  have tied : Finding.order atLogger atPoint = .eq :=
    Finding.order_eq_iff_tied.mpr (.calls rfl rfl rfl)
  refine ⟨⟨tied, by decide⟩, ?_, by decide +kernel, ?_⟩
  · rw [asFound, swappedAsFound]
    decide
  · obtain ⟨model, built⟩ := (@Model.ofDocument_isOk_iff_nodup chainedDocument).mpr (by decide)
    have loggerFound := @chainedDocument_callFinding? model built "Logger" .classType (by decide)
      (by decide)
    have pointFound := @chainedDocument_callFinding? model built "Point" .structType (by decide)
      (by decide)
    exact ⟨_, _, Model.ofDocument_with_calls built _, Model.ofDocument_with_calls built _,
      chainedDocument_analyze built loggerFound pointFound,
      chainedDocument_analyze built pointFound loggerFound⟩

end InterfaceLint
