import InterfaceLint.Proofs.Analysis.Exactness
import Mathlib.Data.List.Perm.Subperm

/-!
# Analysis of documents with missing symbols

A document may lack symbols that the compiler knew.  Of the facts a rule asks
for, all but one are that a symbol is listed; those can only get lost.  The
one exception is that no marked method is listed around a call.  So taking
symbols away adds no finding, except at calls that lose their exemption.
-/

set_option autoImplicit false

namespace InterfaceLint

/-- A marked method around the call is listed in the document but not kept. -/
def CallSite.LosesExemption (document : Document) (kept : List Symbol) (call : Call) : Prop :=
  ∃ caller, Symbol.method caller ∈ document.symbols ∧ Symbol.method caller ∉ kept ∧
    call.enclosingMethod = some caller.id ∧ caller.Marked

section Deletion

variable {document : Document} {kept : List Symbol} (subset : kept ⊆ document.symbols)
include subset

theorem Declaration.Violation.of_kept {method : Method} {fault : DeclarationFault}
    (violation : Declaration.Violation { document with symbols := kept } method fault) :
    Declaration.Violation document method fault := by
  cases violation with
  | notGeneric absent => exact .notGeneric absent
  | noInterfaceConstraint parameter first known =>
      refine .noInterfaceConstraint parameter first ?_
      intro constraint member
      obtain ⟨type, listed, named, notInterface⟩ := known constraint member
      exact ⟨type, subset listed, named, notInterface⟩

theorem CallSite.Violation.of_kept {call : Call} {target : Method} {type : TypeSymbol}
    (violation : CallSite.Violation { document with symbols := kept } call target type)
    (keepsExemption : ¬ CallSite.LosesExemption document kept call) :
    CallSite.Violation document call target type := by
  refine { violation with
    targetListed := subset violation.targetListed
    typeListed := subset violation.typeListed
    notExempt := ?_ }
  intro exempt
  obtain ⟨caller, listed, named, marked⟩ := exempt
  by_cases callerKept : Symbol.method caller ∈ kept
  · exact violation.notExempt ⟨caller, callerKept, named, marked⟩
  · exact keepsExemption ⟨caller, listed, callerKept, named, marked⟩

theorem Declaration.Due.of_kept {options : AnalysisOptions} {symbol : Symbol} {finding : Finding}
    (due : Declaration.Due { document with symbols := kept } options symbol finding) :
    Declaration.Due document options symbol finding := by
  obtain ⟨enabled, method, isMethod, lookedAt, marked, location, fault, located, violation, told⟩ :=
    due
  exact ⟨enabled, method, isMethod, lookedAt, marked, location, fault, located,
    violation.of_kept subset, told⟩

theorem CallSite.Due.of_kept {options : AnalysisOptions} {call : Call} {finding : Finding}
    (due : CallSite.Due { document with symbols := kept } options call finding)
    (keepsExemption : ¬ CallSite.LosesExemption document kept call) :
    CallSite.Due document options call finding := by
  obtain ⟨enabled, lookedAt, target, type, violation, told⟩ := due
  exact ⟨enabled, lookedAt, target, type, violation.of_kept subset keepsExemption, told⟩

end Deletion

theorem filterMap_sublist_filterMap {α β : Type} {narrow wide : α → Option β} :
    ∀ {items : List α}, (∀ item ∈ items, ∀ result, narrow item = some result →
      wide item = some result) → (items.filterMap narrow).Sublist (items.filterMap wide) := by
  intro items
  induction items with
  | nil => intro _; exact .slnil
  | cons item items induction =>
      intro widens
      have rest := induction fun other member => widens other (List.mem_cons_of_mem item member)
      cases choice : narrow item with
      | none =>
          rw [List.filterMap_cons_none choice]
          exact rest.trans ((List.sublist_cons_self item items).filterMap wide)
      | some result =>
          rw [List.filterMap_cons_some choice,
            List.filterMap_cons_some (widens item List.mem_cons_self result choice)]
          exact rest.cons_cons result

namespace Model

variable {model reduced : Model} (faithful : model.Faithful) (reducedFaithful : reduced.Faithful)
  (reduction : reduced.document = { model.document with symbols := reduced.document.symbols })
  (sublist : reduced.document.symbols.Sublist model.document.symbols)
include faithful reducedFaithful reduction sublist

theorem declarationFindings_sublist (options : AnalysisOptions) :
    (reduced.document.symbols.filterMap (reduced.declarationFinding? options)).Sublist
      (model.document.symbols.filterMap (model.declarationFinding? options)) := by
  refine List.Sublist.trans ?_ (sublist.filterMap (model.declarationFinding? options))
  apply filterMap_sublist_filterMap
  intro symbol _ finding found
  rw [declarationFinding?_eq_some_iff reducedFaithful, reduction] at found
  rw [declarationFinding?_eq_some_iff faithful]
  exact found.of_kept sublist.subset

/-- What is reported at calls that keep their exemption was reported before. -/
theorem callFindings_sublist (options : AnalysisOptions) {calls : List Call}
    (keepExemption : ∀ call ∈ calls,
      ¬ CallSite.LosesExemption model.document reduced.document.symbols call) :
    (calls.filterMap (reduced.callFinding? options)).Sublist
      (calls.filterMap (model.callFinding? options)) := by
  apply filterMap_sublist_filterMap
  intro call member finding found
  rw [callFinding?_eq_some_iff reducedFaithful, reduction] at found
  rw [callFinding?_eq_some_iff faithful]
  exact found.of_kept sublist.subset (keepExemption call member)

/-- The findings after a reduction are findings at calls that lost their
exemption and findings reported before. -/
theorem analyze_reduced_perm (options : AnalysisOptions) :
    ∃ exceptions others, (reduced.analyze options).Perm (exceptions ++ others) ∧
      others.Subperm (model.analyze options) ∧
      PicksEach (fun call finding =>
        CallSite.LosesExemption model.document reduced.document.symbols call ∧
          CallSite.Due reduced.document options call finding) model.document.calls exceptions := by
  classical
  have sameCalls : reduced.document.calls = model.document.calls := by rw [reduction]
  let loses : Call → Bool := fun call =>
    CallSite.LosesExemption model.document reduced.document.symbols call
  let exceptions := (model.document.calls.filter loses).filterMap (reduced.callFinding? options)
  let stay := (model.document.calls.filter fun call => !loses call).filterMap
    (reduced.callFinding? options)
  let declarations :=
    reduced.document.symbols.filterMap (reduced.declarationFinding? options)
  refine ⟨exceptions, stay ++ declarations, ?_, ?_, ?_⟩
  · have split := (List.filter_append_perm loses model.document.calls).filterMap
      (reduced.callFinding? options)
    rw [List.filterMap_append] at split
    rw [← List.append_assoc]
    refine (reduced.analyze_perm options).trans ?_
    rw [sameCalls]
    exact split.symm.append_right declarations
  · have stays : stay.Sublist (model.document.calls.filterMap (model.callFinding? options)) := by
      refine (callFindings_sublist faithful reducedFaithful reduction sublist options ?_).trans
        (List.filter_sublist.filterMap (model.callFinding? options))
      intro call member
      simpa [loses] using (List.mem_filter.mp member).2
    have together := stays.append
      (declarationFindings_sublist faithful reducedFaithful reduction sublist options)
    exact together.subperm.trans (model.analyze_perm options).symm.subperm
  · have picked : ∀ call finding,
        (if loses call then reduced.callFinding? options call else none) = some finding ↔
          CallSite.LosesExemption model.document reduced.document.symbols call ∧
            CallSite.Due reduced.document options call finding := by
      intro call finding
      rw [Option.ite_none_right_eq_some, callFinding?_eq_some_iff reducedFaithful]
      simp [loses]
    exact (picksEach_iff_eq_filterMap picked _ _).mpr List.filterMap_filter

end Model

/-- Taking symbols away leaves a document that can be indexed.  Its analysis
reports nothing new, except at calls whose marked enclosing method was taken
away; so nothing new at all when every marked method is kept. -/
theorem analyze_of_kept_symbols (document : Document) (model : Model) (kept : List Symbol)
    (built : Model.ofDocument document = .ok model) (sublist : kept.Sublist document.symbols) :
    ∃ reduced, Model.ofDocument { document with symbols := kept } = .ok reduced ∧
      ∀ options : AnalysisOptions,
        (∃ exceptions others, (reduced.analyze options).Perm (exceptions ++ others) ∧
          others.Subperm (model.analyze options) ∧
          PicksEach (fun call finding => CallSite.LosesExemption document kept call ∧
            CallSite.Due { document with symbols := kept } options call finding)
            document.calls exceptions) ∧
        ((∀ method, Symbol.method method ∈ document.symbols → method.Marked →
            Symbol.method method ∈ kept) →
          (reduced.analyze options).Subperm (model.analyze options)) := by
  have distinct := Model.ofDocument_isOk_iff_nodup.mp ⟨model, built⟩
  have keptDistinct : (kept.map Symbol.key).Nodup := distinct.sublist (sublist.map Symbol.key)
  obtain ⟨reduced, reducedBuilt⟩ :=
    (@Model.ofDocument_isOk_iff_nodup { document with symbols := kept }).mpr keptDistinct
  refine ⟨reduced, reducedBuilt, ?_⟩
  intro options
  have modelDocument := Model.ofDocument_document built
  have reducedDocument := Model.ofDocument_document reducedBuilt
  subst modelDocument
  have reduction : reduced.document =
      { model.document with symbols := reduced.document.symbols } := by rw [reducedDocument]
  have split := Model.analyze_reduced_perm (Model.ofDocument_faithful built)
    (Model.ofDocument_faithful reducedBuilt) reduction (by rwa [reducedDocument]) options
  rw [reducedDocument] at split
  refine ⟨split, ?_⟩
  intro markedKept
  obtain ⟨exceptions, others, perm, subperm, picks⟩ := split
  have none : exceptions = [] := by
    apply picks.eq_nil
    intro call finding exception
    obtain ⟨⟨caller, listed, notKept, _, marked⟩, _⟩ := exception
    exact notKept (markedKept caller listed marked)
  rw [none, List.nil_append] at perm
  exact perm.subperm.trans subperm

def withoutCaller : List Symbol :=
  delegatingDocument.symbols.filter fun symbol => symbol.key ∉ ["IService", "M:Outer"]

theorem delegatingDocument_of_kept_symbols :
    ∃ model, Model.ofDocument delegatingDocument = .ok model ∧
      withoutCaller.Sublist delegatingDocument.symbols ∧
      ∃ reduced, Model.ofDocument { delegatingDocument with symbols := withoutCaller } =
          .ok reduced ∧
        ∃ exceptions others, (reduced.analyze .default).Perm (exceptions ++ others) ∧
          others.Subperm (model.analyze .default) ∧
          PicksEach (fun call finding =>
            CallSite.LosesExemption delegatingDocument withoutCaller call ∧
              CallSite.Due { delegatingDocument with symbols := withoutCaller } .default call
                finding) delegatingDocument.calls exceptions := by
  obtain ⟨model, built⟩ := (@Model.ofDocument_isOk_iff_nodup delegatingDocument).mpr (by decide)
  have sublist : withoutCaller.Sublist delegatingDocument.symbols := List.filter_sublist
  obtain ⟨reduced, reducedBuilt, reports⟩ :=
    analyze_of_kept_symbols delegatingDocument model withoutCaller built sublist
  exact ⟨model, built, sublist, reduced, reducedBuilt, (reports .default).1⟩

end InterfaceLint
