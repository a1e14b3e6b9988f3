import InterfaceLint.Proofs.Analysis.Lookups
import Mathlib.Data.Finset.Sort

/-!
# What an analysis does not read

Of a method the rules read its first location, whether it is marked, and its
first type parameter with the set of its constraints; of a call they read its
first type argument.  A document can be cut down to that.  The analysis of the
document left over is the analysis of the whole, and documents that agree in
what is read are cut down to one document.
-/

set_option autoImplicit false

namespace InterfaceLint

/-! ## Documents that agree in what is read -/

structure TypeParameter.ReadsLike (first second : TypeParameter) : Prop where
  name : first.name = second.name
  constraints : ∀ constraint, constraint ∈ first.constraints ↔ constraint ∈ second.constraints

structure Method.ReadsLike (first second : Method) : Prop where
  id : first.id = second.id
  name : first.name = second.name
  generated : first.generated = second.generated
  marked : first.Marked ↔ second.Marked
  location : first.locations.head? = second.locations.head?
  parameter : Option.Rel TypeParameter.ReadsLike first.typeParameters.head?
    second.typeParameters.head?

structure TypeSymbol.ReadsLike (first second : TypeSymbol) : Prop where
  name : first.name = second.name
  kind : first.kind = second.kind

inductive Symbol.ReadsLike : Symbol → Symbol → Prop
  | method {first second : Method} (alike : first.ReadsLike second) :
      ReadsLike (.method first) (.method second)
  | type {first second : TypeSymbol} (alike : first.ReadsLike second) :
      ReadsLike (.type first) (.type second)

structure Call.ReadsLike (first second : Call) : Prop where
  target : first.target = second.target
  typeArgument : first.typeArguments.head? = second.typeArguments.head?
  enclosingMethod : first.enclosingMethod = second.enclosingMethod
  location : first.location = second.location
  generated : first.generated = second.generated

structure Document.ReadsLike (first second : Document) : Prop where
  symbols : List.Forall₂ Symbol.ReadsLike first.symbols second.symbols
  calls : List.Forall₂ Call.ReadsLike first.calls second.calls

/-! ## Documents cut down to what is read -/

def TypeParameter.cutDown (parameter : TypeParameter) : TypeParameter :=
  { parameter with constraints := parameter.constraints.toFinset.sort }

def Method.cutDown (method : Method) : Method :=
  { method with
    typeParameters := (method.typeParameters.head?.map TypeParameter.cutDown).toList
    attributes := if method.isMarked then [⟨some markerName⟩] else []
    locations := method.locations.head?.toList }

def Symbol.cutDown : Symbol → Symbol
  | .method declared => .method declared.cutDown
  | .type resolved => .type { resolved with attributes := [] }

def Call.cutDown (call : Call) : Call :=
  { call with typeArguments := call.typeArguments.head?.toList }

def Document.cutDown (document : Document) : Document :=
  { symbols := document.symbols.map Symbol.cutDown
    calls := document.calls.map Call.cutDown }

theorem TypeParameter.mem_cutDown_constraints {parameter : TypeParameter} {constraint : String} :
    constraint ∈ parameter.cutDown.constraints ↔ constraint ∈ parameter.constraints := by
  simp [cutDown]

theorem TypeParameter.ReadsLike.cutDown_eq {first second : TypeParameter}
    (alike : first.ReadsLike second) : first.cutDown = second.cutDown := by
  have sameSet : first.constraints.toFinset = second.constraints.toFinset := by
    ext constraint
    rw [List.mem_toFinset, List.mem_toFinset]
    exact alike.constraints constraint
  rw [cutDown, cutDown, alike.name, sameSet]

theorem Method.ReadsLike.cutDown_eq {first second : Method} (alike : first.ReadsLike second) :
    first.cutDown = second.cutDown := by
  have marked : first.isMarked = second.isMarked := by
    rw [Bool.eq_iff_iff, Method.isMarked_iff, Method.isMarked_iff]
    exact alike.marked
  have parameter : first.typeParameters.head?.map TypeParameter.cutDown =
      second.typeParameters.head?.map TypeParameter.cutDown := by
    rcases first.typeParameters.head?, second.typeParameters.head?, alike.parameter with
      ⟨_, _, related | _⟩
    · rw [Option.map_some, Option.map_some, related.cutDown_eq]
    · rfl
  rw [cutDown, cutDown, alike.id, alike.name, alike.generated, alike.location, marked, parameter]

theorem Symbol.ReadsLike.cutDown_eq {first second : Symbol} (alike : first.ReadsLike second) :
    first.cutDown = second.cutDown := by
  cases alike with
  | method alike => rw [cutDown, cutDown, alike.cutDown_eq]
  | type alike => rw [cutDown, cutDown, alike.name, alike.kind]

theorem Call.ReadsLike.cutDown_eq {first second : Call} (alike : first.ReadsLike second) :
    first.cutDown = second.cutDown := by
  rw [cutDown, cutDown, alike.target, alike.typeArgument, alike.enclosingMethod, alike.location,
    alike.generated]

theorem map_eq_of_forall₂ {α β : Type} {related : α → α → Prop} {change : α → β}
    (same : ∀ first second, related first second → change first = change second)
    {firsts seconds : List α} (each : List.Forall₂ related firsts seconds) :
    firsts.map change = seconds.map change := by
  rw [← List.forall₂_eq_eq_eq, List.forall₂_map_left_iff, List.forall₂_map_right_iff]
  exact each.imp same

theorem Document.ReadsLike.cutDown_eq {first second : Document} (alike : first.ReadsLike second) :
    first.cutDown = second.cutDown := by
  have symbols : first.symbols.map Symbol.cutDown = second.symbols.map Symbol.cutDown :=
    map_eq_of_forall₂ (fun _ _ related => related.cutDown_eq) alike.symbols
  have calls : first.calls.map Call.cutDown = second.calls.map Call.cutDown :=
    map_eq_of_forall₂ (fun _ _ related => related.cutDown_eq) alike.calls
  rw [cutDown, cutDown, symbols, calls]

/-! ## The rules on documents cut down -/

theorem Method.cutDown_marked_iff {method : Method} : method.cutDown.Marked ↔ method.Marked := by
  rw [← @Method.isMarked_iff method, Marked, cutDown]
  cases method.isMarked <;> simp

theorem Method.head?_cutDown_typeParameters (method : Method) :
    method.cutDown.typeParameters.head? =
      method.typeParameters.head?.map TypeParameter.cutDown := by
  rw [cutDown, Option.head?_toList]

theorem Method.cutDown_facts (method : Method) : method.cutDown.facts = method.facts := by
  have generic : method.cutDown.isGeneric = method.isGeneric := by
    rw [Bool.eq_iff_iff, Method.isGeneric_iff, Method.isGeneric_iff]
    simp [cutDown]
  have marked : method.cutDown.isMarked = method.isMarked := by
    rw [Bool.eq_iff_iff, Method.isMarked_iff, Method.isMarked_iff]
    exact cutDown_marked_iff
  rw [facts, facts, generic, marked]
  rfl

theorem Symbol.cutDown_key (symbol : Symbol) : symbol.cutDown.key = symbol.key := by
  cases symbol <;> rfl

namespace Declaration

/-- A constraint violates the rule wherever it stands among the others. -/
theorem violation_cutDown_iff {document : Document} {method : Method} {fault : DeclarationFault} :
    Violation document method.cutDown fault ↔ Violation document method fault := by
  constructor
  · intro violation
    cases violation with
    | notGeneric absent =>
        refine .notGeneric ?_
        simpa [Method.cutDown] using absent
    | noInterfaceConstraint parameter first known =>
        rw [Method.head?_cutDown_typeParameters, Option.map_eq_some_iff] at first
        obtain ⟨original, first, rfl⟩ := first
        refine .noInterfaceConstraint original first fun constraint listed => ?_
        exact known constraint (TypeParameter.mem_cutDown_constraints.mpr listed)
  · intro violation
    cases violation with
    | notGeneric absent =>
        refine .notGeneric ?_
        simp [Method.cutDown, absent]
    | noInterfaceConstraint parameter first known =>
        refine .noInterfaceConstraint parameter.cutDown ?_ fun constraint listed => ?_
        · rw [Method.head?_cutDown_typeParameters, first, Option.map_some]
        · exact known constraint (TypeParameter.mem_cutDown_constraints.mp listed)

theorem check_cutDown {model : Model} (faithful : model.Faithful) (method : Method) :
    check model method.cutDown = check model method := by
  ext finding
  have location : method.cutDown.locations.head? = method.locations.head? := by
    rw [Method.cutDown, Option.head?_toList]
  simp only [check_eq_some_iff faithful, Method.cutDown_marked_iff, location,
    violation_cutDown_iff]
  rfl

end Declaration

namespace Model

theorem declarationFinding?_cutDown {model : Model} (faithful : model.Faithful)
    (options : AnalysisOptions) (symbol : Symbol) :
    model.declarationFinding? options symbol.cutDown =
      model.declarationFinding? options symbol := by
  cases symbol with
  | type type => rfl
  | method method =>
      simp only [declarationFinding?, Symbol.cutDown, Symbol.method?, Option.bind_some,
        Declaration.check_cutDown faithful]
      rfl

theorem callFinding?_cutDown (model : Model) (options : AnalysisOptions) (call : Call) :
    model.callFinding? options call.cutDown = model.callFinding? options call := by
  have argument : call.cutDown.typeArguments.head? = call.typeArguments.head? := by
    rw [Call.cutDown, Option.head?_toList]
  simp only [callFinding?, CallSite.check, argument]
  rfl

theorem answersLike_cutDown {model cut : Model} (faithful : model.Faithful)
    (cutFaithful : cut.Faithful) (cuts : cut.document = model.document.cutDown) :
    model.AnswersLike cut := by
  have listed : ∀ symbol, symbol ∈ cut.document.symbols ↔
      ∃ original ∈ model.document.symbols, original.cutDown = symbol := by
    intro symbol
    rw [cuts]
    exact List.mem_map
  apply faithful.answersLike cutFaithful Symbol.cutDown_key listed
  · intro symbol
    cases symbol with
    | method method => exact congrArg some method.cutDown_facts
    | type type => rfl
  · intro symbol
    cases symbol <;> rfl

theorem analyze_cutDown {model cut : Model} (faithful : model.Faithful)
    (cutFaithful : cut.Faithful) (cuts : cut.document = model.document.cutDown)
    (options : AnalysisOptions) : cut.analyze options = model.analyze options := by
  have alike := answersLike_cutDown faithful cutFaithful cuts
  rw [analyze_eq_sorted, analyze_eq_sorted, cuts, Document.cutDown, List.filterMap_map,
    List.filterMap_map]
  congr 2
  · congr 1
    funext call
    exact (alike.callFinding?_eq options call.cutDown).symm.trans
      (model.callFinding?_cutDown options call)
  · congr 1
    funext symbol
    exact (alike.declarationFinding?_eq options symbol.cutDown).symm.trans
      (declarationFinding?_cutDown faithful options symbol)

end Model

theorem Document.cutDown_nodup_iff {document : Document} :
    (document.cutDown.symbols.map Symbol.key).Nodup ↔ (document.symbols.map Symbol.key).Nodup := by
  rw [cutDown, Model.map_key_map Symbol.cutDown_key]

theorem Document.cutDown_analysis {document : Document} {model : Model}
    (built : Model.ofDocument document = .ok model) :
    ∃ cut, Model.ofDocument document.cutDown = .ok cut ∧
      ∀ options : AnalysisOptions, cut.analyze options = model.analyze options := by
  have distinct := Model.ofDocument_isOk_iff_nodup.mp ⟨model, built⟩
  obtain ⟨cut, cutBuilt⟩ := Model.ofDocument_isOk_iff_nodup.mpr
    (Document.cutDown_nodup_iff.mpr distinct)
  refine ⟨cut, cutBuilt, Model.analyze_cutDown (Model.ofDocument_faithful built)
    (Model.ofDocument_faithful cutBuilt) ?_⟩
  rw [Model.ofDocument_document cutBuilt, Model.ofDocument_document built]

/-- Documents that agree in what is read have the same analysis under all options;
in particular a document has that of what it is cut down to. -/
theorem analyze_of_what_is_read (document : Document) (model : Model)
    (built : Model.ofDocument document = .ok model) :
    (∃ cut, Model.ofDocument document.cutDown = .ok cut ∧
      ∀ options : AnalysisOptions, cut.analyze options = model.analyze options) ∧
    ∀ second : Document, document.ReadsLike second →
      ∃ other, Model.ofDocument second = .ok other ∧
        ∀ options : AnalysisOptions, other.analyze options = model.analyze options := by
  obtain ⟨cut, cutBuilt, sameAsCut⟩ := Document.cutDown_analysis built
  refine ⟨⟨cut, cutBuilt, sameAsCut⟩, fun second alike => ?_⟩
  have distinct := Model.ofDocument_isOk_iff_nodup.mp ⟨cut, cutBuilt⟩
  rw [alike.cutDown_eq, Document.cutDown_nodup_iff] at distinct
  obtain ⟨other, otherBuilt⟩ := Model.ofDocument_isOk_iff_nodup.mpr distinct
  refine ⟨other, otherBuilt, fun options => ?_⟩
  obtain ⟨otherCut, otherCutBuilt, otherSame⟩ := Document.cutDown_analysis otherBuilt
  rw [← alike.cutDown_eq, cutBuilt, Except.ok.injEq] at otherCutBuilt
  rw [← otherSame, ← otherCutBuilt, sameAsCut]

/-- `delegatingDocument` with more of what is not read: further attributes, type
parameters, locations and type arguments, and constraints in another order. -/
def crowdedDocument : Document :=
  let marker : Attribute := ⟨some markerName⟩
  { assembly := some "Demo"
    symbols := [
      .type { name := "IService", kind := .interfaceType, attributes := [marker] },
      .type { name := "Logger", kind := .classType },
      .method { id := "M:Use", name := "Use",
                typeParameters := [{ name := "T" }, { name := "U", constraints := ["IService"] }],
                attributes := [marker, ⟨some "Obsolete"⟩, marker],
                locations := [⟨"a.cs", 3, 17, none⟩, ⟨"b.cs", 1, 1, none⟩] },
      .method { id := "M:Outer", name := "Outer", attributes := [⟨none⟩, marker],
                typeParameters :=
                  [{ name := "T", constraints := ["IService", "Logger", "IService"] }],
                locations := [⟨"a.cs", 5, 17, none⟩] }]
    calls := delegatingDocument.calls.map fun call =>
      { call with typeArguments := call.typeArguments ++ ["Logger"] } }

theorem delegatingDocument_readsLike_crowded : delegatingDocument.ReadsLike crowdedDocument where
  symbols := by
    refine .cons (.type ⟨rfl, rfl⟩) (.cons (.type ⟨rfl, rfl⟩) (.cons (.method ?_)
      (.cons (.method ?_) .nil)))
    · exact ⟨rfl, rfl, rfl, by simp [Method.Marked], rfl, .some ⟨rfl, by simp⟩⟩
    · exact ⟨rfl, rfl, rfl, by simp [Method.Marked], rfl, .some ⟨rfl, by simp [or_comm]⟩⟩
  calls := by
    rw [crowdedDocument, List.forall₂_map_right_iff, List.forall₂_same]
    intro call listed
    have first : ∀ call ∈ delegatingDocument.calls,
        call.typeArguments.head? = (call.typeArguments ++ ["Logger"]).head? := by decide
    exact ⟨rfl, first call listed, rfl, rfl, rfl⟩

theorem delegatingDocument_what_is_read :
    ∃ model other, Model.ofDocument delegatingDocument = .ok model ∧
      delegatingDocument.ReadsLike crowdedDocument ∧
      Model.ofDocument crowdedDocument = .ok other ∧
      other.analyze .default = model.analyze .default := by
  obtain ⟨model, built⟩ := (@Model.ofDocument_isOk_iff_nodup delegatingDocument).mpr (by decide)
  obtain ⟨other, otherBuilt, same⟩ :=
    (analyze_of_what_is_read delegatingDocument model built).2 crowdedDocument
      delegatingDocument_readsLike_crowded
  exact ⟨model, other, built, delegatingDocument_readsLike_crowded, otherBuilt, same .default⟩

end InterfaceLint
