import InterfaceLint.Analysis
import InterfaceLint.Proofs.Model.Index
import Mathlib.Data.Option.Basic

/-!
# What the rules forbid

The two rules are stated over the lists of a document: which calls and which
declarations violate them, and what is reported of each.  The checks that run
look symbols up in the index; on a faithful model they report exactly the
violations stated here.
-/

set_option autoImplicit false

namespace InterfaceLint

def Method.Marked (method : Method) : Prop :=
  ∃ applied ∈ method.attributes, applied.className = some markerName

theorem Method.isMarked_iff {method : Method} : method.isMarked = true ↔ method.Marked := by
  simp [Method.isMarked, hasMarker, Method.Marked]

theorem Method.isGeneric_iff {method : Method} :
    method.isGeneric = true ↔ method.typeParameters ≠ [] := by
  simp [Method.isGeneric, Method.arity, List.length_pos_iff]

/-! ## Calls -/

namespace CallSite

/-- The document lists a marked method around the call. -/
def Exempt (document : Document) (call : Call) : Prop :=
  ∃ caller, Symbol.method caller ∈ document.symbols ∧ call.enclosingMethod = some caller.id ∧
    caller.Marked

/-- The call goes to the marked generic method `target` of the document and
passes the type `type` of the document, which is no interface, first. -/
structure Violation (document : Document) (call : Call) (target : Method) (type : TypeSymbol) :
    Prop where
  targetListed : Symbol.method target ∈ document.symbols
  targetNamed : call.target = some target.id
  generic : target.typeParameters ≠ []
  marked : target.Marked
  notExempt : ¬ Exempt document call
  typeListed : Symbol.type type ∈ document.symbols
  typeNamed : call.typeArguments.head? = some type.name
  notInterface : type.kind ≠ .interfaceType

def describe (call : Call) (target : Method) (type : TypeSymbol) (severity : Severity) :
    CallFinding :=
  { location := call.location
    method := target.name
    typeArgument := type.name
    kind := type.kind
    severity }

theorem isExempt_iff {model : Model} (faithful : model.Faithful) {call : Call} :
    isExempt model call = true ↔ Exempt model.document call := by
  unfold isExempt
  constructor
  · intro exempt
    split at exempt
    · rename_i caller found
      obtain ⟨listed, named⟩ := faithful.bind_method?_eq_some_iff.mp found
      exact ⟨caller, listed, named, Method.isMarked_iff.mp exempt⟩
    · cases exempt
  · intro exempt
    obtain ⟨caller, listed, named, marked⟩ := exempt
    have found : model.enclosing? call = some caller :=
      faithful.bind_method?_eq_some_iff.mpr ⟨listed, named⟩
    rw [found]
    exact Method.isMarked_iff.mpr marked

/-- The steps of the check: a marked generic target, no exemption, and a first
type argument that is known and no interface. -/
theorem check_eq_some_iff_lookups {model : Model} {call : Call} {finding : CallFinding} :
    check model call = some finding ↔
      ∃ target argument type, model.target? call = some target ∧
        (target.isGeneric = true ∧ target.isMarked = true ∧ ¬ isExempt model call = true) ∧
        call.typeArguments.head? = some argument ∧ model.type? argument = some type ∧
        type.kind ≠ .interfaceType ∧
        finding = { describe call target type .error with typeArgument := argument } := by
  simp only [check, Option.bind_eq_bind, Option.bind_eq_some_iff, Option.pure_def]
  constructor
  · intro steps
    obtain ⟨target, resolved, _, guarded, argument, first, type, known, _, notInterface,
      result⟩ := steps
    rw [Option.guard_eq_some'] at guarded notInterface
    simp only [Bool.and_eq_true, Bool.not_eq_true'] at guarded
    obtain ⟨⟨generic, marked⟩, notExempt⟩ := guarded
    refine ⟨target, argument, type, resolved, ⟨generic, marked, ?_⟩, first, known, ?_, ?_⟩
    · simp [notExempt]
    · simpa [TypeKind.isInterface] using notInterface
    · exact (Option.some.inj result).symm
  · intro steps
    obtain ⟨target, argument, type, resolved, ⟨generic, marked, notExempt⟩, first, known,
      notInterface, rfl⟩ := steps
    refine ⟨target, resolved, (), ?_, argument, first, type, known, (), ?_, rfl⟩
    · rw [Option.guard_eq_some']
      simp [generic, marked, notExempt]
    · rw [Option.guard_eq_some']
      simp [TypeKind.isInterface, notInterface]

/-- The check of a call finds exactly its violation. -/
theorem check_eq_some_iff {model : Model} (faithful : model.Faithful) {call : Call}
    {finding : CallFinding} :
    check model call = some finding ↔
      ∃ target type, Violation model.document call target type ∧
        finding = describe call target type .error := by
  rw [check_eq_some_iff_lookups]
  constructor
  · intro steps
    obtain ⟨target, argument, type, resolved, ⟨generic, marked, notExempt⟩, first, known,
      notInterface, rfl⟩ := steps
    obtain ⟨targetListed, targetNamed⟩ := faithful.bind_method?_eq_some_iff.mp resolved
    obtain ⟨typeListed, rfl⟩ := faithful.type?_eq_some_iff.mp known
    refine ⟨target, type, ?_, rfl⟩
    exact {
      targetListed, targetNamed, typeListed, notInterface
      generic := Method.isGeneric_iff.mp generic
      marked := Method.isMarked_iff.mp marked
      notExempt := fun exempt => notExempt ((isExempt_iff faithful).mpr exempt)
      typeNamed := first }
  · intro violates
    obtain ⟨target, type, violation, rfl⟩ := violates
    have resolved : model.target? call = some target :=
      faithful.bind_method?_eq_some_iff.mpr ⟨violation.targetListed, violation.targetNamed⟩
    have known : model.type? type.name = some type :=
      faithful.type?_eq_some_iff.mpr ⟨violation.typeListed, rfl⟩
    refine ⟨target, type.name, type, resolved, ⟨Method.isGeneric_iff.mpr violation.generic,
      Method.isMarked_iff.mpr violation.marked, ?_⟩, violation.typeNamed, known,
      violation.notInterface, rfl⟩
    exact fun exempt => violation.notExempt ((isExempt_iff faithful).mp exempt)

end CallSite

/-! ## Declarations -/

namespace Declaration

def KnownAsOther (document : Document) (name : String) : Prop :=
  ∃ type, Symbol.type type ∈ document.symbols ∧ type.name = name ∧ type.kind ≠ .interfaceType

/-- What is wrong with the type parameters of a method: there are none, or all
constraints of the first one are known and none is an interface. -/
inductive Violation (document : Document) (method : Method) : DeclarationFault → Prop
  | notGeneric (absent : method.typeParameters = []) : Violation document method .notGeneric
  | noInterfaceConstraint (parameter : TypeParameter)
      (first : method.typeParameters.head? = some parameter)
      (known : ∀ constraint ∈ parameter.constraints, KnownAsOther document constraint) :
      Violation document method (.noInterfaceConstraint parameter.name)

def describe (method : Method) (location : Location) (fault : DeclarationFault)
    (severity : Severity) : DeclarationFinding :=
  { location, method := method.name, fault, severity }

/-- Constraints are violated when none was unknown before and each is known as
something else than an interface. -/
theorem judge_eq_violated_iff {model : Model} (faithful : model.Faithful) :
    ∀ {constraints : List String} {unresolved : Bool},
      judge model unresolved constraints = .violated ↔
        unresolved = false ∧
          ∀ constraint ∈ constraints, KnownAsOther model.document constraint := by
  intro constraints
  induction constraints with
  | nil =>
      intro unresolved
      cases unresolved <;> simp [judge]
  | cons constraint constraints induction =>
      intro unresolved
      have headKnown : KnownAsOther model.document constraint ↔
          ∃ type, model.type? constraint = some type ∧ type.kind ≠ .interfaceType := by
        simp only [KnownAsOther, faithful.type?_eq_some_iff, and_assoc]
      rw [List.forall_mem_cons, headKnown]
      cases found : model.type? constraint with
      | none => simp [judge, found, induction]
      | some type =>
          by_cases isInterface : type.kind = .interfaceType
          · simp [judge, found, TypeKind.isInterface, isInterface]
          · simp [judge, found, TypeKind.isInterface, isInterface, induction]

theorem fault?_eq_some_iff {model : Model} (faithful : model.Faithful) {method : Method}
    {fault : DeclarationFault} :
    fault? model method = some fault ↔ Violation model.document method fault := by
  cases parameters : method.firstTypeParameter? with
  | none =>
      have absent : method.typeParameters = [] := List.head?_eq_none_iff.mp parameters
      simp only [fault?, parameters]
      constructor
      · intro found
        cases found
        exact .notGeneric absent
      · intro violation
        cases violation with
        | notGeneric _ => rfl
        | noInterfaceConstraint parameter first _ => simp [absent] at first
  | some parameter =>
      have verdict := @judge_eq_violated_iff model faithful parameter.constraints false
      simp only [fault?, parameters]
      constructor
      · intro found
        split at found
        · rename_i violated
          cases found
          exact .noInterfaceConstraint parameter parameters (verdict.mp violated).2
        · cases found
      · intro violation
        cases violation with
        | notGeneric absent => simp [Method.firstTypeParameter?, absent] at parameters
        | noInterfaceConstraint other first known =>
            cases parameters.symm.trans first
            rw [verdict.mpr ⟨rfl, known⟩]

/-- The check of a method finds exactly its violation, at its first location. -/
theorem check_eq_some_iff {model : Model} (faithful : model.Faithful) {method : Method}
    {finding : DeclarationFinding} :
    check model method = some finding ↔
      method.Marked ∧ ∃ location fault, method.locations.head? = some location ∧
        Violation model.document method fault ∧
        finding = describe method location fault .error := by
  simp only [check, Option.bind_eq_bind, Option.bind_eq_some_iff, Option.pure_def,
    fault?_eq_some_iff faithful]
  constructor
  · intro steps
    obtain ⟨_, guarded, location, located, fault, violation, result⟩ := steps
    rw [Option.guard_eq_some'] at guarded
    exact ⟨Method.isMarked_iff.mp guarded, location, fault, located, violation,
      (Option.some.inj result).symm⟩
  · intro violates
    obtain ⟨marked, location, fault, located, violation, rfl⟩ := violates
    refine ⟨(), ?_, location, located, fault, violation, rfl⟩
    rw [Option.guard_eq_some', Method.isMarked_iff]
    exact marked

end Declaration

end InterfaceLint
