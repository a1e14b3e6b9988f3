import InterfaceLint.Proofs.Analysis.Exactness

/-!
# What the rules ask of a model

The rules look symbols up by key and then ask little of them: the name of a
method, whether it is generic and whether it is marked, and the kind of a type.
Models that answer these questions alike have the same findings at the same
calls and declarations.
-/

set_option autoImplicit false

namespace InterfaceLint

structure MethodFacts where
  name : String
  generic : Bool
  marked : Bool

def Method.facts (method : Method) : MethodFacts :=
  { name := method.name, generic := method.isGeneric, marked := method.isMarked }

namespace Model

def facts? (model : Model) (id : String) : Option MethodFacts :=
  (model.method? id).map Method.facts

def kind? (model : Model) (name : String) : Option TypeKind :=
  (model.type? name).map TypeSymbol.kind

structure AnswersLike (model other : Model) : Prop where
  facts : ∀ id, model.facts? id = other.facts? id
  kinds : ∀ name, model.kind? name = other.kind? name

end Model

/-! ## The checks in terms of the answers -/

theorem CallSite.isExempt_eq_facts (model : Model) (call : Call) :
    isExempt model call =
      ((call.enclosingMethod.bind model.facts?).map MethodFacts.marked).getD false := by
  unfold isExempt Model.enclosing?
  cases call.enclosingMethod with
  | none => rfl
  | some id =>
      simp only [Option.bind_some, Model.facts?]
      cases model.method? id <;> rfl

theorem CallSite.check_eq_facts (model : Model) (call : Call) :
    check model call = do
      let target ← call.target.bind model.facts?
      guard (target.generic && target.marked && !isExempt model call)
      let argument ← call.typeArguments.head?
      let kind ← model.kind? argument
      guard (!kind.isInterface)
      return {
        location := call.location
        method := target.name
        typeArgument := argument
        kind
        severity := Rule.interfaceArgumentDescriptor.defaultSeverity } := by
  have targetFacts : call.target.bind model.facts? = (model.target? call).map Method.facts := by
    unfold Model.target?
    rw [Option.map_bind]
    rfl
  simp only [check, targetFacts, Model.kind?, Option.bind_eq_bind, Option.bind_map]
  rfl

theorem Declaration.judge_cons (model : Model) (unresolved : Bool) (constraint : String)
    (constraints : List String) :
    judge model unresolved (constraint :: constraints) =
      match model.kind? constraint with
      | some kind => if kind.isInterface then .satisfied else judge model unresolved constraints
      | none => judge model true constraints := by
  rw [judge, Model.kind?]
  cases model.type? constraint <;> rfl

/-! ## Models that answer alike -/

namespace Model

section

variable {model other : Model} (alike : model.AnswersLike other)
include alike

theorem AnswersLike.check_call_eq (call : Call) :
    CallSite.check model call = CallSite.check other call := by
  have sameFacts : model.facts? = other.facts? := funext alike.facts
  have sameKinds : model.kind? = other.kind? := funext alike.kinds
  simp only [CallSite.check_eq_facts, CallSite.isExempt_eq_facts, sameFacts, sameKinds]

theorem AnswersLike.judge_eq (unresolved : Bool) (constraints : List String) :
    Declaration.judge model unresolved constraints =
      Declaration.judge other unresolved constraints := by
  induction constraints generalizing unresolved with
  | nil => rfl
  | cons constraint constraints induction =>
      rw [Declaration.judge_cons, Declaration.judge_cons, alike.kinds constraint, induction,
        induction]

theorem AnswersLike.fault?_eq (method : Method) :
    Declaration.fault? model method = Declaration.fault? other method := by
  simp only [Declaration.fault?, alike.judge_eq]

theorem AnswersLike.callFinding?_eq (options : AnalysisOptions) (call : Call) :
    model.callFinding? options call = other.callFinding? options call := by
  rw [callFinding?, callFinding?, alike.check_call_eq]

theorem AnswersLike.declarationFinding?_eq (options : AnalysisOptions) (symbol : Symbol) :
    model.declarationFinding? options symbol = other.declarationFinding? options symbol := by
  simp only [declarationFinding?, Declaration.check, alike.fault?_eq]

end

/-! ## Changed documents -/

theorem map_key_map {change : Symbol → Symbol}
    (sameKey : ∀ symbol, (change symbol).key = symbol.key) (symbols : List Symbol) :
    (symbols.map change).map Symbol.key = symbols.map Symbol.key := by
  rw [List.map_map]
  congr 1
  funext symbol
  exact sameKey symbol

section

variable {model changed : Model} (faithful : model.Faithful) (changedFaithful : changed.Faithful)
  {change : Symbol → Symbol} (sameKey : ∀ symbol, (change symbol).key = symbol.key)
  (listed : ∀ symbol, symbol ∈ changed.document.symbols ↔
    ∃ original ∈ model.document.symbols, change original = symbol)
include faithful changedFaithful sameKey listed

/-- What is found after a change of the symbols is what was found before it,
changed. -/
theorem Faithful.symbol?_eq_map (key : String) :
    changed.symbol? key = (model.symbol? key).map change := by
  ext symbol
  rw [changedFaithful key symbol, listed, Option.map_eq_some_iff]
  constructor
  · intro isChanged
    obtain ⟨⟨original, member, rfl⟩, named⟩ := isChanged
    rw [sameKey] at named
    exact ⟨original, (faithful key original).mpr ⟨member, named⟩, rfl⟩
  · intro isChanged
    obtain ⟨original, found, rfl⟩ := isChanged
    obtain ⟨member, named⟩ := (faithful key original).mp found
    exact ⟨⟨original, member, rfl⟩, by rwa [sameKey]⟩

theorem Faithful.answersLike
    (sameFacts : ∀ symbol, (change symbol).method?.map Method.facts =
      symbol.method?.map Method.facts)
    (sameKind : ∀ symbol, (change symbol).type?.map TypeSymbol.kind =
      symbol.type?.map TypeSymbol.kind) : model.AnswersLike changed := by
  have found := faithful.symbol?_eq_map changedFaithful sameKey listed
  constructor
  · intro id
    rw [facts?, facts?, method?, method?, found, Option.bind_map, Option.map_bind, Option.map_bind]
    congr 1
    funext symbol
    exact (sameFacts symbol).symm
  · intro name
    rw [kind?, kind?, type?, type?, found, Option.bind_map, Option.map_bind, Option.map_bind]
    congr 1
    funext symbol
    exact (sameKind symbol).symm

end

end Model

end InterfaceLint
