import InterfaceLint.Finding
import InterfaceLint.Marker
import InterfaceLint.Model

/-!
# The declaration rule

A marked method has to be generic, with an interface among the constraints of
its first type parameter.  A constraint the model does not resolve leaves the
matter open, and a method without a location is not declared here.
-/

set_option autoImplicit false

namespace InterfaceLint.Declaration

inductive Verdict where
  /-- One of them is an interface. -/
  | satisfied
  /-- None is known to be an interface, and at least one is not known at all. -/
  | undecided
  /-- All are known and none is an interface. -/
  | violated
  deriving DecidableEq

/-- Go through constraints; `unresolved` says whether one was already not known. -/
def judge (model : Model) (unresolved : Bool) : List String → Verdict
  | [] => if unresolved then .undecided else .violated
  | constraint :: constraints =>
    match model.type? constraint with
    | some type => if type.kind.isInterface then .satisfied else judge model unresolved constraints
    | none => judge model true constraints

def fault? (model : Model) (method : Method) : Option DeclarationFault :=
  match method.firstTypeParameter? with
  | none => some .notGeneric
  | some parameter =>
    match judge model false parameter.constraints with
    | .violated => some (.noInterfaceConstraint parameter.name)
    | _ => none

def check (model : Model) (method : Method) : Option DeclarationFinding := do
  guard method.isMarked
  let location ← method.location?
  let fault ← fault? model method
  return {
    location
    method := method.name
    fault
    severity := Rule.markerDeclarationDescriptor.defaultSeverity }

/-- The findings at all methods in document order; generated ones only on request. -/
def checkAll (model : Model) (analyzeGenerated : Bool) : List DeclarationFinding :=
  (model.methods.filter fun method => analyzeGenerated || !method.generated).filterMap (check model)

end InterfaceLint.Declaration
