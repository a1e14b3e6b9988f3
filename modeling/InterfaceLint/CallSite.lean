import InterfaceLint.Finding
import InterfaceLint.Marker
import InterfaceLint.Model

/-!
# The call site rule

A call of a marked generic method has to pass an interface as its first type
argument, unless the method around it is marked too.  What the model does not
resolve is passed over.
-/

set_option autoImplicit false

namespace InterfaceLint.CallSite

def isExempt (model : Model) (call : Call) : Bool :=
  match model.enclosing? call with
  | some method => method.isMarked
  | none => false

def check (model : Model) (call : Call) : Option CallFinding := do
  let target ← model.target? call
  guard (target.isGeneric && target.isMarked && !isExempt model call)
  let argument ← call.typeArguments.head?
  let type ← model.type? argument
  guard (!type.kind.isInterface)
  return {
    location := call.location
    method := target.name
    typeArgument := argument
    kind := type.kind
    severity := Rule.interfaceArgumentDescriptor.defaultSeverity }

/-- The findings at all calls in document order; generated calls only on request. -/
def checkAll (model : Model) (analyzeGenerated : Bool) : List CallFinding :=
  (model.calls.filter fun call => analyzeGenerated || !call.generated).filterMap (check model)

end InterfaceLint.CallSite
