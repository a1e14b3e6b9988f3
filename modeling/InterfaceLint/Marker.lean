import InterfaceLint.Symbol

/-!
# The marker attribute

A method asks for interface type arguments by carrying one attribute, told by
its full class name.
-/

set_option autoImplicit false

namespace InterfaceLint

def markerName : String := "InterfaceConstraintAnalyzer.OnlyAllowInterfaceCallsAttribute"

def hasMarker (attributes : List Attribute) : Bool :=
  attributes.any fun applied => applied.className = some markerName

def Method.isMarked (method : Method) : Bool := hasMarker method.attributes

def TypeSymbol.isMarked (type : TypeSymbol) : Bool := hasMarker type.attributes

def Symbol.isMarked (symbol : Symbol) : Bool := hasMarker symbol.attributes

end InterfaceLint
