import InterfaceLint.Symbol

/-!
# Exported documents

A document lists the symbols and the calls of one compilation.
-/

set_option autoImplicit false

namespace InterfaceLint

/-- A call of a method.  Target and enclosing method are given by identifier;
the target is absent when the compiler could not resolve it, the enclosing
method in top-level code. -/
structure Call where
  target : Option String
  typeArguments : List String := []
  enclosingMethod : Option String := none
  location : Location
  generated : Bool := false
  deriving DecidableEq

structure Document where
  assembly : Option String := none
  symbols : List Symbol := []
  calls : List Call := []
  deriving DecidableEq

end InterfaceLint
