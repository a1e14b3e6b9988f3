/-!
# Source locations
-/

set_option autoImplicit false

namespace InterfaceLint

/-- A place in a source file, line and column counted from one.  The text of
the line is there when the compiler exported it. -/
structure Location where
  file : String
  line : UInt64
  col : UInt64
  sourceLine : Option String := none
  deriving DecidableEq

def Location.display (location : Location) : String :=
  location.file ++ ":" ++ toString location.line.toNat ++ ":" ++ toString location.col.toNat

end InterfaceLint
