import InterfaceLint.Decimal.Shortest

/-!
# JSON values

A value keeps the members of an object in the order written, repetitions
included.  A number without fraction and exponent stays an integer as long as
it fits 64 bits, unsigned when it has no minus sign and signed otherwise; any
other number is a double.
-/

set_option autoImplicit false

namespace InterfaceLint.Json

inductive Number where
  | natural (value : UInt64)
  /-- An integer below zero. -/
  | negative (value : Int)
  | real (value : Decimal.Binary64)
  deriving DecidableEq

inductive Value where
  | null
  | bool (value : Bool)
  | number (value : Number)
  | text (value : String)
  | list (items : List Value)
  | object (members : List (String × Value))

/-- Doubles are positional up to sixteen digits before the point and down to
four zeros after it; an exponent carries its sign. -/
def realLayout : Decimal.Layout :=
  { leastPositional := -5
    greatestPositional := 15
    positiveMark := "+" }

def Number.render : Number → String
  | .natural value => toString value.toNat
  | .negative value => toString value
  | .real value => value.render realLayout

end InterfaceLint.Json
