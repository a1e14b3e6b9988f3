/-!
# Sets of code points

A property of characters is a list of closed ranges of code points.
-/

set_option autoImplicit false

namespace InterfaceLint.Text

abbrev Ranges := List (Nat × Nat)

def Ranges.has (ranges : Ranges) (c : Char) : Bool :=
  ranges.any fun (low, high) => low ≤ c.toNat && c.toNat ≤ high

end InterfaceLint.Text
