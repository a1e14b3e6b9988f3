/-!
# Double precision values as exact pairs

A finite double is a sign and a magnitude `mantissa * 2 ^ exponent` with a
mantissa below `2 ^ 53` and an exponent of at least `-1074`.  All operations
round an exact quotient of naturals to the nearest such magnitude, ties to the
even mantissa, so nothing here depends on machine arithmetic.
-/

set_option autoImplicit false

namespace InterfaceLint.Decimal

/-- The nonnegative value `mantissa * 2 ^ exponent`. -/
structure Magnitude where
  mantissa : Nat
  exponent : Int
  deriving DecidableEq

/-- A finite double.  The sign is kept for zero as well. -/
structure Binary64 where
  negative : Bool
  magnitude : Magnitude
  deriving DecidableEq

/-- The quotient rounded to the nearest natural, a half to the even one. -/
def roundDiv (num den : Nat) : Nat :=
  let quotient := num / den
  let twice := 2 * (num % den)
  if twice < den then quotient
  else if den < twice then quotient + 1
  else if quotient % 2 = 0 then quotient else quotient + 1

namespace Magnitude

def zero : Magnitude := ⟨0, 0⟩

def isZero (value : Magnitude) : Bool := value.mantissa == 0

def leastExponent : Int := -1074

def greatestExponent : Int := 971

/-- Numerator and denominator of `num / (den * 2 ^ exponent)`. -/
def shifted (num den : Nat) (exponent : Int) : Nat × Nat :=
  let factor := Nat.pow 2 exponent.natAbs
  if exponent < 0 then (num * factor, den) else (num, den * factor)

/-- The magnitude nearest to `num / den`, or nothing when that quotient rounds
beyond the largest finite double. -/
def ofRatio? (num den : Nat) : Option Magnitude :=
  if num = 0 then some zero
  else
    let guess : Int := (num.log2 : Int) - (den.log2 : Int) - 52
    let (top, bottom) := shifted num den guess
    let fitted := if top < bottom * Nat.pow 2 52 then guess - 1 else guess
    let exponent := max fitted leastExponent
    let (top, bottom) := shifted num den exponent
    let rounded := roundDiv top bottom
    let result : Magnitude :=
      if rounded = Nat.pow 2 53 then ⟨Nat.pow 2 52, exponent + 1⟩ else ⟨rounded, exponent⟩
    if result.exponent ≤ greatestExponent then some result else none

def ratio (value : Magnitude) : Nat × Nat :=
  if value.exponent < 0 then (value.mantissa, Nat.pow 2 value.exponent.natAbs)
  else (value.mantissa * Nat.pow 2 value.exponent.natAbs, 1)

/-- The magnitude nearest to `10 ^ power`; zero beyond the range of doubles. -/
def powerOfTen (power : Nat) : Magnitude :=
  (ofRatio? (Nat.pow 10 power) 1).getD zero

def mul? (left right : Magnitude) : Option Magnitude :=
  let (leftNum, leftDen) := left.ratio
  let (rightNum, rightDen) := right.ratio
  ofRatio? (leftNum * rightNum) (leftDen * rightDen)

/-- The rounded quotient by a nonzero magnitude; a quotient is taken as zero
where it would leave the range of doubles. -/
def div (left right : Magnitude) : Magnitude :=
  let (leftNum, leftDen) := left.ratio
  let (rightNum, rightDen) := right.ratio
  (ofRatio? (leftNum * rightDen) (leftDen * rightNum)).getD zero

def greatestPower : Nat := 308

/-- Divide by `10 ^ power` in steps of at most the greatest finite power of
ten, each step rounded on its own. -/
def scaleDown (value : Magnitude) (power : Nat) : Magnitude :=
  if power ≤ greatestPower then value.div (powerOfTen power)
  else if value.isZero then value
  else scaleDown (value.div (powerOfTen greatestPower)) (power - greatestPower)
termination_by power
decreasing_by simp [greatestPower] at *; omega

/-- `significand * 10 ^ power`, rounded after the significand and after each
scaling step; nothing when the result is not finite. -/
def ofDecimal? (significand : Nat) (power : Int) : Option Magnitude := do
  let start ← ofRatio? significand 1
  if power < 0 then some (start.scaleDown power.natAbs)
  else if power.natAbs ≤ greatestPower then start.mul? (powerOfTen power.natAbs)
  else if start.isZero then some start
  else none

end Magnitude

end InterfaceLint.Decimal
