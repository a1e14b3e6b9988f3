import InterfaceLint.Decimal.Binary64

/-!
# The shortest decimal that reads back

For a nonzero magnitude the digits are searched on ever finer decimal grids:
the first grid with a point inside the interval of reals that round to the
magnitude decides, and of two such points the nearer one is taken.  A layout
record then says how the digits are written.
-/

set_option autoImplicit false

namespace InterfaceLint.Decimal

/-- The value `digits * 10 ^ power`. -/
structure Scaled where
  digits : Nat
  power : Int
  deriving DecidableEq

namespace Scaled

def ratio (value : Scaled) : Nat × Nat :=
  if value.power < 0 then (value.digits, Nat.pow 10 value.power.natAbs)
  else (value.digits * Nat.pow 10 value.power.natAbs, 1)

/-- Drop trailing zeros of the digits; `limit` bounds how many. -/
def trimmed (value : Scaled) : Nat → Scaled
  | 0 => value
  | limit + 1 =>
    if value.digits ≠ 0 ∧ value.digits % 10 = 0 then
      trimmed ⟨value.digits / 10, value.power + 1⟩ limit
    else value

end Scaled

/-- The reals that round to a magnitude, as quarters of its unit: the open or
closed interval from `low` to `high` around `middle`. -/
structure Interval where
  low : Nat
  middle : Nat
  high : Nat
  closed : Bool
  exponent : Int

namespace Magnitude

def interval (value : Magnitude) : Interval :=
  let narrow := value.mantissa = Nat.pow 2 52 ∧ leastExponent < value.exponent
  { low := 4 * value.mantissa - (if narrow then 1 else 2)
    middle := 4 * value.mantissa
    high := 4 * value.mantissa + 2
    closed := value.mantissa % 2 == 0
    exponent := value.exponent - 2 }

end Magnitude

namespace Interval

/-- The sign of `digits * 10 ^ power - bound * 2 ^ exponent`. -/
def compareTo (point : Scaled) (bound : Nat) (exponent : Int) : Ordering :=
  let (num, den) := point.ratio
  let (top, bottom) := Magnitude.shifted num den exponent
  compare top (bound * bottom)

/-- Whether a decimal value reads back as the magnitude of this interval. -/
def holds (range : Interval) (point : Scaled) : Bool :=
  match compareTo point range.low range.exponent, compareTo point range.high range.exponent with
  | .lt, _ => false
  | _, .gt => false
  | .gt, .lt => true
  | _, _ => range.closed

/-- Numerator and denominator of the value in the middle. -/
def value (range : Interval) : Nat × Nat := (Magnitude.mk range.middle range.exponent).ratio

def floorOn (range : Interval) (power : Int) : Nat :=
  let (num, den) := range.value
  if power < 0 then num * Nat.pow 10 power.natAbs / den else num / (den * Nat.pow 10 power.natAbs)

/-- Of the two neighbours of the middle on a grid, the one that reads back and
is nearer; the even one of two equally near. -/
def nearestOn (range : Interval) (power : Int) : Option Scaled :=
  let below : Scaled := ⟨range.floorOn power, power⟩
  let above : Scaled := ⟨below.digits + 1, power⟩
  let between : Scaled := ⟨2 * below.digits + 1, power⟩
  match range.holds below, range.holds above with
  | false, false => none
  | true, false => some below
  | false, true => some above
  | true, true =>
    match compareTo between (2 * range.middle) range.exponent with
    | .gt => some below
    | .lt => some above
    | .eq => some (if below.digits % 2 = 0 then below else above)

def leadingPower (num den : Nat) : Int :=
  if den ≤ num then ((toString (num / den)).length : Int) - 1
  else
    let quotient := den / num
    let length := (toString quotient).length
    -- `10 ^ (length - 1) ≤ quotient`, so the leading digit is at `-length` or one above.
    if den ≤ num * Nat.pow 10 (length - 1) then 1 - (length : Int) else -(length : Int)

/-- Try grids with one to `limit` more digits than `count`. -/
def search (range : Interval) (leading : Int) (count : Nat) : Nat → Scaled
  | 0 => ⟨range.floorOn (leading - count), leading - count⟩
  | limit + 1 =>
    match range.nearestOn (leading - count) with
    | some point => point
    | none => search range leading (count + 1) limit

end Interval

def Magnitude.shortest (value : Magnitude) : Scaled :=
  let range := value.interval
  let (num, den) := value.ratio
  (range.search (Interval.leadingPower num den) 0 17).trimmed 17

/-! ## Layout -/

/-- How the digits of a double are laid out: from which to which exponent of
the leading digit they are written positionally, and the mark of a positive
exponent. -/
structure Layout where
  leastPositional : Int
  greatestPositional : Int
  positiveMark : String

namespace Layout

def exponentText (layout : Layout) (exponent : Int) : String :=
  (if exponent < 0 then "-" else layout.positiveMark) ++ toString exponent.natAbs

/-- The written form of `digits * 10 ^ power`. -/
def render (layout : Layout) (value : Scaled) : String :=
  let digits := (toString value.digits).toList
  let leading : Int := value.power + digits.length - 1
  if layout.leastPositional ≤ leading ∧ leading ≤ layout.greatestPositional then
    if leading < 0 then
      "0." ++ String.ofList (List.replicate (leading.natAbs - 1) '0' ++ digits)
    else
      let whole := digits.take (leading.natAbs + 1)
      let rest := digits.drop (leading.natAbs + 1)
      let zeros := List.replicate (leading.natAbs + 1 - digits.length) '0'
      String.ofList (whole ++ zeros) ++ "." ++ (if rest.isEmpty then "0" else String.ofList rest)
  else
    let rest := digits.drop 1
    String.ofList (digits.take 1) ++
      (if rest.isEmpty then "" else "." ++ String.ofList rest) ++
      "e" ++ layout.exponentText leading

end Layout

/-- A double under a layout; zero is written `0.0` with its sign. -/
def Binary64.render (layout : Layout) (value : Binary64) : String :=
  (if value.negative then "-" else "") ++
    (if value.magnitude.isZero then "0.0" else layout.render value.magnitude.shortest)

end InterfaceLint.Decimal
