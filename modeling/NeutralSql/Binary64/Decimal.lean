import NeutralSql.Binary64

/-!
# Decimal text of a double

A finite double is written with the fewest decimal digits that round back to it.
For one digit, two digits and so on, the two neighbours of the value on that decimal
grid are tested against the interval of reals that round to the double; the first
grid with a hit wins, and of two hits the nearer. What remains open, which of two
equally near hits is taken and where the exponent is written out, is the business of
a `NumberFormat`.
-/

namespace NeutralSql.Binary64

/-- The number `coefficient · 10 ^ exponent`. -/
structure Decimal where
  coefficient : Nat
  exponent : Int
  deriving DecidableEq

/-- Which of two equally near decimals is chosen. -/
inductive Tie where
  /-- The one with the even last digit. -/
  | even
  /-- The larger one. -/
  | up
  deriving DecidableEq

/-- How a format lays out the decimals it writes. -/
structure NumberFormat where
  /-- The choice between two equally near decimals. -/
  tie : Tie
  /-- The powers of ten of a leading digit that are written without an exponent. -/
  isPositional : Int → Bool
  /-- What follows a number without a fractional part. -/
  wholeSuffix : String

namespace Decimal

/-- Trailing zeros of a coefficient belong to the exponent. -/
def normalize (d : Decimal) : Decimal :=
  if d.coefficient ≠ 0 ∧ d.coefficient % 10 = 0 then
    normalize ⟨d.coefficient / 10, d.exponent + 1⟩
  else d
termination_by d.coefficient
decreasing_by omega

/-- The power of ten of the leading digit. -/
def leadingPower (d : Decimal) : Int :=
  d.exponent + (toString d.coefficient).length - 1

/-- `count` zeros. -/
def zeros (count : Nat) : String :=
  String.ofList (List.replicate count '0')

/-- The digits with a point at the place of the units, and `wholeSuffix` where the
number has no fractional part. -/
def positionalText (wholeSuffix : String) (d : Decimal) : String :=
  let digits := toString d.coefficient
  let places := (-d.exponent).toNat
  if 0 ≤ d.exponent then digits ++ zeros d.exponent.toNat ++ wholeSuffix
  else if places < digits.length then
    let whole := digits.length - places
    String.ofList (digits.toList.take whole) ++ "." ++ String.ofList (digits.toList.drop whole)
  else "0." ++ zeros (places - digits.length) ++ digits

/-- One digit, the others behind a point, and the signed power of the first. -/
def scientificText (d : Decimal) : String :=
  let digits := (toString d.coefficient).toList
  let tail := if digits.length ≤ 1 then "" else "." ++ String.ofList (digits.drop 1)
  let sign := if d.leadingPower < 0 then "-" else "+"
  String.ofList (digits.take 1) ++ tail ++ "e" ++ sign ++ toString d.leadingPower.natAbs

end Decimal

/-- The largest `p` with `10 ^ p ≤ numerator / denominator`, for a positive fraction. -/
def floorLog10 (numerator denominator : Nat) : Int :=
  if denominator ≤ numerator then
    (toString (numerator / denominator)).length - 1
  else
    -((toString ((denominator + numerator - 1) / numerator - 1)).length : Int)

/-- The best multiple of `10 ^ place` among the two neighbours of a positive finite
number, if one of them rounds to it. Magnitudes are compared in quarters of the
distance to the next double. -/
def onGrid (tie : Tie) (x : Binary64) (place : Int) : Option Nat :=
  let (quarter, unit) := shiftRatio 1 1 (x.exponent - 2)
  let (step, scale) :=
    if 0 ≤ place then (Nat.pow 10 place.natAbs, 1) else (1, Nat.pow 10 place.natAbs)
  let quarters (count : Nat) : Nat := count * quarter * scale
  let value := quarters (4 * x.significand)
  let narrow := x.significand = fractions ∧ 2 * fractions ≤ x.magnitude
  let lower := quarters (4 * x.significand - if narrow then 1 else 2)
  let upper := quarters (4 * x.significand + 2)
  let grid := step * unit
  let below := value / grid
  let belowFits :=
    lower < below * grid || (lower = below * grid && x.significand % 2 = 0)
  let aboveFits :=
    (below + 1) * grid < upper || ((below + 1) * grid = upper && x.significand % 2 = 0)
  let distance := 2 * (value % grid)
  let aboveIsBetter :=
    grid < distance || (grid = distance && (tie = .up || below % 2 = 1))
  if belowFits && aboveFits then some (if aboveIsBetter then below + 1 else below)
  else if belowFits then some below
  else if aboveFits then some (below + 1)
  else none

/-- The decimal with the fewest digits that rounds to a positive finite number.
Seventeen digits always suffice. -/
def shortest (tie : Tie) (x : Binary64) : Decimal :=
  let top := floorLog10 x.ratio.1 x.ratio.2
  let found := (List.range 17).findSome? fun (more : Nat) =>
    (onGrid tie x (top - more)).map fun coefficient => Decimal.mk coefficient (top - more)
  (found.getD ⟨0, 0⟩).normalize

/-- The text of a finite number in a format; both zeros keep their sign. -/
def NumberFormat.write (format : NumberFormat) (x : Binary64) : String :=
  let decimal := if x.isZero then ⟨0, 0⟩ else shortest format.tie x
  (if x.isNegative then "-" else "") ++
    if format.isPositional decimal.leadingPower then
      decimal.positionalText format.wholeSuffix
    else decimal.scientificText

end NeutralSql.Binary64
