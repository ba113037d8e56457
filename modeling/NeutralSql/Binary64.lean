/-!
# Double-precision numbers

A double is held as its IEEE 754 bit pattern, so that equality is equality of
patterns and every operation is exact integer arithmetic followed by one rounding.
`ofRatio` is the only place that rounds; products and quotients go through it.
-/

namespace NeutralSql

/-- A double-precision number, identified by its bit pattern. -/
structure Binary64 where
  /-- Sign, eleven exponent bits and fifty-two fraction bits, highest first. -/
  bits : UInt64
  deriving DecidableEq

namespace Binary64

/-- The weight of the sign bit, the highest of 64. -/
def signBit : Nat :=
  Nat.pow 2 63

/-- The number of fractions between two powers of two: 52 bits. -/
def fractions : Nat :=
  Nat.pow 2 52

/-- The sign bit is set. -/
def isNegative (x : Binary64) : Bool :=
  signBit ≤ x.bits.toNat

/-- The pattern without its sign bit. -/
def magnitude (x : Binary64) : Nat :=
  x.bits.toNat % signBit

/-- The pattern of positive infinity; larger magnitudes are not numbers. -/
def infinityBits : Nat :=
  2047 * fractions

/-- Neither an infinity nor a NaN. -/
def isFinite (x : Binary64) : Bool :=
  x.magnitude < infinityBits

/-- Not a number. -/
def isNaN (x : Binary64) : Bool :=
  infinityBits < x.magnitude

/-- One of the two zeros. -/
def isZero (x : Binary64) : Bool :=
  x.magnitude = 0

/-- A number with the given sign and magnitude pattern. -/
def ofMagnitude (negative : Bool) (magnitude : Nat) : Binary64 :=
  ⟨UInt64.ofNat ((if negative then signBit else 0) + magnitude)⟩

/-- The same magnitude with the sign inverted. -/
def negate (x : Binary64) : Binary64 :=
  ofMagnitude (!x.isNegative) x.magnitude

/-- The integer `m` of a finite magnitude `m · 2 ^ q`. -/
def significand (x : Binary64) : Nat :=
  if x.magnitude < fractions then x.magnitude else x.magnitude % fractions + fractions

/-- The exponent `q` of a finite magnitude `m · 2 ^ q`. -/
def exponent (x : Binary64) : Int :=
  (max (x.magnitude / fractions) 1 : Nat) - 1075

/-- The fraction `numerator / denominator · 2 ^ shift`, as a pair. -/
def shiftRatio (numerator denominator : Nat) (shift : Int) : Nat × Nat :=
  if shift < 0 then (numerator, denominator * Nat.pow 2 shift.natAbs)
  else (numerator * Nat.pow 2 shift.natAbs, denominator)

/-- A finite magnitude as a fraction. -/
def ratio (x : Binary64) : Nat × Nat :=
  shiftRatio x.significand 1 x.exponent

/-- The integer nearest to `numerator / denominator`; a half goes to the even one. -/
def roundHalfEven (numerator denominator : Nat) : Nat :=
  let quotient := numerator / denominator
  let twice := 2 * (numerator % denominator)
  if twice < denominator then quotient
  else if denominator < twice then quotient + 1
  else quotient + quotient % 2

/-- The integer nearest to `numerator / denominator`; a half goes up. -/
def roundHalfUp (numerator denominator : Nat) : Nat :=
  (2 * numerator + denominator) / (2 * denominator)

/-- The largest `e` with `2 ^ e ≤ numerator / denominator`, for a positive fraction. -/
def floorLog2 (numerator denominator : Nat) : Int :=
  let estimate : Int := numerator.log2 - denominator.log2
  let (scaled, unit) := shiftRatio numerator denominator (-estimate)
  if scaled < unit then estimate - 1 else estimate

/-- The double nearest to a fraction: ties go to the even pattern, and what would
exceed the largest finite number is an infinity. -/
def ofRatio (negative : Bool) (numerator denominator : Nat) : Binary64 :=
  if numerator = 0 then ofMagnitude negative 0
  else
    let quantum : Int := max (floorLog2 numerator denominator - 52) (-1074)
    let (scaled, unit) := shiftRatio numerator denominator (-quantum)
    let pattern := (quantum + 1074).toNat * fractions + roundHalfEven scaled unit
    ofMagnitude negative (min pattern infinityBits)

/-- The double nearest to an integer. -/
def ofInt (n : Int) : Binary64 :=
  ofRatio (n < 0) n.natAbs 1

/-- The double nearest to a natural number. -/
def ofNat (n : Nat) : Binary64 :=
  ofRatio false n 1

/-- The rounded product of two finite numbers. -/
def mul (x y : Binary64) : Binary64 :=
  ofRatio (x.isNegative != y.isNegative) (x.ratio.1 * y.ratio.1) (x.ratio.2 * y.ratio.2)

/-- The rounded quotient of two finite numbers, the second not zero. -/
def div (x y : Binary64) : Binary64 :=
  ofRatio (x.isNegative != y.isNegative) (x.ratio.1 * y.ratio.2) (x.ratio.2 * y.ratio.1)

/-- The integer nearest to a finite nonnegative number, a half going up. -/
def roundToNat (x : Binary64) : Nat :=
  roundHalfUp x.ratio.1 x.ratio.2

end Binary64

end NeutralSql
