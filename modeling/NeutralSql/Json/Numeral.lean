import NeutralSql.Json.Token

/-!
# The value of a numeral

A numeral without point and exponent is an integer where it fits 64 bits, and every
other numeral is a double. The double is formed from at most 64 bits of digits, scaled
by one power of ten at a time, and each of these steps rounds; so the result may be
one unit away from the double nearest to the text. The grain of that rule is part of
the format: the same text gives the same double everywhere.
-/

namespace NeutralSql.Json

/-- Digits collected so far: the number that they form and the power of ten to scale
it by. -/
structure Collected where
  coefficient : Nat
  exponent : Int
  deriving DecidableEq

namespace Collected

/-- The coefficient with one more digit, if 64 bits hold it. -/
def append? (collected : Collected) (digit : Char) : Option Nat :=
  let longer := collected.coefficient * 10 + (digit.toNat - '0'.toNat)
  if longer < UInt64.size then some longer else none

/-- Collect the digits in front of the point. From the first digit that does not fit,
the remaining ones only scale. -/
def addWhole (collected : Collected) : List Char → Collected
  | [] => collected
  | digit :: rest =>
    match collected.append? digit with
    | some longer => addWhole { collected with coefficient := longer } rest
    | none => { collected with exponent := collected.exponent + (rest.length + 1) }

/-- Collect the digits behind the point, up to the first one that does not fit. -/
def addFraction (collected : Collected) : List Char → Collected
  | [] => collected
  | digit :: rest =>
    match collected.append? digit with
    | some longer => addFraction ⟨longer, collected.exponent - 1⟩ rest
    | none => collected

end Collected

/-- A decimal exponent as written, or nothing where it exceeds 31 bits. -/
def exponentValue? (digits : List Char) : Option Nat :=
  digits.foldlM (fun value digit =>
    let longer := value * 10 + (digit.toNat - '0'.toNat)
    if longer ≤ Int32.maxValue.toNatClampNeg then some longer else none) 0

/-- The double nearest to a power of ten. -/
def tenTo (power : Nat) : Binary64 :=
  .ofNat (Nat.pow 10 power)

/-- Scale a double by a power of ten: upwards in one step, where leaving the range of
doubles is a failure, and downwards in steps of at most 308 until nothing is left. -/
def scale? (x : Binary64) (power : Int) : Option Binary64 :=
  if power.natAbs ≤ 308 then
    if 0 ≤ power then
      let product := x.mul (tenTo power.natAbs)
      if product.isFinite then some product else none
    else some (x.div (tenTo power.natAbs))
  else if x.isZero then some x
  else if 0 ≤ power then none
  else scale? (x.div (tenTo 308)) (power + 308)
termination_by power.natAbs
decreasing_by omega

namespace Numeral

/-- The double that the digits and a power of ten make, with the sign of the numeral. -/
def signedDouble? (numeral : Numeral) (collected : Collected) : Option Number :=
  (scale? (.ofNat collected.coefficient) collected.exponent).map fun magnitude =>
    .float (if numeral.isNegative then magnitude.negate else magnitude)

/-- The value of a numeral that has a point or an exponent, or whose digits exceed
64 bits. An exponent beyond 31 bits leaves zero, or no value where it would enlarge a
number that is not zero. -/
def double? (numeral : Numeral) : Option Number :=
  let collected := (Collected.addWhole ⟨0, 0⟩ numeral.whole).addFraction (numeral.fraction.getD [])
  match numeral.exponent with
  | none => numeral.signedDouble? collected
  | some (isNegative, digits) =>
    match exponentValue? digits with
    | some power =>
      let shift : Int := if isNegative then -power else power
      numeral.signedDouble? { collected with exponent := collected.exponent + shift }
    | none =>
      if collected.coefficient ≠ 0 ∧ !isNegative then none
      else some (.float (.ofMagnitude numeral.isNegative 0))

/-- The integer that a numeral without point and exponent denotes, if it lies within
64 bits: unsigned without a sign, signed and not zero with one. -/
def integer? (numeral : Numeral) : Option Int :=
  if numeral.fraction.isSome ∨ numeral.exponent.isSome then none
  else
    let collected := Collected.addWhole ⟨0, 0⟩ numeral.whole
    if collected.exponent ≠ 0 then none
    else if !numeral.isNegative then some collected.coefficient
    else if 0 < collected.coefficient ∧ collected.coefficient ≤ Int64.minValue.toInt.natAbs then
      some (-collected.coefficient)
    else none

/-- The number that a numeral denotes, or nothing where it exceeds all doubles. -/
def value? (numeral : Numeral) : Option Number :=
  match numeral.integer? with
  | some value => some (.int value)
  | none => numeral.double?

end Numeral

end NeutralSql.Json
