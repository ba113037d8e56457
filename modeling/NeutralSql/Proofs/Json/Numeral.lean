import NeutralSql.Json.Numeral
import NeutralSql.Proofs.Binary64

/-!
# Numbers that texts denote

A numeral denotes an integer of 64 bits or a finite double, or nothing at all:
`Numeral.fits_of_value?`. No way of collecting its digits or of scaling them leaves that range.
-/

namespace NeutralSql.Json

/-- An integer of 64 bits, with or without a sign, or a finite double. -/
def Number.Fits : Number → Prop
  | .int value => Int64.minValue.toInt ≤ value ∧ value < UInt64.size
  | .float value => value.isFinite = true

namespace Collected

/-- A coefficient with one more digit still fits 64 bits. -/
theorem lt_of_append? {collected : Collected} {digit : Char} {longer : Nat}
    (appended : collected.append? digit = some longer) : longer < UInt64.size := by
  rw [append?] at appended
  split at appended
  · rename_i fits
    exact Option.some.inj appended ▸ fits
  · contradiction

/-- What one more digit in front of the point does. -/
theorem addWhole_cons (collected : Collected) (digit : Char) (rest : List Char) :
    collected.addWhole (digit :: rest) =
      match collected.append? digit with
      | some longer => addWhole { collected with coefficient := longer } rest
      | none => { collected with exponent := collected.exponent + (rest.length + 1) } := by
  with_unfolding_all exact rfl

/-- What one more digit behind the point does. -/
theorem addFraction_cons (collected : Collected) (digit : Char) (rest : List Char) :
    collected.addFraction (digit :: rest) =
      match collected.append? digit with
      | some longer => addFraction ⟨longer, collected.exponent - 1⟩ rest
      | none => collected := by
  with_unfolding_all exact rfl

/-- The digits in front of the point leave a coefficient of 64 bits. -/
theorem addWhole_lt {collected : Collected} (fits : collected.coefficient < UInt64.size)
    (digits : List Char) : (collected.addWhole digits).coefficient < UInt64.size := by
  induction digits generalizing collected with
  | nil => exact fits
  | cons digit rest inductionHypothesis =>
    rw [addWhole_cons]
    split
    · rename_i longer appended
      exact inductionHypothesis (lt_of_append? appended)
    · exact fits

/-- The digits behind the point leave a coefficient of 64 bits. -/
theorem addFraction_lt {collected : Collected} (fits : collected.coefficient < UInt64.size)
    (digits : List Char) : (collected.addFraction digits).coefficient < UInt64.size := by
  induction digits generalizing collected with
  | nil => exact fits
  | cons digit rest inductionHypothesis =>
    rw [addFraction_cons]
    split
    · rename_i longer appended
      exact inductionHypothesis (lt_of_append? appended)
    · exact fits

end Collected

/-- Powers of ten up to the largest that is a finite double are at least two. -/
theorem tenTo_large : ∀ power < 309, 0 < power →
    0 < (tenTo power).ratio.2 ∧ 2 * (tenTo power).ratio.2 ≤ (tenTo power).ratio.1 := by
  decide +kernel

/-- Dividing by a power of ten leaves a double finite. -/
theorem isFinite_div_tenTo {x : Binary64} (isFinite : x.isFinite = true) {power : Nat}
    (positive : 0 < power) (small : power ≤ 308) : (x.div (tenTo power)).isFinite = true := by
  obtain ⟨denominator, large⟩ := tenTo_large power (by omega) positive
  exact Binary64.isFinite_div isFinite denominator large

/-- Scaling a finite double by a power of ten leaves it finite. -/
theorem isFinite_of_scale? {x y : Binary64} {power : Int} (isFinite : x.isFinite = true)
    (scaled : scale? x power = some y) : y.isFinite = true := by
  fun_induction scale? x power with
  | case1 x power small isUp product =>
    obtain rfl := Option.some.inj scaled
    assumption
  | case2 => contradiction
  | case3 x power small isDown =>
    obtain rfl := Option.some.inj scaled
    exact isFinite_div_tenTo isFinite (by omega) small
  | case4 =>
    obtain rfl := Option.some.inj scaled
    exact isFinite
  | case5 => contradiction
  | case6 x power large notZero isDown inductionHypothesis =>
    exact inductionHypothesis (isFinite_div_tenTo isFinite (by decide) (by decide)) scaled

namespace Numeral

variable {numeral : Numeral} {number : Number}

/-- A double made of collected digits is finite. -/
theorem fits_of_signedDouble? {collected : Collected} (small : collected.coefficient < UInt64.size)
    (read : numeral.signedDouble? collected = some number) : number.Fits := by
  rw [signedDouble?, Option.map_eq_some_iff] at read
  obtain ⟨magnitude, scaled, rfl⟩ := read
  have isFinite := isFinite_of_scale?
    (Binary64.isFinite_ofRatio_one false (Nat.le_of_lt small)) scaled
  rw [Number.Fits]
  split
  · exact Binary64.isFinite_negate isFinite
  · exact isFinite

/-- A numeral read as a double is finite. -/
theorem fits_of_double? (read : numeral.double? = some number) : number.Fits := by
  have small : ((Collected.addWhole ⟨0, 0⟩ numeral.whole).addFraction
      (numeral.fraction.getD [])).coefficient < UInt64.size :=
    Collected.addFraction_lt (Collected.addWhole_lt (by decide) _) _
  simp only [double?] at read
  split at read
  · exact fits_of_signedDouble? small read
  · split at read
    · exact fits_of_signedDouble? (by exact small) read
    · split at read
      · contradiction
      · obtain rfl := Option.some.inj read
        exact Binary64.isFinite_ofMagnitude _ (by decide)

/-- A numeral read as an integer fits 64 bits. -/
theorem fits_of_integer? {value : Int} (read : numeral.integer? = some value) :
    (Number.int value).Fits := by
  have small : (Collected.addWhole ⟨0, 0⟩ numeral.whole).coefficient < UInt64.size :=
    Collected.addWhole_lt (by decide) _
  have least : Int64.minValue.toInt = -9223372036854775808 := by decide
  have size : UInt64.size = 18446744073709551616 := by decide
  simp only [integer?, least] at read
  rw [size] at small
  simp only [Number.Fits, least, size]
  split at read
  · contradiction
  · split at read
    · contradiction
    · split at read
      · obtain rfl := Option.some.inj read
        omega
      · split at read
        · obtain rfl := Option.some.inj read
          omega
        · contradiction

/-- What a numeral denotes fits 64 bits or is a finite double. -/
theorem fits_of_value? (read : numeral.value? = some number) : number.Fits := by
  rw [value?] at read
  split at read
  · rename_i value integer
    obtain rfl := Option.some.inj read
    exact fits_of_integer? integer
  · exact fits_of_double? read

end Numeral

end NeutralSql.Json
