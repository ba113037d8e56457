import Mathlib.Algebra.Order.Field.Power
import Mathlib.Algebra.Order.Field.Rat
import Mathlib.Tactic.FieldSimp
import Mathlib.Tactic.Linarith
import Mathlib.Tactic.Positivity
import Mathlib.Tactic.Ring
import NeutralSql.Binary64

/-!
# Finite doubles

Rounding a fraction gives a finite double as long as the fraction stays below `2 ^ 1023`:
`isFinite_ofRatio`. Quotients by at least two and integers of 64 bits are of this kind.
-/

namespace NeutralSql.Binary64

/-- The fraction that a pair of a numerator and a denominator stands for. -/
def fraction (pair : Nat × Nat) : ℚ :=
  pair.1 / pair.2

section Fractions

variable {numerator denominator : Nat}

/-- A shifted fraction keeps a positive denominator. -/
theorem shiftRatio_pos (numerator : Nat) (positive : 0 < denominator) (shift : Int) :
    0 < (shiftRatio numerator denominator shift).2 := by
  rw [shiftRatio]
  split
  · exact Nat.mul_pos positive (Nat.pow_pos (by decide))
  · exact positive

/-- Shifting multiplies a fraction by a power of two. -/
theorem fraction_shiftRatio (numerator denominator : Nat) (shift : Int) :
    fraction (shiftRatio numerator denominator shift) =
      fraction (numerator, denominator) * 2 ^ shift := by
  simp only [shiftRatio, fraction, Nat.pow_eq]
  split
  · rename_i isNegative
    have power : (2 : ℚ) ^ shift = (2 ^ shift.natAbs)⁻¹ := by
      rw [← zpow_natCast, ← zpow_neg, Int.ofNat_natAbs_of_nonpos (by omega), neg_neg]
    rw [power]
    push_cast
    rw [div_mul_eq_div_div, div_eq_mul_inv (_ / _)]
  · have power : (2 : ℚ) ^ shift = 2 ^ shift.natAbs := by
      rw [← zpow_natCast, Int.natAbs_of_nonneg (by omega)]
    rw [power]
    push_cast
    rw [div_mul_eq_mul_div]

/-- A fraction is below a whole bound if its numerator is below that many denominators. -/
theorem fraction_lt_iff (numerator bound : Nat) (positive : 0 < denominator) :
    fraction (numerator, denominator) < bound ↔ numerator < bound * denominator := by
  have isPositive : (0 : ℚ) < denominator := by exact_mod_cast positive
  rw [fraction, div_lt_iff₀ isPositive]
  exact_mod_cast Iff.rfl

/-- A number lies between the powers of two around its logarithm. -/
theorem log2_bounds {n : Nat} (positive : 0 < n) :
    (2 : ℚ) ^ (n.log2 : Int) ≤ n ∧ (n : ℚ) < 2 ^ ((n.log2 : Int) + 1) := by
  have lower := Nat.log2_self_le (Nat.ne_of_gt positive)
  have upper := Nat.lt_log2_self (n := n)
  constructor
  · rw [zpow_natCast]
    exact_mod_cast lower
  · rw [show (n.log2 : Int) + 1 = ((n.log2 + 1 : Nat) : Int) by push_cast; rfl, zpow_natCast]
    exact_mod_cast upper

/-- A fraction lies between the powers of two around its logarithm. -/
theorem floorLog2_bounds (numeratorPositive : 0 < numerator) (positive : 0 < denominator) :
    (2 : ℚ) ^ floorLog2 numerator denominator ≤ fraction (numerator, denominator) ∧
      fraction (numerator, denominator) < 2 ^ (floorLog2 numerator denominator + 1) := by
  obtain ⟨topLower, topUpper⟩ := log2_bounds numeratorPositive
  obtain ⟨bottomLower, bottomUpper⟩ := log2_bounds positive
  have isPositive : (0 : ℚ) < denominator := by exact_mod_cast positive
  generalize estimated : (numerator.log2 : Int) - denominator.log2 = estimate
  have upper : fraction (numerator, denominator) < 2 ^ (estimate + 1) := by
    rw [fraction, div_lt_iff₀ isPositive]
    calc (numerator : ℚ) < 2 ^ ((numerator.log2 : Int) + 1) := topUpper
      _ = 2 ^ (estimate + 1) * 2 ^ (denominator.log2 : Int) := by
        rw [← zpow_add₀ two_ne_zero]
        congr 1
        omega
      _ ≤ 2 ^ (estimate + 1) * denominator := by gcongr
  have lower : 2 ^ (estimate - 1) ≤ fraction (numerator, denominator) := by
    rw [fraction, le_div_iff₀ isPositive]
    calc (2 : ℚ) ^ (estimate - 1) * denominator
        ≤ 2 ^ (estimate - 1) * 2 ^ ((denominator.log2 : Int) + 1) := by gcongr
      _ = 2 ^ (numerator.log2 : Int) := by
        rw [← zpow_add₀ two_ne_zero]
        congr 1
        omega
      _ ≤ numerator := topLower
  have shifted := fraction_shiftRatio numerator denominator (-estimate)
  have shiftedPositive := shiftRatio_pos numerator positive (-estimate)
  cases pair : shiftRatio numerator denominator (-estimate) with
  | mk scaled unit =>
    rw [pair, zpow_neg, ← div_eq_mul_inv] at shifted
    rw [pair] at shiftedPositive
    have below := fraction_lt_iff scaled 1 shiftedPositive
    rw [shifted, Nat.cast_one, div_lt_one (by positivity), one_mul] at below
    simp only [floorLog2, estimated, pair]
    -- The estimate is one too large where the scaled fraction is below one.
    split
    · rename_i less
      exact ⟨lower, by rw [sub_add_cancel]; exact below.2 less⟩
    · rename_i notLess
      exact ⟨not_lt.1 (mt below.1 notLess), upper⟩

end Fractions

/-! ## Rounding -/

/-- Rounding stays within a whole bound. -/
theorem roundHalfEven_le {numerator denominator bound : Nat}
    (below : numerator < bound * denominator) : roundHalfEven numerator denominator ≤ bound := by
  have whole : numerator / denominator < bound := Nat.div_lt_of_lt_mul (by rwa [Nat.mul_comm])
  have parity := Nat.mod_lt (numerator / denominator) Nat.two_pos
  simp only [roundHalfEven]
  split
  · exact whole.le
  · split <;> omega

/-- A magnitude below infinity is finite, with either sign. -/
theorem isFinite_ofMagnitude (isNegative : Bool) {magnitude : Nat}
    (below : magnitude < infinityBits) : (ofMagnitude isNegative magnitude).isFinite = true := by
  have sign : signBit = 9223372036854775808 := by decide
  have bound : infinityBits < 9223372036854775808 := by decide
  have kept : (ofMagnitude isNegative magnitude).magnitude = magnitude := by
    rw [Binary64.magnitude, ofMagnitude, UInt64.toNat_ofNat']
    cases isNegative <;> simp only [Bool.false_eq_true, if_false, if_true, sign] <;> omega
  rw [isFinite, kept]
  exact decide_eq_true below

/-- A fraction below `2 ^ 1023` rounds to a finite double. -/
theorem isFinite_ofRatio (isNegative : Bool) {numerator denominator : Nat}
    (positive : 0 < denominator) (below : fraction (numerator, denominator) < 2 ^ (1023 : Int)) :
    (ofRatio isNegative numerator denominator).isFinite = true := by
  rw [ofRatio]
  split
  · exact isFinite_ofMagnitude isNegative (by decide)
  · rename_i notZero
    obtain ⟨lower, upper⟩ := floorLog2_bounds (Nat.pos_of_ne_zero notZero) positive
    have one : (1 : ℚ) < 2 := one_lt_two
    have logarithm : floorLog2 numerator denominator < 1023 :=
      (zpow_lt_zpow_iff_right₀ one).1 (lower.trans_lt below)
    generalize quantum : max (floorLog2 numerator denominator - 52) (-1074) = unitPower
    have scaledValue := fraction_shiftRatio numerator denominator (-unitPower)
    have unitPositive := shiftRatio_pos numerator positive (-unitPower)
    cases pair : shiftRatio numerator denominator (-unitPower) with
    | mk scaled unit =>
      simp only [pair] at scaledValue unitPositive
      have small : fraction (scaled, unit) < (2 ^ 53 : Nat) := by
        rw [scaledValue]
        calc fraction (numerator, denominator) * 2 ^ (-unitPower)
            < 2 ^ (floorLog2 numerator denominator + 1) * 2 ^ (-unitPower) := by gcongr
          _ = 2 ^ (floorLog2 numerator denominator + 1 + -unitPower) :=
            (zpow_add₀ two_ne_zero _ _).symm
          _ ≤ 2 ^ (53 : Int) := zpow_le_zpow_right₀ one.le (by omega)
          _ = (2 ^ 53 : Nat) := by norm_num
      have rounded := roundHalfEven_le ((fraction_lt_iff _ _ unitPositive).1 small)
      simp only [pair]
      refine isFinite_ofMagnitude isNegative (lt_of_le_of_lt (Nat.min_le_left _ _) ?_)
      have shift : (unitPower + 1074).toNat ≤ 2044 := by omega
      have largest : 2044 * fractions + 2 ^ 53 < infinityBits := by decide
      have scaledShift := Nat.mul_le_mul_right fractions shift
      omega

/-! ## Results of arithmetic -/

/-- A finite double is a fraction with a positive denominator, below `2 ^ 1024`. -/
theorem fraction_ratio_lt {x : Binary64} (isFinite : x.isFinite = true) :
    0 < x.ratio.2 ∧ fraction x.ratio < 2 ^ (1024 : Int) := by
  have below : x.magnitude < infinityBits := of_decide_eq_true isFinite
  have size : fractions = 4503599627370496 := by decide
  have infinity : infinityBits = 2047 * 4503599627370496 := by decide
  refine ⟨shiftRatio_pos _ Nat.one_pos _, ?_⟩
  have significand : x.significand < 2 ^ 53 := by
    rw [Binary64.significand, size]
    split <;> omega
  have exponent : x.exponent ≤ 971 := by
    rw [Binary64.exponent, size]
    omega
  have bound : (x.significand : ℚ) < 2 ^ (53 : Int) := by
    rw [zpow_ofNat]
    exact_mod_cast significand
  have power : (2 : ℚ) ^ x.exponent ≤ 2 ^ (971 : Int) :=
    zpow_le_zpow_right₀ one_le_two exponent
  rw [ratio, fraction_shiftRatio, fraction, Nat.cast_one, div_one]
  calc (x.significand : ℚ) * 2 ^ x.exponent < 2 ^ (53 : Int) * 2 ^ (971 : Int) :=
        mul_lt_mul bound power (zpow_pos two_pos _) (zpow_pos two_pos _).le
    _ = 2 ^ ((53 : Int) + 971) := (zpow_add₀ two_ne_zero _ _).symm

/-- A finite double divided by at least two is finite. -/
theorem isFinite_div {x y : Binary64} (isFinite : x.isFinite = true)
    (positive : 0 < y.ratio.2) (large : 2 * y.ratio.2 ≤ y.ratio.1) :
    (x.div y).isFinite = true := by
  obtain ⟨xPositive, below⟩ := fraction_ratio_lt isFinite
  have yPositive : 0 < y.ratio.1 := by omega
  refine isFinite_ofRatio _ (Nat.mul_pos xPositive yPositive) ?_
  have atLeastTwo : 2 ≤ fraction y.ratio := by
    rw [fraction, le_div_iff₀ (by exact_mod_cast positive)]
    exact_mod_cast large
  have quotient : fraction (x.ratio.1 * y.ratio.2, x.ratio.2 * y.ratio.1) =
      fraction x.ratio / fraction y.ratio := by
    simp only [fraction]
    push_cast
    rw [div_div_div_eq]
  rw [quotient, div_lt_iff₀ (by linarith)]
  calc fraction x.ratio < 2 ^ (1024 : Int) := below
    _ = 2 ^ (1023 : Int) * 2 := zpow_add_one₀ two_ne_zero 1023
    _ ≤ 2 ^ (1023 : Int) * fraction y.ratio := by gcongr

/-- An integer of at most 64 bits is a finite double, with either sign. -/
theorem isFinite_ofRatio_one (isNegative : Bool) {n : Nat} (small : n ≤ 2 ^ 64) :
    (ofRatio isNegative n 1).isFinite = true := by
  refine isFinite_ofRatio isNegative Nat.one_pos ?_
  rw [fraction, Nat.cast_one, div_one]
  calc (n : ℚ) ≤ 2 ^ 64 := by exact_mod_cast small
    _ = 2 ^ (64 : Int) := (zpow_ofNat 2 64).symm
    _ < 2 ^ (1023 : Int) := zpow_lt_zpow_right₀ one_lt_two (by norm_num)

/-- Inverting the sign of a finite double leaves it finite. -/
theorem isFinite_negate {x : Binary64} (isFinite : x.isFinite = true) :
    x.negate.isFinite = true :=
  isFinite_ofMagnitude _ (of_decide_eq_true isFinite)

end NeutralSql.Binary64
