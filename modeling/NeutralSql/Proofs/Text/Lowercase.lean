import Mathlib
import NeutralSql.Text.Lowercase

/-!
# Lower-casing settles at once

Text in lower case is its own lower-case form: `lowercase_lowercase`. The table of shifts
decides on it. Its rows send no code point to one that a row covers, which
`rows_separate` checks on whole rows rather than on their code points.
-/

namespace NeutralSql.Text

/-- A row of the table of shifts: `(first, last, stride, distance)`. -/
abbrev Shift := Nat × Nat × Nat × Int

namespace Shift

/-- A row covers every `stride`-th code point from `first` to `last`. -/
def covers (shift : Shift) (code : Nat) : Bool :=
  shift.1 ≤ code && code ≤ shift.2.1 && (code - shift.1) % shift.2.2.1 == 0

/-- The smallest code point that a row leads to. -/
def least (shift : Shift) : Nat :=
  (shift.1 + shift.2.2.2).toNat

/-- The largest code point that a row leads to. -/
def greatest (shift : Shift) : Nat :=
  (shift.2.1 + shift.2.2.2).toNat

/-- The code points that one row leads to stay clear of those that another covers: they
lie before or behind them, or both advance by two and have different parities. -/
def clears (shift other : Shift) : Bool :=
  shift.greatest.blt other.1 || other.2.1.blt shift.least ||
    ((shift.2.2.1 == 2 || shift.1 == shift.2.1) && other.2.2.1 == 2 &&
      (shift.least + other.1) % 2 == 1)

/-- What every row satisfies on its own: a stride of one or two, ends in order, and forms
that are characters, no capital letters of ASCII, and neither the capital dotted I nor
the capital sigma. -/
def sound (shift : Shift) : Bool :=
  (shift.2.2.1 == 1 || shift.2.2.1 == 2) && 0 ≤ shift.1 + shift.2.2.2 &&
    shift.1 ≤ shift.2.1 && (shift.2.1 - shift.1) % shift.2.2.1 == 0 &&
    (shift.greatest < 0xD800 || (0xDFFF < shift.least && shift.greatest < 0x110000)) &&
    ('Z'.toNat < shift.least || shift.greatest < 'A'.toNat) &&
    ('İ'.toNat < shift.least || shift.greatest < 'İ'.toNat) &&
    ('Σ'.toNat < shift.least || shift.greatest < 'Σ'.toNat)

/-- The code point that a row leads to from a code point. -/
def image (shift : Shift) (code : Nat) : Nat :=
  (code + shift.2.2.2).toNat

/-- What a row leads to lies between its ends. -/
theorem image_bounds {shift : Shift} {code : Nat} (covered : shift.covers code) :
    shift.least ≤ shift.image code ∧ shift.image code ≤ shift.greatest := by
  simp only [covers, Bool.and_eq_true, decide_eq_true_eq] at covered
  simp only [least, greatest, image]
  omega

/-- No row covers a code point that a row leads to and clears it of. -/
theorem not_covers_image {shift other : Shift} {code : Nat} (isSound : shift.sound)
    (covered : shift.covers code) (isClear : shift.clears other) :
    other.covers (shift.image code) = false := by
  have bounds := image_bounds covered
  obtain ⟨first, last, stride, distance⟩ := shift
  simp only [sound, Bool.and_eq_true, Bool.or_eq_true, beq_iff_eq, decide_eq_true_eq] at isSound
  simp only [covers, Bool.and_eq_true, decide_eq_true_eq, beq_iff_eq] at covered
  simp only [clears, Bool.or_eq_true, Bool.and_eq_true, Nat.blt_eq, beq_iff_eq] at isClear
  rw [Bool.eq_false_iff]
  intro reached
  simp only [covers, Bool.and_eq_true, decide_eq_true_eq, beq_iff_eq] at reached
  simp only [least, greatest, image] at *
  rcases isClear with (before | behind) | ⟨⟨advance, otherAdvance⟩, parity⟩
  · omega
  · omega
  · have sameParity : (code - first) % 2 = 0 := by
      rcases advance with rfl | rfl
      · omega
      · omega
    rw [otherAdvance] at reached
    omega

end Shift

/-- Every row of the table is sound. -/
theorem rows_sound : lowercaseShifts.all Shift.sound = true := by
  decide +kernel

/-- Every row of the table stays clear of every row. -/
theorem rows_separate :
    (lowercaseShifts.all fun (shift : Shift) => lowercaseShifts.all shift.clears) = true := by
  decide +kernel

/-- No row covers a code point that a row leads to. -/
theorem find?_image {shift : Shift} {code : Nat} (listed : shift ∈ lowercaseShifts)
    (covered : shift.covers code) :
    lowercaseShifts.find? (fun (other : Shift) => other.covers (shift.image code)) = none := by
  rw [List.find?_eq_none]
  intro other isListed
  have isSound := List.all_eq_true.1 rows_sound shift listed
  have isClear := List.all_eq_true.1 (List.all_eq_true.1 rows_separate shift listed) other isListed
  rw [Shift.not_covers_image isSound covered isClear]
  exact Bool.false_ne_true

/-- A character beyond ASCII that no row covers, other than the dotted I, stands for
itself. -/
theorem lowercaseChar_of_uncovered {c : Char} (beyond : ¬c.toNat < 0x80) (notDotted : c ≠ 'İ')
    (uncovered : lowercaseShifts.find? (fun (shift : Shift) => shift.covers c.toNat) = none) :
    lowercaseChar c = [c] := by
  rw [lowercaseChar, if_neg beyond, if_neg notDotted]
  simp only [Shift.covers] at uncovered
  rw [uncovered]

/-- A character in lower case: it stands for itself and is no capital sigma. -/
def IsLowercase (c : Char) : Prop :=
  c ≠ 'Σ' ∧ lowercaseChar c = [c]

/-- The form of a character of ASCII is of ASCII. -/
theorem toLower_lt {c : Char} (isAscii : c.toNat < 0x80) : c.toLower.toNat < 0x80 := by
  by_cases isUpper : c.isUpper = true
  · have isLower : c.toLower.isLower = true := by
      rw [Char.isLower_toLower_eq_isAlpha, Char.isAlpha, isUpper, Bool.true_or]
    simp only [Char.isLower, Bool.and_eq_true, decide_eq_true_eq] at isLower
    exact Nat.lt_of_le_of_lt (UInt32.le_iff_toNat_le.1 isLower.2) (by decide)
  · rwa [Char.toLower_eq_of_not_isUpper isUpper]

/-- A character that is no capital letter of ASCII stands for itself. -/
theorem toLower_of_not_capital {c : Char} (outside : 'Z'.toNat < c.toNat ∨ c.toNat < 'A'.toNat) :
    c.toLower = c := by
  apply Char.toLower_eq_of_not_isUpper
  intro isUpper
  simp only [Char.isUpper, decide_eq_true_eq] at isUpper
  have least : 'A'.toNat ≤ c.toNat := UInt32.le_iff_toNat_le.1 isUpper.1
  have greatest : c.toNat ≤ 'Z'.toNat := UInt32.le_iff_toNat_le.1 isUpper.2
  omega

/-- What a row leads to is a character. -/
theorem toNat_image {shift : Shift} {code : Nat} (listed : shift ∈ lowercaseShifts)
    (covered : shift.covers code) :
    (Char.ofNat (shift.image code)).toNat = shift.image code := by
  have bounds := Shift.image_bounds covered
  have isSound := List.all_eq_true.1 rows_sound shift listed
  simp only [Shift.sound, Bool.and_eq_true, Bool.or_eq_true, decide_eq_true_eq] at isSound
  obtain ⟨⟨⟨⟨-, valid⟩, -⟩, -⟩, -⟩ := isSound
  have isValid : (shift.image code).isValidChar := by
    simp only [Nat.isValidChar]
    omega
  rw [Char.ofNat, dif_pos isValid]
  rfl

/-- The form that a row leads to is in lower case. -/
theorem isLowercase_image {shift : Shift} {code : Nat} (listed : shift ∈ lowercaseShifts)
    (covered : shift.covers code) : IsLowercase (Char.ofNat (shift.image code)) := by
  have bounds := Shift.image_bounds covered
  have uncovered := find?_image listed covered
  have isSound := List.all_eq_true.1 rows_sound shift listed
  simp only [Shift.sound, Bool.and_eq_true, Bool.or_eq_true, decide_eq_true_eq,
    Char.reduceToNat] at isSound
  obtain ⟨⟨⟨-, letter⟩, dotted⟩, sigma⟩ := isSound
  have code_eq := toNat_image listed covered
  generalize Char.ofNat (shift.image code) = form at code_eq
  have differs (other : Char) (apart : form.toNat ≠ other.toNat) : form ≠ other :=
    fun same => apart (congrArg Char.toNat same)
  have notSigma : form ≠ 'Σ' := differs _ (by simp only [Char.reduceToNat]; omega)
  have notDotted : form ≠ 'İ' := differs _ (by simp only [Char.reduceToNat]; omega)
  refine ⟨notSigma, ?_⟩
  by_cases isAscii : form.toNat < 0x80
  · have itself : form.toLower = form :=
      toLower_of_not_capital (by simp only [Char.reduceToNat]; omega)
    rw [lowercaseChar, if_pos isAscii, itself]
  · rw [← code_eq] at uncovered
    exact lowercaseChar_of_uncovered isAscii notDotted uncovered

/-- The form of a character of ASCII is in lower case. -/
theorem isLowercase_toLower {c : Char} (isAscii : c.toNat < 0x80) : IsLowercase c.toLower := by
  have lowerAscii := toLower_lt isAscii
  refine ⟨?_, ?_⟩
  · intro isSigma
    rw [isSigma] at lowerAscii
    exact absurd lowerAscii (by decide)
  · rw [lowercaseChar, if_pos lowerAscii, Char.toLower_toLower_eq_toLower]

/-- The forms of a character other than the capital sigma are in lower case. -/
theorem isLowercase_of_mem_lowercaseChar {c form : Char} (notSigma : c ≠ 'Σ')
    (isForm : form ∈ lowercaseChar c) : IsLowercase form := by
  rw [lowercaseChar] at isForm
  split at isForm
  · rename_i isAscii
    rw [List.mem_singleton.1 isForm]
    exact isLowercase_toLower isAscii
  · rename_i beyond
    split at isForm
    · rcases List.mem_pair.1 isForm with rfl | rfl
      · exact ⟨by decide, by decide⟩
      · exact ⟨by decide, by decide +kernel⟩
    · rename_i notDotted
      split at isForm
      · rename_i first last stride distance found
        rw [List.mem_singleton.1 isForm]
        have covered : Shift.covers (first, last, stride, distance) c.toNat = true :=
          List.find?_some (p := fun (shift : Shift) => shift.covers c.toNat) found
        exact isLowercase_image (List.mem_of_find?_eq_some found) covered
      · rename_i uncovered
        rw [List.mem_singleton.1 isForm]
        exact ⟨notSigma, lowercaseChar_of_uncovered beyond notDotted uncovered⟩

/-- Text whose characters are in lower case stands for itself. -/
theorem lowercaseFrom_of_isLowercase {before text : List Char}
    (settled : ∀ c ∈ text, IsLowercase c) : lowercaseFrom before text = text := by
  induction text generalizing before with
  | nil => rfl
  | cons c rest inductionHypothesis =>
    obtain ⟨notSigma, itself⟩ := settled c List.mem_cons_self
    have restSettled : ∀ other ∈ rest, IsLowercase other :=
      fun other isRest => settled other (List.mem_cons_of_mem c isRest)
    rw [lowercaseFrom, if_neg notSigma, itself, inductionHypothesis restSettled]
    rfl

/-- Lower-casing leaves only characters in lower case. -/
theorem isLowercase_of_mem_lowercaseFrom {before text : List Char} {form : Char}
    (isForm : form ∈ lowercaseFrom before text) : IsLowercase form := by
  induction text generalizing before with
  | nil => exact absurd isForm List.not_mem_nil
  | cons c rest inductionHypothesis =>
    rw [lowercaseFrom, List.mem_append] at isForm
    rcases isForm with isFirst | isRest
    · split at isFirst
      · rw [List.mem_singleton.1 isFirst]
        split
        · exact ⟨by decide, by decide +kernel⟩
        · exact ⟨by decide, by decide +kernel⟩
      · rename_i notSigma
        exact isLowercase_of_mem_lowercaseChar notSigma isFirst
    · exact inductionHypothesis isRest

/-- Text in lower case is its own lower-case form. -/
@[simp] theorem lowercase_lowercase (text : String) :
    lowercase (lowercase text) = lowercase text := by
  have settled : lowercaseFrom [] (lowercaseFrom [] text.toList) = lowercaseFrom [] text.toList :=
    lowercaseFrom_of_isLowercase fun _ isForm => isLowercase_of_mem_lowercaseFrom isForm
  rw [lowercase, lowercase, String.toList_ofList, settled]

end NeutralSql.Text
