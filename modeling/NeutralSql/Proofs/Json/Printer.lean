import NeutralSql.Json.Printer

/-!
# Printed JSON

What the text of a value is made of: the text of a number has digits, letters, a point and signs
and nothing else, and a string is the characters of its content, some of them escaped.
-/

namespace NeutralSql

open Binary64 (Decimal NumberFormat)

namespace Json

/-- The text of a string, character by character. -/
theorem toList_quote (text : String) :
    (quote text).toList = '"' :: (text.toList.flatMap escape ++ ['"']) := by
  simp [quote]

/-- A character that the text of a number may have. -/
def isNumeric (c : Char) : Bool :=
  c.isAlphanum || c = '.' || c = '-' || c = '+'

/-- The text has such characters only. -/
def IsNumericText (text : String) : Prop :=
  ∀ c ∈ text.toList, isNumeric c = true

instance (text : String) : Decidable (IsNumericText text) :=
  -- Character by character: there may be an instance that tries all characters there are.
  List.decidableBAll (fun c => isNumeric c = true) text.toList

namespace IsNumericText

theorem append {first second : String} (isFirst : IsNumericText first)
    (isSecond : IsNumericText second) : IsNumericText (first ++ second) := by
  rw [IsNumericText, String.toList_append]
  exact List.forall_mem_append.2 ⟨isFirst, isSecond⟩

theorem ofList {text : List Char} (numeric : ∀ c ∈ text, isNumeric c = true) :
    IsNumericText (String.ofList text) := by
  rwa [IsNumericText, String.toList_ofList]

end IsNumericText

theorem isNumericText_nat (n : Nat) : IsNumericText (toString n) := by
  intro c listed
  rw [Nat.toString_eq_repr, Nat.toList_repr] at listed
  have isDigit := Nat.isDigit_of_mem_toDigits (by decide) (by decide) listed
  simp [isNumeric, Char.isAlphanum, isDigit]

theorem isNumericText_int (n : Int) : IsNumericText (toString n) := by
  cases n with
  | ofNat n => exact isNumericText_nat n
  | negSucc n =>
    have sign : IsNumericText "-" := by decide
    exact sign.append (isNumericText_nat (n + 1))

theorem isNumericText_zeros (count : Nat) : IsNumericText (Decimal.zeros count) := by
  refine .ofList fun c listed => ?_
  rw [List.eq_of_mem_replicate listed]
  decide

theorem isNumericText_positionalText {wholeSuffix : String} (suffix : IsNumericText wholeSuffix)
    (decimal : Decimal) : IsNumericText (decimal.positionalText wholeSuffix) := by
  have digits := isNumericText_nat decimal.coefficient
  rw [Decimal.positionalText]
  split
  · exact (digits.append (isNumericText_zeros _)).append suffix
  · split
    · have point : IsNumericText "." := by decide
      refine (IsNumericText.append (.ofList fun c listed => ?_) point).append
        (.ofList fun c listed => ?_)
      · exact digits c (List.mem_of_mem_take listed)
      · exact digits c (List.mem_of_mem_drop listed)
    · have lead : IsNumericText "0." := by decide
      exact (lead.append (isNumericText_zeros _)).append digits

theorem isNumericText_scientificText (decimal : Decimal) :
    IsNumericText decimal.scientificText := by
  have digits := isNumericText_nat decimal.coefficient
  have point : IsNumericText "." := by decide
  have letter : IsNumericText "e" := by decide
  have first : IsNumericText (String.ofList ((toString decimal.coefficient).toList.take 1)) :=
    .ofList fun c listed => digits c (List.mem_of_mem_take listed)
  have others : IsNumericText (String.ofList ((toString decimal.coefficient).toList.drop 1)) :=
    .ofList fun c listed => digits c (List.mem_of_mem_drop listed)
  rw [Decimal.scientificText]
  refine (((first.append ?_).append letter).append ?_).append (isNumericText_nat _)
  · split
    · decide
    · exact point.append others
  · split <;> decide

/-- A number in any layout. -/
theorem isNumericText_write {format : NumberFormat} (suffix : IsNumericText format.wholeSuffix)
    (x : Binary64) : IsNumericText (format.write x) := by
  have sign : IsNumericText (if x.isNegative then "-" else "") := by
    split <;> decide
  have laidOut (decimal : Decimal) :
      IsNumericText (if format.isPositional decimal.leadingPower then
        decimal.positionalText format.wholeSuffix else decimal.scientificText) := by
    split
    · exact isNumericText_positionalText suffix decimal
    · exact isNumericText_scientificText decimal
  exact sign.append (laidOut _)

/-- The text of a number. -/
theorem isNumericText_text (number : Number) : IsNumericText number.text := by
  cases number with
  | int value => exact isNumericText_int value
  | float value =>
    rw [Number.text]
    split
    · exact isNumericText_write (by decide) value
    · decide

end Json

end NeutralSql
