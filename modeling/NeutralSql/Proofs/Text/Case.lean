import Mathlib
import NeutralSql.Proofs.Text.Lowercase
import NeutralSql.Text.Blank
import NeutralSql.Text.Word

/-!
# The case of ASCII letters

A view of characters ignores case if it sees the same in a letter of ASCII and in its lower-case
form. Scanning a text with such a view can be exchanged with writing the text in lower case, and
so can trimming it. Lower-casing all of a text comes to the same for a text in lower case:
`lowercase_asciiLower`.
-/

namespace NeutralSql.Text

/-! ## Views of characters -/

/-- A view of characters sees the same in a letter and in its lower-case form. -/
def IgnoresCase {α : Type} (view : Char → α) : Prop :=
  ∀ c, view c.toLower = view c

/-- Only letters of ASCII change their case. -/
theorem toLower_of_not_ascii {c : Char} (beyond : ¬c.toNat < 0x80) : c.toLower = c := by
  apply toLower_of_not_capital
  simp only [Char.reduceToNat]
  omega

/-- A view that sees the same in all letters of ASCII ignores case. -/
theorem ignoresCase_of_letters {α : Type} {view : Char → α} {value : α}
    (letters : ∀ c : Char, c.isAlpha = true → view c = value) : IgnoresCase view := by
  intro c
  by_cases isAlpha : c.isAlpha = true
  · rw [letters c isAlpha, letters c.toLower (by rwa [Char.isAlpha_toLower_eq_isAlpha])]
  · have notUpper : ¬c.isUpper = true := fun isUpper =>
      isAlpha (by rw [Char.isAlpha, isUpper, Bool.true_or])
    rw [Char.toLower_eq_of_not_isUpper notUpper]

/-- The code points of the letters of ASCII. -/
theorem toNat_of_isAlpha {c : Char} (isAlpha : c.isAlpha = true) :
    0x41 ≤ c.toNat ∧ c.toNat ≤ 0x5A ∨ 0x61 ≤ c.toNat ∧ c.toNat ≤ 0x7A := by
  simp only [Char.isAlpha, Char.isUpper, Char.isLower, Bool.or_eq_true, Bool.and_eq_true,
    decide_eq_true_eq, UInt32.le_iff_toNat_le] at isAlpha
  exact isAlpha

/-- A range of code points without letters of ASCII. -/
def lacksLetters (range : Nat × Nat) : Bool :=
  range.2 < 0x41 || (0x5A < range.1 && range.2 < 0x61) || 0x7A < range.1

/-- A set of such ranges holds no letter. -/
theorem not_contains_of_isAlpha {ranges : Ranges} (lack : ranges.all lacksLetters = true) (c : Char)
    (isAlpha : c.isAlpha = true) : ranges.contains c = false := by
  rw [Bool.eq_false_iff, Ranges.contains, ne_eq, List.any_eq_true]
  rintro ⟨range, listed, inside⟩
  have apart := List.all_eq_true.1 lack range listed
  have bounds := toNat_of_isAlpha isAlpha
  simp only [lacksLetters, Bool.or_eq_true, Bool.and_eq_true, decide_eq_true_eq] at apart inside
  omega

theorem ignoresCase_isBlank : IgnoresCase isBlank :=
  ignoresCase_of_letters (not_contains_of_isAlpha (by decide))

theorem ignoresCase_isCaseIgnorable : IgnoresCase caseIgnorableRanges.contains :=
  ignoresCase_of_letters (not_contains_of_isAlpha (by decide +kernel))

theorem ignoresCase_isWord : IgnoresCase isWord := by
  refine @ignoresCase_of_letters Bool isWord true fun c isAlpha => ?_
  have bounds := toNat_of_isAlpha isAlpha
  rw [isWord, if_pos (by omega), Char.isAlphanum, isAlpha]
  rfl

theorem ignoresCase_isCased : IgnoresCase casedRanges.contains := by
  refine @ignoresCase_of_letters Bool casedRanges.contains true fun c isAlpha =>
    List.any_eq_true.2 ?_
  rcases toNat_of_isAlpha isAlpha with isUpper | isLower
  · exact ⟨(0x41, 0x5A), List.mem_cons_self, by simpa using isUpper⟩
  · exact ⟨(0x61, 0x7A), List.mem_cons_of_mem _ List.mem_cons_self, by simpa using isLower⟩

/-- A letter does not become another character than a letter, nor the other way round. -/
theorem toLower_eq_iff {c mark : Char} (noLetter : mark.isAlpha = false) :
    c.toLower = mark ↔ c = mark := by
  by_cases isUpper : c.isUpper = true
  · have isAlpha : c.isAlpha = true := by rw [Char.isAlpha, isUpper, Bool.true_or]
    constructor
    · rintro rfl
      rw [Char.isAlpha_toLower_eq_isAlpha, isAlpha] at noLetter
      contradiction
    · rintro rfl
      rw [isAlpha] at noLetter
      contradiction
  · rw [Char.toLower_eq_of_not_isUpper isUpper]

/-! ## Texts -/

theorem asciiLower_cons (c : Char) (rest : List Char) :
    asciiLower (c :: rest) = c.toLower :: asciiLower rest :=
  rfl

theorem asciiLower_reverse (text : List Char) :
    (asciiLower text).reverse = asciiLower text.reverse :=
  List.map_reverse.symm

section Texts

variable {drop : Char → Bool} (ignores : IgnoresCase drop) (text : List Char)

include ignores

theorem takeWhile_asciiLower :
    (asciiLower text).takeWhile drop = asciiLower (text.takeWhile drop) := by
  rw [asciiLower, List.takeWhile_map]
  exact congrArg (fun view => (text.takeWhile view).map Char.toLower) (funext ignores)

theorem dropWhile_asciiLower :
    (asciiLower text).dropWhile drop = asciiLower (text.dropWhile drop) := by
  rw [asciiLower, List.dropWhile_map]
  exact congrArg (fun view => (text.dropWhile view).map Char.toLower) (funext ignores)

theorem head?_asciiLower : (asciiLower text).head?.any drop = text.head?.any drop := by
  cases text with
  | nil => rfl
  | cons c rest => exact ignores c

theorem trimWhere_asciiLower :
    trimWhere drop (asciiLower text) = asciiLower (trimWhere drop text) := by
  rw [trimWhere, dropWhile_asciiLower ignores, asciiLower_reverse, dropWhile_asciiLower ignores,
    asciiLower_reverse, trimWhere]

end Texts

/-- A text in lower case is so already. -/
theorem asciiLower_asciiLower (text : List Char) :
    asciiLower (asciiLower text) = asciiLower text := by
  rw [asciiLower, asciiLower, List.map_map]
  exact List.map_congr_left fun c _ => Char.toLower_toLower_eq_toLower c

/-- A word can begin or end behind a letter in either case. -/
theorem wordCanBegin_map_toLower (previous : Option Char) :
    wordCanBegin (previous.map Char.toLower) = wordCanBegin previous := by
  cases previous with
  | none => rfl
  | some c => exact congrArg (!·) (ignoresCase_isWord c)

theorem wordHasEnded_asciiLower (remaining : List Char) :
    wordHasEnded (asciiLower remaining) = wordHasEnded remaining :=
  congrArg (!·) (head?_asciiLower ignoresCase_isWord remaining)

/-! ## Lower-casing all text -/

/-- A cased character is met in either case. -/
theorem meetsCased_asciiLower (text : List Char) :
    meetsCased (asciiLower text) = meetsCased text := by
  rw [meetsCased, dropWhile_asciiLower ignoresCase_isCaseIgnorable,
    head?_asciiLower ignoresCase_isCased, meetsCased]

theorem lowercaseChar_toLower (c : Char) : lowercaseChar c.toLower = lowercaseChar c := by
  by_cases isAscii : c.toNat < 0x80
  · rw [lowercaseChar, if_pos (toLower_lt isAscii), Char.toLower_toLower_eq_toLower, lowercaseChar,
      if_pos isAscii]
  · rw [toLower_of_not_ascii isAscii]

theorem lowercaseFrom_asciiLower (before text : List Char) :
    lowercaseFrom (asciiLower before) (asciiLower text) = lowercaseFrom before text := by
  induction text generalizing before with
  | nil => rfl
  | cons c rest inductionHypothesis =>
    have sigma : c.toLower = 'Σ' ↔ c = 'Σ' := toLower_eq_iff (by decide)
    rw [asciiLower_cons, lowercaseFrom, lowercaseFrom, ← asciiLower_cons, inductionHypothesis,
      meetsCased_asciiLower, meetsCased_asciiLower, lowercaseChar_toLower]
    simp only [sigma]

/-- The case of ASCII letters does not matter for the lower-case form of a text. -/
theorem lowercase_asciiLower (text : List Char) :
    lowercase (String.ofList (asciiLower text)) = lowercase (String.ofList text) := by
  rw [lowercase, lowercase, String.toList_ofList, String.toList_ofList]
  exact congrArg String.ofList (lowercaseFrom_asciiLower [] text)

/-! ## Marks in lower-case text -/

/-- All forms that a row leads to lie behind the marks of ASCII. -/
theorem rows_behind_dot :
    (lowercaseShifts.all fun (shift : Shift) => '.'.toNat < shift.least) = true := by
  decide +kernel

/-- Nothing but a dot becomes a dot. -/
theorem eq_dot_of_mem_lowercaseChar {c : Char} (isForm : '.' ∈ lowercaseChar c) : c = '.' := by
  rw [lowercaseChar] at isForm
  split at isForm
  · exact (toLower_eq_iff (by decide)).1 (List.mem_singleton.1 isForm).symm
  · split at isForm
    · exact absurd isForm (by decide)
    · split at isForm
      · rename_i first last stride distance found
        have listed := List.mem_of_find?_eq_some found
        have covered : Shift.covers (first, last, stride, distance) c.toNat = true :=
          List.find?_some (p := fun (shift : Shift) => shift.covers c.toNat) found
        have code := toNat_image listed covered
        have bounds := Shift.image_bounds covered
        have behind := List.all_eq_true.1 rows_behind_dot _ listed
        have isDot : '.' = Char.ofNat (Shift.image (first, last, stride, distance) c.toNat) :=
          List.mem_singleton.1 isForm
        rw [← isDot] at code
        rw [decide_eq_true_eq, code] at behind
        omega
      · exact (List.mem_singleton.1 isForm).symm

/-- Lower-casing adds no dots. -/
theorem dot_mem_of_mem_lowercaseFrom {before text : List Char}
    (isForm : '.' ∈ lowercaseFrom before text) : '.' ∈ text := by
  induction text generalizing before with
  | nil => exact isForm
  | cons c rest inductionHypothesis =>
    rw [lowercaseFrom, List.mem_append] at isForm
    rcases isForm with isFirst | isRest
    · split at isFirst
      · split at isFirst
        · exact absurd isFirst (by decide)
        · exact absurd isFirst (by decide)
      · rw [eq_dot_of_mem_lowercaseChar isFirst]
        exact List.mem_cons_self
    · exact List.mem_cons_of_mem c (inductionHypothesis isRest)

end NeutralSql.Text
