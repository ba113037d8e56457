import Mathlib
import NeutralSql.SqlText.Tables

/-!
# Scanning for anchors

The scan for table names passes over text that is quiet: text in which no anchor stands as
a word with a blank or the end behind it. `Quiet.skip` says so, whatever follows the quiet
text. Text that does not contain an anchor as a whole word is quiet, and quiet texts joined
by a character that belongs to no word are quiet again.
-/

namespace NeutralSql.SqlText

open Text (asciiLower isBlank isWord wordCanBegin wordHasEnded)

/-! ## Characters of keywords -/

/-- A capital letter of ASCII with no form beyond ASCII. -/
def isPlainLetter (letter : Char) : Bool :=
  letter.isUpper && letter ≠ 'S' && letter ≠ 'K'

/-- Anchors are words of plain letters. -/
theorem isPlainLetter_of_mem_anchor :
    ∀ anchor ∈ anchors, anchor ≠ "" ∧ ∀ letter ∈ anchor.toList, isPlainLetter letter = true := by
  have decided : ∀ anchor ∈ anchors, anchor ≠ "" ∧ anchor.toList.all isPlainLetter = true := by
    decide
  intro anchor listed
  obtain ⟨someText, plain⟩ := decided anchor listed
  exact ⟨someText, List.all_eq_true.1 plain⟩

/-- Letters and digits of ASCII are characters of ASCII. -/
theorem isAscii_of_isAlphanum {c : Char} (isAlphanum : c.isAlphanum = true) : c.toNat < 0x80 := by
  simp only [Char.isAlphanum, Char.isAlpha, Char.isUpper, Char.isLower, Char.isDigit,
    Bool.or_eq_true, Bool.and_eq_true, decide_eq_true_eq] at isAlphanum
  rcases isAlphanum with (upper | lower) | digit
  · exact Nat.lt_of_le_of_lt (UInt32.le_iff_toNat_le.1 upper.2) (by decide)
  · exact Nat.lt_of_le_of_lt (UInt32.le_iff_toNat_le.1 lower.2) (by decide)
  · exact Nat.lt_of_le_of_lt (UInt32.le_iff_toNat_le.1 digit.2) (by decide)

/-- Letters and digits of ASCII belong to words. -/
theorem isWord_of_isAlphanum {c : Char} (isAlphanum : c.isAlphanum = true) : isWord c = true := by
  rw [isWord, if_pos (isAscii_of_isAlphanum isAlphanum), isAlphanum, Bool.true_or]

/-- The forms of a plain letter are that letter in either case. -/
theorem toLower_of_isFormOf {letter c : Char} (isPlain : isPlainLetter letter = true)
    (isForm : isFormOf letter c = true) : c.toLower = letter.toLower := by
  have upper : c.toUpper = letter := by
    simp only [isPlainLetter, Bool.and_eq_true, decide_eq_true_eq] at isPlain
    simpa [isFormOf, isPlain.1.2, isPlain.2] using isForm
  rw [← upper, Char.toLower_toUpper_eq_toLower]

/-- A plain letter in either case belongs to a word. -/
theorem isWord_of_toLower {letter c : Char} (isPlain : isPlainLetter letter = true)
    (same : c.toLower = letter.toLower) : isWord c = true := by
  have isUpper : letter.isUpper = true := by
    simp only [isPlainLetter, Bool.and_eq_true] at isPlain
    exact isPlain.1.1
  have isAlpha : c.isAlpha = true := by
    rw [← Char.isAlpha_toLower_eq_isAlpha, same, Char.isAlpha_toLower_eq_isAlpha, Char.isAlpha,
      isUpper, Bool.true_or]
  refine isWord_of_isAlphanum ?_
  rw [Char.isAlphanum, isAlpha, Bool.true_or]

/-- No range of blanks meets a range of words beyond ASCII, and no blank of ASCII belongs to a
word. -/
theorem blankRanges_apart :
    (Text.blankRanges.all fun blanks =>
      Text.wordRanges.all fun words => blanks.2 < words.1 || words.2 < blanks.1) = true ∧
    ∀ code < 0x80, isBlank (Char.ofNat code) = true → isWord (Char.ofNat code) = false := by
  decide +kernel

/-- A blank belongs to no word. -/
theorem isWord_of_isBlank {c : Char} (blank : isBlank c = true) : isWord c = false := by
  by_cases isAscii : c.toNat < 0x80
  · have apart := blankRanges_apart.2 c.toNat isAscii
    rw [Char.ofNat_toNat] at apart
    exact apart blank
  · rw [isWord, if_neg isAscii, Bool.eq_false_iff, Text.Ranges.contains, ne_eq, List.any_eq_true]
    rintro ⟨words, isListed, insideWords⟩
    rw [isBlank, Text.Ranges.contains, List.any_eq_true] at blank
    obtain ⟨blanks, listed, insideBlanks⟩ := blank
    have apart := List.all_eq_true.1 (List.all_eq_true.1 blankRanges_apart.1 blanks listed) words
      isListed
    simp only [Bool.or_eq_true, Bool.and_eq_true,
      decide_eq_true_eq] at apart insideWords insideBlanks
    omega

/-! ## Words in front -/

/-- A word of plain letters that stands in front is there in some letter case. -/
theorem exists_of_dropWord? {word text rest : List Char}
    (isPlain : ∀ letter ∈ word, isPlainLetter letter = true)
    (dropped : dropWord? word text = some rest) :
    ∃ inside, text = inside ++ rest ∧ asciiLower inside = asciiLower word := by
  induction word generalizing text with
  | nil =>
    obtain rfl := Option.some.inj dropped
    exact ⟨[], rfl, rfl⟩
  | cons letter word inductionHypothesis =>
    obtain ⟨letterPlain, wordPlain⟩ := List.forall_mem_cons.1 isPlain
    cases text with
    | nil => simp [dropWord?] at dropped
    | cons c text =>
      rw [dropWord?] at dropped
      split at dropped
      · rename_i isForm
        obtain ⟨inside, rfl, same⟩ := inductionHypothesis wordPlain dropped
        refine ⟨c :: inside, rfl, ?_⟩
        exact congrArg₂ List.cons (toLower_of_isFormOf letterPlain isForm) same
      · contradiction

/-- A word of plain letters in either case consists of characters of words. -/
theorem isWord_of_asciiLower {word inside : List Char}
    (isPlain : ∀ letter ∈ word, isPlainLetter letter = true)
    (same : asciiLower inside = asciiLower word) : ∀ c ∈ inside, isWord c = true := by
  intro c isInside
  have isLower : c.toLower ∈ asciiLower word := by
    rw [← same]
    exact List.mem_map_of_mem isInside
  obtain ⟨letter, isLetter, equal⟩ := List.mem_map.1 isLower
  exact isWord_of_toLower (isPlain letter isLetter) equal.symm

/-- An anchor in either case consists of characters of words. -/
theorem isWord_of_mem_anchor {anchor : String} (listed : anchor ∈ anchors) {inside : List Char}
    (same : asciiLower inside = asciiLower anchor.toList) : ∀ c ∈ inside, isWord c = true :=
  isWord_of_asciiLower (isPlainLetter_of_mem_anchor anchor listed).2 same

/-- An anchor in either case has a first character. -/
theorem exists_cons_of_anchor {anchor : String} (listed : anchor ∈ anchors) {inside : List Char}
    (same : asciiLower inside = asciiLower anchor.toList) : ∃ c rest, inside = c :: rest := by
  cases inside with
  | cons c rest => exact ⟨c, rest, rfl⟩
  | nil =>
    have noLetters : anchor.toList = [] := List.map_eq_nil_iff.1 same.symm
    exact absurd (String.toList_eq_nil_iff.1 noLetters) (isPlainLetter_of_mem_anchor anchor listed).1

/-- A keyword of plain letters with blanks behind it is there in some letter case. -/
theorem exists_of_dropPhrase? {keyword : String} {text tail : List Char}
    (isPlain : ∀ letter ∈ keyword.toList, isPlainLetter letter = true)
    (dropped : dropPhrase? keyword text = some tail) :
    ∃ inside blank rest, text = inside ++ blank :: rest ∧
      asciiLower inside = asciiLower keyword.toList ∧ isBlank blank = true ∧
      tail = skipBlanks rest := by
  rw [dropPhrase?, Option.bind_eq_some_iff] at dropped
  obtain ⟨behind, word, blanks⟩ := dropped
  obtain ⟨inside, rfl, same⟩ := exists_of_dropWord? isPlain word
  cases behind with
  | nil => simp [dropBlanks?] at blanks
  | cons blank rest =>
    rw [dropBlanks?] at blanks
    split at blanks
    · exact ⟨inside, blank, rest, rfl, same, ‹_›, (Option.some.inj blanks).symm⟩
    · contradiction

/-- Where an anchored name is read, an anchor stands in front, with a blank behind it, and
the name is read behind the blanks. -/
theorem exists_of_anchored? {text : List Char} {found : List Char × List Char}
    (read : anchored? text = some found) :
    ∃ anchor ∈ anchors, ∃ inside blank rest, text = inside ++ blank :: rest ∧
      asciiLower inside = asciiLower anchor.toList ∧ isBlank blank = true ∧
      target? (skipBlanks rest) = some found := by
  rw [anchored?, List.findSome?_eq_some_iff] at read
  obtain ⟨_, anchor, _, equal, read, -⟩ := read
  have listed : anchor ∈ anchors := equal ▸ by simp
  rw [Option.bind_eq_some_iff] at read
  obtain ⟨tail, phrase, target⟩ := read
  obtain ⟨inside, blank, rest, split, same, isBlank, rfl⟩ :=
    exists_of_dropPhrase? (isPlainLetter_of_mem_anchor anchor listed).2 phrase
  exact ⟨anchor, listed, inside, blank, rest, split, same, isBlank, target⟩

/-! ## Quiet text -/

/-- A text contains a word, in any letter case and as a whole word. -/
def ContainsWord (word : String) (text : List Char) : Prop :=
  ∃ before inside behind, text = before ++ inside ++ behind ∧
    asciiLower inside = asciiLower word.toList ∧
    wordCanBegin before.getLast? = true ∧ wordHasEnded behind = true

/-- No anchor begins a word of the text and has a blank or the end behind it. -/
def Quiet (text : List Char) : Prop :=
  ∀ anchor ∈ anchors, ∀ before inside behind, text = before ++ inside ++ behind →
    asciiLower inside = asciiLower anchor.toList → wordCanBegin before.getLast? = true →
    behind.head?.all isBlank = false

/-- Text that contains no anchor is quiet. -/
theorem quiet_of_not_containsWord {text : List Char}
    (none : ∀ anchor ∈ anchors, ¬ContainsWord anchor text) : Quiet text := by
  intro anchor listed before inside behind equal same begins
  rw [Bool.eq_false_iff]
  intro closed
  refine none anchor listed ⟨before, inside, behind, equal, same, begins, ?_⟩
  cases behind with
  | nil => rfl
  | cons blank rest =>
    have blank : isBlank blank = true := closed
    simp [wordHasEnded, isWord_of_isBlank blank]

/-- Text in which the letters of no anchor follow one another contains no anchor. -/
theorem not_containsWord_of_not_infix {word : String} {text : List Char}
    (apart : ¬asciiLower word.toList <:+: asciiLower text) : ¬ContainsWord word text := by
  rintro ⟨before, inside, behind, rfl, same, -, -⟩
  refine apart ⟨asciiLower before, asciiLower behind, ?_⟩
  rw [← same]
  simp [asciiLower]

/-- Text in which the letters of no anchor follow one another is quiet. -/
theorem quiet_of_not_infix {text : List Char}
    (apart : ∀ anchor ∈ anchors, ¬asciiLower anchor.toList <:+: asciiLower text) : Quiet text :=
  quiet_of_not_containsWord fun anchor listed =>
    not_containsWord_of_not_infix (apart anchor listed)

/-- Nothing is quiet. -/
theorem quiet_nil : Quiet [] :=
  quiet_of_not_infix (by decide)

/-- Two quiet texts are quiet with a character between them that belongs to no word. -/
theorem Quiet.join {first second : List Char} (firstQuiet : Quiet first)
    (secondQuiet : Quiet second) {c : Char} (apart : isWord c = false) :
    Quiet (first ++ c :: second) := by
  intro anchor listed before inside behind equal same begins
  rw [List.append_assoc, List.append_eq_append_iff] at equal
  have letters := isWord_of_mem_anchor listed same
  rcases equal with ⟨front, rfl, equal⟩ | ⟨remains, rfl, equal⟩
  · -- The word begins behind the first text, and not with the character between the two.
    cases front with
    | nil =>
      obtain ⟨letter, rest, rfl⟩ := exists_cons_of_anchor listed same
      have isFirst : c = letter := (List.cons.inj equal).1
      rw [isFirst, letters letter List.mem_cons_self] at apart
      contradiction
    | cons d front =>
      obtain ⟨-, rfl⟩ := List.cons.inj equal
      refine secondQuiet anchor listed front inside behind (List.append_assoc _ _ _).symm same ?_
      cases front with
      | nil => rfl
      | cons e front => rwa [List.getLast?_append_cons, List.getLast?_cons_cons] at begins
  · -- The word begins in the first text, and the character between the two ends it.
    rw [List.append_eq_append_iff] at equal
    rcases equal with ⟨rest, rfl, equal⟩ | ⟨rest, rfl, equal⟩
    · have closed := firstQuiet anchor listed before inside rest (List.append_assoc _ _ _).symm same
        begins
      cases rest with
      | nil => simp at closed
      | cons d rest =>
        subst equal
        exact closed
    · cases rest with
      | nil =>
        have closed := firstQuiet anchor listed before remains [] (by simp) (by simpa using same)
          begins
        simp at closed
      | cons d rest =>
        have isFirst : c = d := (List.cons.inj equal).1
        have isLetter := letters d (by simp)
        rw [isFirst, isLetter] at apart
        contradiction

/-- Quiet text is quiet behind a character that belongs to no word. -/
theorem Quiet.behind {text : List Char} (quiet : Quiet text) {c : Char} (apart : isWord c = false) :
    Quiet (c :: text) :=
  quiet_nil.join quiet apart

/-- Quiet text is quiet behind several such characters. -/
theorem Quiet.behindAll {text : List Char} (quiet : Quiet text) {front : List Char}
    (apart : ∀ c ∈ front, isWord c = false) : Quiet (front ++ text) := by
  induction front with
  | nil => exact quiet
  | cons c front inductionHypothesis =>
    obtain ⟨first, others⟩ := List.forall_mem_cons.1 apart
    exact (inductionHypothesis others).behind first

/-- Quiet text is quiet without a character in front that belongs to no word. -/
theorem Quiet.tail {c : Char} {text : List Char} (quiet : Quiet (c :: text))
    (apart : isWord c = false) : Quiet text := by
  intro anchor listed before inside behind equal same begins
  refine quiet anchor listed (c :: before) inside behind (congrArg (List.cons c) equal) same ?_
  cases before with
  | nil => simp [wordCanBegin, apart]
  | cons d before => rwa [List.getLast?_cons_cons]

/-- Two quiet texts are quiet in a row if no word goes on from the first to the second. -/
theorem Quiet.append {first second : List Char} (firstQuiet : Quiet first)
    (secondQuiet : Quiet second) (ended : wordHasEnded second = true) :
    Quiet (first ++ second) := by
  cases second with
  | nil => rwa [List.append_nil]
  | cons c second =>
    have apart : isWord c = false := by simpa [wordHasEnded] using ended
    exact firstQuiet.join (secondQuiet.tail apart) apart

/-- Text without blanks is quiet in front of a character that is no blank and belongs to no
word, even if a word of it is an anchor. -/
theorem quiet_of_no_blank {text : List Char} (noBlank : ∀ c ∈ text, isBlank c = false) {c : Char}
    (closing : isBlank c = false) (apart : isWord c = false) : Quiet (text ++ [c]) := by
  intro anchor listed before inside behind equal same _
  cases behind with
  | nil =>
    have letters := isWord_of_mem_anchor listed same
    obtain ⟨letter, rest, rfl⟩ := exists_cons_of_anchor listed same
    have isLast : c ∈ letter :: rest := by
      have last := congrArg List.getLast? equal
      rw [List.append_nil, List.getLast?_concat, List.getLast?_append_cons] at last
      exact List.mem_of_getLast? last.symm
    rw [letters c isLast] at apart
    contradiction
  | cons d rest =>
    have isListed : d ∈ text ++ [c] := equal ▸ by simp
    rcases List.mem_append.1 isListed with inText | isClosing
    · exact noBlank d inText
    · rw [List.mem_singleton.1 isClosing]
      exact closing

/-! ## The scan -/

/-- Where nothing is read, the scan goes on with the next character. -/
theorem occurrences_cons_of_none {α : Type} {read? : List Char → Option (α × List Char)}
    {previous : Option Char} {c : Char} {rest : List Char}
    (nothing : wordCanBegin previous = true → read? (c :: rest) = none) :
    occurrences read? 0 previous (c :: rest) = occurrences read? 0 (some c) rest := by
  rw [occurrences]
  by_cases begins : wordCanBegin previous = true
  · rw [if_pos begins, nothing begins]
  · rw [if_neg begins]

/-- A reader reads nothing except where an anchor stands in front, with a blank behind it. -/
def NeedsAnchor {α : Type} (read? : List Char → Option (α × List Char)) : Prop :=
  ∀ {text found}, read? text = some found →
    ∃ anchor ∈ anchors, ∃ inside blank rest, text = inside ++ blank :: rest ∧
      asciiLower inside = asciiLower anchor.toList ∧ isBlank blank = true

theorem needsAnchor_anchored? : NeedsAnchor anchored? := by
  intro text found read
  obtain ⟨anchor, listed, inside, blank, rest, equal, same, isBlank, -⟩ :=
    exists_of_anchored? read
  exact ⟨anchor, listed, inside, blank, rest, equal, same, isBlank⟩

namespace NeedsAnchor

variable {α : Type} {read? : List Char → Option (α × List Char)} (needs : NeedsAnchor read?)
include needs

/-- Nothing is read at a quiet place. -/
theorem eq_none {before left rest : List Char} (quiet : Quiet (before ++ left))
    (begins : wordCanBegin before.getLast? = true) (someLeft : left ≠ [])
    (ended : wordHasEnded rest = true) : read? (left ++ rest) = none := by
  rw [Option.eq_none_iff_forall_not_mem]
  intro found read
  obtain ⟨anchor, listed, inside, blank, behind, equal, same, isBlank⟩ := needs read
  rw [List.append_eq_append_iff] at equal
  rcases equal with ⟨extra, rfl, equal⟩ | ⟨remains, rfl, equal⟩
  · cases extra with
    | nil =>
      have closed := quiet anchor listed before left [] (by simp) (by simpa using same) begins
      simp at closed
    | cons c extra =>
      have isLetter := isWord_of_mem_anchor listed same c (by simp)
      simp [equal, wordHasEnded, isLetter] at ended
  · have closed := quiet anchor listed before inside remains (List.append_assoc _ _ _).symm same
      begins
    cases remains with
    | nil => simp at closed
    | cons c remains =>
      obtain ⟨rfl, -⟩ := List.cons.inj equal
      simp [isBlank] at closed

/-- Nothing is read at a character that belongs to no word. -/
theorem eq_none_of_not_word {c : Char} (apart : isWord c = false) (rest : List Char) :
    read? (c :: rest) = none := by
  rw [Option.eq_none_iff_forall_not_mem]
  intro found read
  obtain ⟨anchor, listed, inside, blank, behind, equal, same, -⟩ := needs read
  have letters := isWord_of_mem_anchor listed same
  obtain ⟨letter, others, rfl⟩ := exists_cons_of_anchor listed same
  obtain ⟨rfl, -⟩ := List.cons.inj equal
  rw [letters c List.mem_cons_self] at apart
  contradiction

/-- The scan passes over quiet text in front of the end of a word. -/
theorem pass {text rest : List Char} (quiet : Quiet text) (ended : wordHasEnded rest = true)
    (previous : Option Char) :
    occurrences read? 0 previous (text ++ rest) =
      occurrences read? 0 (text.getLast?.or previous) rest := by
  have passed : ∀ before left : List Char, before ++ left = text →
      occurrences read? 0 (before.getLast?.or previous) (left ++ rest) =
        occurrences read? 0 (text.getLast?.or previous) rest := by
    intro before left
    induction left generalizing before with
    | nil =>
      rintro rfl
      rw [List.append_nil, List.nil_append]
    | cons c left inductionHypothesis =>
      intro equal
      have nothing : wordCanBegin (before.getLast?.or previous) = true →
          read? (c :: (left ++ rest)) = none := by
        intro begins
        have quietHere : Quiet (before ++ c :: left) := equal ▸ quiet
        refine needs.eq_none quietHere ?_ (List.cons_ne_nil c left) ended
        cases last : before.getLast? with
        | none => rfl
        | some d =>
          rw [last] at begins
          exact begins
      rw [List.cons_append, occurrences_cons_of_none nothing]
      have next := inductionHypothesis (before ++ [c]) (by simpa using equal)
      rwa [List.getLast?_concat] at next
  exact passed [] text rfl

/-- Quiet text holds no occurrence. -/
theorem occurrences_eq_nil {text : List Char} (quiet : Quiet text) (previous : Option Char) :
    occurrences read? 0 previous text = [] := by
  have passed : occurrences read? 0 previous (text ++ []) =
      occurrences read? 0 (text.getLast?.or previous) [] := needs.pass quiet rfl previous
  rw [List.append_nil] at passed
  exact passed.trans rfl

/-- The scan passes over quiet text and a character behind it that belongs to no word. -/
theorem skip {text : List Char} (quiet : Quiet text) {c : Char} (apart : isWord c = false)
    (previous : Option Char) (rest : List Char) :
    occurrences read? 0 previous (text ++ c :: rest) = occurrences read? 0 (some c) rest := by
  have ended : wordHasEnded (c :: rest) = true := by
    simp [wordHasEnded, apart]
  rw [needs.pass quiet ended,
    occurrences_cons_of_none fun _ => needs.eq_none_of_not_word apart rest]

end NeedsAnchor

/-- The scan for anchored names passes over quiet text in front of the end of a word. -/
theorem Quiet.pass {text rest : List Char} (quiet : Quiet text) (ended : wordHasEnded rest = true)
    (previous : Option Char) :
    occurrences anchored? 0 previous (text ++ rest) =
      occurrences anchored? 0 (text.getLast?.or previous) rest :=
  needsAnchor_anchored?.pass quiet ended previous

/-- It also passes over a character behind that belongs to no word. -/
theorem Quiet.skip {text : List Char} (quiet : Quiet text) {c : Char} (apart : isWord c = false)
    (previous : Option Char) (rest : List Char) :
    occurrences anchored? 0 previous (text ++ c :: rest) =
      occurrences anchored? 0 (some c) rest :=
  needsAnchor_anchored?.skip quiet apart previous rest

/-- The scan goes on behind the characters of an occurrence. -/
theorem occurrences_skip {α : Type} (read? : List Char → Option (α × List Char))
    (taken rest : List Char) (previous : Option Char) :
    occurrences read? taken.length previous (taken ++ rest) =
      occurrences read? 0 (taken.getLast?.or previous) rest := by
  induction taken generalizing previous with
  | nil => rfl
  | cons c taken inductionHypothesis =>
    rw [List.cons_append, List.length_cons, occurrences, inductionHypothesis, List.getLast?_cons,
      Option.or_some, Option.some_or]

/-- What is read at a place where a word can begin is an occurrence, and the scan goes on
behind it. -/
theorem occurrences_of_read {α : Type} {read? : List Char → Option (α × List Char)}
    {previous : Option Char} (begins : wordCanBegin previous = true) {taken rest : List Char}
    (someTaken : taken ≠ []) {found : α} (read : read? (taken ++ rest) = some (found, rest)) :
    occurrences read? 0 previous (taken ++ rest) =
      found :: occurrences read? 0 taken.getLast? rest := by
  cases taken with
  | nil => contradiction
  | cons c taken =>
    rw [List.cons_append] at read ⊢
    rw [occurrences, if_pos begins, read]
    have skipped : (taken ++ rest).length - rest.length = taken.length := by
      rw [List.length_append, Nat.add_sub_cancel]
    simp only [skipped, occurrences_skip, List.getLast?_cons, Option.or_some]

end NeutralSql.SqlText
