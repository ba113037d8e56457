import NeutralSql.Proofs.SqlText.Path

/-!
# Table references

A reference names a table by a path of identifiers, each of them bare or quoted and with any
blanks around the dots, and it may give the table an alias. However a reference is written,
its path is read up to its end (`Path.target?_text`), its alias is passed over
(`Reference.skipAlias_text`), and what the scan keeps of it is its last identifier in lower
case (`Segment.tableName?_text`).
-/

namespace NeutralSql.SqlText

open Text (asciiLower isBlank isWord wordHasEnded)

/-! ## What references are made of -/

/-- Words with a meaning of their own in front of, between or behind names of tables. -/
def keywords : List String :=
  anchors ++ ["IF", "AS"]

/-- An ASCII identifier that is no keyword in any letter case. -/
structure Name where
  letters : List Char
  isIdentifier : SqlText.isIdentifier letters = true
  notKeyword : ∀ keyword ∈ keywords, asciiLower letters ≠ asciiLower keyword.toList

/-- Blanks, or nothing. -/
structure Blanks where
  text : List Char
  isBlank : ∀ c ∈ text, Text.isBlank c = true

/-- At least one blank. -/
structure Gap extends Blanks where
  someText : text ≠ []

/-- The marks in which a segment may stand. -/
inductive Quotation where
  | bare
  | double
  | back
  | bracket

/-- A name in its marks. -/
structure Segment where
  quotation : Quotation
  name : Name

/-- Segments joined by dots, with blanks around the dots. -/
inductive Path where
  | single (segment : Segment)
  | dotted (segment : Segment) (before after : Blanks) (rest : Path)

/-- The keyword AS in some letter case, and the blanks behind it. -/
structure As where
  letters : List Char
  isAs : asciiLower letters = asciiLower "AS".toList
  gap : Gap

/-- Another name for a table, with or without AS in front. -/
structure Alias where
  gap : Gap
  keyword? : Option As
  name : Name

/-- The last segment of a path. -/
def Path.last : Path → Segment
  | single segment => segment
  | dotted _ _ _ rest => rest.last

/-- The table that a path names. -/
def Path.table (path : Path) : String :=
  String.ofList (asciiLower path.last.name.letters)

/-- A path that names a table, and possibly an alias of that. -/
structure Reference where
  path : Path
  alias? : Option Alias
  notReserved : path.table ∉ reserved

/-! ## How references are written -/

/-- Letters between marks. -/
def Quotation.enclose : Quotation → List Char → List Char
  | bare, letters => letters
  | double, letters => '"' :: (letters ++ ['"'])
  | back, letters => '\x60' :: (letters ++ ['\x60'])
  | bracket, letters => '[' :: (letters ++ [']'])

def Segment.text (segment : Segment) : List Char :=
  segment.quotation.enclose segment.name.letters

def Path.text : Path → List Char
  | single segment => segment.text
  | dotted segment before after rest =>
    segment.text ++ (before.text ++ '.' :: (after.text ++ rest.text))

def As.text (keyword : As) : List Char :=
  keyword.letters ++ keyword.gap.text

def Alias.text (naming : Alias) : List Char :=
  naming.gap.text ++ ((naming.keyword?.elim [] As.text) ++ naming.name.letters)

def Reference.aliasText (reference : Reference) : List Char :=
  reference.alias?.elim [] Alias.text

def Reference.text (reference : Reference) : List Char :=
  reference.path.text ++ reference.aliasText

/-- The table that a reference names. -/
def Reference.table (reference : Reference) : String :=
  reference.path.table

/-! ## Blanks -/

/-- A blank continues no identifier. -/
theorem not_continuesName_of_isBlank {c : Char} (blank : isBlank c = true) :
    continuesName c = false := by
  have noDollar : c ≠ '$' := by
    rintro rfl
    exact absurd blank (by decide)
  rw [continuesName, isWord_of_isBlank blank, Bool.false_or, decide_eq_false noDollar]

/-- Blanks are skipped. -/
theorem Blanks.skipBlanks_append (blanks : Blanks) (rest : List Char) :
    skipBlanks (blanks.text ++ rest) = skipBlanks rest :=
  List.dropWhile_append_of_pos blanks.isBlank

/-- Blanks in front of a mark end a name. -/
theorem Blanks.stopped (blanks : Blanks) {c : Char} (noName : continuesName c = false)
    (rest : List Char) : (blanks.text ++ c :: rest).head?.any continuesName = false := by
  cases text : blanks.text with
  | nil => exact noName
  | cons d others =>
    exact not_continuesName_of_isBlank (blanks.isBlank d (text ▸ List.mem_cons_self))

/-- A gap is dropped where blanks have to stand. -/
theorem Gap.dropBlanks?_append (gap : Gap) (rest : List Char) :
    dropBlanks? (gap.text ++ rest) = some (skipBlanks rest) := by
  have skipped := gap.skipBlanks_append rest
  have isBlank := gap.isBlank
  have someText := gap.someText
  cases text : gap.text with
  | nil => contradiction
  | cons c others =>
    rw [text] at skipped isBlank
    have isFirst := isBlank c List.mem_cons_self
    rw [List.cons_append, skipBlanks, List.dropWhile_cons, if_pos isFirst] at skipped
    rw [List.cons_append, dropBlanks?, if_pos isFirst, ← skipped]
    rfl

/-- A gap ends a name. -/
theorem Gap.stopped (gap : Gap) (rest : List Char) :
    (gap.text ++ rest).head?.any continuesName = false := by
  cases text : gap.text with
  | nil => exact absurd text gap.someText
  | cons c others => exact not_continuesName_of_isBlank (gap.isBlank c (text ▸ List.mem_cons_self))

/-! ## Names -/

/-- A form of a capital letter belongs to words. -/
theorem isWord_of_isFormOf {letter c : Char} (isUpper : letter.isUpper = true)
    (isForm : isFormOf letter c = true) : isWord c = true := by
  simp only [isFormOf, Bool.or_eq_true, Bool.and_eq_true, decide_eq_true_eq] at isForm
  rcases isForm with (rfl | ⟨-, rfl⟩) | ⟨-, rfl⟩
  · rw [Char.isUpper_toUpper_eq_isAlpha] at isUpper
    refine isWord_of_isAlphanum ?_
    rw [Char.isAlphanum, isUpper, Bool.true_or]
  · decide +kernel
  · decide +kernel

/-- A form of a capital letter among the characters of identifiers is that letter in either
case. -/
theorem toLower_of_isFormOf_of_isNameChar {letter c : Char} (isName : isNameChar c = true)
    (isForm : isFormOf letter c = true) : c.toLower = letter.toLower := by
  simp only [isFormOf, Bool.or_eq_true, Bool.and_eq_true, decide_eq_true_eq] at isForm
  rcases isForm with (rfl | ⟨-, rfl⟩) | ⟨-, rfl⟩
  · rw [Char.toLower_toUpper_eq_toLower]
  · exact absurd isName (by decide)
  · exact absurd isName (by decide)

/-- Characters of identifiers that are not the letters of a keyword hide the keyword. -/
theorem dropWord?_bind_dropBlanks? {word letters stop : List Char}
    (isUpper : ∀ letter ∈ word, letter.isUpper = true)
    (isName : ∀ c ∈ letters, isNameChar c = true) (ended : wordHasEnded stop = true)
    (differs : asciiLower letters ≠ asciiLower word) :
    (dropWord? word (letters ++ stop)).bind dropBlanks? = none := by
  induction word generalizing letters with
  | nil =>
    cases letters with
    | nil => exact absurd rfl differs
    | cons c letters =>
      have noBlank := (nameChar (isName c List.mem_cons_self)).2.1
      rw [dropWord?, Option.bind_some, List.cons_append, dropBlanks?, noBlank]
      rfl
  | cons letter word inductionHypothesis =>
    obtain ⟨firstUpper, othersUpper⟩ := List.forall_mem_cons.1 isUpper
    cases letters with
    | nil =>
      cases stop with
      | nil => rfl
      | cons c stop =>
        have apart : isWord c = false := by simpa [wordHasEnded] using ended
        have noForm : isFormOf letter c = false := by
          rw [Bool.eq_false_iff] at apart ⊢
          exact fun isForm => apart (isWord_of_isFormOf firstUpper isForm)
        rw [List.nil_append, dropWord?, noForm]
        rfl
    | cons c letters =>
      obtain ⟨firstName, othersName⟩ := List.forall_mem_cons.1 isName
      rw [List.cons_append, dropWord?]
      split
      · rename_i isForm
        refine inductionHypothesis othersUpper othersName fun same => differs ?_
        have sameFirst := toLower_of_isFormOf_of_isNameChar firstName isForm
        exact congrArg₂ List.cons sameFirst same
      · rfl

namespace Name

variable (name : Name)

theorem isNameChar : ∀ c ∈ name.letters, isNameChar c = true :=
  isNameChar_of_mem name.isIdentifier

/-- A name begins with a character of its own. -/
theorem exists_cons : ∃ c rest, name.letters = c :: rest ∧ SqlText.isNameChar c = true := by
  have isIdentifier := name.isIdentifier
  have isNameChar := name.isNameChar
  cases letters : name.letters with
  | nil =>
    rw [letters] at isIdentifier
    contradiction
  | cons c rest => exact ⟨c, rest, rfl, isNameChar c (letters ▸ List.mem_cons_self)⟩

theorem skipBlanks_append (rest : List Char) :
    skipBlanks (name.letters ++ rest) = name.letters ++ rest :=
  skipBlanks_identifier name.isIdentifier rest

/-- A name is not taken for a keyword. -/
theorem dropPhrase?_append {keyword : String} (listed : keyword ∈ ["IF", "AS"]) {stop : List Char}
    (ended : wordHasEnded stop = true) : dropPhrase? keyword (name.letters ++ stop) = none := by
  have capitals : ∀ keyword ∈ ["IF", "AS"], keyword.toList.all Char.isUpper = true := by decide
  exact dropWord?_bind_dropBlanks? (List.all_eq_true.1 (capitals keyword listed)) name.isNameChar
    ended (name.notKeyword keyword (List.mem_append_right anchors listed))

end Name

/-- Text that goes on with no name has ended a word. -/
theorem wordHasEnded_of_stopped {stop : List Char}
    (stopped : stop.head?.any continuesName = false) : wordHasEnded stop = true := by
  cases stop with
  | nil => rfl
  | cons c rest =>
    have apart : continuesName c = false := stopped
    rw [continuesName, Bool.or_eq_false_iff] at apart
    simp [wordHasEnded, apart.1]

/-! ## Segments -/

/-- A mark is no blank, no dot, no letter and no other part of a word. -/
theorem nameMark {c : Char} (isMark : isNameMark c = true) :
    isBlank c = false ∧ (c != '.') = true ∧ isFormOf 'I' c = false ∧ isWord c = false := by
  simp only [isNameMark, Bool.or_eq_true, decide_eq_true_eq] at isMark
  rcases isMark with ((rfl | rfl) | rfl) | rfl
  · decide
  · decide
  · decide
  · decide

/-- Trimming takes what encloses a text off it. -/
theorem trimWhere_enclosed {drop : Char → Bool} {opening closing : Char} {text : List Char}
    (opens : drop opening = true) (closes : drop closing = true)
    (kept : ∀ c ∈ text, drop c = false) :
    Text.trimWhere drop (opening :: (text ++ [closing])) = text := by
  have self := trimWhere_eq_self kept
  cases text with
  | nil => simp [Text.trimWhere, opens, closes]
  | cons c rest =>
    have front : drop c = false := kept c List.mem_cons_self
    rw [Text.trimWhere, List.dropWhile_cons_of_neg (by simp [front])] at self
    rw [Text.trimWhere, List.dropWhile_cons_of_pos opens, List.cons_append,
      List.dropWhile_cons_of_neg (by simp [front]), ← List.cons_append, List.reverse_append,
      List.reverse_singleton, List.singleton_append, List.dropWhile_cons_of_pos closes, self]

/-- A segment between marks is read up to the mark that closes it. -/
theorem segment?_quoted {opening closing : Char} (marks : closingMark? opening = some closing)
    {letters : List Char} (someLetters : letters ≠ []) (inside : closing ∉ letters)
    (rest : List Char) :
    segment? (opening :: (letters ++ [closing]) ++ rest) =
      some (opening :: (letters ++ [closing]), rest) := by
  have apart : ∀ c ∈ letters, (c != closing) = true := by
    intro c isInside
    rw [bne_iff_ne]
    rintro rfl
    exact inside isInside
  have stops : (closing != closing) = false := bne_self_eq_false closing
  have tail : quotedTail? closing (letters ++ closing :: rest) =
      some (letters ++ [closing], rest) := by
    rw [quotedTail?, List.takeWhile_append_of_pos apart, List.dropWhile_append_of_pos apart,
      List.takeWhile_cons_of_neg (by simp), List.dropWhile_cons_of_neg (by simp), List.append_nil]
    cases letters with
    | nil => contradiction
    | cons c others => rfl
  rw [List.cons_append, List.append_assoc, List.singleton_append, segment?]
  simp only [marks, tail, Option.map_some]

namespace Segment

variable (segment : Segment)

/-- A segment is its letters or has marks around them. -/
theorem text_cases :
    segment.text = segment.name.letters ∨
      ∃ opening closing, closingMark? opening = some closing ∧ isNameMark opening = true ∧
        isNameMark closing = true ∧
          segment.text = opening :: (segment.name.letters ++ [closing]) := by
  obtain ⟨quotation, name⟩ := segment
  cases quotation with
  | bare => exact .inl rfl
  | double => exact .inr ⟨'"', '"', rfl, rfl, rfl, rfl⟩
  | back => exact .inr ⟨'\x60', '\x60', rfl, rfl, rfl, rfl⟩
  | bracket => exact .inr ⟨'[', ']', rfl, rfl, rfl, rfl⟩

/-- A segment begins with a character that is no blank. -/
theorem skipBlanks_append (rest : List Char) :
    skipBlanks (segment.text ++ rest) = segment.text ++ rest := by
  obtain text | ⟨opening, closing, -, isMark, -, text⟩ := segment.text_cases
  · rw [text]
    exact segment.name.skipBlanks_append rest
  · rw [text]
    exact skipBlanks_cons (nameMark isMark).1 _

/-- A segment is read up to its end. -/
theorem segment?_text {stop : List Char} (stopped : stop.head?.any continuesName = false) :
    segment? (segment.text ++ stop) = some (segment.text, stop) := by
  obtain text | ⟨opening, closing, marks, -, isMark, text⟩ := segment.text_cases
  · rw [text]
    exact segment?_append segment.name.isIdentifier stopped
  · obtain ⟨c, rest, letters, -⟩ := segment.name.exists_cons
    have inside : closing ∉ segment.name.letters := by
      intro isInside
      have noMark := (nameChar (segment.name.isNameChar closing isInside)).2.2.1
      rw [isMark] at noMark
      contradiction
    rw [text]
    exact segment?_quoted marks (letters ▸ List.cons_ne_nil c rest) inside stop

/-- A segment is not taken for the keyword IF. -/
theorem dropPhrase?_if {stop : List Char} (stopped : stop.head?.any continuesName = false) :
    dropPhrase? "IF" (segment.text ++ stop) = none := by
  obtain text | ⟨opening, closing, -, isMark, -, text⟩ := segment.text_cases
  · rw [text]
    exact segment.name.dropPhrase?_append (by decide) (wordHasEnded_of_stopped stopped)
  · rw [text]
    exact @dropPhrase?_eq_none "IF" 'I' opening ['F'] _ rfl (nameMark isMark).2.2.1

/-- The table that a segment names is its name in lower case. -/
theorem tableName?_text (notReserved : String.ofList (asciiLower segment.name.letters) ∉ reserved) :
    tableName? segment.text = some (String.ofList (asciiLower segment.name.letters)) := by
  obtain text | ⟨opening, closing, -, isOpening, isClosing, text⟩ := segment.text_cases
  · rw [text]
    exact tableName?_of_isIdentifier segment.name.isIdentifier notReserved
  · have characters (c : Char) (isInside : c ∈ segment.text) :
        isBlank c = false ∧ (c != '.') = true := by
      rw [text, List.mem_cons, List.mem_append, List.mem_singleton] at isInside
      rcases isInside with rfl | isName | rfl
      · exact ⟨(nameMark isOpening).1, (nameMark isOpening).2.1⟩
      · have isNameChar := nameChar (segment.name.isNameChar c isName)
        exact ⟨isNameChar.2.1, isNameChar.2.2.2⟩
      · exact ⟨(nameMark isClosing).1, (nameMark isClosing).2.1⟩
    have noDot : behindLastDot segment.text = segment.text :=
      behindLastDot_eq_self fun c isInside => (characters c isInside).2
    have noBlank : Text.trim segment.text = segment.text :=
      trimWhere_eq_self fun c isInside => (characters c isInside).1
    have noMark : Text.trimWhere isNameMark segment.text = segment.name.letters := by
      rw [text]
      exact trimWhere_enclosed isOpening isClosing fun c isName =>
        (nameChar (segment.name.isNameChar c isName)).2.2.1
    exact tableName?_of_trimmed (by rw [noDot, noBlank, noMark]) segment.name.isIdentifier
      notReserved

end Segment

/-! ## Paths -/

namespace Path

variable (path : Path)

/-- A path begins with a segment that a name does not go on behind. -/
theorem exists_first {stop : List Char} (stopped : stop.head?.any continuesName = false) :
    ∃ (segment : Segment) (rest : List Char), path.text ++ stop = segment.text ++ rest ∧
      rest.head?.any continuesName = false := by
  cases path with
  | single segment => exact ⟨segment, stop, rfl, stopped⟩
  | dotted segment before after rest =>
    have dotEnds : continuesName '.' = false := by decide
    refine ⟨segment, _, List.append_assoc _ _ _, ?_⟩
    rw [List.append_assoc]
    exact before.stopped dotEnds _

/-- A path begins with a character that is no blank. -/
theorem skipBlanks_append (rest : List Char) :
    skipBlanks (path.text ++ rest) = path.text ++ rest := by
  cases path with
  | single segment => exact segment.skipBlanks_append rest
  | dotted segment before after others =>
    rw [text, List.append_assoc]
    exact segment.skipBlanks_append _

/-- A path is read up to what ends it. -/
theorem path?_text {stop : List Char} (ends : EndsName stop) :
    path? (path.text ++ stop) = some (path.last.text, stop) := by
  induction path with
  | single segment =>
    have tail : pathTail segment.text stop = (segment.text, stop) :=
      pathTail_eq_self fun afterDot dotted => absurd dotted (ends.undotted afterDot)
    exact path?_eq_some_iff.2 ⟨_, _, segment.segment?_text ends.stopped, tail⟩
  | dotted segment before after rest inductionHypothesis =>
    obtain ⟨next, behind, restRead, tail⟩ := path?_eq_some_iff.1 inductionHypothesis
    rw [← rest.skipBlanks_append, ← after.skipBlanks_append] at restRead
    have dotEnds : continuesName '.' = false := by decide
    have read := segment.segment?_text
      (before.stopped dotEnds (after.text ++ (rest.text ++ stop)))
    have dotted : skipBlanks (before.text ++ '.' :: (after.text ++ (rest.text ++ stop))) =
        '.' :: (after.text ++ (rest.text ++ stop)) := by
      rw [before.skipBlanks_append]
      exact skipBlanks_cons (by decide) _
    have shape : (Path.dotted segment before after rest).text ++ stop =
        segment.text ++ (before.text ++ '.' :: (after.text ++ (rest.text ++ stop))) := by
      simp [text]
    rw [shape]
    exact path?_eq_some_iff.2 ⟨_, _, read, (pathTail_of_segment? dotted restRead).trans tail⟩

/-- Behind an anchor a path is the target. -/
theorem target?_text {stop : List Char} (ends : EndsName stop) :
    target? (path.text ++ stop) = some (path.last.text, stop) := by
  obtain ⟨segment, rest, text, stopped⟩ := path.exists_first ends.stopped
  have noCondition : dropCondition? (path.text ++ stop) = none := by
    rw [text, dropCondition?, segment.dropPhrase?_if stopped]
    rfl
  rw [target?, noCondition, path.path?_text ends]
  rfl

end Path

/-! ## Aliases -/

/-- AS begins with a letter. -/
theorem As.exists_cons (keyword : As) :
    ∃ c rest, keyword.letters = c :: rest ∧ isNameChar c = true := by
  obtain ⟨c, rest, letters, isFirst, -⟩ := List.map_eq_cons_iff.1 keyword.isAs
  have isAlpha : c.isAlpha = true := by
    rw [← Char.isAlpha_toLower_eq_isAlpha, isFirst]
    decide
  refine ⟨c, rest, letters, ?_⟩
  rw [isNameChar, Char.isAlphanum, isAlpha]
  rfl

/-- AS is dropped in every letter case. -/
theorem As.dropPhrase?_text (keyword : As) (rest : List Char) :
    dropPhrase? "AS" (keyword.text ++ rest) = some (skipBlanks rest) := by
  rw [As.text, List.append_assoc, dropPhrase?, dropKeyword?,
    dropWord?_of_asciiLower (by decide) keyword.isAs, Option.bind_some,
    keyword.gap.dropBlanks?_append]

namespace Alias

variable (naming : Alias)

/-- An alias begins with a letter behind its first blanks. -/
theorem exists_cons (stop : List Char) : ∃ c rest, isNameChar c = true ∧
    (naming.keyword?.elim [] As.text ++ naming.name.letters) ++ stop = c :: rest := by
  cases naming.keyword? with
  | none =>
    obtain ⟨c, rest, letters, isFirst⟩ := naming.name.exists_cons
    exact ⟨c, rest ++ stop, isFirst, congrArg (· ++ stop) letters⟩
  | some keyword =>
    obtain ⟨c, rest, letters, isFirst⟩ := keyword.exists_cons
    refine ⟨c, rest ++ (keyword.gap.text ++ (naming.name.letters ++ stop)), isFirst, ?_⟩
    simp [As.text, letters]

/-- An alias ends the name in front of it. -/
theorem endsName (stop : List Char) : EndsName (naming.text ++ stop) where
  stopped := by
    rw [text, List.append_assoc]
    exact naming.gap.stopped _
  undotted afterDot dotted := by
    obtain ⟨c, rest, isFirst, body⟩ := naming.exists_cons stop
    rw [text, List.append_assoc, body, naming.gap.skipBlanks_append,
      skipBlanks_cons (nameChar isFirst).2.1] at dotted
    rw [(List.cons.inj dotted).1] at isFirst
    exact absurd isFirst (by decide)

/-- An alias is passed over. -/
theorem skipAlias_text {stop : List Char} (stopped : stop.head?.any continuesName = false) :
    skipAlias (naming.text ++ stop) = stop := by
  have named := identifier?_append naming.name.isIdentifier stopped
  have word : ∃ word, dropBlanks? (naming.text ++ stop) = some word ∧
      ((dropPhrase? "AS" word).bind identifier?).or (identifier? word) =
        some (naming.name.letters, stop) := by
    obtain ⟨c, rest, isFirst, body⟩ := naming.exists_cons stop
    have kept := skipBlanks_cons (nameChar isFirst).2.1 rest
    rw [← body] at kept
    rw [text, List.append_assoc, naming.gap.dropBlanks?_append, kept]
    refine ⟨_, rfl, ?_⟩
    cases naming.keyword? with
    | none =>
      have noKeyword : dropPhrase? "AS" (naming.name.letters ++ stop) = none :=
        naming.name.dropPhrase?_append (by decide) (wordHasEnded_of_stopped stopped)
      change ((dropPhrase? "AS" (naming.name.letters ++ stop)).bind identifier?).or
        (identifier? (naming.name.letters ++ stop)) = _
      rw [noKeyword, named]
      rfl
    | some keyword =>
      have dropped := keyword.dropPhrase?_text (naming.name.letters ++ stop)
      rw [naming.name.skipBlanks_append] at dropped
      rw [Option.elim_some, List.append_assoc, dropped, Option.bind_some, named]
      rfl
  obtain ⟨word, dropped, read⟩ := word
  rw [skipAlias, dropped]
  simp only [read]

end Alias

/-! ## What follows a reference -/

/-- Text that ends an item of a list: nothing, or a comma behind blanks. -/
inductive EndsItem : List Char → Prop where
  | nil : EndsItem []
  | comma (blanks : Blanks) (rest : List Char) : EndsItem (blanks.text ++ ',' :: rest)

namespace EndsItem

variable {stop : List Char} (ends : EndsItem stop)
include ends

/-- What ends an item ends a name. -/
theorem endsName : EndsName stop := by
  cases ends with
  | nil => exact endsName_nil
  | comma blanks rest =>
    refine ⟨blanks.stopped (by decide) rest, fun afterDot dotted => ?_⟩
    rw [blanks.skipBlanks_append, skipBlanks_cons (by decide)] at dotted
    exact absurd (List.cons.inj dotted).1 (by decide)

/-- What ends an item is no alias. -/
theorem skipAlias_eq : skipAlias stop = stop := by
  cases ends with
  | nil => rfl
  | comma blanks rest =>
    by_cases noText : blanks.text = []
    · rw [noText]
      rfl
    · have dropped := (Gap.mk blanks noText).dropBlanks?_append (',' :: rest)
      rw [skipBlanks_cons (by decide)] at dropped
      have noKeyword : dropPhrase? "AS" (',' :: rest) = none :=
        @dropPhrase?_eq_none "AS" 'A' ',' ['S'] rest rfl (by decide)
      have noName : identifier? (',' :: rest) = none := rfl
      rw [skipAlias, dropped]
      simp only [noKeyword, noName, Option.bind_none, Option.or_none]

end EndsItem

namespace Reference

variable (reference : Reference)

/-- A reference begins with a character that is no blank. -/
theorem skipBlanks_text (rest : List Char) :
    skipBlanks (reference.text ++ rest) = reference.text ++ rest := by
  rw [text, List.append_assoc, reference.path.skipBlanks_append]

variable {stop : List Char} (ends : EndsItem stop)
include ends

/-- Behind the path of a reference its name has ended. -/
theorem endsName : EndsName (reference.aliasText ++ stop) := by
  rw [aliasText]
  cases reference.alias? with
  | none => exact ends.endsName
  | some naming => exact naming.endsName stop

/-- The alias of a reference is passed over, whether it has one or not. -/
theorem skipAlias_text : skipAlias (reference.aliasText ++ stop) = stop := by
  rw [aliasText]
  cases reference.alias? with
  | none => exact ends.skipAlias_eq
  | some naming => exact naming.skipAlias_text ends.endsName.stopped

/-- The path of a reference is read up to its alias. -/
theorem path?_text : path? (reference.text ++ stop) =
    some (reference.path.last.text, reference.aliasText ++ stop) := by
  rw [text, List.append_assoc]
  exact reference.path.path?_text (reference.endsName ends)

end Reference

end NeutralSql.SqlText
