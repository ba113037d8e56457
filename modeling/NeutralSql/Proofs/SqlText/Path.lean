import NeutralSql.Proofs.SqlText.Scan
import NeutralSql.Proofs.Text.Lowercase
import NeutralSql.Proofs.Text.NameSet

/-!
# Dotted names behind anchors

A table name is a path of ASCII identifiers joined by dots. Behind an anchor, with or
without a condition in between, it is read as a whole, however the path is made up and
whatever follows it, as long as that closes the name: `occurrences_anchor`. What the scan
keeps of it is its last identifier in lower case.
-/

namespace NeutralSql.SqlText

open Text (asciiLower isBlank isWord wordCanBegin wordHasEnded)

/-! ## Identifiers -/

/-- Characters of ASCII identifiers: letters, digits and the underscore. -/
def isNameChar (c : Char) : Bool :=
  c.isAlphanum || c = '_'

/-- An ASCII identifier does not begin with a digit. -/
def isIdentifier : List Char → Bool
  | [] => false
  | first :: rest => (first.isAlpha || first = '_') && rest.all isNameChar

/-- A path of identifiers joined by dots, with its last one. -/
inductive IsPath : (last path : List Char) → Prop where
  | single {segment : List Char} (isSegment : isIdentifier segment = true) :
      IsPath segment segment
  | dotted {segment last rest : List Char} (isSegment : isIdentifier segment = true)
      (isPath : IsPath last rest) : IsPath last (segment ++ '.' :: rest)

/-- A name denotes a table: it is a path whose last identifier in lower case is the table,
and that is no reserved word. -/
def Denotes (name table : String) : Prop :=
  ∃ last, IsPath last name.toList ∧ table = String.ofList (asciiLower last) ∧ table ∉ reserved

/-- What sets the characters of identifiers apart from others. -/
theorem nameChar_ascii : ∀ code < 0x80, isNameChar (Char.ofNat code) = true →
    isWord (Char.ofNat code) = true ∧ isBlank (Char.ofNat code) = false ∧
      isNameMark (Char.ofNat code) = false ∧ (Char.ofNat code != '.') = true := by
  decide +kernel

/-- Characters of identifiers are of ASCII. -/
theorem isAscii_of_isNameChar {c : Char} (isName : isNameChar c = true) : c.toNat < 0x80 := by
  rw [isNameChar, Bool.or_eq_true, decide_eq_true_eq] at isName
  rcases isName with isAlphanum | rfl
  · exact isAscii_of_isAlphanum isAlphanum
  · decide

/-- A character of identifiers belongs to words, and is no blank, mark or dot. -/
theorem nameChar {c : Char} (isName : isNameChar c = true) :
    isWord c = true ∧ isBlank c = false ∧ isNameMark c = false ∧ (c != '.') = true := by
  have facts := nameChar_ascii c.toNat (isAscii_of_isNameChar isName)
  rw [Char.ofNat_toNat] at facts
  exact facts isName

section Identifiers

variable {segment : List Char}

/-- All characters of an identifier are characters of identifiers. -/
theorem isNameChar_of_mem (isSegment : isIdentifier segment = true) :
    ∀ c ∈ segment, isNameChar c = true := by
  cases segment with
  | nil => contradiction
  | cons first rest =>
    simp only [isIdentifier, Bool.and_eq_true, List.all_eq_true] at isSegment
    refine List.forall_mem_cons.2 ⟨?_, isSegment.2⟩
    have begins := isSegment.1
    simp only [isNameChar, Char.isAlphanum, Bool.or_eq_true, decide_eq_true_eq] at begins ⊢
    tauto

/-- An identifier is read where it ends. -/
theorem identifier?_append (isSegment : isIdentifier segment = true) {stop : List Char}
    (ends : stop.head?.any continuesName = false) :
    identifier? (segment ++ stop) = some (segment, stop) := by
  have continues : ∀ c ∈ segment, continuesName c = true := by
    intro c isInside
    rw [continuesName, (nameChar (isNameChar_of_mem isSegment c isInside)).1]
    rfl
  cases segment with
  | nil => contradiction
  | cons first rest =>
    have begins : beginsName first = true := by
      simp only [isIdentifier, Bool.and_eq_true, Bool.or_eq_true] at isSegment
      rcases isSegment.1 with isLetter | isUnderscore
      · simp [beginsName, isLetter]
      · simp [beginsName, isUnderscore]
    have restContinues : ∀ c ∈ rest, continuesName c = true := fun c isRest =>
      continues c (List.mem_cons_of_mem first isRest)
    have stopped : stop.takeWhile continuesName = [] ∧ stop.dropWhile continuesName = stop := by
      cases stop with
      | nil => exact ⟨rfl, rfl⟩
      | cons c stop =>
        have apart : continuesName c = false := ends
        simp [apart]
    rw [List.cons_append, identifier?, if_pos begins, List.takeWhile_append_of_pos restContinues,
      List.dropWhile_append_of_pos restContinues, stopped.1, stopped.2, List.append_nil]

/-- An identifier is read as a segment where it ends. -/
theorem segment?_append (isSegment : isIdentifier segment = true) {stop : List Char}
    (ends : stop.head?.any continuesName = false) :
    segment? (segment ++ stop) = some (segment, stop) := by
  have read := identifier?_append isSegment ends
  cases segment with
  | nil => contradiction
  | cons first rest =>
    have unmarked : closingMark? first = none := by
      have noMark := (nameChar (isNameChar_of_mem isSegment first List.mem_cons_self)).2.2.1
      simp only [isNameMark, Bool.or_eq_false_iff, decide_eq_false_iff_not] at noMark
      simp [closingMark?, noMark]
    rw [List.cons_append] at read ⊢
    rw [segment?]
    simp only [unmarked, read]

end Identifiers

/-! ## Paths -/

/-- A path holds characters of identifiers and dots. -/
theorem IsPath.mem {last path : List Char} (isPath : IsPath last path) :
    ∀ c ∈ path, isNameChar c = true ∨ c = '.' := by
  induction isPath with
  | single isSegment => exact fun c isInside => .inl (isNameChar_of_mem isSegment c isInside)
  | dotted isSegment _ inductionHypothesis =>
    intro c isInside
    rcases List.mem_append.1 isInside with inSegment | isBehind
    · exact .inl (isNameChar_of_mem isSegment c inSegment)
    · rcases List.mem_cons.1 isBehind with rfl | inRest
      · exact .inr rfl
      · exact inductionHypothesis c inRest

/-- A path holds no blanks. -/
theorem IsPath.noBlank {last path : List Char} (isPath : IsPath last path) :
    ∀ c ∈ path, isBlank c = false := by
  intro c isInside
  rcases isPath.mem c isInside with isName | rfl
  · exact (nameChar isName).2.1
  · decide

/-- The last identifier of a path is one. -/
theorem IsPath.isIdentifier_last {last path : List Char} (isPath : IsPath last path) :
    isIdentifier last = true := by
  induction isPath with
  | single isSegment => exact isSegment
  | dotted _ _ inductionHypothesis => exact inductionHypothesis

/-- Text that ends a name in front of it: the name does not go on, and no dot follows. -/
structure EndsName (behind : List Char) : Prop where
  stopped : behind.head?.any continuesName = false
  undotted : ∀ afterDot, skipBlanks behind ≠ '.' :: afterDot

/-- Nothing ends a name. -/
theorem endsName_nil : EndsName [] :=
  ⟨rfl, nofun⟩

/-- Text that closes a name: nothing, or a space and then no blank, no dot, and no letter
that EXISTS or NOT begin with. -/
def closesName : List Char → Bool
  | [] => true
  | [_] => false
  | space :: c :: _ =>
    space = ' ' && !isBlank c && c != '.' && !isFormOf 'E' c && !isFormOf 'N' c

/-- Text that closes a name is empty, or has a space in front and a character behind it. -/
theorem closesName_cases {stop : List Char} (closes : closesName stop = true) :
    stop = [] ∨ ∃ c rest, stop = ' ' :: c :: rest ∧ isBlank c = false ∧ c ≠ '.' ∧
      isFormOf 'E' c = false ∧ isFormOf 'N' c = false := by
  match stop with
  | [] => exact .inl rfl
  | space :: c :: rest =>
    simp only [closesName, Bool.and_eq_true, Bool.not_eq_true', decide_eq_true_eq,
      bne_iff_ne] at closes
    obtain ⟨⟨⟨⟨rfl, noBlank⟩, noDot⟩, noExists⟩, noNot⟩ := closes
    exact .inr ⟨c, rest, rfl, noBlank, noDot, noExists, noNot⟩

/-- Blanks are skipped up to a character that is none. -/
theorem skipBlanks_cons {c : Char} (noBlank : isBlank c = false) (rest : List Char) :
    skipBlanks (c :: rest) = c :: rest := by
  rw [skipBlanks, List.dropWhile_cons, noBlank]
  rfl

/-- One space is skipped. -/
theorem skipBlanks_space (rest : List Char) : skipBlanks (' ' :: rest) = skipBlanks rest := by
  rw [skipBlanks, List.dropWhile_cons]
  rfl

/-- A path goes on with the segment behind a dot. -/
theorem pathTail_of_segment? {last text afterDot segment rest : List Char}
    (dotted : skipBlanks text = '.' :: afterDot)
    (read : segment? (skipBlanks afterDot) = some (segment, rest)) :
    pathTail last text = pathTail segment rest := by
  rw [pathTail]
  split
  · rename_i behind dottedAgain
    rw [dotted] at dottedAgain
    obtain ⟨-, rfl⟩ := List.cons.inj dottedAgain
    split
    · rename_i next
      rw [read] at next
      obtain ⟨rfl, rfl⟩ := Prod.mk.inj (Option.some.inj next)
      rfl
    · rename_i nothing
      rw [read] at nothing
      contradiction
  · rename_i noDot
    exact absurd dotted (noDot afterDot)

/-- A path ends where no dot with a segment behind it follows. -/
theorem pathTail_eq_self {last text : List Char}
    (ends : ∀ afterDot, skipBlanks text = '.' :: afterDot → segment? (skipBlanks afterDot) = none) :
    pathTail last text = (last, text) := by
  rw [pathTail]
  split
  · rename_i afterDot dotted
    have nothing := ends afterDot dotted
    split
    · rename_i next
      rw [nothing] at next
      contradiction
    · rfl
  · rfl

/-- A dot with a segment behind it goes on with a path. -/
theorem pathTail_dot {last afterDot segment rest : List Char}
    (read : segment? (skipBlanks afterDot) = some (segment, rest)) :
    pathTail last ('.' :: afterDot) = pathTail segment rest :=
  pathTail_of_segment? (skipBlanks_cons (by decide) _) read

/-- A path ends where no dot follows. -/
theorem pathTail_closed {last stop : List Char} (closes : closesName stop = true) :
    pathTail last stop = (last, stop) := by
  refine pathTail_eq_self fun afterDot dotted => ?_
  rcases closesName_cases closes with rfl | ⟨c, rest, rfl, noBlank, noDot, -, -⟩
  · contradiction
  · rw [skipBlanks_space, skipBlanks_cons noBlank] at dotted
    exact absurd (List.cons.inj dotted).1 noDot

/-- Text that closes a name continues no identifier. -/
theorem not_continuesName_of_closes {stop : List Char} (closes : closesName stop = true) :
    stop.head?.any continuesName = false := by
  have space : continuesName ' ' = false := by decide
  rcases closesName_cases closes with rfl | ⟨c, rest, rfl, -⟩
  · rfl
  · exact space

/-- Text that closes a name ends a word. -/
theorem wordHasEnded_of_closes {stop : List Char} (closes : closesName stop = true) :
    wordHasEnded stop = true := by
  have space : wordHasEnded [' '] = true := by decide
  rcases closesName_cases closes with rfl | ⟨c, rest, rfl, -⟩
  · rfl
  · exact space

/-- An identifier begins with a character that is no blank. -/
theorem skipBlanks_identifier {segment : List Char} (isSegment : isIdentifier segment = true)
    (rest : List Char) : skipBlanks (segment ++ rest) = segment ++ rest := by
  cases segment with
  | nil => contradiction
  | cons c segment =>
    exact skipBlanks_cons (nameChar (isNameChar_of_mem isSegment c List.mem_cons_self)).2.1 _

/-- A path begins with a character that is no blank. -/
theorem IsPath.skipBlanks {last path : List Char} (isPath : IsPath last path)
    (rest : List Char) : skipBlanks (path ++ rest) = path ++ rest := by
  cases isPath with
  | single isSegment => exact skipBlanks_identifier isSegment rest
  | dotted isSegment _ =>
    rw [List.append_assoc]
    exact skipBlanks_identifier isSegment _

/-- A path begins with a segment and goes on behind it. -/
theorem path?_eq_some_iff {text : List Char} {found : List Char × List Char} :
    path? text = some found ↔
      ∃ segment rest, segment? text = some (segment, rest) ∧ pathTail segment rest = found := by
  rw [path?, Option.map_eq_some_iff, Prod.exists]

/-- A path is read up to the text that closes it. -/
theorem path?_of_isPath {last path stop : List Char} (isPath : IsPath last path)
    (closes : closesName stop = true) : path? (path ++ stop) = some (last, stop) := by
  induction isPath with
  | single isSegment =>
    have read := segment?_append isSegment (not_continuesName_of_closes closes)
    exact path?_eq_some_iff.2 ⟨_, _, read, pathTail_closed closes⟩
  | @dotted segment last rest isSegment isPath inductionHypothesis =>
    have dotEnds : continuesName '.' = false := by decide
    have ends : ('.' :: (rest ++ stop)).head?.any continuesName = false := dotEnds
    have read := segment?_append isSegment ends
    obtain ⟨next, behind, restRead, tail⟩ := path?_eq_some_iff.1 inductionHypothesis
    rw [← isPath.skipBlanks] at restRead
    rw [List.append_assoc, List.cons_append]
    exact path?_eq_some_iff.2 ⟨_, _, read, (pathTail_dot restRead).trans tail⟩

/-! ## Lists -/

/-- A list ends where no item follows. -/
theorem listItems_of_none {text : List Char} (nothing : listItem? text = none) :
    listItems text = ([], text) := by
  rw [listItems]
  split
  · rfl
  · rename_i read
    rw [nothing] at read
    contradiction

/-- A list goes on behind an item. -/
theorem listItems_of_some {text last rest : List Char}
    (item : listItem? text = some (last, rest)) :
    listItems text = (last :: (listItems rest).1, (listItems rest).2) := by
  rw [listItems]
  split
  · rename_i read
    rw [item] at read
    contradiction
  · rename_i read
    rw [item] at read
    obtain ⟨rfl, rfl⟩ := Prod.mk.inj (Option.some.inj read)
    rfl

/-! ## Conditions -/

/-- Keywords of capital letters stand in front in every letter case. -/
theorem dropWord?_of_asciiLower {word inside : List Char}
    (isUpper : word.map Char.toUpper = word) (same : asciiLower inside = asciiLower word)
    (rest : List Char) : dropWord? word (inside ++ rest) = some rest := by
  induction word generalizing inside with
  | nil =>
    rw [List.map_eq_nil_iff.1 same]
    rfl
  | cons letter word inductionHypothesis =>
    obtain ⟨c, others, rfl, sameFirst, sameOthers⟩ := List.map_eq_cons_iff.1 same
    obtain ⟨first, rest⟩ := List.cons.inj isUpper
    have isForm : isFormOf letter c = true := by
      have upper : c.toUpper = letter := by
        rw [← Char.toUpper_toLower_eq_toUpper, sameFirst, Char.toUpper_toLower_eq_toUpper, first]
      simp [isFormOf, upper]
    rw [List.cons_append, dropWord?, if_pos isForm, inductionHypothesis rest sameOthers]

/-- Keywords of capital letters stand in front of themselves. -/
theorem dropWord?_append {word : List Char} (isUpper : word.map Char.toUpper = word)
    (rest : List Char) : dropWord? word (word ++ rest) = some rest :=
  dropWord?_of_asciiLower isUpper rfl rest

/-- A keyword with a space behind it is dropped with all blanks. -/
theorem dropPhrase?_append {keyword : String}
    (isUpper : keyword.toList.map Char.toUpper = keyword.toList) (rest : List Char) :
    dropPhrase? keyword (keyword.toList ++ ' ' :: rest) = some (skipBlanks rest) := by
  rw [dropPhrase?, dropKeyword?, dropWord?_append isUpper, Option.bind_some, dropBlanks?]
  rfl

/-- A phrase does not stand in front of a character that is no form of its first letter. -/
theorem dropPhrase?_eq_none {keyword : String} {letter c : Char} {letters rest : List Char}
    (word : keyword.toList = letter :: letters) (noForm : isFormOf letter c = false) :
    dropPhrase? keyword (c :: rest) = none := by
  rw [dropPhrase?, dropKeyword?, word, dropWord?, noForm]
  rfl

/-- Two texts up to their first blanks are equal if the whole texts are. -/
theorem eq_of_append_blank {first second firstRest secondRest : List Char} {c d : Char}
    (equal : first ++ c :: firstRest = second ++ d :: secondRest)
    (firstFree : ∀ e ∈ first, isBlank e = false) (secondFree : ∀ e ∈ second, isBlank e = false)
    (isFirst : isBlank c = true) (isSecond : isBlank d = true) :
    first = second ∧ firstRest = secondRest := by
  rw [List.append_eq_append_iff] at equal
  rcases equal with ⟨extra, rfl, equal⟩ | ⟨extra, rfl, equal⟩
  · cases extra with
    | nil => exact ⟨(List.append_nil first).symm, (List.cons.inj equal).2⟩
    | cons e extra =>
      obtain ⟨rfl, -⟩ := List.cons.inj equal
      rw [secondFree c (by simp)] at isFirst
      contradiction
  · cases extra with
    | nil => exact ⟨List.append_nil second, (List.cons.inj equal).2.symm⟩
    | cons e extra =>
      obtain ⟨rfl, -⟩ := List.cons.inj equal
      rw [firstFree d (by simp)] at isSecond
      contradiction

/-- What may stand between an anchor and a name. -/
def conditions : List String :=
  ["", "IF EXISTS ", "IF NOT EXISTS "]

/-- The letters of IF are plain. -/
theorem isPlainLetter_of_mem_if : ∀ letter ∈ "IF".toList, isPlainLetter letter = true :=
  List.all_eq_true.1 rfl

/-- A path is not taken for a condition, not even one that begins with IF. -/
theorem dropCondition?_of_isPath {last path stop : List Char} (isPath : IsPath last path)
    (closes : closesName stop = true) : dropCondition? (path ++ stop) = none := by
  rw [dropCondition?]
  cases dropped : dropPhrase? "IF" (path ++ stop) with
  | none => rfl
  | some tail =>
    obtain ⟨inside, blank, rest, equal, same, isBlank, rfl⟩ :=
      exists_of_dropPhrase? isPlainLetter_of_mem_if dropped
    have noBlank : ∀ c ∈ inside, Text.isBlank c = false := by
      intro c isInside
      have isLetter := isWord_of_asciiLower isPlainLetter_of_mem_if same c isInside
      rw [Bool.eq_false_iff]
      intro isBlank
      rw [isWord_of_isBlank isBlank] at isLetter
      contradiction
    -- The path is the IF, so that the character behind it is the one that closes it.
    rcases closesName_cases closes with rfl | ⟨c, others, rfl, notBlank, -, notExists, notNot⟩
    · rw [List.append_nil] at equal
      have isListed : blank ∈ path := equal ▸ by simp
      rw [isPath.noBlank blank isListed] at isBlank
      contradiction
    · obtain ⟨-, rfl⟩ := eq_of_append_blank equal isPath.noBlank noBlank (by decide) isBlank
      have noNot : dropPhrase? "NOT" (c :: others) = none := dropPhrase?_eq_none rfl notNot
      have noExists : dropPhrase? "EXISTS" (c :: others) = none :=
        dropPhrase?_eq_none rfl notExists
      rw [skipBlanks_cons notBlank]
      simp only [Option.bind_eq_bind, Option.bind_some, noNot, Option.getD_none, noExists]

/-- A condition in front of a path is dropped. -/
theorem dropCondition?_append {last path : List Char} (isPath : IsPath last path)
    {condition : String} (listed : condition ∈ ["IF EXISTS ", "IF NOT EXISTS "])
    (stop : List Char) :
    dropCondition? (condition.toList ++ (path ++ stop)) = some (path ++ stop) := by
  have exists? : dropPhrase? "EXISTS" ("EXISTS".toList ++ ' ' :: (path ++ stop)) =
      some (path ++ stop) := by
    rw [dropPhrase?_append (by decide), isPath.skipBlanks]
  have if? (word : List Char) (front : Text.isBlank (word.headD ' ') = false) :
      dropPhrase? "IF" ("IF".toList ++ ' ' :: word) = some word := by
    rw [dropPhrase?_append (by decide)]
    cases word with
    | nil => contradiction
    | cons c rest => exact congrArg some (skipBlanks_cons front rest)
  rcases List.mem_pair.1 listed with rfl | rfl
  · have words : "IF EXISTS ".toList ++ (path ++ stop) =
        "IF".toList ++ ' ' :: ("EXISTS".toList ++ ' ' :: (path ++ stop)) := rfl
    have noNot : dropPhrase? "NOT" ("EXISTS".toList ++ ' ' :: (path ++ stop)) = none :=
      dropPhrase?_eq_none rfl (by decide)
    rw [dropCondition?, words, if? _ (by rfl)]
    simp only [Option.bind_eq_bind, Option.bind_some, noNot, Option.getD_none, exists?]
  · have words : "IF NOT EXISTS ".toList ++ (path ++ stop) =
        "IF".toList ++ ' ' :: ("NOT".toList ++ ' ' :: ("EXISTS".toList ++ ' ' :: (path ++ stop))) :=
      rfl
    have not? : dropPhrase? "NOT" ("NOT".toList ++ ' ' :: ("EXISTS".toList ++ ' ' :: (path ++ stop))) =
        some ("EXISTS".toList ++ ' ' :: (path ++ stop)) := by
      rw [dropPhrase?_append (by decide)]
      exact congrArg some (skipBlanks_cons (by decide) _)
    rw [dropCondition?, words, if? _ (by rfl)]
    simp only [Option.bind_eq_bind, Option.bind_some, not?, Option.getD_some, exists?]

/-- A condition in front of a name is dropped, and without one no name is taken for it. -/
theorem target?_of_isPath {last path stop : List Char} (isPath : IsPath last path)
    (closes : closesName stop = true) {condition : String} (listed : condition ∈ conditions) :
    target? (condition.toList ++ (path ++ stop)) = some (last, stop) := by
  have read := path?_of_isPath isPath closes
  rw [target?]
  rcases List.mem_cons.1 listed with rfl | listed
  · have empty : "".toList ++ (path ++ stop) = path ++ stop := rfl
    rw [empty, dropCondition?_of_isPath isPath closes, read]
    rfl
  · rw [dropCondition?_append isPath listed, Option.bind_some, read]
    rfl

/-! ## Anchored names -/

/-- Text in front of a path begins with no blank, whether it is a condition or nothing. -/
theorem skipBlanks_condition {last path : List Char} (isPath : IsPath last path)
    {condition : String} (listed : condition ∈ conditions) (stop : List Char) :
    skipBlanks (condition.toList ++ (path ++ stop)) = condition.toList ++ (path ++ stop) := by
  simp only [conditions, List.mem_cons, List.not_mem_nil, or_false] at listed
  rcases listed with rfl | rfl | rfl
  · exact isPath.skipBlanks stop
  · exact skipBlanks_cons (by decide) _
  · exact skipBlanks_cons (by decide) _

/-- Anchors are in capitals. -/
theorem anchors_upper : ∀ anchor ∈ anchors, anchor.toList.map Char.toUpper = anchor.toList := by
  decide

/-- Behind an anchor and a space, the text is read as the target. -/
theorem anchored?_anchor {anchor : String} (listed : anchor ∈ anchors) {tail : List Char}
    {found : List Char × List Char} (target : target? (skipBlanks tail) = some found) :
    anchored? (anchor.toList ++ ' ' :: tail) = some found := by
  have free : ∀ other ∈ anchors, ∀ inside, asciiLower inside = asciiLower other.toList →
      ∀ c ∈ inside, isBlank c = false := by
    intro other isAnchor inside same c isInside
    have isLetter := isWord_of_mem_anchor isAnchor same c isInside
    rw [Bool.eq_false_iff]
    intro blank
    rw [isWord_of_isBlank blank] at isLetter
    contradiction
  cases read : anchored? (anchor.toList ++ ' ' :: tail) with
  | some other =>
    obtain ⟨other, isAnchor, inside, blank, rest, equal, same, isBlank, otherTarget⟩ :=
      exists_of_anchored? read
    obtain ⟨-, rfl⟩ := eq_of_append_blank equal (free anchor listed _ rfl)
      (free other isAnchor inside same) (by decide) isBlank
    rw [← otherTarget, target]
  | none =>
    rw [anchored?, List.findSome?_eq_none_iff] at read
    have nothing := read anchor listed
    rw [dropPhrase?_append (anchors_upper anchor listed), Option.bind_some, target] at nothing
    contradiction

/-- The scan finds the last identifier of a path behind an anchor, and goes on where the
path is closed. -/
theorem occurrences_anchor {anchor condition : String} {last path stop : List Char}
    (listed : anchor ∈ anchors) {previous : Option Char}
    (begins : wordCanBegin previous = true) (isCondition : condition ∈ conditions)
    (isPath : IsPath last path) (closes : closesName stop = true) :
    ∃ next, occurrences anchored? 0 previous
        (anchor.toList ++ ' ' :: (condition.toList ++ (path ++ stop))) =
      last :: occurrences anchored? 0 next stop := by
  have target := target?_of_isPath isPath closes isCondition
  rw [← skipBlanks_condition isPath isCondition] at target
  have read := anchored?_anchor listed target
  have taken : anchor.toList ++ ' ' :: (condition.toList ++ (path ++ stop)) =
      (anchor.toList ++ ' ' :: (condition.toList ++ path)) ++ stop := by simp
  rw [taken] at read ⊢
  exact ⟨_, occurrences_of_read begins (by simp) read⟩

/-! ## Table names -/

/-- Text without a character to trim stays as it is. -/
theorem trimWhere_eq_self {drop : Char → Bool} {text : List Char}
    (kept : ∀ c ∈ text, drop c = false) : Text.trimWhere drop text = text := by
  have front : text.dropWhile drop = text :=
    List.dropWhile_eq_self_iff.2 fun someText =>
      Bool.eq_false_iff.1 (kept _ (List.getElem_mem someText))
  have back : text.reverse.dropWhile drop = text.reverse :=
    List.dropWhile_eq_self_iff.2 fun someText =>
      Bool.eq_false_iff.1 (kept _ (List.mem_reverse.1 (List.getElem_mem someText)))
  rw [Text.trimWhere, front, back, List.reverse_reverse]

/-- ASCII text in lower case. -/
theorem lowercaseFrom_of_isAscii {before text : List Char} (isAscii : ∀ c ∈ text, c.toNat < 0x80) :
    Text.lowercaseFrom before text = asciiLower text := by
  induction text generalizing before with
  | nil => rfl
  | cons c rest inductionHypothesis =>
    obtain ⟨first, others⟩ := List.forall_mem_cons.1 isAscii
    have notSigma : c ≠ 'Σ' := by
      rintro rfl
      exact absurd first (by decide)
    rw [Text.lowercaseFrom, if_neg notSigma, Text.lowercaseChar, if_pos first,
      inductionHypothesis others]
    rfl

/-- An ASCII identifier in lower case. -/
theorem lowercase_of_isIdentifier {segment : List Char} (isSegment : isIdentifier segment = true) :
    Text.lowercase (String.ofList segment) = String.ofList (asciiLower segment) := by
  rw [Text.lowercase, String.toList_ofList, lowercaseFrom_of_isAscii fun c isInside =>
    isAscii_of_isNameChar (isNameChar_of_mem isSegment c isInside)]

/-- A segment names the ASCII identifier that is left of it, in lower case and unless that is
reserved. -/
theorem tableName?_of_trimmed {segment letters : List Char}
    (trimmed : Text.trimWhere isNameMark (Text.trim (behindLastDot segment)) = letters)
    (isLetters : isIdentifier letters = true)
    (notReserved : String.ofList (asciiLower letters) ∉ reserved) :
    tableName? segment = some (String.ofList (asciiLower letters)) := by
  have lower := lowercase_of_isIdentifier isLetters
  have notEmpty : (String.ofList (asciiLower letters)).isEmpty = false := by
    cases letters with
    | nil => contradiction
    | cons c rest => simp [asciiLower]
  simp only [tableName?, trimmed, lower, notEmpty, Bool.false_or]
  rw [if_neg]
  simpa using notReserved

/-- Text without dots is all behind its last dot. -/
theorem behindLastDot_eq_self {segment : List Char} (undotted : ∀ c ∈ segment, (c != '.') = true) :
    behindLastDot segment = segment := by
  have all : ∀ c ∈ segment.reverse, (c != '.') = true := fun c isInside =>
    undotted c (List.mem_reverse.1 isInside)
  rw [behindLastDot, List.takeWhile_eq_self_iff.2 all, List.reverse_reverse]

/-- An ASCII identifier names the table that is its lower-case form, unless that is
reserved. -/
theorem tableName?_of_isIdentifier {segment : List Char} (isSegment : isIdentifier segment = true)
    (notReserved : String.ofList (asciiLower segment) ∉ reserved) :
    tableName? segment = some (String.ofList (asciiLower segment)) := by
  have characters := fun c isInside => nameChar (isNameChar_of_mem isSegment c isInside)
  have noDot : behindLastDot segment = segment :=
    behindLastDot_eq_self fun c isInside => (characters c isInside).2.2.2
  have noBlank : Text.trim segment = segment :=
    trimWhere_eq_self fun c isInside => (characters c isInside).2.1
  have noMark : Text.trimWhere isNameMark segment = segment :=
    trimWhere_eq_self fun c isInside => (characters c isInside).2.2.1
  exact tableName?_of_trimmed (by rw [noDot, noBlank, noMark]) isSegment notReserved

/-- The table that a name denotes is in lower case. -/
theorem Denotes.lowercase {name table : String} (denotes : Denotes name table) :
    Text.lowercase table = table := by
  obtain ⟨last, isPath, rfl, -⟩ := denotes
  have lower := lowercase_of_isIdentifier isPath.isIdentifier_last
  rw [← lower, Text.lowercase_lowercase]

/-- An identifier that the scan finds is a table, unless it is reserved. -/
theorem mem_tables {sql : String} {segment : List Char}
    (occurs : segment ∈ occurrences anchored? 0 none sql.toList)
    (isSegment : isIdentifier segment = true)
    (notReserved : String.ofList (asciiLower segment) ∉ reserved) :
    String.ofList (asciiLower segment) ∈ tables sql := by
  rw [tables, Text.mem_nameSet, List.mem_filterMap]
  exact ⟨segment, List.mem_append_left _ occurs, tableName?_of_isIdentifier isSegment notReserved⟩

/-- The table that a name denotes is found in a text if the scan finds the last identifier
of the name. -/
theorem mem_tables_of_occurrence {sql name table : String} (denotes : Denotes name table)
    (occurs : ∀ last, IsPath last name.toList →
      last ∈ occurrences anchored? 0 none sql.toList) : table ∈ tables sql := by
  obtain ⟨last, isPath, rfl, notReserved⟩ := denotes
  exact mem_tables (occurs last isPath) isPath.isIdentifier_last notReserved

end NeutralSql.SqlText
