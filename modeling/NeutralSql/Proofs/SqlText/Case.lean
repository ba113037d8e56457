import NeutralSql.Cache
import NeutralSql.Proofs.SqlText.Path
import NeutralSql.Proofs.SqlText.Preamble
import NeutralSql.Proofs.Text.Case

/-!
# The case of letters in SQL text

A reader follows case if what it reads of a text in lower case is the lower-case form of what
it reads of the text. All readers of the scan do, from single keywords up to lists behind
FROM, and following case carries over from a reader to its occurrences: so texts that differ
in the case of ASCII letters name the same tables and are of the same kind. What the scan
names is in lower case already, and the cache keeps it under just these names.
-/

namespace NeutralSql.SqlText

open Text (IgnoresCase asciiLower asciiLower_cons isBlank toLower_eq_iff wordHasEnded)

/-! ## Characters -/

theorem ignoresCase_isFormOf (letter : Char) : IgnoresCase (isFormOf letter) := by
  intro c
  have longS : c.toLower = 'ſ' ↔ c = 'ſ' := toLower_eq_iff (by decide)
  have kelvin : c.toLower = '\u212A' ↔ c = '\u212A' := toLower_eq_iff (by decide)
  simp only [isFormOf, Char.toUpper_toLower_eq_toUpper, longS, kelvin]

theorem ignoresCase_beginsName : IgnoresCase beginsName := by
  intro c
  have underscore : c.toLower = '_' ↔ c = '_' := toLower_eq_iff (by decide)
  have longS : c.toLower = 'ſ' ↔ c = 'ſ' := toLower_eq_iff (by decide)
  have kelvin : c.toLower = '\u212A' ↔ c = '\u212A' := toLower_eq_iff (by decide)
  simp only [beginsName, Char.isAlpha_toLower_eq_isAlpha, underscore, longS, kelvin]

theorem ignoresCase_continuesName : IgnoresCase continuesName := by
  intro c
  have dollar : c.toLower = '$' ↔ c = '$' := toLower_eq_iff (by decide)
  simp only [continuesName, Text.ignoresCase_isWord c, dollar]

theorem ignoresCase_closingMark? : IgnoresCase closingMark? := by
  intro c
  have double : c.toLower = '"' ↔ c = '"' := toLower_eq_iff (by decide)
  have back : c.toLower = '\x60' ↔ c = '\x60' := toLower_eq_iff (by decide)
  have bracket : c.toLower = '[' ↔ c = '[' := toLower_eq_iff (by decide)
  simp only [closingMark?, double, back, bracket]

theorem ignoresCase_isNameMark : IgnoresCase isNameMark := by
  intro c
  have double : c.toLower = '"' ↔ c = '"' := toLower_eq_iff (by decide)
  have back : c.toLower = '\x60' ↔ c = '\x60' := toLower_eq_iff (by decide)
  have opening : c.toLower = '[' ↔ c = '[' := toLower_eq_iff (by decide)
  have closing : c.toLower = ']' ↔ c = ']' := toLower_eq_iff (by decide)
  simp only [isNameMark, double, back, opening, closing]

theorem ignoresCase_isPreamble : IgnoresCase isPreamble := by
  intro c
  have parenthesis : c.toLower = '(' ↔ c = '(' := toLower_eq_iff (by decide)
  simp only [isPreamble, Text.ignoresCase_isBlank c, parenthesis]

/-- Whether a character differs from a mark does not depend on its case. -/
theorem ignoresCase_ne {mark : Char} (noLetter : mark.isAlpha = false) :
    IgnoresCase (· != mark) := by
  intro c
  have same : c.toLower = mark ↔ c = mark := toLower_eq_iff noLetter
  rw [Bool.eq_iff_iff, bne_iff_ne, bne_iff_ne, ne_eq, ne_eq, same]

/-- The mark that closes a segment is no letter. -/
theorem isAlpha_closingMark? {c closing : Char} (marks : closingMark? c = some closing) :
    closing.isAlpha = false := by
  simp only [closingMark?] at marks
  split at marks
  · exact Option.some.inj marks ▸ by decide
  · split at marks
    · exact Option.some.inj marks ▸ by decide
    · split at marks
      · exact Option.some.inj marks ▸ by decide
      · contradiction

/-! ## Readers that follow case -/

/-- What is read of a text in lower case is the lower-case form of what is read of the text. -/
def FollowsCase {α : Type} (lower : α → α) (read? : List Char → Option α) : Prop :=
  ∀ text, read? (asciiLower text) = (read? text).map lower

/-- What was read in lower case, with the text behind it. -/
def lowerBoth : List Char × List Char → List Char × List Char :=
  Prod.map asciiLower asciiLower

namespace FollowsCase

variable {α β : Type} {lower : α → α}

/-- One reader behind another. -/
theorem bind {drop? : List Char → Option (List Char)} {read? : List Char → Option α}
    (first : FollowsCase asciiLower drop?) (second : FollowsCase lower read?) :
    FollowsCase lower fun text => (drop? text).bind read? := by
  intro text
  change (drop? (asciiLower text)).bind read? = ((drop? text).bind read?).map lower
  rw [first text]
  cases drop? text with
  | none => rfl
  | some rest => exact second rest

/-- One reader where another one reads nothing. -/
theorem or {first? second? : List Char → Option α} (first : FollowsCase lower first?)
    (second : FollowsCase lower second?) :
    FollowsCase lower fun text => (first? text).or (second? text) := by
  intro text
  change (first? (asciiLower text)).or (second? (asciiLower text)) =
    ((first? text).or (second? text)).map lower
  rw [first text, second text, Option.map_or]

/-- The first one of several readers that reads something. -/
theorem findSome? {read? : β → List Char → Option α} {choices : List β}
    (each : ∀ choice, FollowsCase lower (read? choice)) :
    FollowsCase lower fun text => choices.findSome? fun choice => read? choice text := by
  intro text
  simp only [each _ text, List.map_findSome?]
  rfl

/-- A text that is dropped only if it is there. -/
theorem getD {drop? : List Char → Option (List Char)} (follows : FollowsCase asciiLower drop?)
    (text : List Char) :
    (drop? (asciiLower text)).getD (asciiLower text) = asciiLower ((drop? text).getD text) := by
  rw [follows text, Option.getD_map]

end FollowsCase

/-! ## Keywords and blanks -/

theorem skipBlanks_asciiLower (text : List Char) :
    skipBlanks (asciiLower text) = asciiLower (skipBlanks text) :=
  Text.dropWhile_asciiLower Text.ignoresCase_isBlank text

theorem followsCase_dropWord? (word : List Char) : FollowsCase asciiLower (dropWord? word) := by
  induction word with
  | nil => exact fun _ => rfl
  | cons letter word inductionHypothesis =>
    intro text
    cases text with
    | nil => rfl
    | cons c rest =>
      rw [asciiLower_cons, dropWord?, dropWord?, ignoresCase_isFormOf letter c,
        inductionHypothesis rest]
      split <;> rfl

theorem followsCase_dropKeyword? (keyword : String) :
    FollowsCase asciiLower (dropKeyword? keyword) :=
  followsCase_dropWord? keyword.toList

theorem followsCase_dropBlanks? : FollowsCase asciiLower dropBlanks? := by
  intro text
  cases text with
  | nil => rfl
  | cons c rest =>
    rw [asciiLower_cons, dropBlanks?, dropBlanks?, Text.ignoresCase_isBlank c,
      skipBlanks_asciiLower]
    split <;> rfl

theorem followsCase_dropPhrase? (keyword : String) :
    FollowsCase asciiLower (dropPhrase? keyword) :=
  (followsCase_dropKeyword? keyword).bind followsCase_dropBlanks?

theorem followsCase_dropCondition? : FollowsCase asciiLower dropCondition? := by
  have behind : FollowsCase asciiLower fun text =>
      dropPhrase? "EXISTS" ((dropPhrase? "NOT" text).getD text) := by
    intro text
    have conditional := (followsCase_dropPhrase? "NOT").getD text
    exact (congrArg (dropPhrase? "EXISTS") conditional).trans (followsCase_dropPhrase? "EXISTS" _)
  exact (followsCase_dropPhrase? "IF").bind behind

/-! ## Names -/

theorem followsCase_identifier? : FollowsCase lowerBoth identifier? := by
  intro text
  cases text with
  | nil => rfl
  | cons c rest =>
    rw [asciiLower_cons, identifier?, identifier?, ignoresCase_beginsName c,
      Text.takeWhile_asciiLower ignoresCase_continuesName,
      Text.dropWhile_asciiLower ignoresCase_continuesName]
    split <;> rfl

theorem followsCase_quotedTail? {closing : Char} (noLetter : closing.isAlpha = false) :
    FollowsCase lowerBoth (quotedTail? closing) := by
  intro text
  have itself : closing.toLower = closing := (toLower_eq_iff noLetter).2 rfl
  rw [quotedTail?, Text.takeWhile_asciiLower (ignoresCase_ne noLetter),
    Text.dropWhile_asciiLower (ignoresCase_ne noLetter), quotedTail?]
  cases text.takeWhile (· != closing) with
  | nil => rfl
  | cons c body =>
    cases text.dropWhile (· != closing) with
    | nil => rfl
    | cons mark rest => simp [lowerBoth, asciiLower, itself]

theorem followsCase_segment? : FollowsCase lowerBoth segment? := by
  intro text
  cases text with
  | nil => rfl
  | cons c rest =>
    rw [asciiLower_cons, segment?, segment?, ignoresCase_closingMark? c]
    cases marks : closingMark? c with
    | none => exact followsCase_identifier? (c :: rest)
    | some closing =>
      have tail := followsCase_quotedTail? (isAlpha_closingMark? marks) rest
      simp only [tail, Option.map_map]
      rfl

/-- A mark in front of a text in lower case stands in front of the text. -/
theorem asciiLower_eq_cons {mark : Char} (noLetter : mark.isAlpha = false) {text rest : List Char}
    (front : asciiLower text = mark :: rest) : ∃ behind, text = mark :: behind ∧
      rest = asciiLower behind := by
  obtain ⟨c, behind, rfl, isMark, rfl⟩ := List.map_eq_cons_iff.1 front
  rw [toLower_eq_iff noLetter] at isMark
  exact ⟨behind, by rw [isMark], rfl⟩

theorem pathTail_asciiLower (last text : List Char) :
    pathTail (asciiLower last) (asciiLower text) = lowerBoth (pathTail last text) := by
  fun_induction pathTail last text with
  | case1 last text afterDot dotted segment rest next inductionHypothesis =>
    have dottedLower : skipBlanks (asciiLower text) = '.' :: asciiLower afterDot := by
      rw [skipBlanks_asciiLower, dotted]
      rfl
    have nextLower : segment? (skipBlanks (asciiLower afterDot)) =
        some (asciiLower segment, asciiLower rest) := by
      rw [skipBlanks_asciiLower, followsCase_segment?, next]
      rfl
    rw [pathTail_of_segment? dottedLower nextLower, inductionHypothesis]
  | case2 last text afterDot dotted nothing =>
    refine pathTail_eq_self fun behind lowered => ?_
    rw [skipBlanks_asciiLower, dotted] at lowered
    have behindDot : asciiLower afterDot = behind := (List.cons.inj lowered).2
    rw [← behindDot, skipBlanks_asciiLower, followsCase_segment?, nothing]
    rfl
  | case3 last text noDot =>
    refine pathTail_eq_self fun behind lowered => ?_
    rw [skipBlanks_asciiLower] at lowered
    obtain ⟨afterDot, dotted, -⟩ := asciiLower_eq_cons (by decide) lowered
    exact absurd dotted (noDot afterDot)

theorem followsCase_path? : FollowsCase lowerBoth path? := by
  intro text
  rw [path?, path?, followsCase_segment? text, Option.map_map, Option.map_map]
  exact congrArg (Option.map · (segment? text))
    (funext fun read => pathTail_asciiLower read.1 read.2)

theorem followsCase_target? : FollowsCase lowerBoth target? :=
  (followsCase_dropCondition?.bind followsCase_path?).or followsCase_path?

theorem followsCase_anchored? : FollowsCase lowerBoth anchored? :=
  .findSome? fun anchor => (followsCase_dropPhrase? anchor).bind followsCase_target?

/-! ## Lists -/

theorem skipAlias_asciiLower (text : List Char) :
    skipAlias (asciiLower text) = asciiLower (skipAlias text) := by
  have named : FollowsCase lowerBoth fun word =>
      ((dropPhrase? "AS" word).bind identifier?).or (identifier? word) :=
    ((followsCase_dropPhrase? "AS").bind followsCase_identifier?).or followsCase_identifier?
  rw [skipAlias, skipAlias, followsCase_dropBlanks? text]
  cases dropBlanks? text with
  | none => rfl
  | some word =>
    have read := named word
    simp only [Option.map_some, read]
    cases ((dropPhrase? "AS" word).bind identifier?).or (identifier? word) with
    | none => rfl
    | some found => rfl

theorem followsCase_listItem? : FollowsCase lowerBoth listItem? := by
  intro text
  rw [listItem?, listItem?, skipBlanks_asciiLower]
  split
  · rename_i lowered front
    obtain ⟨afterComma, comma, rfl⟩ := asciiLower_eq_cons (by decide) front
    rw [comma, skipBlanks_asciiLower, followsCase_path?, Option.map_map]
    simp only [Option.map_map]
    exact congrArg (Option.map · (path? (skipBlanks afterComma)))
      (funext fun read => congrArg (Prod.mk _) (skipAlias_asciiLower read.2))
  · rename_i noComma
    split
    · rename_i afterComma comma
      exact absurd (by rw [comma]; rfl) (noComma (asciiLower afterComma))
    · rfl

/-- The items of a list, and the text behind it, in lower case. -/
def lowerItems : List (List Char) × List Char → List (List Char) × List Char :=
  Prod.map (List.map asciiLower) asciiLower

theorem listItems_asciiLower (text : List Char) :
    listItems (asciiLower text) = lowerItems (listItems text) := by
  fun_induction listItems text with
  | case1 text nothing =>
    refine listItems_of_none ?_
    rw [followsCase_listItem?, nothing]
    rfl
  | case2 text last rest item others final items inductionHypothesis =>
    have itemLower : listItem? (asciiLower text) = some (asciiLower last, asciiLower rest) := by
      rw [followsCase_listItem?, item]
      rfl
    rw [listItems_of_some itemLower, inductionHypothesis, items]
    rfl

theorem followsCase_fromList? : FollowsCase lowerItems fromList? := by
  intro text
  have first := ((followsCase_dropPhrase? "FROM").bind followsCase_path?) text
  simp only [fromList?, Option.bind_eq_bind, first]
  cases (dropPhrase? "FROM" text).bind path? with
  | none => rfl
  | some found =>
    obtain ⟨last, rest⟩ := found
    simp only [lowerBoth, Prod.map_apply, Option.map_some, Option.bind_some, skipAlias_asciiLower,
      listItems_asciiLower]
    rcases listItems (skipAlias rest) with ⟨_ | ⟨item, others⟩, final⟩
    · rfl
    · rfl

/-! ## Tables -/

/-- A reader that follows case occurs at the same places. -/
theorem occurrences_asciiLower {α : Type} {lower : α → α}
    {read? : List Char → Option (α × List Char)}
    (follows : FollowsCase (Prod.map lower asciiLower) read?) (skip : Nat) (previous : Option Char)
    (text : List Char) :
    occurrences read? skip (previous.map Char.toLower) (asciiLower text) =
      (occurrences read? skip previous text).map lower := by
  induction text generalizing skip previous with
  | nil => cases skip <;> rfl
  | cons c rest inductionHypothesis =>
    have next (skip : Nat) := inductionHypothesis skip (some c)
    cases skip with
    | succ skip => exact next skip
    | zero =>
      have length (text : List Char) : (asciiLower text).length = text.length := List.length_map _
      have read := follows (c :: rest)
      rw [asciiLower_cons] at read
      rw [asciiLower_cons, occurrences, occurrences, Text.wordCanBegin_map_toLower, read]
      cases Text.wordCanBegin previous with
      | false => exact next 0
      | true =>
        cases read? (c :: rest) with
        | none => exact next 0
        | some found =>
          simp only [if_true, Option.map_some, Prod.map_fst, Prod.map_snd, length, List.map_cons]
          exact congrArg (List.cons _) (next _)

theorem behindLastDot_asciiLower (segment : List Char) :
    behindLastDot (asciiLower segment) = asciiLower (behindLastDot segment) := by
  rw [behindLastDot, Text.asciiLower_reverse,
    Text.takeWhile_asciiLower (ignoresCase_ne (by decide)), Text.asciiLower_reverse, behindLastDot]

theorem tableName?_asciiLower (segment : List Char) :
    tableName? (asciiLower segment) = tableName? segment := by
  have name : Text.trimWhere isNameMark (Text.trim (behindLastDot (asciiLower segment))) =
      asciiLower (Text.trimWhere isNameMark (Text.trim (behindLastDot segment))) := by
    rw [behindLastDot_asciiLower, Text.trim, Text.trimWhere_asciiLower Text.ignoresCase_isBlank,
      Text.trimWhere_asciiLower ignoresCase_isNameMark, Text.trim]
  have table := Text.lowercase_asciiLower
    (Text.trimWhere isNameMark (Text.trim (behindLastDot segment)))
  rw [← name] at table
  simp only [tableName?]
  rw [table]

/-- A text and its form in lower case refer to the same tables. -/
theorem tables_asciiLower (sql : String) :
    tables (String.ofList (asciiLower sql.toList)) = tables sql := by
  have single : occurrences anchored? 0 none (asciiLower sql.toList) =
      (occurrences anchored? 0 none sql.toList).map asciiLower :=
    occurrences_asciiLower followsCase_anchored? 0 none sql.toList
  have listed : occurrences fromList? 0 none (asciiLower sql.toList) =
      (occurrences fromList? 0 none sql.toList).map (List.map asciiLower) :=
    occurrences_asciiLower followsCase_fromList? 0 none sql.toList
  have named : tableName? ∘ asciiLower = tableName? := by
    funext segment
    rw [Function.comp_apply, tableName?_asciiLower]
  rw [tables, tables, String.toList_ofList]
  simp only [single, listed, ← List.map_flatten, ← List.map_append]
  rw [List.filterMap_map, named]

/-! ## Kinds -/

theorem afterLine_asciiLower (text : List Char) :
    afterLine (asciiLower text) = asciiLower (afterLine text) := by
  induction text with
  | nil => rfl
  | cons c rest inductionHypothesis =>
    have lineEnd : c.toLower = '\n' ↔ c = '\n' := toLower_eq_iff (by decide)
    rw [asciiLower_cons, afterLine, afterLine, inductionHypothesis]
    simp only [lineEnd]
    split <;> rfl

/-- Two marks in front of a text in lower case stand in front of the text. -/
theorem asciiLower_eq_cons_cons {first second : Char} (firstMark : first.isAlpha = false)
    (secondMark : second.isAlpha = false) {text rest : List Char}
    (front : asciiLower text = first :: second :: rest) :
    ∃ behind, text = first :: second :: behind ∧ rest = asciiLower behind := by
  obtain ⟨others, rfl, isOthers⟩ := asciiLower_eq_cons firstMark front
  obtain ⟨behind, rfl, isBehind⟩ := asciiLower_eq_cons secondMark isOthers.symm
  exact ⟨behind, rfl, isBehind⟩

theorem afterComment_asciiLower (text : List Char) :
    afterComment (asciiLower text) = asciiLower (afterComment text) := by
  fun_induction afterComment text with
  | case1 rest => rfl
  | case2 c rest noEnd inductionHypothesis =>
    rw [asciiLower_cons, afterComment, inductionHypothesis]
    intro behind star slash
    have front : asciiLower (c :: rest) = '*' :: '/' :: behind := by
      rw [asciiLower_cons, star, slash]
    obtain ⟨after, ended, -⟩ := asciiLower_eq_cons_cons (by decide) (by decide) front
    obtain ⟨rfl, rfl⟩ := List.cons.inj ended
    exact noEnd after rfl rfl
  | case3 => rfl

theorem skipPreamble_asciiLower (text : List Char) :
    skipPreamble (asciiLower text) = asciiLower (skipPreamble text) := by
  have dropped (text : List Char) :
      (asciiLower text).dropWhile isPreamble = asciiLower (text.dropWhile isPreamble) :=
    Text.dropWhile_asciiLower ignoresCase_isPreamble text
  fun_induction skipPreamble text with
  | case1 text rest front inductionHypothesis =>
    rw [← inductionHypothesis, ← afterLine_asciiLower]
    refine skipPreamble_line ?_
    rw [dropped, front]
    rfl
  | case2 text rest front inductionHypothesis =>
    rw [← inductionHypothesis, ← afterComment_asciiLower]
    refine skipPreamble_comment ?_
    rw [dropped, front]
    rfl
  | case3 text noLine noComment =>
    rw [skipPreamble_body, dropped]
    · intro rest front
      rw [dropped] at front
      obtain ⟨behind, isLine, -⟩ := asciiLower_eq_cons_cons (by decide) (by decide) front
      exact noLine behind isLine
    · intro rest front
      rw [dropped] at front
      obtain ⟨behind, isComment, -⟩ := asciiLower_eq_cons_cons (by decide) (by decide) front
      exact noComment behind isComment

theorem beginsWithWrite_asciiLower (text : List Char) :
    beginsWithWrite (asciiLower text) = beginsWithWrite text := by
  have ended (keyword : String) : (dropKeyword? keyword (asciiLower text)).any wordHasEnded =
      (dropKeyword? keyword text).any wordHasEnded := by
    rw [followsCase_dropKeyword? keyword text]
    cases dropKeyword? keyword text with
    | none => rfl
    | some rest => exact Text.wordHasEnded_asciiLower rest
  simp only [beginsWithWrite, ended]

theorem mentionsWrite_asciiLower (previous : Option Char) (text : List Char) :
    mentionsWrite (previous.map Char.toLower) (asciiLower text) = mentionsWrite previous text := by
  induction text generalizing previous with
  | nil => rfl
  | cons c rest inductionHypothesis =>
    have begins := beginsWithWrite_asciiLower (c :: rest)
    have next := inductionHypothesis (some c)
    rw [asciiLower_cons] at begins ⊢
    rw [mentionsWrite, mentionsWrite, Text.wordCanBegin_map_toLower, begins]
    exact congrArg _ next

theorem firstWord_asciiLower (text : List Char) : firstWord (asciiLower text) = firstWord text := by
  rw [firstWord, Text.takeWhile_asciiLower Char.isAlpha_toLower_eq_isAlpha,
    Text.asciiLower_asciiLower, firstWord]

/-- A text and its form in lower case are of the same kind. -/
theorem classify_asciiLower (sql : String) :
    classify (String.ofList (asciiLower sql.toList)) = classify sql := by
  have mentions (body : List Char) := mentionsWrite_asciiLower none body
  simp only [Option.map_none] at mentions
  simp only [classify, String.toList_ofList, skipPreamble_asciiLower, firstWord_asciiLower,
    mentions]

/-! ## Extracted names -/

/-- Two texts differ at most in the case of ASCII letters. -/
def SameButCase (first second : String) : Prop :=
  asciiLower first.toList = asciiLower second.toList

/-- A name under which a table can be registered: something in lower case that is neither a
path nor a word that may stand in the place of a table. -/
structure IsTableName (name : String) : Prop where
  nonempty : name ≠ ""
  noDot : '.' ∉ name.toList
  notReserved : name ∉ reserved
  lowercase : Text.lowercase name = name

/-- Trimming adds no characters. -/
theorem mem_of_mem_trimWhere {drop : Char → Bool} {text : List Char} {c : Char}
    (isKept : c ∈ Text.trimWhere drop text) : c ∈ text := by
  rw [Text.trimWhere, List.mem_reverse] at isKept
  have inReverse := (List.dropWhile_suffix drop).subset isKept
  exact (List.dropWhile_suffix drop).subset (List.mem_reverse.1 inReverse)

/-- Behind its last dot a segment has no dots. -/
theorem not_mem_behindLastDot (segment : List Char) : '.' ∉ behindLastDot segment := by
  intro isDot
  rw [behindLastDot, List.mem_reverse] at isDot
  have differs := List.mem_takeWhile_imp isDot
  contradiction

/-- Whatever a segment names can be registered. -/
theorem isTableName_of_tableName? {segment : List Char} {name : String}
    (named : tableName? segment = some name) : IsTableName name := by
  simp only [tableName?] at named
  split at named
  · cases named
  · rename_i accepted
    obtain rfl := Option.some.inj named
    rw [Bool.or_eq_true, not_or] at accepted
    refine ⟨?_, ?_, ?_, Text.lowercase_lowercase _⟩
    · rintro empty
      exact accepted.1 (String.isEmpty_iff.2 empty)
    · intro isDot
      rw [Text.lowercase, String.toList_ofList] at isDot
      have inName := Text.dot_mem_of_mem_lowercaseFrom isDot
      rw [String.toList_ofList] at inName
      exact not_mem_behindLastDot segment (mem_of_mem_trimWhere (mem_of_mem_trimWhere inName))
    · intro isReserved
      exact accepted.2 (List.contains_iff_mem.2 isReserved)

/-- All names that are found in a text can be registered. -/
theorem isTableName_of_mem_tables {sql name : String} (found : name ∈ tables sql) :
    IsTableName name := by
  rw [tables, Text.mem_nameSet, List.mem_filterMap] at found
  obtain ⟨segment, -, named⟩ := found
  exact isTableName_of_tableName? named

/-- The names that are found in a text are in the normal form of the cache. -/
theorem normalize_tables (sql : String) : Cache.normalize (tables sql) = tables sql := by
  have lower : (tables sql).map Text.lowercase = tables sql :=
    (List.map_congr_left fun _ found => (isTableName_of_mem_tables found).lowercase).trans
      (List.map_id _)
  rw [Cache.normalize, lower]
  exact Text.nameSet_eq_self (Text.pairwise_nameSet _)

/-- The case of ASCII letters matters neither for the tables of a text nor for its kind; and
the names of its tables are such that the cache registers them as they are. -/
theorem tables_classify_of_sameButCase :
    (∀ first second : String, SameButCase first second →
      tables first = tables second ∧ classify first = classify second) ∧
    ∀ sql : String, (∀ name ∈ tables sql, IsTableName name) ∧
      Cache.normalize (tables sql) = tables sql := by
  refine ⟨fun first second same => ⟨?_, ?_⟩, fun sql => ⟨?_, normalize_tables sql⟩⟩
  · rw [← tables_asciiLower first, same, tables_asciiLower second]
  · rw [← classify_asciiLower first, same, classify_asciiLower second]
  · exact fun name found => isTableName_of_mem_tables found

/-- Two spellings of a deletion that reads two tables. -/
theorem tables_classify_of_sameButCase_deletion :
    SameButCase "WITH T AS (SELECT * FROM Shop.\"Orders\" O, [Lines]) DELETE FROM T"
        "with t as (select * from SHOP.\"ORDERS\" o, [lines]) Delete From t" ∧
      tables "with t as (select * from SHOP.\"ORDERS\" o, [lines]) Delete From t" =
        ["lines", "orders", "t"] ∧
      classify "with t as (select * from SHOP.\"ORDERS\" o, [lines]) Delete From t" = .write := by
  have same : SameButCase "WITH T AS (SELECT * FROM Shop.\"Orders\" O, [Lines]) DELETE FROM T"
      "with t as (select * from SHOP.\"ORDERS\" o, [lines]) Delete From t" := by
    rw [SameButCase]
    decide
  obtain ⟨sameTables, sameKind⟩ := tables_classify_of_sameButCase.1 _ _ same
  rw [← sameTables, ← sameKind]
  exact ⟨same, by decide +kernel, by decide +kernel⟩

end NeutralSql.SqlText
