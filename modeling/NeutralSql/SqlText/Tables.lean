import NeutralSql.SqlText.Name
import NeutralSql.Text.Lowercase
import NeutralSql.Text.NameSet

/-!
# Table names in SQL text

A name that follows one of a few keywords is taken for a table, and so is every further
item of a list behind FROM. Nothing else of the text is understood: string contents and
comments are searched as well. So the answer may hold names that are no tables.
-/

namespace NeutralSql.SqlText

open Text (wordCanBegin)

/-- The keywords that a table name may follow. -/
def anchors : List String :=
  ["FROM", "JOIN", "INTO", "UPDATE", "TABLE"]

/-- Words that may stand in the place of a table name without being one. -/
def reserved : List String :=
  ["select", "lateral", "only", "unnest", "values", "set", "where"]

/-- The text behind a keyword and the blanks that have to follow it. -/
def dropPhrase? (keyword : String) (text : List Char) : Option (List Char) :=
  (dropKeyword? keyword text).bind dropBlanks?

/-- The text behind `IF EXISTS` or `IF NOT EXISTS`, if one of them stands in front. -/
def dropCondition? (text : List Char) : Option (List Char) := do
  let text ← dropPhrase? "IF" text
  dropPhrase? "EXISTS" ((dropPhrase? "NOT" text).getD text)

/-- The path behind an anchor and an optional condition. A condition that no path
follows is taken for a path itself. -/
def target? (text : List Char) : Option (List Char × List Char) :=
  ((dropCondition? text).bind path?).or (path? text)

/-- The anchor in front with the path that follows it. -/
def anchored? (text : List Char) : Option (List Char × List Char) :=
  anchors.findSome? fun anchor => (dropPhrase? anchor text).bind target?

/-- The text behind an alias, with or without AS, if one stands in front; the whole text
otherwise. -/
def skipAlias (text : List Char) : List Char :=
  match dropBlanks? text with
  | none => text
  | some word =>
    match ((dropPhrase? "AS" word).bind identifier?).or (identifier? word) with
    | some (_, rest) => rest
    | none => text

/-- An item of a list, behind its comma. -/
def listItem? (text : List Char) : Option (List Char × List Char) :=
  match skipBlanks text with
  | ',' :: afterComma =>
    (path? (skipBlanks afterComma)).map fun (last, rest) => (last, skipAlias rest)
  | _ => none

/-- Blanks in front make no text shorter than what stands behind a comma. -/
theorem length_lt_of_skipBlanks {text rest : List Char} {c : Char}
    (front : skipBlanks text = c :: rest) : rest.length < text.length := by
  have shorter := length_dropWhile_le Text.isBlank text
  rw [skipBlanks] at front
  rw [front, List.length_cons] at shorter
  omega

/-- Following the dots of a path makes no text longer. -/
theorem length_pathTail_le (last text : List Char) :
    (pathTail last text).2.length ≤ text.length := by
  fun_induction pathTail last text with
  | case1 last text afterDot dotted segment rest next inductionHypothesis =>
    have first := length_lt_of_skipBlanks dotted
    have second := length_dropWhile_le Text.isBlank afterDot
    have third := length_lt_of_segment? next
    rw [skipBlanks] at third
    omega
  | case2 => exact Nat.le_refl _
  | case3 => exact Nat.le_refl _

/-- A path takes at least one character. -/
theorem length_lt_of_path? {text last rest : List Char}
    (read : path? text = some (last, rest)) : rest.length < text.length := by
  rw [path?, Option.map_eq_some_iff] at read
  obtain ⟨⟨segment, tail⟩, found, equal⟩ := read
  have first := length_lt_of_segment? found
  have second := length_pathTail_le segment tail
  simp only at equal
  rw [equal] at second
  exact Nat.lt_of_le_of_lt second first

/-- Dropping a word makes no text longer. -/
theorem length_le_of_dropWord? {word text rest : List Char}
    (dropped : dropWord? word text = some rest) : rest.length ≤ text.length := by
  induction word generalizing text with
  | nil =>
    simp only [dropWord?, Option.some.injEq] at dropped
    exact Nat.le_of_eq (congrArg List.length dropped.symm)
  | cons letter word inductionHypothesis =>
    match text with
    | [] => simp [dropWord?] at dropped
    | c :: tail =>
      simp only [dropWord?] at dropped
      split at dropped
      · have shorter := inductionHypothesis dropped
        rw [List.length_cons]
        omega
      · simp at dropped

/-- Dropping blanks makes a text shorter. -/
theorem length_lt_of_dropBlanks? {text rest : List Char}
    (dropped : dropBlanks? text = some rest) : rest.length < text.length := by
  match text with
  | [] => simp [dropBlanks?] at dropped
  | c :: tail =>
    simp only [dropBlanks?] at dropped
    split at dropped
    · simp only [Option.some.injEq] at dropped
      have shorter := length_dropWhile_le Text.isBlank tail
      rw [skipBlanks] at dropped
      rw [dropped] at shorter
      rw [List.length_cons]
      omega
    · simp at dropped

/-- Dropping a keyword and blanks makes a text shorter. -/
theorem length_lt_of_dropPhrase? {keyword : String} {text rest : List Char}
    (dropped : dropPhrase? keyword text = some rest) : rest.length < text.length := by
  rw [dropPhrase?, Option.bind_eq_some_iff] at dropped
  obtain ⟨behind, word, blanks⟩ := dropped
  have first := length_le_of_dropWord? word
  have second := length_lt_of_dropBlanks? blanks
  omega

/-- An identifier takes at least one character. -/
theorem length_lt_of_identifier? {text name rest : List Char}
    (read : identifier? text = some (name, rest)) : rest.length < text.length := by
  match text with
  | [] => simp [identifier?] at read
  | c :: tail =>
    simp only [identifier?] at read
    split at read
    · simp only [Option.some.injEq, Prod.mk.injEq] at read
      have shorter := length_dropWhile_le continuesName tail
      rw [read.2] at shorter
      rw [List.length_cons]
      omega
    · simp at read

/-- Skipping an alias makes no text longer. -/
theorem length_skipAlias_le (text : List Char) : (skipAlias text).length ≤ text.length := by
  rw [skipAlias]
  split
  · exact Nat.le_refl _
  · rename_i word blanks
    have first := length_lt_of_dropBlanks? blanks
    split
    · rename_i name rest read
      rw [Option.or_eq_some_iff] at read
      rcases read with withKeyword | ⟨_, alone⟩
      · rw [Option.bind_eq_some_iff] at withKeyword
        obtain ⟨behind, keyword, identifier⟩ := withKeyword
        have second := length_lt_of_dropPhrase? keyword
        have third := length_lt_of_identifier? identifier
        omega
      · have second := length_lt_of_identifier? alone
        omega
    · exact Nat.le_refl _

/-- A list item takes at least one character. -/
theorem length_lt_of_listItem? {text last rest : List Char}
    (read : listItem? text = some (last, rest)) : rest.length < text.length := by
  rw [listItem?] at read
  split at read
  · rename_i afterComma comma
    rw [Option.map_eq_some_iff] at read
    obtain ⟨⟨segment, tail⟩, path, equal⟩ := read
    simp only [Prod.mk.injEq] at equal
    have first := length_lt_of_skipBlanks comma
    have second := length_dropWhile_le Text.isBlank afterComma
    have third := length_lt_of_path? path
    have fourth := length_skipAlias_le tail
    rw [skipBlanks] at third
    rw [equal.2] at fourth
    omega
  · simp at read

/-- The items that follow one another behind the first one of a list, and the text behind
them. -/
def listItems (text : List Char) : List (List Char) × List Char :=
  match _item : listItem? text with
  | none => ([], text)
  | some (last, rest) =>
    let (others, final) := listItems rest
    (last :: others, final)
termination_by text.length
decreasing_by exact length_lt_of_listItem? _item

/-- The items behind the first one of a list behind FROM; a list has two items or more. -/
def fromList? (text : List Char) : Option (List (List Char) × List Char) := do
  let (_, rest) ← (dropPhrase? "FROM" text).bind path?
  match listItems (skipAlias rest) with
  | ([], _) => none
  | found => some found

/-- All occurrences that a reader finds where a word can begin, from left to right and
without overlap. `skip` characters in front belong to the occurrence found last. -/
def occurrences (read? : List Char → Option (α × List Char)) :
    (skip : Nat) → (previous : Option Char) → (text : List Char) → List α
  | _, _, [] => []
  | skip + 1, _, c :: rest => occurrences read? skip (some c) rest
  | 0, previous, c :: rest =>
    match if wordCanBegin previous then read? (c :: rest) else none with
    | some (found, behind) =>
      found :: occurrences read? (rest.length - behind.length) (some c) rest
    | none => occurrences read? 0 (some c) rest

/-- The part of a segment behind its last dot. -/
def behindLastDot (segment : List Char) : List Char :=
  (segment.reverse.takeWhile (· != '.')).reverse

/-- Marks that are taken off both ends of a table name. -/
def isNameMark (c : Char) : Bool :=
  c = '"' || c = '\x60' || c = '[' || c = ']'

/-- The table that the last segment of a path names: what stands behind the last dot,
without marks and in lower case. Reserved words and empty names are no tables. -/
def tableName? (segment : List Char) : Option String :=
  let name := Text.trimWhere isNameMark (Text.trim (behindLastDot segment))
  let table := Text.lowercase (String.ofList name)
  if table.isEmpty || reserved.contains table then none else some table

/-- The tables that a text refers to, sorted and each of them once. -/
def tables (sql : String) : List String :=
  let text := sql.toList
  let single := occurrences anchored? 0 none text
  let listed := (occurrences fromList? 0 none text).flatten
  Text.nameSet ((single ++ listed).filterMap tableName?)

end NeutralSql.SqlText
