import NeutralSql.SqlText.Name

/-!
# Reading and writing statements

Whether a text reads or writes is decided by its first word, behind blanks, opening
parentheses and comments. A query that begins with WITH counts as a write when a
data-modifying keyword occurs anywhere in it.
-/

namespace NeutralSql.SqlText

open Text (isBlank wordCanBegin wordHasEnded)

/-- What a statement does to the database. -/
inductive Kind where
  | read
  | write
  deriving DecidableEq

/-- The text behind the end of the line. -/
def afterLine : List Char → List Char
  | [] => []
  | c :: rest => if c = '\n' then rest else afterLine rest

/-- The text behind the first mark that closes a comment. -/
def afterComment : List Char → List Char
  | '*' :: '/' :: rest => rest
  | _ :: rest => afterComment rest
  | [] => []

/-- A character that may stand in front of a statement. -/
def isPreamble (c : Char) : Bool :=
  isBlank c || c = '('

/-- What follows a line is no longer than the text. -/
theorem length_afterLine_le (text : List Char) : (afterLine text).length ≤ text.length := by
  induction text with
  | nil => simp [afterLine]
  | cons c rest inductionHypothesis =>
    rw [afterLine]
    split <;> simp only [List.length_cons] <;> omega

/-- What follows a comment is no longer than the text. -/
theorem length_afterComment_le (text : List Char) :
    (afterComment text).length ≤ text.length := by
  fun_induction afterComment text <;> simp only [List.length_cons, List.length_nil] <;> omega

/-- The text of a statement without the blanks, opening parentheses and comments in front
of it. A comment without an end leaves nothing. -/
def skipPreamble (text : List Char) : List Char :=
  match _front : text.dropWhile isPreamble with
  | '-' :: '-' :: rest => skipPreamble (afterLine rest)
  | '/' :: '*' :: rest => skipPreamble (afterComment rest)
  | body => body
termination_by text.length
decreasing_by
  all_goals
    have first := length_dropWhile_le isPreamble text
    rw [_front, List.length_cons, List.length_cons] at first
  · have second := length_afterLine_le rest
    omega
  · have second := length_afterComment_le rest
    omega

/-- The keywords that modify data. -/
def writeKeywords : List String :=
  ["INSERT", "UPDATE", "DELETE", "MERGE"]

/-- A keyword that modifies data stands in front, as a whole word. -/
def beginsWithWrite (text : List Char) : Bool :=
  writeKeywords.any fun keyword => (dropKeyword? keyword text).any wordHasEnded

/-- A keyword that modifies data occurs somewhere as a whole word. -/
def mentionsWrite : (previous : Option Char) → (text : List Char) → Bool
  | _, [] => false
  | previous, c :: rest =>
    (wordCanBegin previous && beginsWithWrite (c :: rest)) || mentionsWrite (some c) rest

/-- The ASCII letters in front, in lower case. -/
def firstWord (text : List Char) : String :=
  String.ofList (Text.asciiLower (text.takeWhile Char.isAlpha))

/-- Whether a text reads or writes. -/
def classify (sql : String) : Kind :=
  let body := skipPreamble sql.toList
  let word := firstWord body
  if word = "select" then .read
  else if word = "with" && !mentionsWrite none body then .read
  else .write

end NeutralSql.SqlText
