import NeutralSql.Text.Blank
import NeutralSql.Text.Word

/-!
# Names in SQL text

Readers take the text in front of them and answer with what they have read and the text
behind it. A name is a path of segments joined by dots; a segment is a bare identifier
or stands in double quotes, backquotes or square brackets. Keywords are compared without
regard to case, which includes the long s and the Kelvin sign.
-/

namespace NeutralSql.SqlText

open Text (isBlank isWord)

/-- A character is a form of an upper-case ASCII letter. -/
def isFormOf (letter c : Char) : Bool :=
  c.toUpper = letter || (letter = 'S' && c = 'ſ') || (letter = 'K' && c = '\u212A')

/-- The text behind a word, given in upper case, if it stands in front. -/
def dropWord? : (word : List Char) → (text : List Char) → Option (List Char)
  | [], text => some text
  | _ :: _, [] => none
  | letter :: word, c :: text => if isFormOf letter c then dropWord? word text else none

/-- The text behind a keyword, if it stands in front. -/
def dropKeyword? (keyword : String) (text : List Char) : Option (List Char) :=
  dropWord? keyword.toList text

/-- The text without the blanks in front of it. -/
def skipBlanks (text : List Char) : List Char :=
  text.dropWhile isBlank

/-- The text behind blanks, if at least one stands in front. -/
def dropBlanks? : List Char → Option (List Char)
  | [] => none
  | c :: rest => if isBlank c then some (skipBlanks rest) else none

/-- Characters that begin an identifier: ASCII letters in all their forms and the
underscore. -/
def beginsName (c : Char) : Bool :=
  c.isAlpha || c = '_' || c = 'ſ' || c = '\u212A'

/-- Characters that continue an identifier. -/
def continuesName (c : Char) : Bool :=
  isWord c || c = '$'

/-- The identifier in front, and the text behind it. -/
def identifier? : List Char → Option (List Char × List Char)
  | [] => none
  | c :: rest =>
    if beginsName c then
      some (c :: rest.takeWhile continuesName, rest.dropWhile continuesName)
    else none

/-- The mark that closes a quoted segment, for the mark that opens it. -/
def closingMark? (c : Char) : Option Char :=
  if c = '"' then some '"'
  else if c = '\x60' then some '\x60'
  else if c = '[' then some ']'
  else none

/-- The rest of a quoted segment, its closing mark included, and the text behind it. At
least one character stands between the marks. -/
def quotedTail? (closing : Char) (text : List Char) : Option (List Char × List Char) :=
  match text.takeWhile (· != closing), text.dropWhile (· != closing) with
  | c :: body, _ :: rest => some (c :: body ++ [closing], rest)
  | _, _ => none

/-- The segment in front, with its marks, and the text behind it. -/
def segment? : List Char → Option (List Char × List Char)
  | [] => none
  | c :: rest =>
    match closingMark? c with
    | some closing => (quotedTail? closing rest).map fun (body, rest) => (c :: body, rest)
    | none => identifier? (c :: rest)

/-- Dropping characters makes no text longer. -/
theorem length_dropWhile_le (drop : Char → Bool) (text : List Char) :
    (text.dropWhile drop).length ≤ text.length :=
  (List.dropWhile_suffix drop).length_le

/-- A segment takes at least one character. -/
theorem length_lt_of_segment? {text segment rest : List Char}
    (read : segment? text = some (segment, rest)) : rest.length < text.length := by
  match text with
  | [] => simp [segment?] at read
  | c :: tail =>
    simp only [segment?] at read
    split at read
    · rename_i closing _
      simp only [quotedTail?] at read
      split at read
      · rename_i found
        have shorter := length_dropWhile_le (· != closing) tail
        rw [found, List.length_cons] at shorter
        simp only [Option.map_some, Option.some.injEq, Prod.mk.injEq] at read
        rw [← read.2, List.length_cons]
        omega
      · simp at read
    · simp only [identifier?] at read
      split at read
      · simp only [Option.some.injEq, Prod.mk.injEq] at read
        rw [← read.2, List.length_cons]
        have shorter := length_dropWhile_le continuesName tail
        omega
      · simp at read

/-- Follow the dots behind a segment; the answer is the last segment of the path and the
text behind it. -/
def pathTail (last : List Char) (text : List Char) : List Char × List Char :=
  match _dotted : skipBlanks text with
  | '.' :: afterDot =>
    match _next : segment? (skipBlanks afterDot) with
    | some (segment, rest) => pathTail segment rest
    | none => (last, text)
  | _ => (last, text)
termination_by text.length
decreasing_by
  have first := length_dropWhile_le isBlank text
  have second := length_dropWhile_le isBlank afterDot
  have third := length_lt_of_segment? _next
  simp only [skipBlanks] at _dotted third
  rw [_dotted, List.length_cons] at first
  omega

/-- The path in front: its last segment, and the text behind it. -/
def path? (text : List Char) : Option (List Char × List Char) :=
  (segment? text).map fun (segment, rest) => pathTail segment rest

end NeutralSql.SqlText
