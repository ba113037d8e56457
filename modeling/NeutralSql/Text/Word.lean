import NeutralSql.Text.Word.Table

/-!
# Word characters and word boundaries

A word is a run of letters, marks, decimal digits, connector punctuation and join
controls. ASCII text is decided without the table.
-/

namespace NeutralSql.Text

/-- Letters, marks, digits, connector punctuation and join controls make up words. -/
def isWord (c : Char) : Bool :=
  if c.toNat < 0x80 then c.isAlphanum || c == '_' else wordRanges.contains c

/-- A word can begin after `previous` when that character belongs to no word;
the start of the text counts as such a place. -/
def wordCanBegin (previous : Option Char) : Bool :=
  !previous.any isWord

/-- A word has ended when the remaining text goes on with no word character. -/
def wordHasEnded (remaining : List Char) : Bool :=
  !remaining.head?.any isWord

end NeutralSql.Text
