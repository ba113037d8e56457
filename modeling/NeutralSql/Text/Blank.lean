import NeutralSql.Text.Ranges

/-!
# White space and trimming

White space is the Unicode property of that name. ASCII letters are the only ones
that change case here; lower-casing of all text is in `NeutralSql.Text.Lowercase`.
-/

namespace NeutralSql.Text

/-- The characters with the property White_Space. -/
def blankRanges : Ranges :=
  [(0x9, 0xD), (0x20, 0x20), (0x85, 0x85), (0xA0, 0xA0), (0x1680, 0x1680), (0x2000, 0x200A),
   (0x2028, 0x2029), (0x202F, 0x202F), (0x205F, 0x205F), (0x3000, 0x3000)]

/-- A blank is any character that separates words without being part of one. -/
def isBlank (c : Char) : Bool :=
  blankRanges.contains c

/-- Text without the leading and trailing characters that satisfy `drop`. -/
def trimWhere (drop : Char → Bool) (text : List Char) : List Char :=
  ((text.dropWhile drop).reverse.dropWhile drop).reverse

/-- Text without its leading and trailing blanks. -/
def trim (text : List Char) : List Char :=
  trimWhere isBlank text

/-- Text with its ASCII letters in lower case and every other character kept. -/
def asciiLower (text : List Char) : List Char :=
  text.map Char.toLower

/-- The normal form of a keyword that a user types: no outer blanks, ASCII letters
in lower case. -/
def keywordForm (text : String) : String :=
  String.ofList (asciiLower (trim text.toList))

end NeutralSql.Text
