import NeutralSql.Text.Lowercase.Table

/-!
# Lower-casing of all text

Every character has a lower-case form of its own, with two exceptions: the capital
dotted I becomes two characters, and the capital sigma ends a word in a form of its
own.
-/

namespace NeutralSql.Text

/-- The lower-case form of a character on its own. -/
def lowercaseChar (c : Char) : List Char :=
  if c.toNat < 0x80 then [c.toLower]
  else if c = 'İ' then ['i', '\u0307']
  else
    match lowercaseShifts.find? fun (first, last, stride, _) =>
        first ≤ c.toNat && c.toNat ≤ last && (c.toNat - first) % stride == 0 with
    | some (_, _, _, distance) => [Char.ofNat (c.toNat + distance).toNat]
    | none => [c]

/-- The first character that is not passed over is a cased one. -/
def meetsCased (text : List Char) : Bool :=
  ((text.dropWhile caseIgnorableRanges.contains).head?).any casedRanges.contains

/-- Lower-case `text`, given the characters before it, nearest first. A capital
sigma takes its final form exactly when a cased character precedes it and none
follows it. -/
def lowercaseFrom (before : List Char) : (text : List Char) → List Char
  | [] => []
  | c :: rest =>
    (if c = 'Σ' then [if meetsCased before && !meetsCased rest then 'ς' else 'σ']
      else lowercaseChar c) ++ lowercaseFrom (c :: before) rest

/-- Text in lower case. -/
def lowercase (text : String) : String :=
  String.ofList (lowercaseFrom [] text.toList)

end NeutralSql.Text
