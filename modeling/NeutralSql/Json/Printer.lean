import NeutralSql.Binary64.Decimal
import NeutralSql.Json

/-!
# JSON text

Two layouts of one value: the compact one has no white space, the pretty one puts each
item of a nonempty container on a line of its own, two spaces deeper. Characters above
U+001F stand for themselves, apart from the quote and the backslash.
-/

namespace NeutralSql.Json

/-- Numbers from `1e-5` up to below `1e16` are written without an exponent and always
with a fractional part; of two equally near decimals the even one is taken. -/
def numberFormat : Binary64.NumberFormat where
  tie := .even
  isPositional power := -5 ≤ power && power < 16
  wholeSuffix := ".0"

/-- The text of a number. Infinities and NaN have none of their own and become null. -/
def Number.text : Number → String
  | .int value => toString value
  | .float value => if value.isFinite then numberFormat.write value else "null"

/-- A lower-case hexadecimal digit. -/
def hexDigit (n : Nat) : Char :=
  if n < 10 then Char.ofNat ('0'.toNat + n) else Char.ofNat ('a'.toNat + (n - 10))

/-- A character as it stands inside quotes. -/
def escape (c : Char) : List Char :=
  if c = '"' then ['\\', '"']
  else if c = '\\' then ['\\', '\\']
  else if c = '\x08' then ['\\', 'b']
  else if c = '\x0c' then ['\\', 'f']
  else if c = '\n' then ['\\', 'n']
  else if c = '\r' then ['\\', 'r']
  else if c = '\t' then ['\\', 't']
  else if c.toNat < 0x20 then
    ['\\', 'u', '0', '0', hexDigit (c.toNat / 16), hexDigit (c.toNat % 16)]
  else [c]

/-- A string in quotes. -/
def quote (text : String) : String :=
  "\"" ++ String.ofList (text.toList.flatMap escape) ++ "\""

mutual

/-- The text of a value without white space. -/
def compact : Json → String
  | .null => "null"
  | .bool true => "true"
  | .bool false => "false"
  | .number value => value.text
  | .string value => quote value
  | .array items => "[" ++ String.intercalate "," (compactItems items) ++ "]"
  | .object members => "\x7b" ++ String.intercalate "," (compactMembers members) ++ "\x7d"

/-- The compact text of each item. -/
def compactItems : List Json → List String
  | [] => []
  | item :: rest => compact item :: compactItems rest

/-- The compact text of each member. -/
def compactMembers : List (String × Json) → List String
  | [] => []
  | (key, value) :: rest => (quote key ++ ":" ++ compact value) :: compactMembers rest

end

/-- Lines between two brackets, one step deeper than the brackets; nothing at all
between the brackets of an empty container. -/
def block (depth : Nat) (opening closing : String) (lines : List String) : String :=
  let newline (depth : Nat) : String := "\n" ++ String.ofList (List.replicate (2 * depth) ' ')
  if lines.isEmpty then opening ++ closing
  else
    opening ++ newline (depth + 1) ++ String.intercalate ("," ++ newline (depth + 1)) lines ++
      newline depth ++ closing

mutual

/-- The text of a value that stands `depth` steps deep, one item a line. -/
def prettyAt (depth : Nat) : Json → String
  | .array items => block depth "[" "]" (prettyItems (depth + 1) items)
  | .object members => block depth "\x7b" "\x7d" (prettyMembers (depth + 1) members)
  | .null => "null"
  | .bool true => "true"
  | .bool false => "false"
  | .number value => value.text
  | .string value => quote value

/-- The pretty text of each item. -/
def prettyItems (depth : Nat) : List Json → List String
  | [] => []
  | item :: rest => prettyAt depth item :: prettyItems depth rest

/-- The pretty text of each member. -/
def prettyMembers (depth : Nat) : List (String × Json) → List String
  | [] => []
  | (key, value) :: rest =>
    (quote key ++ ": " ++ prettyAt depth value) :: prettyMembers depth rest

end

/-- The text of a value with one item a line. -/
def pretty (value : Json) : String :=
  prettyAt 0 value

end NeutralSql.Json
