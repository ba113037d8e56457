import NeutralSql.Dialect

/-!
# Logical column types

A logical type is what a column is meant to hold; each dialect has its own native type
for it. Columns name their type by a text such as `decimal(12, 4)`: a base name and,
optionally, size arguments in parentheses.
-/

namespace NeutralSql

/-- A dialect-neutral column type. -/
inductive LogicalType where
  | integer
  | bigInteger
  | string (length : UInt32)
  | text
  | decimal (precision scale : UInt32)
  | float
  | boolean
  | date
  | dateTime
  | timestamp
  | binary
  | json
  | uuid
  deriving DecidableEq

/-- The sizes that a type takes when its text gives no arguments. -/
structure TypeSizes where
  length : Option UInt32
  precision : Option UInt32
  scale : Option UInt32

/-- A type text taken apart. -/
structure TypeName where
  base : String
  arguments : List UInt32
  deriving DecidableEq

namespace TypeName

/-- The number that decimal digits denote. -/
def digitsValue (digits : List Char) : Nat :=
  digits.foldl (fun value digit => value * 10 + (digit.toNat - '0'.toNat)) 0

/-- Unsigned digits, at least one, with a value below `UInt32.size`. -/
def size? (digits : List Char) : Option UInt32 :=
  if !digits.isEmpty && digits.all Char.isDigit && digitsValue digits < UInt32.size then
    some (UInt32.ofNat (digitsValue digits))
  else none

/-- One argument: outer blanks and a plus sign do not matter. -/
def argument? (text : List Char) : Option UInt32 :=
  match Text.trim text with
  | '+' :: digits => size? digits
  | digits => size? digits

/-- The parts of a text between its commas; a text without commas is one part. -/
def commaParts : List Char → List (List Char)
  | [] => [[]]
  | c :: rest =>
    if c = ',' then [] :: commaParts rest
    else
      match commaParts rest with
      | part :: parts => (c :: part) :: parts
      | [] => [[c]]

/-- The text in front of the closing parenthesis, if one ends the text. -/
def insideParenthesis? (text : List Char) : Option (List Char) :=
  match text.reverse with
  | ')' :: inside => some inside.reverse
  | _ => none

/-- Take a type text apart. Everything from the first opening parenthesis to the end of
the text has to be a list of arguments in parentheses. -/
def parse? (text : String) : Option TypeName :=
  let form := (Text.keywordForm text).toList
  match form.dropWhile (· != '(') with
  | [] => some ⟨String.ofList form, []⟩
  | _ :: rest => do
    let arguments ← (commaParts (← insideParenthesis? rest)).mapM argument?
    return ⟨String.ofList (Text.trim (form.takeWhile (· != '('))), arguments⟩

end TypeName

namespace LogicalType

/-- The length of a string column that gives none. -/
def defaultLength : UInt32 := 255

/-- The precision of a decimal column that gives none. -/
def defaultPrecision : UInt32 := 10

/-- The scale of a decimal column that gives none. -/
def defaultScale : UInt32 := 2

/-- The type of a name. An argument in the text wins over the size beside it, and that
wins over the default; arguments that a type has no use for are passed over. -/
def ofTypeName? (name : TypeName) (sizes : TypeSizes) : Option LogicalType :=
  let first := name.arguments[0]?
  let second := name.arguments[1]?
  match name.base with
  | "integer" | "int" => some .integer
  | "bigint" | "biginteger" => some .bigInteger
  | "string" | "varchar" =>
    some (.string ((first.or sizes.length).getD defaultLength))
  | "text" => some .text
  | "decimal" | "numeric" =>
    some (.decimal ((first.or sizes.precision).getD defaultPrecision)
      ((second.or sizes.scale).getD defaultScale))
  | "float" | "double" => some .float
  | "boolean" | "bool" => some .boolean
  | "date" => some .date
  | "datetime" => some .dateTime
  | "timestamp" => some .timestamp
  | "binary" | "blob" => some .binary
  | "json" => some .json
  | "uuid" => some .uuid
  | _ => none

/-- The type that a text and the sizes beside it denote. -/
def resolve? (text : String) (sizes : TypeSizes) : Option LogicalType :=
  (TypeName.parse? text).bind fun name => ofTypeName? name sizes

/-- The two integer types. -/
def isInteger : LogicalType → Bool
  | .integer => true
  | .bigInteger => true
  | _ => false

/-- One or two sizes behind a native type name. -/
def sized (name : String) (sizes : List UInt32) : String :=
  name ++ "(" ++ String.intercalate "," (sizes.map fun size => toString size.toNat) ++ ")"

/-- The native type of a dialect. -/
def native : Dialect → LogicalType → String
  | .postgresql, .integer => "INTEGER"
  | .postgresql, .bigInteger => "BIGINT"
  | .postgresql, .string length => sized "VARCHAR" [length]
  | .postgresql, .text => "TEXT"
  | .postgresql, .decimal precision scale => sized "NUMERIC" [precision, scale]
  | .postgresql, .float => "DOUBLE PRECISION"
  | .postgresql, .boolean => "BOOLEAN"
  | .postgresql, .date => "DATE"
  | .postgresql, .dateTime => "TIMESTAMP"
  | .postgresql, .timestamp => "TIMESTAMPTZ"
  | .postgresql, .binary => "BYTEA"
  | .postgresql, .json => "JSONB"
  | .postgresql, .uuid => "UUID"
  | .mysql, .integer => "INT"
  | .mysql, .bigInteger => "BIGINT"
  | .mysql, .string length => sized "VARCHAR" [length]
  | .mysql, .text => "TEXT"
  | .mysql, .decimal precision scale => sized "DECIMAL" [precision, scale]
  | .mysql, .float => "DOUBLE"
  | .mysql, .boolean => "TINYINT(1)"
  | .mysql, .date => "DATE"
  | .mysql, .dateTime => "DATETIME"
  | .mysql, .timestamp => "TIMESTAMP"
  | .mysql, .binary => "BLOB"
  | .mysql, .json => "JSON"
  | .mysql, .uuid => "CHAR(36)"
  | .sqlite, .integer => "INTEGER"
  | .sqlite, .bigInteger => "INTEGER"
  | .sqlite, .string length => sized "VARCHAR" [length]
  | .sqlite, .text => "TEXT"
  | .sqlite, .decimal precision scale => sized "DECIMAL" [precision, scale]
  | .sqlite, .float => "REAL"
  | .sqlite, .boolean => "BOOLEAN"
  | .sqlite, .date => "DATE"
  | .sqlite, .dateTime => "DATETIME"
  | .sqlite, .timestamp => "DATETIME"
  | .sqlite, .binary => "BLOB"
  | .sqlite, .json => "TEXT"
  | .sqlite, .uuid => "TEXT"
  | .mssql, .integer => "INT"
  | .mssql, .bigInteger => "BIGINT"
  | .mssql, .string length => sized "NVARCHAR" [length]
  | .mssql, .text => "NVARCHAR(MAX)"
  | .mssql, .decimal precision scale => sized "DECIMAL" [precision, scale]
  | .mssql, .float => "FLOAT"
  | .mssql, .boolean => "BIT"
  | .mssql, .date => "DATE"
  | .mssql, .dateTime => "DATETIME2"
  | .mssql, .timestamp => "DATETIMEOFFSET"
  | .mssql, .binary => "VARBINARY(MAX)"
  | .mssql, .json => "NVARCHAR(MAX)"
  | .mssql, .uuid => "UNIQUEIDENTIFIER"

end LogicalType

end NeutralSql
