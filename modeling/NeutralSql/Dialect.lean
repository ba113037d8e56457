import NeutralSql.Text.Blank

/-!
# Dialects and their capabilities

Everything in which the four dialects differ by yes or no, or by a choice among a few
spellings, is a row of the capability table. The rendering of statements consults the
table and nothing else, apart from native type names and the spelling of a few
definition clauses.
-/

namespace NeutralSql

/-- The supported databases. -/
inductive Dialect where
  | postgresql
  | mysql
  | sqlite
  | mssql
  deriving DecidableEq, Repr

/-- How the placeholder of a bound value is written. -/
inductive PlaceholderStyle where
  /-- A question mark for every value. -/
  | positional
  /-- A dollar sign and the number of the value. -/
  | indexed
  /-- A mark, the letter `p` and the number of the value. -/
  | named (mark : Char)
  deriving DecidableEq

/-- How an INSERT asks for the rows it has written. -/
inductive ReturningClause where
  | none
  | returning
  | output
  deriving DecidableEq

/-- How a column is declared that numbers its rows itself. -/
inductive AutoIncrementSyntax where
  | serial
  | autoIncrement
  | integerPrimaryKeyAutoincrement
  | identity
  deriving DecidableEq

/-- How the number of selected rows is bounded. -/
inductive LimitStyle where
  | limitOffset
  | offsetFetch
  deriving DecidableEq

/-- How truth values are written inside a definition. -/
inductive BooleanStyle where
  | keyword
  | numeric
  deriving DecidableEq

/-- What a dialect may lack. -/
inductive Feature where
  | rightJoin
  | fullJoin
  | returning
  | inlineIndex
  | alterAddConstraint
  | addNotNullWithoutDefault
  deriving DecidableEq

/-- A row of the capability table. -/
structure Capabilities where
  placeholder : PlaceholderStyle
  returning : ReturningClause
  autoIncrement : AutoIncrementSyntax
  /-- RIGHT JOIN exists. -/
  rightJoin : Bool
  /-- FULL JOIN exists. -/
  fullJoin : Bool
  /-- CREATE TABLE may define indexes. -/
  inlineIndex : Bool
  /-- ALTER TABLE may add constraints. -/
  alterAddConstraint : Bool
  /-- A column added later may be NOT NULL without a default. -/
  addNotNullWithoutDefault : Bool
  limitStyle : LimitStyle
  booleanStyle : BooleanStyle
  deriving DecidableEq

namespace Dialect

/-- All dialects, in a fixed order. -/
def all : List Dialect :=
  [.postgresql, .mysql, .sqlite, .mssql]

/-- The capability table. -/
def capabilities : Dialect → Capabilities
  | .postgresql =>
    { placeholder := .indexed, returning := .returning, autoIncrement := .serial
      rightJoin := true, fullJoin := true, inlineIndex := false
      alterAddConstraint := true, addNotNullWithoutDefault := true
      limitStyle := .limitOffset, booleanStyle := .keyword }
  | .mysql =>
    { placeholder := .positional, returning := .none, autoIncrement := .autoIncrement
      rightJoin := true, fullJoin := false, inlineIndex := true
      alterAddConstraint := true, addNotNullWithoutDefault := true
      limitStyle := .limitOffset, booleanStyle := .keyword }
  | .sqlite =>
    { placeholder := .positional, returning := .none
      autoIncrement := .integerPrimaryKeyAutoincrement
      rightJoin := false, fullJoin := false, inlineIndex := false
      alterAddConstraint := false, addNotNullWithoutDefault := false
      limitStyle := .limitOffset, booleanStyle := .numeric }
  | .mssql =>
    { placeholder := .named '@', returning := .output, autoIncrement := .identity
      rightJoin := true, fullJoin := true, inlineIndex := false
      alterAddConstraint := true, addNotNullWithoutDefault := true
      limitStyle := .offsetFetch, booleanStyle := .numeric }

/-- Whether a dialect has a feature. -/
def supports (dialect : Dialect) : Feature → Bool
  | .rightJoin => dialect.capabilities.rightJoin
  | .fullJoin => dialect.capabilities.fullJoin
  | .returning => dialect.capabilities.returning ≠ .none
  | .inlineIndex => dialect.capabilities.inlineIndex
  | .alterAddConstraint => dialect.capabilities.alterAddConstraint
  | .addNotNullWithoutDefault => dialect.capabilities.addNotNullWithoutDefault

/-- The name that cache keys and configurations use. -/
def identifier : Dialect → String
  | .postgresql => "postgresql"
  | .mysql => "mysql"
  | .sqlite => "sqlite"
  | .mssql => "mssql"

/-- The name that messages use. -/
def displayName : Dialect → String
  | .postgresql => "PostgreSQL"
  | .mysql => "MySQL"
  | .sqlite => "SQLite"
  | .mssql => "SQL Server"

/-- The names under which a dialect is asked for, in lower case. -/
def aliases : List (String × Dialect) :=
  [("postgres", .postgresql), ("postgresql", .postgresql), ("pg", .postgresql),
   ("mysql", .mysql), ("mariadb", .mysql),
   ("sqlite", .sqlite), ("sqlite3", .sqlite),
   ("mssql", .mssql), ("sqlserver", .mssql)]

/-- The dialect that a user names; outer blanks and the case of ASCII letters do not
matter. -/
def ofName? (name : String) : Option Dialect :=
  aliases.lookup (Text.keywordForm name)

/-- The wording for a name that no dialect has; it keeps the name as it was given. -/
def unsupportedMessage (name : String) : String :=
  "Unsupported dialect: '" ++ name ++ "'"

end Dialect

namespace PlaceholderStyle

/-- The placeholder of the value with a number; numbers count from one. -/
def token (style : PlaceholderStyle) (number : Nat) : String :=
  match style with
  | .positional => "?"
  | .indexed => "$" ++ toString number
  | .named mark => String.singleton mark ++ "p" ++ toString number

/-- The name under which the value with a number is passed, for named placeholders. -/
def name? (style : PlaceholderStyle) (number : Nat) : Option String :=
  match style with
  | .named _ => some ("p" ++ toString number)
  | _ => none

/-- The number of characters equal to `mark` whose follower, if any, satisfies `follower`. -/
def countMarks (mark : Char) (follower : Option Char → Bool) : List Char → Nat
  | [] => 0
  | c :: rest =>
    (if c = mark && follower rest.head? then 1 else 0) + countMarks mark follower rest

/-- How many placeholders of a style a text seems to hold: every question mark counts,
every dollar sign before an ASCII digit, and every mark before the letter `p`. String
contents and comments count like any other text. -/
def count (style : PlaceholderStyle) (text : String) : Nat :=
  match style with
  | .positional => countMarks '?' (fun _ => true) text.toList
  | .indexed => countMarks '$' (fun follower => follower.any Char.isDigit) text.toList
  | .named mark => countMarks mark (fun follower => follower = some 'p') text.toList

end PlaceholderStyle

end NeutralSql
