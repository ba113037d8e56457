import NeutralSql.Dialect
import NeutralSql.Json.Record

/-!
# Dialects and capabilities as JSON

Each choice is written as its name. The one choice that carries data, the mark of named
placeholders, is an object with the name as its key.
-/

namespace NeutralSql

namespace Dialect

/-- The name of a dialect in JSON. -/
def jsonName : Dialect → String
  | .postgresql => "PostgreSQL"
  | .mysql => "MySQL"
  | .sqlite => "SQLite"
  | .mssql => "MsSql"

/-- The dialect that a document names. -/
def ofDocument? : Document → Option Dialect :=
  Document.oneOf? .nullOnly (all.map fun dialect => (dialect.jsonName, dialect))

end Dialect

namespace Feature

/-- All features, in a fixed order. -/
def all : List Feature :=
  [.rightJoin, .fullJoin, .returning, .inlineIndex, .alterAddConstraint,
   .addNotNullWithoutDefault]

/-- The name of a feature in JSON. -/
def jsonName : Feature → String
  | .rightJoin => "RightJoin"
  | .fullJoin => "FullJoin"
  | .returning => "Returning"
  | .inlineIndex => "InlineIndex"
  | .alterAddConstraint => "AlterAddConstraint"
  | .addNotNullWithoutDefault => "AddNotNullWithoutDefault"

/-- The feature that a document names. -/
def ofDocument? : Document → Option Feature :=
  Document.oneOf? .nullOnly (all.map fun feature => (feature.jsonName, feature))

end Feature

namespace PlaceholderStyle

/-- A style as JSON. -/
def toJson : PlaceholderStyle → Json
  | .positional => .string "Positional"
  | .indexed => .string "Indexed"
  | .named mark =>
    .object [("Named", .object [("prefix", .string (String.singleton mark))])]

/-- A string of one character. -/
def markOf? (document : Document) : Option Char :=
  match document.asString?.map String.toList with
  | some [mark] => some mark
  | _ => none

/-- The style that a document names. -/
def ofDocument? (document : Document) : Option PlaceholderStyle :=
  match document.payloadOf? "Named" with
  | some payload =>
    match payload.fields? ["prefix"] with
    | some [mark] => (mark.required? markOf?).map .named
    | _ => none
  | none =>
    document.oneOf? .nullOnly [("Positional", .positional), ("Indexed", .indexed)]

end PlaceholderStyle

namespace ReturningClause

/-- The name of a clause in JSON. -/
def jsonName : ReturningClause → String
  | .none => "None"
  | .returning => "Returning"
  | .output => "Output"

/-- The clause that a document names. -/
def ofDocument? : Document → Option ReturningClause :=
  Document.oneOf? .nullOnly
    ([.none, .returning, .output].map fun (clause : ReturningClause) => (clause.jsonName, clause))

end ReturningClause

namespace AutoIncrementSyntax

/-- The name of a syntax in JSON. -/
def jsonName : AutoIncrementSyntax → String
  | .serial => "Serial"
  | .autoIncrement => "AutoIncrement"
  | .integerPrimaryKeyAutoincrement => "IntegerPrimaryKeyAutoincrement"
  | .identity => "Identity"

/-- The syntax that a document names. -/
def ofDocument? : Document → Option AutoIncrementSyntax :=
  Document.oneOf? .nullOnly
    ([.serial, .autoIncrement, .integerPrimaryKeyAutoincrement, .identity].map
      fun (form : AutoIncrementSyntax) => (form.jsonName, form))

end AutoIncrementSyntax

namespace LimitStyle

/-- The name of a style in JSON. -/
def jsonName : LimitStyle → String
  | .limitOffset => "LimitOffset"
  | .offsetFetch => "OffsetFetch"

/-- The style that a document names. -/
def ofDocument? : Document → Option LimitStyle :=
  Document.oneOf? .nullOnly
    ([.limitOffset, .offsetFetch].map fun (style : LimitStyle) => (style.jsonName, style))

end LimitStyle

namespace BooleanStyle

/-- The name of a style in JSON. -/
def jsonName : BooleanStyle → String
  | .keyword => "Keyword"
  | .numeric => "Numeric"

/-- The style that a document names. -/
def ofDocument? : Document → Option BooleanStyle :=
  Document.oneOf? .nullOnly
    ([.keyword, .numeric].map fun (style : BooleanStyle) => (style.jsonName, style))

end BooleanStyle

/-- A row of the capability table as JSON. -/
def Capabilities.toJson (capabilities : Capabilities) : Json :=
  .object
    [("placeholder", capabilities.placeholder.toJson),
     ("returning", .string capabilities.returning.jsonName),
     ("auto_increment", .string capabilities.autoIncrement.jsonName),
     ("right_join", .bool capabilities.rightJoin),
     ("full_join", .bool capabilities.fullJoin),
     ("inline_index", .bool capabilities.inlineIndex),
     ("alter_add_constraint", .bool capabilities.alterAddConstraint),
     ("add_not_null_without_default", .bool capabilities.addNotNullWithoutDefault),
     ("limit_style", .string capabilities.limitStyle.jsonName),
     ("boolean_style", .string capabilities.booleanStyle.jsonName)]

end NeutralSql
