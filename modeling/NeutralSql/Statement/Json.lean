import NeutralSql.Schema.Json
import NeutralSql.Statement

/-!
# Statements as JSON

A statement is a record with a member `kind` beside the members of its kind, or an
array that begins with the kind. All of a statement has to be readable, members that no
field knows included. Records inside a statement are read like records elsewhere, with
one exception: a name may there carry an empty object instead of null.
-/

namespace NeutralSql

namespace JoinKind

/-- All kinds with their names in JSON. -/
def names : List (String × JoinKind) :=
  [("inner", .inner), ("left", .left), ("right", .right), ("full", .full)]

/-- The name of a kind. -/
def jsonName : JoinKind → String
  | .inner => "inner"
  | .left => "left"
  | .right => "right"
  | .full => "full"

/-- The kind that a document names. -/
def ofDocument? (payload : Document.Payload) : Document → Option JoinKind :=
  Document.oneOf? payload names

end JoinKind

namespace Connective

/-- The connective that a document names. -/
def ofDocument? (payload : Document.Payload) : Document → Option Connective :=
  Document.oneOf? payload [("AND", .and), ("OR", .or)]

end Connective

namespace Operator

/-- The operators with their names in JSON, and the other spellings that are accepted. -/
def names : List (String × Operator) :=
  [("=", .equal), ("<>", .notEqual), ("!=", .notEqual), ("<", .less), ("<=", .lessOrEqual),
   (">", .greater), (">=", .greaterOrEqual), ("LIKE", .like), ("like", .like),
   ("NOT LIKE", .notLike), ("not like", .notLike), ("IS", .is), ("is", .is),
   ("IS NOT", .isNot), ("is not", .isNot)]

/-- The operator that a document names. -/
def ofDocument? (payload : Document.Payload) : Document → Option Operator :=
  Document.oneOf? payload names

end Operator

namespace SortDirection

/-- The name of a direction. -/
def jsonName : SortDirection → String
  | .ascending => "asc"
  | .descending => "desc"

/-- The direction that a document names. -/
def ofDocument? (payload : Document.Payload) : Document → Option SortDirection :=
  Document.oneOf? payload [("asc", .ascending), ("desc", .descending)]

end SortDirection

namespace Predicate

/-- A condition as JSON. -/
def toJson (predicate : Predicate) : Json :=
  .object
    [("column", .string predicate.column),
     ("operator", .string predicate.operator.sql),
     ("value", .nullable Value.toJson predicate.value),
     ("connective", .string predicate.connective.sql)]

/-- The condition that a document holds. -/
def ofDocument? (payload : Document.Payload) (document : Document) : Option Predicate := do
  let [column, operator, value, connective] ←
      document.fields? ["column", "operator", "value", "connective"]
    | none
  return {
    column := ← column.required? Document.asString?
    operator := ← operator.required? (Operator.ofDocument? payload)
    value := ← value.optional? Value.ofDocument?
    connective := ← connective.withDefault? .and (Connective.ofDocument? payload) }

/-- The conditions that a document lists. -/
def listOfDocument? (payload : Document.Payload) : Document → Option (List Predicate) :=
  Document.listOf? (ofDocument? payload)

end Predicate

namespace Join

/-- A join as JSON. -/
def toJson (join : Join) : Json :=
  .object
    [("kind", .string join.kind.jsonName),
     ("table", .string join.table),
     ("left", .string join.left),
     ("operator", .string join.operator.sql),
     ("right", .string join.right)]

/-- The join that a document holds. -/
def ofDocument? (payload : Document.Payload) (document : Document) : Option Join := do
  let [kind, table, left, operator, right] ←
      document.fields? ["kind", "table", "left", "operator", "right"]
    | none
  return {
    kind := ← kind.required? (JoinKind.ofDocument? payload)
    table := ← table.required? Document.asString?
    left := ← left.required? Document.asString?
    operator := ← operator.withDefault? .equal (Operator.ofDocument? payload)
    right := ← right.required? Document.asString? }

end Join

namespace OrderTerm

/-- A sort key as JSON. -/
def toJson (term : OrderTerm) : Json :=
  .object [("column", .string term.column), ("direction", .string term.direction.jsonName)]

/-- The sort key that a document holds. -/
def ofDocument? (payload : Document.Payload) (document : Document) : Option OrderTerm := do
  let [column, direction] ← document.fields? ["column", "direction"] | none
  return {
    column := ← column.required? Document.asString?
    direction := ← direction.withDefault? .ascending (SortDirection.ofDocument? payload) }

end OrderTerm

/-- An unsigned integer. -/
def Json.ofUInt64 (value : UInt64) : Json :=
  .int value.toNat

namespace Select

/-- The members of a SELECT. -/
def members (query : Select) : List (String × Json) :=
  [("table", .string query.table),
   ("columns", .strings query.columns),
   ("distinct", .bool query.distinct),
   ("joins", .array (query.joins.map Join.toJson)),
   ("where", .array (query.filters.map Predicate.toJson)),
   ("group_by", .strings query.groupBy),
   ("having", .array (query.having.map Predicate.toJson)),
   ("order_by", .array (query.orderBy.map OrderTerm.toJson)),
   ("limit", .nullable .ofUInt64 query.limit),
   ("offset", .nullable .ofUInt64 query.offset)]

/-- The SELECT that a document holds. -/
def ofDocument? (payload : Document.Payload) (document : Document) : Option Select := do
  let [table, columns, distinct, joins, filters, groupBy, having, orderBy, limit, offset] ←
      document.fields?
        ["table", "columns", "distinct", "joins", "where", "group_by", "having", "order_by",
         "limit", "offset"]
    | none
  return {
    table := ← table.required? Document.asString?
    columns := ← columns.withDefault? [] Document.asStrings?
    distinct := ← distinct.withDefault? false Document.asBool?
    joins := ← joins.withDefault? [] (Document.listOf? (Join.ofDocument? payload))
    filters := ← filters.withDefault? [] (Predicate.listOfDocument? payload)
    groupBy := ← groupBy.withDefault? [] Document.asStrings?
    having := ← having.withDefault? [] (Predicate.listOfDocument? payload)
    orderBy := ← orderBy.withDefault? [] (Document.listOf? (OrderTerm.ofDocument? payload))
    limit := ← limit.optional? Document.asUInt64?
    offset := ← offset.optional? Document.asUInt64? }

end Select

namespace Insert

/-- The members of an INSERT. -/
def members (insertion : Insert) : List (String × Json) :=
  [("table", .string insertion.table), ("rows", .array (insertion.rows.map Row.toJson))]

/-- The INSERT that a document holds. -/
def ofDocument? (document : Document) : Option Insert := do
  let [table, rows] ← document.fields? ["table", "rows"] | none
  return {
    table := ← table.required? Document.asString?
    rows := ← rows.required? (Document.listOf? Row.ofDocument?) }

end Insert

namespace Update

/-- The members of an UPDATE. -/
def members (update : Update) : List (String × Json) :=
  [("table", .string update.table),
   ("set", update.assignments.toJson),
   ("where", .array (update.filters.map Predicate.toJson))]

/-- The UPDATE that a document holds. -/
def ofDocument? (payload : Document.Payload) (document : Document) : Option Update := do
  let [table, assignments, filters] ← document.fields? ["table", "set", "where"] | none
  return {
    table := ← table.required? Document.asString?
    assignments := ← assignments.required? Row.ofDocument?
    filters := ← filters.withDefault? [] (Predicate.listOfDocument? payload) }

end Update

namespace Delete

/-- The members of a DELETE. -/
def members (deletion : Delete) : List (String × Json) :=
  [("table", .string deletion.table),
   ("where", .array (deletion.filters.map Predicate.toJson))]

/-- The DELETE that a document holds. -/
def ofDocument? (payload : Document.Payload) (document : Document) : Option Delete := do
  let [table, filters] ← document.fields? ["table", "where"] | none
  return {
    table := ← table.required? Document.asString?
    filters := ← filters.withDefault? [] (Predicate.listOfDocument? payload) }

end Delete

namespace Statement

/-- The kind of a statement and the members of that kind. -/
def kindAndMembers : Statement → String × List (String × Json)
  | .select query => ("select", query.members)
  | .insert insertion => ("insert", insertion.members)
  | .update change => ("update", change.members)
  | .delete deletion => ("delete", deletion.members)
  | .createTable table => ("create_table", table.members)
  | .alterTable alteration => ("alter_table", alteration.members)
  | .dropTable removal => ("drop_table", removal.members)

/-- A statement as JSON: its kind, then its members. -/
def toJson (statement : Statement) : Json :=
  let (kind, members) := statement.kindAndMembers
  .object (("kind", .string kind) :: members)

/-- The statement of a kind that a document holds. -/
def ofKind? (payload : Document.Payload) (kind : String) (document : Document) :
    Option Statement :=
  match kind with
  | "select" => (Select.ofDocument? payload document).map .select
  | "insert" => (Insert.ofDocument? document).map .insert
  | "update" => (Update.ofDocument? payload document).map .update
  | "delete" => (Delete.ofDocument? payload document).map .delete
  | "create_table" => (CreateTable.ofDocument? document).map .createTable
  | "alter_table" => (AlterTable.ofDocument? document).map .alterTable
  | "drop_table" => (DropTable.ofDocument? document).map .dropTable
  | _ => none

/-- Take the kind out of a document: the one member `kind`, wherever it stands, or the
first item. What is left belongs to the kind. -/
def splitKind? : Document → Option (String × Document)
  | .object members =>
    if Document.occurrences "kind" members = 1 then
      match members.lookup "kind" with
      | some (.string kind) => some (kind, .object (members.filter fun member => member.1 ≠ "kind"))
      | _ => none
    else none
  | .array (.string kind :: items) => some (kind, .array items)
  | _ => none

/-- The statement that a document holds. -/
def ofDocument? (document : Document) : Option Statement :=
  if document.isReadable then do
    let (kind, contents) ← splitKind? document
    ofKind? .nullOrEmpty kind contents
  else none

/-- The statement that a JSON text holds. -/
def ofText? (text : String) : Option Statement :=
  (Document.parse? text).bind ofDocument?

end Statement

end NeutralSql
