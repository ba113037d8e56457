import NeutralSql.Schema

/-!
# Schema definitions as JSON

Every definition is written with all its fields in declaration order. Reading accepts
records that leave out the fields with a default.
-/

namespace NeutralSql

/-- A value that may be absent, with null for its absence. -/
def Json.nullable (write : α → Json) : Option α → Json
  | some value => write value
  | none => .null

/-- An unsigned integer. -/
def Json.ofUInt32 (value : UInt32) : Json :=
  .int value.toNat

namespace LogicalType

/-- A type as JSON: its name, or an object of its name and its sizes. -/
def toJson : LogicalType → Json
  | .integer => .string "Integer"
  | .bigInteger => .string "BigInteger"
  | .string length => .object [("String", .object [("length", .ofUInt32 length)])]
  | .text => .string "Text"
  | .decimal precision scale =>
    .object
      [("Decimal", .object [("precision", .ofUInt32 precision), ("scale", .ofUInt32 scale)])]
  | .float => .string "Float"
  | .boolean => .string "Boolean"
  | .date => .string "Date"
  | .dateTime => .string "DateTime"
  | .timestamp => .string "Timestamp"
  | .binary => .string "Binary"
  | .json => .string "Json"
  | .uuid => .string "Uuid"

/-- The types that are written as their name. -/
def named : List (String × LogicalType) :=
  [("Integer", .integer), ("BigInteger", .bigInteger), ("Text", .text), ("Float", .float),
   ("Boolean", .boolean), ("Date", .date), ("DateTime", .dateTime), ("Timestamp", .timestamp),
   ("Binary", .binary), ("Json", .json), ("Uuid", .uuid)]

/-- The type that a document denotes. -/
def ofDocument? (document : Document) : Option LogicalType :=
  match document.payloadOf? "String", document.payloadOf? "Decimal" with
  | some payload, _ =>
    match payload.fields? ["length"] with
    | some [length] => (length.required? Document.asUInt32?).map .string
    | _ => none
  | none, some payload =>
    match payload.fields? ["precision", "scale"] with
    | some [precision, scale] => do
      return .decimal (← precision.required? Document.asUInt32?)
        (← scale.required? Document.asUInt32?)
    | _ => none
  | none, none => document.oneOf? .nullOnly named

end LogicalType

namespace ColumnDefinition

/-- A column as JSON. -/
def toJson (column : ColumnDefinition) : Json :=
  .object
    [("name", .string column.name),
     ("type", .string column.type),
     ("nullable", .bool column.nullable),
     ("default", .nullable Value.toJson column.default),
     ("length", .nullable .ofUInt32 column.length),
     ("precision", .nullable .ofUInt32 column.precision),
     ("scale", .nullable .ofUInt32 column.scale),
     ("auto_increment", .bool column.autoIncrement)]

/-- The column that a document holds. -/
def ofDocument? (document : Document) : Option ColumnDefinition := do
  let [name, type, nullable, default, length, precision, scale, autoIncrement] ←
      document.fields?
        ["name", "type", "nullable", "default", "length", "precision", "scale",
         "auto_increment"]
    | none
  return {
    name := ← name.required? Document.asString?
    type := ← type.required? Document.asString?
    nullable := ← nullable.withDefault? true Document.asBool?
    default := ← default.optional? Value.ofDocument?
    length := ← length.optional? Document.asUInt32?
    precision := ← precision.optional? Document.asUInt32?
    scale := ← scale.optional? Document.asUInt32?
    autoIncrement := ← autoIncrement.withDefault? false Document.asBool? }

end ColumnDefinition

namespace ForeignKey

/-- A reference as JSON. -/
def toJson (foreignKey : ForeignKey) : Json :=
  .object
    [("column", .string foreignKey.column),
     ("ref_table", .string foreignKey.refTable),
     ("ref_column", .string foreignKey.refColumn)]

/-- The reference that a document holds. -/
def ofDocument? (document : Document) : Option ForeignKey := do
  let [column, refTable, refColumn] ← document.fields? ["column", "ref_table", "ref_column"]
    | none
  return {
    column := ← column.required? Document.asString?
    refTable := ← refTable.required? Document.asString?
    refColumn := ← refColumn.required? Document.asString? }

end ForeignKey

namespace IndexDefinition

/-- An index as JSON. -/
def toJson (index : IndexDefinition) : Json :=
  .object [("columns", .strings index.columns), ("name", .nullable .string index.name)]

/-- The index that a document holds. -/
def ofDocument? (document : Document) : Option IndexDefinition := do
  let [columns, name] ← document.fields? ["columns", "name"] | none
  return {
    columns := ← columns.required? Document.asStrings?
    name := ← name.optional? Document.asString? }

end IndexDefinition

namespace Constraints

/-- Constraints as JSON. -/
def toJson (constraints : Constraints) : Json :=
  .object
    [("primary_key", .nullable .strings constraints.primaryKey),
     ("unique", .array (constraints.unique.map .strings)),
     ("foreign_keys", .array (constraints.foreignKeys.map ForeignKey.toJson)),
     ("indexes", .array (constraints.indexes.map IndexDefinition.toJson))]

/-- The constraints that a document holds. -/
def ofDocument? (document : Document) : Option Constraints := do
  let [primaryKey, unique, foreignKeys, indexes] ←
      document.fields? ["primary_key", "unique", "foreign_keys", "indexes"]
    | .none
  return {
    primaryKey := ← primaryKey.optional? Document.asStrings?
    unique := ← unique.withDefault? [] (Document.listOf? Document.asStrings?)
    foreignKeys := ← foreignKeys.withDefault? [] (Document.listOf? ForeignKey.ofDocument?)
    indexes := ← indexes.withDefault? [] (Document.listOf? IndexDefinition.ofDocument?) }

end Constraints

namespace CreateTable

/-- The members of a CREATE TABLE. -/
def members (table : CreateTable) : List (String × Json) :=
  [("name", .string table.name),
   ("columns", .array (table.columns.map ColumnDefinition.toJson)),
   ("constraints", table.constraints.toJson),
   ("if_not_exists", .bool table.ifNotExists)]

/-- The CREATE TABLE that a document holds. -/
def ofDocument? (document : Document) : Option CreateTable := do
  let [name, columns, constraints, ifNotExists] ←
      document.fields? ["name", "columns", "constraints", "if_not_exists"]
    | none
  return {
    name := ← name.required? Document.asString?
    columns := ← columns.required? (Document.listOf? ColumnDefinition.ofDocument?)
    constraints := ← constraints.withDefault? .none Constraints.ofDocument?
    ifNotExists := ← ifNotExists.withDefault? false Document.asBool? }

end CreateTable

namespace AlterTable

/-- The members of an ALTER TABLE. -/
def members (alteration : AlterTable) : List (String × Json) :=
  [("table", .string alteration.table),
   ("add_columns", .array (alteration.addColumns.map ColumnDefinition.toJson)),
   ("add_constraints", alteration.addConstraints.toJson)]

/-- The ALTER TABLE that a document holds. -/
def ofDocument? (document : Document) : Option AlterTable := do
  let [table, addColumns, addConstraints] ←
      document.fields? ["table", "add_columns", "add_constraints"]
    | none
  return {
    table := ← table.required? Document.asString?
    addColumns := ← addColumns.withDefault? [] (Document.listOf? ColumnDefinition.ofDocument?)
    addConstraints := ← addConstraints.withDefault? .none Constraints.ofDocument? }

end AlterTable

namespace DropTable

/-- The members of a DROP TABLE. -/
def members (removal : DropTable) : List (String × Json) :=
  [("table", .string removal.table), ("if_exists", .bool removal.ifExists)]

/-- The DROP TABLE that a document holds. -/
def ofDocument? (document : Document) : Option DropTable := do
  let [table, ifExists] ← document.fields? ["table", "if_exists"] | none
  return {
    table := ← table.required? Document.asString?
    ifExists := ← ifExists.withDefault? false Document.asBool? }

end DropTable

end NeutralSql
