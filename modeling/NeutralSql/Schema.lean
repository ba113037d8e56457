import NeutralSql.Schema.LogicalType
import NeutralSql.Value

/-!
# Schema definitions

Columns, constraints, and the three statements that change a schema: CREATE TABLE,
ALTER TABLE and DROP TABLE. Identifiers are kept as they are given.
-/

namespace NeutralSql

/-- A column as it is declared. -/
structure ColumnDefinition where
  name : String
  /-- The text that names the logical type. -/
  type : String
  nullable : Bool
  default : Option Value
  length : Option UInt32
  precision : Option UInt32
  scale : Option UInt32
  autoIncrement : Bool

namespace ColumnDefinition

/-- A nullable column without default and sizes. -/
def plain (name type : String) : ColumnDefinition :=
  ⟨name, type, true, none, none, none, none, false⟩

/-- The column refuses null. -/
def notNull (column : ColumnDefinition) : ColumnDefinition :=
  { column with nullable := false }

/-- The column has a default. -/
def withDefault (column : ColumnDefinition) (value : Value) : ColumnDefinition :=
  { column with default := some value }

/-- The column has a length. -/
def withLength (column : ColumnDefinition) (length : UInt32) : ColumnDefinition :=
  { column with length := some length }

/-- The column has a precision and a scale. -/
def withPrecision (column : ColumnDefinition) (precision scale : UInt32) : ColumnDefinition :=
  { column with precision := some precision, scale := some scale }

/-- The column numbers its rows itself and therefore refuses null. -/
def numbered (column : ColumnDefinition) : ColumnDefinition :=
  { column with autoIncrement := true, nullable := false }

/-- The logical type that the column denotes. -/
def logicalType? (column : ColumnDefinition) : Option LogicalType :=
  LogicalType.resolve? column.type ⟨column.length, column.precision, column.scale⟩

end ColumnDefinition

/-- A reference from one column to a column of another table. -/
structure ForeignKey where
  column : String
  refTable : String
  refColumn : String
  deriving DecidableEq

/-- An index over columns. -/
structure IndexDefinition where
  columns : List String
  name : Option String
  deriving DecidableEq

/-- The name of an index of a table: the given one, or one made of the table and the
columns. -/
def IndexDefinition.nameFor (index : IndexDefinition) (table : String) : String :=
  index.name.getD ("idx_" ++ table ++ "_" ++ String.intercalate "_" index.columns)

/-- The constraints of a table, or those to add to one. -/
structure Constraints where
  primaryKey : Option (List String)
  /-- Each entry is a group of columns that are unique together. -/
  unique : List (List String)
  foreignKeys : List ForeignKey
  indexes : List IndexDefinition
  deriving DecidableEq

namespace Constraints

/-- No constraints. -/
def none : Constraints :=
  ⟨.none, [], [], []⟩

/-- Set the primary key. -/
def withPrimaryKey (constraints : Constraints) (columns : List String) : Constraints :=
  { constraints with primaryKey := some columns }

/-- Add a group of columns that are unique together. -/
def addUnique (constraints : Constraints) (columns : List String) : Constraints :=
  { constraints with unique := constraints.unique ++ [columns] }

/-- Add a reference. -/
def addForeignKey (constraints : Constraints) (foreignKey : ForeignKey) : Constraints :=
  { constraints with foreignKeys := constraints.foreignKeys ++ [foreignKey] }

/-- Add an index. -/
def addIndex (constraints : Constraints) (index : IndexDefinition) : Constraints :=
  { constraints with indexes := constraints.indexes ++ [index] }

end Constraints

/-- CREATE TABLE. -/
structure CreateTable where
  name : String
  columns : List ColumnDefinition
  constraints : Constraints
  ifNotExists : Bool

namespace CreateTable

/-- A table without columns. -/
def named (name : String) : CreateTable :=
  ⟨name, [], .none, false⟩

/-- Add a column. -/
def addColumn (table : CreateTable) (column : ColumnDefinition) : CreateTable :=
  { table with columns := table.columns ++ [column] }

/-- Change the constraints. -/
def constrain (table : CreateTable) (change : Constraints → Constraints) : CreateTable :=
  { table with constraints := change table.constraints }

end CreateTable

/-- ALTER TABLE. A primary key among the constraints cannot be added. -/
structure AlterTable where
  table : String
  addColumns : List ColumnDefinition
  addConstraints : Constraints

namespace AlterTable

/-- No change of a table. -/
def of (table : String) : AlterTable :=
  ⟨table, [], .none⟩

/-- Add a column. -/
def addColumn (alteration : AlterTable) (column : ColumnDefinition) : AlterTable :=
  { alteration with addColumns := alteration.addColumns ++ [column] }

/-- Change the constraints to add. -/
def constrain (alteration : AlterTable) (change : Constraints → Constraints) : AlterTable :=
  { alteration with addConstraints := change alteration.addConstraints }

end AlterTable

/-- DROP TABLE. -/
structure DropTable where
  table : String
  ifExists : Bool
  deriving DecidableEq

end NeutralSql
