import NeutralSql.Compile.Literal
import NeutralSql.Compile.Template

/-!
# Statements on schemas

Plans for CREATE TABLE, ALTER TABLE and DROP TABLE. They bind no values. All column types
are resolved before anything is written, so that an unknown type leaves nothing behind.
-/

namespace NeutralSql

open Template (text)

/-- Names in parentheses, separated by commas. -/
def columnList (columns : List String) : String :=
  "(" ++ String.intercalate ", " columns ++ ")"

/-- The clause of a reference. -/
def ForeignKey.clause (foreignKey : ForeignKey) : String :=
  "FOREIGN KEY (" ++ foreignKey.column ++ ") REFERENCES " ++ foreignKey.refTable ++ " (" ++
    foreignKey.refColumn ++ ")"

/-- The clause of a group of columns that are unique together. -/
def uniqueClause (columns : List String) : String :=
  "UNIQUE " ++ columnList columns

/-- The clause of a primary key. -/
def primaryKeyClause (columns : List String) : String :=
  "PRIMARY KEY " ++ columnList columns

namespace ColumnDefinition

/-- The declaration of a column that numbers its rows, where the dialect has one for it. -/
def numberedForm? (dialect : Dialect) (column : ColumnDefinition) (type : LogicalType)
    (isKey : Bool) : Option (List String) :=
  let key := if isKey then ["PRIMARY KEY"] else []
  if column.autoIncrement then
    match dialect.capabilities.autoIncrement with
    | .serial => some ((if type = .bigInteger then "BIGSERIAL" else "SERIAL") :: key)
    | .integerPrimaryKeyAutoincrement =>
      if isKey then some ["INTEGER PRIMARY KEY AUTOINCREMENT"] else none
    | .autoIncrement => some (type.native dialect :: "NOT NULL AUTO_INCREMENT" :: key)
    | .identity => some (type.native dialect :: "IDENTITY(1,1) NOT NULL" :: key)
  else none

/-- The declaration of a column that does not number its rows. -/
def plainForm (dialect : Dialect) (column : ColumnDefinition) (type : LogicalType)
    (isKey : Bool) : List String :=
  [type.native dialect] ++ (if column.nullable then [] else ["NOT NULL"]) ++
    (match column.default with
      | some value => ["DEFAULT " ++ Literal.ofValue dialect value]
      | none => []) ++
    if isKey then ["PRIMARY KEY"] else []

/-- A column with its native type and modifiers; `isKey` says that the column itself
declares the primary key. -/
def definition (dialect : Dialect) (column : ColumnDefinition) (type : LogicalType)
    (isKey : Bool) : String :=
  String.intercalate " "
    (column.name ::
      ((column.numberedForm? dialect type isKey).getD (column.plainForm dialect type isKey)))

/-- A diagnostic for a column that should number its rows and is declared as a plain one. -/
def definitionNotes (dialect : Dialect) (column : ColumnDefinition) (isKey : Bool) :
    List Diagnostic :=
  if column.autoIncrement && !isKey &&
      dialect.capabilities.autoIncrement = .integerPrimaryKeyAutoincrement then
    [.autoIncrementOffKey dialect column.name]
  else []

/-- The type of a column. The error for an unknown one names the column and keeps the text of
the type as it was given. -/
def resolve (column : ColumnDefinition) : Except CompileError LogicalType :=
  match column.logicalType? with
  | none => .error (.unknownType column.name column.type)
  | some type => .ok type

/-- Columns with their types; the first column whose type is unknown is the error. -/
def resolveAll : List ColumnDefinition → Except CompileError (List (ColumnDefinition × LogicalType))
  | [] => .ok []
  | column :: rest =>
    match column.resolve with
    | .error error => .error error
    | .ok type => (resolveAll rest).map ((column, type) :: ·)

end ColumnDefinition

namespace Dialect

/-- The keywords in front of an added column. -/
def addColumnClause : Dialect → String
  | .mssql => "ADD"
  | _ => "ADD COLUMN"

/-- The beginning of a CREATE TABLE up to the table's name. SQL Server asks for the
absence of the table in a guard of its own. -/
def createTableHead (dialect : Dialect) (table : String) (ifNotExists : Bool) : String :=
  if ifNotExists then
    match dialect with
    | .mssql =>
      "IF OBJECT_ID(N'" ++ Literal.quotedContent table ++ "', N'U') IS NULL CREATE TABLE " ++ table
    | _ => "CREATE TABLE IF NOT EXISTS " ++ table
  else "CREATE TABLE " ++ table

/-- The creation of an index. SQL Server asks for its absence in a guard of its own. -/
def createIndex (dialect : Dialect) (table : String) (index : IndexDefinition)
    (ifNotExists : Bool) : String :=
  let statement (condition : String) : String :=
    "CREATE INDEX " ++ condition ++ index.nameFor table ++ " ON " ++ table ++ " " ++
      columnList index.columns
  if ifNotExists then
    match dialect with
    | .mssql =>
      "IF NOT EXISTS (SELECT 1 FROM sys.indexes WHERE name = N'" ++
        Literal.quotedContent (index.nameFor table) ++ "' AND object_id = OBJECT_ID(N'" ++
        Literal.quotedContent table ++ "')) " ++ statement ""
    | _ => statement "IF NOT EXISTS "
  else statement ""

end Dialect

namespace CreateTable

/-- The column that declares the primary key itself: the only column of the key if it
numbers its rows, or without a key the first column that does. -/
def inlineKey? (table : CreateTable) : Option String :=
  let column? : Option ColumnDefinition :=
    match table.constraints.primaryKey with
    | none => table.columns.find? fun column => column.autoIncrement
    | some [only] => table.columns.find? fun column => column.name = only && column.autoIncrement
    | some _ => none
  column?.map ColumnDefinition.name

/-- A column declares the primary key if it has the name of the one that does. -/
def isKey (table : CreateTable) (column : ColumnDefinition) : Bool :=
  table.inlineKey? = some column.name

/-- The clause of a primary key that no column declares. -/
def keyClauses (table : CreateTable) : List String :=
  match table.constraints.primaryKey, table.inlineKey? with
  | some columns, none => if columns.isEmpty then [] else [primaryKeyClause columns]
  | _, _ => []

/-- The clause of an index inside the table. -/
def indexClause (table : CreateTable) (index : IndexDefinition) : String :=
  "INDEX " ++ index.nameFor table.name ++ " " ++ columnList index.columns

/-- All parts between the parentheses, in order. -/
def body (dialect : Dialect) (table : CreateTable)
    (typed : List (ColumnDefinition × LogicalType)) : List String :=
  typed.map (fun column => column.1.definition dialect column.2 (table.isKey column.1)) ++
    table.keyClauses ++
    table.constraints.unique.map uniqueClause ++
    table.constraints.foreignKeys.map ForeignKey.clause ++
    if dialect.supports .inlineIndex then table.constraints.indexes.map table.indexClause else []

/-- The statements behind the table, one for each index that the table cannot hold. -/
def indexStatements (dialect : Dialect) (table : CreateTable) : List String :=
  if dialect.supports .inlineIndex then []
  else
    table.constraints.indexes.map fun index =>
      dialect.createIndex table.name index table.ifNotExists

/-- The plan of a CREATE TABLE: the table, then its indexes. -/
def plan (dialect : Dialect) (table : CreateTable) : Except Fault Plan :=
  if table.columns.isEmpty then .error (.early (.emptyTable table.name))
  else
    match ColumnDefinition.resolveAll table.columns with
    | .error error => .error (.early error)
    | .ok typed =>
      let notes := table.columns.flatMap fun column =>
        column.definitionNotes dialect (table.isKey column)
      let definition := dialect.createTableHead table.name table.ifNotExists ++ " " ++
        columnList (table.body dialect typed)
      .ok (Plan.single notes (text definition) ++
        (table.indexStatements dialect).map fun statement => .finish (text statement))

end CreateTable

namespace AlterTable

/-- A dialect that adds no constraints later cannot number the rows of an added column. -/
def losesAutoIncrement (dialect : Dialect) (column : ColumnDefinition) : Bool :=
  column.autoIncrement && !dialect.supports .alterAddConstraint

/-- A dialect may need a default to add a column that refuses null. -/
def losesNotNull (dialect : Dialect) (column : ColumnDefinition) : Bool :=
  !column.nullable && column.default.isNone && !dialect.supports .addNotNullWithoutDefault

/-- The column that a dialect adds for a requested one. -/
def addedColumn (dialect : Dialect) (column : ColumnDefinition) : ColumnDefinition :=
  { column with
    autoIncrement := column.autoIncrement && !losesAutoIncrement dialect column
    nullable := column.nullable || losesNotNull dialect column }

/-- The diagnostics for an added column. -/
def columnNotes (dialect : Dialect) (column : ColumnDefinition) : List Diagnostic :=
  (if losesAutoIncrement dialect column then [.autoIncrementOnExisting dialect column.name]
    else []) ++
  (if losesNotNull dialect column then [.nullabilityDowngraded dialect column.name] else []) ++
  (addedColumn dialect column).definitionNotes dialect false

/-- The effects of adding a column. -/
def columnSteps (dialect : Dialect) (table : String)
    (typed : ColumnDefinition × LogicalType) : Plan :=
  Plan.single (columnNotes dialect typed.1)
    (text ("ALTER TABLE " ++ table ++ " " ++ dialect.addColumnClause ++ " " ++
      (addedColumn dialect typed.1).definition dialect typed.2 false))

/-- The effect of adding a named constraint, or of leaving it out. -/
def constraintStep (dialect : Dialect) (table name clause : String) : Step :=
  if dialect.supports .alterAddConstraint then
    .finish (text ("ALTER TABLE " ++ table ++ " ADD CONSTRAINT " ++ name ++ " " ++ clause))
  else .note (.constraintSkipped dialect clause)

/-- The name of a group of columns that are unique together. -/
def uniqueName (table : String) (columns : List String) : String :=
  "uq_" ++ table ++ "_" ++ String.intercalate "_" columns

/-- The name of a reference. -/
def foreignKeyName (table : String) (foreignKey : ForeignKey) : String :=
  "fk_" ++ table ++ "_" ++ foreignKey.column

/-- The effects of adding constraints. -/
def constraintSteps (dialect : Dialect) (table : String) (constraints : Constraints) : Plan :=
  (match constraints.primaryKey with
    | some columns => [.note (.primaryKeySkipped (primaryKeyClause columns))]
    | none => []) ++
  constraints.unique.map (fun columns =>
    constraintStep dialect table (uniqueName table columns) (uniqueClause columns)) ++
  constraints.foreignKeys.map (fun foreignKey =>
    constraintStep dialect table (foreignKeyName table foreignKey) foreignKey.clause) ++
  constraints.indexes.map fun index =>
    .finish (text (dialect.createIndex table index false))

/-- The plan of an ALTER TABLE: one statement for each change. -/
def plan (dialect : Dialect) (alteration : AlterTable) : Except Fault Plan :=
  match ColumnDefinition.resolveAll alteration.addColumns with
  | .error error => .error (.early error)
  | .ok typed =>
    .ok (typed.flatMap (columnSteps dialect alteration.table) ++
      constraintSteps dialect alteration.table alteration.addConstraints)

end AlterTable

/-- The plan of a DROP TABLE. -/
def DropTable.plan (removal : DropTable) : Plan :=
  Plan.single [] (text
    ("DROP TABLE " ++ (if removal.ifExists then "IF EXISTS " else "") ++ removal.table))

end NeutralSql
