import NeutralSql.Compile.Template

/-!
# Questions about a schema

Each dialect has a query that returns a row exactly when a table, or a column of a
table, exists. The names are values of the query.
-/

namespace NeutralSql.Dialect

open Template (text slot)

/-- A query for the existence of a table. -/
def hasTable (dialect : Dialect) (table : String) : Template :=
  text (match dialect with
    | .postgresql =>
      "SELECT 1 FROM information_schema.tables WHERE table_schema = current_schema()" ++
        " AND table_name = "
    | .mysql =>
      "SELECT 1 FROM information_schema.tables WHERE table_schema = DATABASE() AND table_name = "
    | .sqlite => "SELECT 1 FROM sqlite_master WHERE type = 'table' AND name = "
    | .mssql => "SELECT 1 FROM INFORMATION_SCHEMA.TABLES WHERE TABLE_NAME = ") ++
  slot (.string table)

/-- A query for the existence of a column. -/
def hasColumn (dialect : Dialect) (table column : String) : Template :=
  match dialect with
  | .postgresql =>
    text "SELECT 1 FROM information_schema.columns WHERE table_schema = current_schema()" ++
      text " AND table_name = " ++ slot (.string table) ++
      text " AND column_name = " ++ slot (.string column)
  | .mysql =>
    text "SELECT 1 FROM information_schema.columns WHERE table_schema = DATABASE()" ++
      text " AND table_name = " ++ slot (.string table) ++
      text " AND column_name = " ++ slot (.string column)
  | .sqlite =>
    text "SELECT 1 FROM pragma_table_info(" ++ slot (.string table) ++ text ") WHERE name = " ++
      slot (.string column)
  | .mssql =>
    text "SELECT 1 FROM INFORMATION_SCHEMA.COLUMNS WHERE TABLE_NAME = " ++
      slot (.string table) ++ text " AND COLUMN_NAME = " ++ slot (.string column)

end NeutralSql.Dialect
