import NeutralSql.Compile.Clause

/-!
# Statements on rows

Plans for SELECT, INSERT, UPDATE and DELETE. Values only ever reach a slot. Conditions
are checked clause by clause as the text grows, so that a fault may come after values
of earlier clauses have been bound.
-/

namespace NeutralSql

open Template (text slot separated)

namespace Select

/-- The text up to the joins. -/
def head (dialect : Dialect) (query : Select) : String :=
  "SELECT " ++ (if query.distinct then "DISTINCT " else "") ++
    (if query.columns.isEmpty then "*" else String.intercalate ", " query.columns) ++
    " FROM " ++ query.table ++ String.join (query.joins.map (Clause.join dialect))

/-- The whole query with slots for its values. -/
def template (dialect : Dialect) (query : Select) : Template :=
  text (query.head dialect) ++ Clause.conditions "WHERE" query.filters ++
    Clause.listing "GROUP BY" query.groupBy ++ Clause.conditions "HAVING" query.having ++
    Clause.listing "ORDER BY" (query.orderBy.map Clause.order) ++
    Clause.pagination dialect.capabilities.limitStyle query

/-- The diagnostics of the joins. -/
def joinNotes (dialect : Dialect) (query : Select) : List Diagnostic :=
  query.joins.flatMap fun join => Clause.joinNotes dialect join.kind

/-- The plan of a query. A fault in the conditions on groups comes after the conditions
on rows have bound their values. -/
def plan (dialect : Dialect) (query : Select) : Except Fault Plan :=
  match Clause.check query.filters, Clause.check query.having with
  | .error error, _ => .error ⟨error, [], query.joinNotes dialect⟩
  | .ok _, .error error =>
    .error ⟨error, (Clause.conditions "WHERE" query.filters).values, query.joinNotes dialect⟩
  | .ok _, .ok _ =>
    .ok (.single (query.joinNotes dialect ++ Clause.paginationNotes query)
      (query.template dialect))

end Select

namespace Insert

/-- A row has exactly these columns, in any order. -/
def fits (columns : List String) (row : Row) : Bool :=
  row.size = columns.length && columns.all fun column => (row.get? column).isSome

/-- The values of a row in parentheses, in the order of the columns. -/
def rowTemplate (columns : List String) (row : Row) : Template :=
  text "(" ++
    separated ", " (columns.map fun column => slot (.ofOption (row.get? column))) ++
    text ")"

/-- The whole insertion with slots for its values. -/
def template (dialect : Dialect) (insertion : Insert) (columns : List String) : Template :=
  let clause := dialect.capabilities.returning
  text ("INSERT INTO " ++ insertion.table ++ " (" ++ String.intercalate ", " columns ++ ")" ++
      (if clause = .output then " OUTPUT INSERTED.*" else "") ++ " VALUES ") ++
    separated ", " (insertion.rows.map (rowTemplate columns)) ++
    (if clause = .returning then text " RETURNING *" else [])

/-- The plan of an insertion: there is a first row with columns, and every other row has
the same columns. -/
def plan (dialect : Dialect) (insertion : Insert) : Except Fault Plan :=
  match insertion.rows with
  | [] => .error (.early (.emptyInsert insertion.table))
  | first :: others =>
    if first.isEmpty then .error (.early (.emptyInsert insertion.table))
    else
      match others.findIdx? fun row => !fits first.columns row with
      | some index =>
        .error (.early (.rowShapeMismatch insertion.table (index + 1) first.columns))
      | none => .ok (.single [] (insertion.template dialect first.columns))

end Insert

namespace Update

/-- The text up to the last assignment. -/
def head (update : Update) : Template :=
  text ("UPDATE " ++ update.table ++ " SET ") ++
    separated ", " (update.assignments.entries.map fun entry =>
      text (entry.1 ++ " = ") ++ slot entry.2)

/-- The plan of an update. A fault in its conditions comes after the assignments have
bound their values. -/
def plan (update : Update) : Except Fault Plan :=
  if update.assignments.isEmpty then .error (.early (.emptyUpdate update.table))
  else
    match Clause.check update.filters with
    | .error error => .error ⟨error, update.head.values, []⟩
    | .ok _ => .ok (.single [] (update.head ++ Clause.conditions "WHERE" update.filters))

end Update

/-- The plan of a deletion. -/
def Delete.plan (deletion : Delete) : Except Fault Plan :=
  match Clause.check deletion.filters with
  | .error error => .error (.early error)
  | .ok _ =>
    .ok (.single []
      (text ("DELETE FROM " ++ deletion.table) ++
        Clause.conditions "WHERE" deletion.filters))

end NeutralSql
