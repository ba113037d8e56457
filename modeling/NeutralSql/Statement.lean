import NeutralSql.Row
import NeutralSql.Schema

/-!
# Statements

A statement is what one dialect-neutral request asks of a database. Tables, columns and
expressions are texts that are written as they are; values never are part of them.
-/

namespace NeutralSql

/-- The kinds of join. -/
inductive JoinKind where
  | inner
  | left
  | right
  | full
  deriving DecidableEq

/-- The keywords of a join. -/
def JoinKind.sql : JoinKind → String
  | .inner => "INNER JOIN"
  | .left => "LEFT JOIN"
  | .right => "RIGHT JOIN"
  | .full => "FULL JOIN"

/-- How a predicate is combined with those before it. -/
inductive Connective where
  | and
  | or
  deriving DecidableEq

/-- The keyword of a connective. -/
def Connective.sql : Connective → String
  | .and => "AND"
  | .or => "OR"

/-- Comparison operators. -/
inductive Operator where
  | equal
  | notEqual
  | less
  | lessOrEqual
  | greater
  | greaterOrEqual
  | like
  | notLike
  | is
  | isNot
  deriving DecidableEq

namespace Operator

/-- The spelling of an operator. -/
def sql : Operator → String
  | .equal => "="
  | .notEqual => "<>"
  | .less => "<"
  | .lessOrEqual => "<="
  | .greater => ">"
  | .greaterOrEqual => ">="
  | .like => "LIKE"
  | .notLike => "NOT LIKE"
  | .is => "IS"
  | .isNot => "IS NOT"

/-- The two operators that compare with null alone. -/
def testsNull : Operator → Bool
  | .is => true
  | .isNot => true
  | _ => false

end Operator

/-- A condition of a WHERE or HAVING clause. -/
structure Predicate where
  column : String
  operator : Operator
  value : Option Value
  /-- How the predicate joins the ones before it; of no effect for the first one. -/
  connective : Connective

namespace Predicate

/-- Compare a column with a value. -/
def compare (column : String) (operator : Operator) (value : Value) : Predicate :=
  ⟨column, operator, some value, .and⟩

/-- The column is null. -/
def isNull (column : String) : Predicate :=
  ⟨column, .is, none, .and⟩

/-- The column is not null. -/
def isNotNull (column : String) : Predicate :=
  ⟨column, .isNot, none, .and⟩

/-- The same condition joined by a connective. -/
def joinedBy (predicate : Predicate) (connective : Connective) : Predicate :=
  { predicate with connective }

/-- The value that the predicate binds: a value that is present, unless the operator
compares with null alone. -/
def bound? (predicate : Predicate) : Option Value :=
  if predicate.operator.testsNull then none else predicate.value

/-- The predicate is ill-formed: it asks whether something other than null is null. -/
def isInvalid (predicate : Predicate) : Bool :=
  predicate.operator.testsNull && predicate.value.any fun value => !value.isNull

end Predicate

/-- A joined table with its condition. -/
structure Join where
  kind : JoinKind
  table : String
  left : String
  operator : Operator
  right : String
  deriving DecidableEq

/-- A join on the equality of two columns. -/
def Join.on (kind : JoinKind) (table left right : String) : Join :=
  ⟨kind, table, left, .equal, right⟩

/-- The direction of a sort. -/
inductive SortDirection where
  | ascending
  | descending
  deriving DecidableEq

/-- The keyword of a direction. -/
def SortDirection.sql : SortDirection → String
  | .ascending => "ASC"
  | .descending => "DESC"

/-- A sort key. -/
structure OrderTerm where
  column : String
  direction : SortDirection
  deriving DecidableEq

/-- SELECT. No columns means all of them. -/
structure Select where
  table : String
  columns : List String
  distinct : Bool
  joins : List Join
  filters : List Predicate
  groupBy : List String
  having : List Predicate
  orderBy : List OrderTerm
  limit : Option UInt64
  offset : Option UInt64

namespace Select

/-- All rows and columns of a table. -/
def allOf (table : String) : Select :=
  ⟨table, [], false, [], [], [], [], [], none, none⟩

/-- Add a joined table. -/
def addJoin (query : Select) (join : Join) : Select :=
  { query with joins := query.joins ++ [join] }

/-- Add a condition on rows. -/
def addFilter (query : Select) (predicate : Predicate) : Select :=
  { query with filters := query.filters ++ [predicate] }

/-- Add a condition on groups. -/
def addHaving (query : Select) (predicate : Predicate) : Select :=
  { query with having := query.having ++ [predicate] }

/-- Add a sort key. -/
def addOrder (query : Select) (column : String) (direction : SortDirection) : Select :=
  { query with orderBy := query.orderBy ++ [⟨column, direction⟩] }

end Select

/-- INSERT. The first row decides on the columns. -/
structure Insert where
  table : String
  rows : List Row

/-- Add a row. -/
def Insert.addRow (insertion : Insert) (row : Row) : Insert :=
  { insertion with rows := insertion.rows ++ [row] }

/-- UPDATE. -/
structure Update where
  table : String
  assignments : Row
  filters : List Predicate

namespace Update

/-- Assign a value to a column. -/
def assign (update : Update) (column : String) (value : Value) : Update :=
  { update with assignments := update.assignments.set column value }

/-- Add a condition on rows. -/
def addFilter (update : Update) (predicate : Predicate) : Update :=
  { update with filters := update.filters ++ [predicate] }

end Update

/-- DELETE. -/
structure Delete where
  table : String
  filters : List Predicate

/-- Add a condition on rows. -/
def Delete.addFilter (deletion : Delete) (predicate : Predicate) : Delete :=
  { deletion with filters := deletion.filters ++ [predicate] }

/-- A dialect-neutral statement. -/
inductive Statement where
  | select (query : Select)
  | insert (insertion : Insert)
  | update (change : Update)
  | delete (deletion : Delete)
  | createTable (table : CreateTable)
  | alterTable (alteration : AlterTable)
  | dropTable (removal : DropTable)

namespace Statement

/-- SELECT is the only statement that changes nothing. -/
def isRead : Statement → Bool
  | .select _ => true
  | _ => false

/-- The table that a statement names first. -/
def table : Statement → String
  | .select query => query.table
  | .insert insertion => insertion.table
  | .update change => change.table
  | .delete deletion => deletion.table
  | .createTable table => table.name
  | .alterTable alteration => alteration.table
  | .dropTable removal => removal.table

end Statement

end NeutralSql
