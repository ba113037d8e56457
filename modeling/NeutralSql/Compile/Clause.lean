import NeutralSql.Compile.Template

/-!
# Clauses

The clauses that several statements share. Conditions are checked as a whole before any
of them is written.
-/

namespace NeutralSql

open Template (text slot)

namespace Predicate

/-- A condition with a slot for its value. A predicate without a value to bind compares
with null. -/
def template (predicate : Predicate) : Template :=
  text (predicate.column ++ " " ++ predicate.operator.sql ++ " ") ++
    match predicate.bound? with
    | some value => slot value
    | none => text "NULL"

/-- A condition behind others, with its connective. -/
def continuation (predicate : Predicate) : Template :=
  text (" " ++ predicate.connective.sql ++ " ") ++ predicate.template

end Predicate

namespace Clause

/-- Conditions behind a keyword; nothing where there are none. -/
def conditions (keyword : String) : List Predicate → Template
  | [] => []
  | first :: rest =>
    text (" " ++ keyword ++ " ") ++ first.template ++ rest.flatMap Predicate.continuation

/-- Check conditions; the first ill-formed one is the error. -/
def check (predicates : List Predicate) : Except CompileError Unit :=
  match predicates.find? Predicate.isInvalid with
  | some predicate => .error (.invalidPredicate predicate.column predicate.operator)
  | none => .ok ()

/-- Names behind a keyword; nothing where there are none. -/
def listing (keyword : String) (names : List String) : Template :=
  if names.isEmpty then [] else text (" " ++ keyword ++ " " ++ String.intercalate ", " names)

/-- The kind of join that is written for a requested one. -/
def writtenJoin (dialect : Dialect) : JoinKind → JoinKind
  | .right => if dialect.supports .rightJoin then .right else .left
  | .full => if dialect.supports .fullJoin then .full else .left
  | kind => kind

/-- A diagnostic for a join that is written as another kind. -/
def joinNotes (dialect : Dialect) (kind : JoinKind) : List Diagnostic :=
  if writtenJoin dialect kind = kind then [] else [.joinDowngraded dialect kind]

/-- A joined table with its condition. -/
def join (dialect : Dialect) (join : Join) : String :=
  " " ++ (writtenJoin dialect join.kind).sql ++ " " ++ join.table ++ " ON " ++ join.left ++ " " ++
    join.operator.sql ++ " " ++ join.right

/-- A sort key. -/
def order (term : OrderTerm) : String :=
  term.column ++ " " ++ term.direction.sql

/-- The clauses that bound the number of rows. The form that counts from an offset has
to follow a sort, so a void one is written where the query has none. -/
def pagination (style : LimitStyle) (query : Select) : Template :=
  match query.limit, style with
  | none, _ => []
  | some limit, .limitOffset =>
    text " LIMIT " ++ slot (.ofCount limit) ++
      match query.offset with
      | some offset => text " OFFSET " ++ slot (.ofCount offset)
      | none => []
  | some limit, .offsetFetch =>
    (if query.orderBy.isEmpty then text " ORDER BY (SELECT NULL)" else []) ++
      (match query.offset with
        | some offset => text " OFFSET " ++ slot (.ofCount offset) ++ text " ROWS"
        | none => text " OFFSET 0 ROWS") ++
      text " FETCH NEXT " ++ slot (.ofCount limit) ++ text " ROWS ONLY"

/-- A diagnostic for an offset without a limit. -/
def paginationNotes (query : Select) : List Diagnostic :=
  if query.limit.isNone && query.offset.isSome then [.offsetIgnored] else []

end Clause

end NeutralSql
