import NeutralSql.Cache

/-!
# Databases as seen by an executor

A database is anything that answers finished statements and may change by answering. It
also tells which tables another client has written in the meantime, because those
invalidate the cache while a statement is under way.
-/

namespace NeutralSql

/-- The answer to a statement. -/
structure QueryResult where
  /-- The rows, each an object. -/
  rows : List (List (String × Json))
  rowsAffected : UInt64
  lastInsertId : Option Int64

namespace QueryResult

/-- No rows, and none affected. -/
def empty : QueryResult :=
  ⟨[], 0, none⟩

/-- An answer of rows. -/
def ofRows (rows : List (List (String × Json))) : QueryResult :=
  { empty with rows }

/-- An answer of the rows among some values; a value that is no object is no row. -/
def ofValues (values : List Json) : QueryResult :=
  ofRows (values.filterMap fun value =>
    match value with
    | .object members => some members
    | _ => none)

/-- An answer that counts the affected rows. -/
def affected (count : UInt64) (lastInsertId : Option Int64) : QueryResult :=
  { empty with rowsAffected := count, lastInsertId }

/-- A result as JSON; the last identifier only where there is one. -/
def toJson (result : QueryResult) : Json :=
  .object
    ([("rows", .array (result.rows.map .object)),
      ("rows_affected", .int result.rowsAffected.toNat)] ++
      match result.lastInsertId with
      | some id => [("last_insert_id", .int id.toInt)]
      | none => [])

/-- A row that a document holds, its members sorted. -/
def rowOf? : Document → Option (List (String × Json))
  | .object members =>
    (Document.object members).json?.bind fun row =>
      match row.canonical with
      | .object members => some members
      | _ => none
  | _ => none

/-- The result that a document holds; every field has a default. -/
def ofDocument? (document : Document) : Option QueryResult := do
  let [rows, rowsAffected, lastInsertId] ←
      document.fields? ["rows", "rows_affected", "last_insert_id"]
    | none
  return {
    rows := ← rows.withDefault? [] (Document.listOf? rowOf?)
    rowsAffected := ← rowsAffected.withDefault? 0 Document.asUInt64?
    lastInsertId := ← lastInsertId.optional? Document.asInt64? }

end QueryResult

/-- Every answer of a database is worth keeping. -/
instance : Cacheable QueryResult where
  isCacheable _ := true

/-- Why a statement has no answer. -/
inductive ExecuteError where
  /-- The statement was rejected before it reached the database. -/
  | compile (error : CompileError)
  | connection (message : String)
  | query (message : String)
  deriving DecidableEq

/-- The wording of an error. -/
def ExecuteError.message : ExecuteError → String
  | .compile error => error.message
  | .connection message => "Connection failed: " ++ message
  | .query message => "Query failed: " ++ message

/-- What a database does with one statement. -/
structure Reply (σ : Type) where
  result : Except ExecuteError QueryResult
  /-- The state of the database afterwards. -/
  state : σ
  /-- Tables that other clients have written while the statement was under way. -/
  overtaken : List String

/-- A database with states of type `σ`. -/
abbrev Database (σ : Type) := σ → Compiled → Reply σ

end NeutralSql
