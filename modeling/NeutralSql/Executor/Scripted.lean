import NeutralSql.Executor.Database

/-!
# A scripted database

A database for trials: it answers by the beginning of a statement's text, records every
statement that reaches it, and can be told to fail or to report tables that other
clients have written.
-/

namespace NeutralSql

/-- The script of a scripted database and what it has recorded. -/
structure Script where
  /-- Beginnings of texts with their answers; the first match counts. -/
  responses : List (String × QueryResult)
  /-- A failure of every statement. -/
  alwaysFails : Option ExecuteError
  /-- A failure of every statement that is switched on for a while. -/
  failsNow : Option ExecuteError
  /-- Tables that other clients write while the next statement is under way. -/
  overtaking : List String
  /-- The statements received so far. -/
  calls : List Compiled

namespace Script

/-- A text has a beginning. -/
def startsWith (text beginning : String) : Bool :=
  beginning.toList.isPrefixOf text.toList

/-- The answer to a text; nothing matches means no rows. -/
def respond (script : Script) (sql : String) : QueryResult :=
  match script.responses.find? fun response => startsWith sql response.1 with
  | some response => response.2
  | none => .empty

/-- What the script does with a statement. A permanent failure comes before anything
else, a switched one after other clients have written. -/
def answer : Database Script := fun script statement =>
  let recorded := { script with calls := script.calls ++ [statement] }
  match script.alwaysFails with
  | some error => ⟨.error error, recorded, []⟩
  | none =>
    let result :=
      match script.failsNow with
      | some error => .error error
      | none => .ok (script.respond statement.sql)
    ⟨result, { recorded with overtaking := [] }, script.overtaking⟩

end Script

end NeutralSql
