import NeutralSql.Statement

/-!
# Rejected statements

A statement is rejected for what it says, never for the dialect it is compiled for.
-/

namespace NeutralSql

/-- Why a statement is rejected. -/
inductive CompileError where
  /-- An INSERT has no rows, or its first row has no columns. -/
  | emptyInsert (table : String)
  /-- A row of an INSERT has other columns than the first row. -/
  | rowShapeMismatch (table : String) (row : Nat) (columns : List String)
  /-- An UPDATE assigns nothing. -/
  | emptyUpdate (table : String)
  /-- A predicate asks whether something other than null is null. -/
  | invalidPredicate (column : String) (operator : Operator)
  /-- A CREATE TABLE has no columns. -/
  | emptyTable (table : String)
  /-- A type text denotes no logical type. -/
  | unknownType (column typeName : String)
  deriving DecidableEq

/-- The wording of a rejection. -/
def CompileError.message : CompileError → String
  | .emptyInsert table => "INSERT into '" ++ table ++ "' has no rows or no columns"
  | .rowShapeMismatch table row columns =>
    "INSERT into '" ++ table ++ "': row " ++ toString row ++
      " does not match the columns of the first row (" ++ String.intercalate ", " columns ++ ")"
  | .emptyUpdate table => "UPDATE of '" ++ table ++ "' has no columns to set"
  | .invalidPredicate column operator =>
    "Predicate on '" ++ column ++ "': " ++ operator.sql ++ " only accepts NULL"
  | .emptyTable table => "CREATE TABLE '" ++ table ++ "' has no columns"
  | .unknownType column typeName =>
    "Unknown column type '" ++ typeName ++ "' for column '" ++ column ++ "'"

end NeutralSql
