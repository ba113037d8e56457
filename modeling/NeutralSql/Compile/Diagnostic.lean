import NeutralSql.Statement.Json

/-!
# Diagnostics

Where a dialect cannot express a part of a statement, a fallback is written and a
diagnostic says so. Every deviation from the statement has exactly one diagnostic.
-/

namespace NeutralSql

/-- How much a diagnostic matters. -/
inductive Severity where
  /-- A remark, for instance on a clause that is left out. -/
  | info
  /-- The written text may behave differently from the statement. -/
  | warning
  deriving DecidableEq

/-- What a dialect could not express. -/
inductive DiagnosticKind where
  /-- A join is written as another kind of join. -/
  | joinDowngraded (requested written : JoinKind)
  /-- An added column accepts null although it should not. -/
  | nullabilityDowngraded (column : String)
  /-- A constraint is left out. -/
  | constraintSkipped (constraint : String)
  /-- A column does not number its rows although it should. -/
  | autoIncrementDropped (column : String)
  /-- An offset is left out because there is no limit. -/
  | offsetIgnored
  deriving DecidableEq

/-- A deviation from a statement, with a message for its author. -/
structure Diagnostic where
  kind : DiagnosticKind
  severity : Severity
  message : String
  deriving DecidableEq

namespace Diagnostic

/-- A join that a dialect lacks is written as a left join. -/
def joinDowngraded (dialect : Dialect) (requested : JoinKind) : Diagnostic where
  kind := .joinDowngraded requested .left
  severity := .warning
  message := dialect.displayName ++ " does not support " ++ requested.sql ++
    "; rendered as LEFT JOIN with the same operand order, rows may differ"

/-- An offset means nothing without a limit. -/
def offsetIgnored : Diagnostic where
  kind := .offsetIgnored
  severity := .info
  message := "OFFSET without LIMIT is not rendered"

/-- A column of a new table cannot number its rows because it is not the key. -/
def autoIncrementOffKey (dialect : Dialect) (column : String) : Diagnostic where
  kind := .autoIncrementDropped column
  severity := .warning
  message := dialect.displayName ++
    " only supports AUTOINCREMENT on a single INTEGER PRIMARY KEY; '" ++ column ++
    "' rendered without it"

/-- A column added to an existing table cannot number its rows. -/
def autoIncrementOnExisting (dialect : Dialect) (column : String) : Diagnostic where
  kind := .autoIncrementDropped column
  severity := .warning
  message := dialect.displayName ++
    " cannot add an auto-increment column to an existing table; '" ++ column ++
    "' added as a plain column"

/-- A column added to an existing table has no value for the rows that are there. -/
def nullabilityDowngraded (dialect : Dialect) (column : String) : Diagnostic where
  kind := .nullabilityDowngraded column
  severity := .warning
  message := dialect.displayName ++
    " cannot add a NOT NULL column without a default; '" ++ column ++ "' added as nullable"

/-- No dialect changes the primary key of an existing table. -/
def primaryKeySkipped (clause : String) : Diagnostic where
  kind := .constraintSkipped clause
  severity := .info
  message := "primary keys cannot be added by ALTER TABLE; the table keeps its original key"

/-- A constraint cannot be added to an existing table. -/
def constraintSkipped (dialect : Dialect) (clause : String) : Diagnostic where
  kind := .constraintSkipped clause
  severity := .warning
  message := dialect.displayName ++
    " cannot add constraints to an existing table; skipped " ++ clause

end Diagnostic

/-- The name of a severity in JSON. -/
def Severity.jsonName : Severity → String
  | .info => "Info"
  | .warning => "Warning"

/-- The members that tell what a dialect could not express. -/
def DiagnosticKind.members : DiagnosticKind → List (String × Json)
  | .joinDowngraded requested written =>
    [("kind", .string "join_downgraded"),
     ("from", .string requested.jsonName),
     ("to", .string written.jsonName)]
  | .nullabilityDowngraded column =>
    [("kind", .string "nullability_downgraded"), ("column", .string column)]
  | .constraintSkipped constraint =>
    [("kind", .string "constraint_skipped"), ("constraint", .string constraint)]
  | .autoIncrementDropped column =>
    [("kind", .string "auto_increment_dropped"), ("column", .string column)]
  | .offsetIgnored => [("kind", .string "offset_ignored")]

/-- A diagnostic as JSON. -/
def Diagnostic.toJson (diagnostic : Diagnostic) : Json :=
  .object
    (diagnostic.kind.members ++
      [("severity", .string diagnostic.severity.jsonName),
       ("message", .string diagnostic.message)])

end NeutralSql
