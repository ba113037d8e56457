import NeutralSql.Value

/-!
# Rows

A row assigns values to columns. Columns keep the order in which they were first set;
setting a column again replaces its value in place. No column occurs twice, which the
type itself records.
-/

namespace NeutralSql

/-- Columns with their values in the order of first assignment. -/
structure Row where
  /-- The columns and their values. -/
  entries : List (String × Value)
  /-- No column occurs twice. -/
  distinct : (entries.map Prod.fst).Nodup

namespace Row

/-- The row without columns. -/
def empty : Row :=
  ⟨[], List.nodup_nil⟩

/-- Replace the value of a column where it stands, or append the column. -/
def setEntry (column : String) (value : Value) : List (String × Value) → List (String × Value)
  | [] => [(column, value)]
  | entry :: rest =>
    if entry.1 = column then (column, value) :: rest
    else entry :: setEntry column value rest

/-- Setting an entry keeps the columns, and appends the column where it is new. -/
theorem columns_setEntry (column : String) (value : Value) (entries : List (String × Value)) :
    (setEntry column value entries).map Prod.fst =
      if column ∈ entries.map Prod.fst then entries.map Prod.fst
      else entries.map Prod.fst ++ [column] := by
  induction entries with
  | nil => simp [setEntry]
  | cons entry rest inductionHypothesis =>
    by_cases same : entry.1 = column
    · simp [setEntry, same]
    · have other : ¬column = entry.1 := fun equal => same equal.symm
      simp only [setEntry, same, if_false, List.map_cons, inductionHypothesis, List.mem_cons, other,
        false_or]
      split <;> simp

/-- Setting an entry repeats no column. -/
theorem nodup_setEntry (column : String) (value : Value) {entries : List (String × Value)}
    (distinct : (entries.map Prod.fst).Nodup) :
    ((setEntry column value entries).map Prod.fst).Nodup := by
  rw [columns_setEntry]
  split
  · exact distinct
  · rename_i absent
    rw [List.nodup_append]
    refine ⟨distinct, by simp, ?_⟩
    intro present isPresent added isAdded equal
    rw [List.mem_singleton.1 isAdded] at equal
    exact absent (equal ▸ isPresent)

/-- The row with a value for a column. -/
def set (row : Row) (column : String) (value : Value) : Row :=
  ⟨setEntry column value row.entries, nodup_setEntry column value row.distinct⟩

/-- The row that assigns the pairs of a list one after the other. -/
def ofList (pairs : List (String × Value)) : Row :=
  pairs.foldl (fun row pair => row.set pair.1 pair.2) empty

/-- The value of a column. -/
def get? (row : Row) (column : String) : Option Value :=
  row.entries.lookup column

/-- The columns in order. -/
def columns (row : Row) : List String :=
  row.entries.map Prod.fst

/-- The values in the order of their columns. -/
def values (row : Row) : List Value :=
  row.entries.map Prod.snd

/-- The number of columns. -/
def size (row : Row) : Nat :=
  row.entries.length

/-- The row has no columns. -/
def isEmpty (row : Row) : Bool :=
  row.entries.isEmpty

/-- The row as an object whose members stand in column order. -/
def toJson (row : Row) : Json :=
  .object (row.entries.map fun entry => (entry.1, entry.2.toJson))

/-- The row that an object holds, its members assigned in order. -/
def ofDocument? : Document → Option Row
  | .object members =>
    (members.mapM fun (member : String × Document) =>
      (Value.ofDocument? member.2).map fun value => (member.1, value)).map ofList
  | _ => none

end Row

end NeutralSql
