import Mathlib.Data.List.Perm.Subperm
import NeutralSql.Proofs.Compile.Context
import NeutralSql.Proofs.Compile.Definition
import NeutralSql.Proofs.Compile.Erasure

/-!
# Which statements are rejected

`Statement.IsMalformed` says which statements are rejected, and `Statement.Fails` for which of
their offences. Neither knows of a dialect. `compile_verdict` says that compiling rejects
exactly these, in every dialect alike: where several things are wrong, an emptiness counts
before all else, conditions on rows before conditions on groups, and in a list the first item
that offends.
-/

namespace NeutralSql

/-- An item of a list offends, and none of those in front of it does. -/
def IsFirst {α : Type} (offends : α → Prop) (front : List α) (item : α) (items : List α) : Prop :=
  ∃ behind, items = front ++ item :: behind ∧ offends item ∧ ∀ other ∈ front, ¬offends other

/-- A predicate asks by IS or IS NOT for a value that is there and not null. -/
def Predicate.Offends (predicate : Predicate) : Prop :=
  (predicate.operator = .is ∨ predicate.operator = .isNot) ∧
    ∃ value, predicate.value = some value ∧ value ≠ .null

/-- A row has other columns than these; their order does not matter. -/
def Row.Differs (columns : List String) (row : Row) : Prop :=
  ¬∀ column, column ∈ row.columns ↔ column ∈ columns

/-- The type text of a column denotes no type. -/
def ColumnDefinition.IsUntyped (column : ColumnDefinition) : Prop :=
  column.logicalType? = none

namespace Statement

/-- Statements that are rejected. -/
def IsMalformed : Statement → Prop
  | .select query => ∃ predicate ∈ query.filters ++ query.having, predicate.Offends
  | .insert insertion =>
    match insertion.rows with
    | [] => True
    | first :: others => first.columns = [] ∨ ∃ row ∈ others, row.Differs first.columns
  | .update change =>
    change.assignments.columns = [] ∨ ∃ predicate ∈ change.filters, predicate.Offends
  | .delete deletion => ∃ predicate ∈ deletion.filters, predicate.Offends
  | .createTable table => table.columns = [] ∨ ∃ column ∈ table.columns, column.IsUntyped
  | .alterTable alteration => ∃ column ∈ alteration.addColumns, column.IsUntyped
  | .dropTable _ => False

/-- What a statement is rejected for. -/
inductive Fails : Statement → CompileError → Prop where
  | filter {query : Select} {front : List Predicate} {predicate : Predicate}
      (first : IsFirst Predicate.Offends front predicate query.filters) :
      Fails (.select query) (.invalidPredicate predicate.column predicate.operator)
  | having {query : Select} {front : List Predicate} {predicate : Predicate}
      (filters : ∀ other ∈ query.filters, ¬other.Offends)
      (first : IsFirst Predicate.Offends front predicate query.having) :
      Fails (.select query) (.invalidPredicate predicate.column predicate.operator)
  | noRow {insertion : Insert} (noRow : insertion.rows = []) :
      Fails (.insert insertion) (.emptyInsert insertion.table)
  | noColumn {insertion : Insert} {first : Row} {others : List Row}
      (rows : insertion.rows = first :: others) (noColumn : first.columns = []) :
      Fails (.insert insertion) (.emptyInsert insertion.table)
  | shape {insertion : Insert} {first : Row} {others front : List Row} {row : Row}
      (rows : insertion.rows = first :: others) (someColumn : first.columns ≠ [])
      (firstOther : IsFirst (Row.Differs first.columns) front row others) :
      Fails (.insert insertion)
        (.rowShapeMismatch insertion.table (front.length + 1) first.columns)
  | noAssignment {change : Update} (noAssignment : change.assignments.columns = []) :
      Fails (.update change) (.emptyUpdate change.table)
  | updateFilter {change : Update} {front : List Predicate} {predicate : Predicate}
      (someAssignment : change.assignments.columns ≠ [])
      (first : IsFirst Predicate.Offends front predicate change.filters) :
      Fails (.update change) (.invalidPredicate predicate.column predicate.operator)
  | deleteFilter {deletion : Delete} {front : List Predicate} {predicate : Predicate}
      (first : IsFirst Predicate.Offends front predicate deletion.filters) :
      Fails (.delete deletion) (.invalidPredicate predicate.column predicate.operator)
  | noDefinition {table : CreateTable} (noDefinition : table.columns = []) :
      Fails (.createTable table) (.emptyTable table.name)
  | columnType {table : CreateTable} {front : List ColumnDefinition} {column : ColumnDefinition}
      (first : IsFirst ColumnDefinition.IsUntyped front column table.columns) :
      Fails (.createTable table) (.unknownType column.name column.type)
  | addedType {alteration : AlterTable} {front : List ColumnDefinition}
      {column : ColumnDefinition}
      (first : IsFirst ColumnDefinition.IsUntyped front column alteration.addColumns) :
      Fails (.alterTable alteration) (.unknownType column.name column.type)

end Statement

/-! ## First offenders -/

section First

variable {α : Type} {offends : α → Prop} {items front : List α} {item first : α}

/-- The first item of a list is the first offender, or it is none and another one is. -/
theorem isFirst_cons_iff :
    IsFirst offends front item (first :: items) ↔
      (front = [] ∧ item = first ∧ offends first) ∨
        ∃ others, front = first :: others ∧ ¬offends first ∧ IsFirst offends others item items := by
  constructor
  · rintro ⟨behind, equal, offending, frontGood⟩
    cases front with
    | nil =>
      obtain ⟨rfl, -⟩ := List.cons.inj equal
      exact .inl ⟨rfl, rfl, offending⟩
    | cons other others =>
      obtain ⟨rfl, rfl⟩ := List.cons.inj equal
      obtain ⟨firstGood, othersGood⟩ := List.forall_mem_cons.1 frontGood
      exact .inr ⟨others, rfl, firstGood, behind, rfl, offending, othersGood⟩
  · rintro (⟨rfl, rfl, offending⟩ | ⟨others, rfl, firstGood, behind, rfl, offending, othersGood⟩)
    · exact ⟨items, rfl, offending, fun _ => nofun⟩
    · exact ⟨behind, rfl, offending, List.forall_mem_cons.2 ⟨firstGood, othersGood⟩⟩

/-- A first offender is one of the list. -/
theorem IsFirst.exists_mem (isFirst : IsFirst offends front item items) :
    ∃ item ∈ items, offends item := by
  obtain ⟨behind, rfl, offending, -⟩ := isFirst
  exact ⟨item, List.mem_append_right front List.mem_cons_self, offending⟩

/-- A list with an offender has a first one. -/
theorem exists_isFirst (someOffender : ∃ item ∈ items, offends item) :
    ∃ front item, IsFirst offends front item items := by
  obtain ⟨offender, listed, offending⟩ := someOffender
  induction items with
  | nil => contradiction
  | cons first rest inductionHypothesis =>
    by_cases firstOffends : offends first
    · exact ⟨[], first, isFirst_cons_iff.2 (.inl ⟨rfl, rfl, firstOffends⟩)⟩
    · have inRest : offender ∈ rest :=
        (List.mem_cons.1 listed).resolve_left fun same => firstOffends (same ▸ offending)
      obtain ⟨front, item, isFirst⟩ := inductionHypothesis inRest
      exact ⟨_, item, isFirst_cons_iff.2 (.inr ⟨front, rfl, firstOffends, isFirst⟩)⟩

variable {test : α → Bool}

/-- A search for what fails a test finds the first offender. -/
theorem find?_eq_some_iff_isFirst (tests : ∀ item, test item = true ↔ offends item) :
    items.find? test = some item ↔ ∃ front, IsFirst offends front item items := by
  simp only [List.find?_eq_some_iff_append, IsFirst, Bool.not_eq_true', ← Bool.not_eq_true, tests]
  constructor
  · rintro ⟨offending, front, behind, equal, frontGood⟩
    exact ⟨front, behind, equal, offending, frontGood⟩
  · rintro ⟨front, behind, equal, offending, frontGood⟩
    exact ⟨offending, front, behind, equal, frontGood⟩

/-- A search for the place of what fails a test finds the first offender. -/
theorem findIdx?_eq_some_iff_isFirst (tests : ∀ item, test item = true ↔ offends item)
    {index : Nat} :
    items.findIdx? test = some index ↔
      ∃ front item, front.length = index ∧ IsFirst offends front item items := by
  induction items generalizing index with
  | nil => simp [IsFirst]
  | cons first rest inductionHypothesis =>
    simp only [isFirst_cons_iff, List.findIdx?_cons]
    split
    · rename_i firstFails
      have firstOffends := (tests first).1 firstFails
      constructor
      · intro found
        exact ⟨[], first, Option.some.inj found, .inl ⟨rfl, rfl, firstOffends⟩⟩
      · rintro ⟨front, item, rfl, ⟨rfl, -, -⟩ | ⟨others, -, firstGood, -⟩⟩
        · rfl
        · exact absurd firstOffends firstGood
    · rename_i firstPasses
      have firstGood : ¬offends first := fun offending => firstPasses ((tests first).2 offending)
      constructor
      · intro found
        obtain ⟨place, foundBehind, rfl⟩ := Option.map_eq_some_iff.1 found
        obtain ⟨front, item, rfl, isFirst⟩ := inductionHypothesis.1 foundBehind
        exact ⟨_, item, rfl, .inr ⟨front, rfl, firstGood, isFirst⟩⟩
      · rintro ⟨front, item, rfl, ⟨-, -, offending⟩ | ⟨others, rfl, -, isFirst⟩⟩
        · exact absurd offending firstGood
        · exact Option.map_eq_some_iff.2
            ⟨others.length, inductionHypothesis.2 ⟨others, item, rfl, isFirst⟩, rfl⟩

end First

/-! ## Conditions, rows and columns -/

/-- The test for ill-formed predicates finds the offending ones. -/
theorem Predicate.isInvalid_iff (predicate : Predicate) :
    predicate.isInvalid = true ↔ predicate.Offends := by
  obtain ⟨column, operator, value, connective⟩ := predicate
  have present : (value.any fun value => !value.isNull) = true ↔
      ∃ inside, value = some inside ∧ inside ≠ .null := by
    rw [Option.any_eq_true]
    refine exists_congr fun inside => and_congr_right fun _ => ?_
    cases inside <;> simp [Value.isNull]
  cases operator <;> simp [isInvalid, Offends, Operator.testsNull, present]

namespace Clause

variable {predicates : List Predicate} {error : CompileError}

/-- Conditions are rejected for the first one that offends. -/
theorem check_eq_error_iff :
    check predicates = .error error ↔
      ∃ front predicate, IsFirst Predicate.Offends front predicate predicates ∧
        error = .invalidPredicate predicate.column predicate.operator := by
  have found {predicate : Predicate} : predicates.find? Predicate.isInvalid = some predicate ↔
      ∃ front, IsFirst Predicate.Offends front predicate predicates :=
    find?_eq_some_iff_isFirst Predicate.isInvalid_iff
  constructor
  · intro failed
    rw [check] at failed
    split at failed
    · rename_i predicate search
      obtain ⟨front, isFirst⟩ := found.1 search
      exact ⟨front, predicate, isFirst, (Except.error.inj failed).symm⟩
    · contradiction
  · rintro ⟨front, predicate, isFirst, rfl⟩
    rw [check, found.2 ⟨front, isFirst⟩]

/-- Conditions pass where none of them offends. -/
theorem check_eq_ok_iff :
    check predicates = .ok () ↔ ∀ predicate ∈ predicates, ¬predicate.Offends := by
  have noneFound : predicates.find? Predicate.isInvalid = none ↔
      ∀ predicate ∈ predicates, ¬predicate.Offends := by
    simp only [List.find?_eq_none, Predicate.isInvalid_iff]
  rw [← noneFound, check]
  split
  · rename_i search
    simp [search]
  · rename_i search
    simp [search]

end Clause

/-- A row is empty exactly if it has no columns. -/
theorem Row.isEmpty_iff (row : Row) : row.isEmpty = true ↔ row.columns = [] := by
  rw [isEmpty, columns, List.isEmpty_iff, List.map_eq_nil_iff]

/-- A row fits columns exactly if it does not differ from them. -/
theorem Insert.fits_iff {columns : List String} (distinct : columns.Nodup) (row : Row) :
    (!fits columns row) = true ↔ row.Differs columns := by
  rw [Bool.not_eq_true', ← Bool.not_eq_true, Row.Differs, not_iff_not, fits, Bool.and_eq_true,
    decide_eq_true_eq, List.all_eq_true]
  simp only [Row.isSome_get?_iff]
  have size : row.size = row.columns.length := (List.length_map _).symm
  constructor
  · rintro ⟨sameLength, present⟩ column
    have sameColumns : columns.Perm row.columns :=
      (distinct.subperm present).perm_of_length_le (Nat.le_of_eq (size.symm.trans sameLength))
    exact sameColumns.mem_iff.symm
  · intro same
    have sameColumns : row.columns.Perm columns :=
      (List.perm_ext_iff_of_nodup row.distinct distinct).2 same
    exact ⟨by rw [size, sameColumns.length_eq], fun column listed => (same column).2 listed⟩

namespace ColumnDefinition

/-- Columns are rejected for the first one whose type is unknown. -/
theorem resolveAll_eq_error_iff {columns : List ColumnDefinition} {error : CompileError} :
    resolveAll columns = .error error ↔
      ∃ front column, IsFirst IsUntyped front column columns ∧
        error = .unknownType column.name column.type := by
  induction columns with
  | nil => simp [resolveAll, IsFirst]
  | cons first rest inductionHypothesis =>
    simp only [isFirst_cons_iff, resolveAll]
    split
    · rename_i reason rejected
      obtain ⟨untyped, rfl⟩ := resolve_eq_error_iff.1 rejected
      constructor
      · intro failed
        exact ⟨[], first, .inl ⟨rfl, rfl, untyped⟩, (Except.error.inj failed).symm⟩
      · rintro ⟨front, column, ⟨-, rfl, -⟩ | ⟨others, -, typed, -⟩, rfl⟩
        · rfl
        · exact absurd untyped typed
    · rename_i type resolved
      have firstGood : ¬first.IsUntyped := by
        rw [IsUntyped, resolve_eq_ok_iff.1 resolved]
        exact Option.some_ne_none type
      have failsBehind : (resolveAll rest).map ((first, type) :: ·) = .error error ↔
          resolveAll rest = .error error := by
        cases resolveAll rest <;> simp [Except.map]
      rw [failsBehind, inductionHypothesis]
      constructor
      · rintro ⟨front, column, isFirst, rfl⟩
        exact ⟨_, column, .inr ⟨front, rfl, firstGood, isFirst⟩, rfl⟩
      · rintro ⟨front, column, ⟨-, -, untyped⟩ | ⟨others, -, -, isFirst⟩, rfl⟩
        · exact absurd untyped firstGood
        · exact ⟨others, column, isFirst, rfl⟩

end ColumnDefinition

/-! ## Plans -/

/-- A planned statement is rejected with an error. -/
def FailsWith (planned : Except Fault Plan) (error : CompileError) : Prop :=
  ∃ fault, planned = .error fault ∧ fault.error = error

/-- A plan is no rejection. -/
theorem not_failsWith_ok {plan : Plan} {error : CompileError} : ¬FailsWith (.ok plan) error := by
  rintro ⟨fault, failed, -⟩
  contradiction

/-- A fault is a rejection with its error. -/
theorem failsWith_error_iff {fault : Fault} {error : CompileError} :
    FailsWith (.error fault) error ↔ fault.error = error := by
  simp [FailsWith]

/-- Compiling rejects a statement where planning does. -/
theorem compile_eq_error_iff {dialect : Dialect} {statement : Statement} {error : CompileError} :
    compile dialect statement = .error error ↔ FailsWith (statement.plan dialect) error := by
  cases planned : statement.plan dialect with
  | ok plan =>
    refine iff_of_false ?_ not_failsWith_ok
    rw [compile, Context.compile]
    simp only [Context.empty, planned]
    intro rejected
    contradiction
  | error fault =>
    rw [failsWith_error_iff, compile, Context.compile]
    simp only [Context.empty, planned, Except.error.injEq]

namespace Statement

variable {dialect : Dialect} {error : CompileError}

/-- A query fails in its conditions on rows, or else in those on groups. -/
theorem failsWith_select_iff {query : Select} :
    FailsWith (query.plan dialect) error ↔ Fails (.select query) error := by
  have checks : Fails (.select query) error ↔ Clause.check query.filters = .error error ∨
      Clause.check query.filters = .ok () ∧ Clause.check query.having = .error error := by
    rw [Clause.check_eq_error_iff, Clause.check_eq_error_iff, Clause.check_eq_ok_iff]
    constructor
    · intro fails
      cases fails with
      | filter isFirst => exact .inl ⟨_, _, isFirst, rfl⟩
      | having filters isFirst => exact .inr ⟨filters, _, _, isFirst, rfl⟩
    · rintro (⟨front, predicate, isFirst, rfl⟩ | ⟨filters, front, predicate, isFirst, rfl⟩)
      · exact .filter isFirst
      · exact .having filters isFirst
  rw [checks, Select.plan]
  cases Clause.check query.filters with
  | error filterError => simp [failsWith_error_iff]
  | ok _ =>
    cases Clause.check query.having with
    | error havingError => simp [failsWith_error_iff]
    | ok _ => simp [not_failsWith_ok]

/-- An insertion with a first row fails if that row has no columns, or else in the shape of
another row. -/
theorem fails_insert_iff {insertion : Insert} {first : Row} {others : List Row}
    (rows : insertion.rows = first :: others) :
    Fails (.insert insertion) error ↔
      first.columns = [] ∧ error = .emptyInsert insertion.table ∨
        first.columns ≠ [] ∧ ∃ front row, IsFirst (Row.Differs first.columns) front row others ∧
          error = .rowShapeMismatch insertion.table (front.length + 1) first.columns := by
  constructor
  · intro fails
    cases fails with
    | noRow noRow =>
      rw [noRow] at rows
      contradiction
    | noColumn sameRows noColumn =>
      rw [rows] at sameRows
      obtain ⟨rfl, -⟩ := List.cons.inj sameRows
      exact .inl ⟨noColumn, rfl⟩
    | shape sameRows someColumn isFirst =>
      rw [rows] at sameRows
      obtain ⟨rfl, rfl⟩ := List.cons.inj sameRows
      exact .inr ⟨someColumn, _, _, isFirst, rfl⟩
  · rintro (⟨noColumn, rfl⟩ | ⟨someColumn, front, row, isFirst, rfl⟩)
    · exact .noColumn rows noColumn
    · exact .shape rows someColumn isFirst

/-- An insertion fails for want of rows or columns, or else in the shape of a row. -/
theorem failsWith_insert_iff {insertion : Insert} :
    FailsWith (insertion.plan dialect) error ↔ Fails (.insert insertion) error := by
  rw [Insert.plan]
  split
  · rename_i noRow
    rw [failsWith_error_iff]
    constructor
    · rintro rfl
      exact .noRow noRow
    · intro fails
      cases fails with
      | noRow | noColumn => rfl
      | shape rows =>
        rw [noRow] at rows
        contradiction
  · rename_i first others rows
    have columns : first.isEmpty = true ↔ first.columns = [] := first.isEmpty_iff
    rw [fails_insert_iff rows]
    split
    · rename_i noColumn
      simp [columns.1 noColumn, failsWith_error_iff, Fault.early, eq_comm]
    · rename_i someColumn
      have found {index : Nat} :
          others.findIdx? (fun row => !Insert.fits first.columns row) = some index ↔
            ∃ front row, front.length = index ∧
              IsFirst (Row.Differs first.columns) front row others :=
        findIdx?_eq_some_iff_isFirst (Insert.fits_iff first.distinct)
      rw [columns] at someColumn
      simp only [someColumn, false_and, false_or, ne_eq, not_false_eq_true, true_and]
      split
      · rename_i index search
        rw [failsWith_error_iff]
        constructor
        · rintro rfl
          obtain ⟨front, row, rfl, isFirst⟩ := found.1 search
          exact ⟨front, row, isFirst, rfl⟩
        · rintro ⟨front, row, isFirst, rfl⟩
          have same := found.2 ⟨front, row, rfl, isFirst⟩
          rw [search] at same
          rw [Option.some.inj same]
          rfl
      · rename_i search
        refine iff_of_false not_failsWith_ok ?_
        rintro ⟨front, row, isFirst, -⟩
        have same := found.2 ⟨front, row, rfl, isFirst⟩
        rw [search] at same
        contradiction

/-- An update fails for want of assignments, or else in its conditions. -/
theorem failsWith_update_iff {change : Update} :
    FailsWith change.plan error ↔ Fails (.update change) error := by
  have columns : change.assignments.isEmpty = true ↔ change.assignments.columns = [] :=
    change.assignments.isEmpty_iff
  have checks : Fails (.update change) error ↔
      change.assignments.isEmpty = true ∧ error = .emptyUpdate change.table ∨
        ¬change.assignments.isEmpty = true ∧ Clause.check change.filters = .error error := by
    rw [columns, Clause.check_eq_error_iff]
    constructor
    · intro fails
      cases fails with
      | noAssignment noAssignment => exact .inl ⟨noAssignment, rfl⟩
      | updateFilter someAssignment isFirst => exact .inr ⟨someAssignment, _, _, isFirst, rfl⟩
    · rintro (⟨noAssignment, rfl⟩ | ⟨someAssignment, front, predicate, isFirst, rfl⟩)
      · exact .noAssignment noAssignment
      · exact .updateFilter someAssignment isFirst
  rw [checks, Update.plan]
  split
  · rename_i noAssignment
    simp [noAssignment, failsWith_error_iff, Fault.early, eq_comm]
  · rename_i someAssignment
    cases Clause.check change.filters with
    | error filterError => simp [someAssignment, failsWith_error_iff]
    | ok _ => simp [someAssignment, not_failsWith_ok]

/-- A deletion fails in its conditions. -/
theorem failsWith_delete_iff {deletion : Delete} :
    FailsWith deletion.plan error ↔ Fails (.delete deletion) error := by
  have checks : Fails (.delete deletion) error ↔ Clause.check deletion.filters = .error error := by
    rw [Clause.check_eq_error_iff]
    constructor
    · intro fails
      cases fails with
      | deleteFilter isFirst => exact ⟨_, _, isFirst, rfl⟩
    · rintro ⟨front, predicate, isFirst, rfl⟩
      exact .deleteFilter isFirst
  rw [checks, Delete.plan]
  cases Clause.check deletion.filters with
  | error filterError => simp [failsWith_error_iff, Fault.early]
  | ok _ => simp [not_failsWith_ok]

/-- A CREATE TABLE fails for want of columns, or else in the type of one. -/
theorem failsWith_createTable_iff {table : CreateTable} :
    FailsWith (table.plan dialect) error ↔ Fails (.createTable table) error := by
  have types : Fails (.createTable table) error ↔
      table.columns = [] ∧ error = .emptyTable table.name ∨
        ColumnDefinition.resolveAll table.columns = .error error := by
    rw [ColumnDefinition.resolveAll_eq_error_iff]
    constructor
    · intro fails
      cases fails with
      | noDefinition noDefinition => exact .inl ⟨noDefinition, rfl⟩
      | columnType isFirst => exact .inr ⟨_, _, isFirst, rfl⟩
    · rintro (⟨noDefinition, rfl⟩ | ⟨front, column, isFirst, rfl⟩)
      · exact .noDefinition noDefinition
      · exact .columnType isFirst
  rw [types, CreateTable.plan]
  split
  · rename_i noDefinition
    rw [List.isEmpty_iff] at noDefinition
    simp [noDefinition, ColumnDefinition.resolveAll, failsWith_error_iff, Fault.early, eq_comm]
  · rename_i someDefinition
    rw [List.isEmpty_iff] at someDefinition
    cases ColumnDefinition.resolveAll table.columns with
    | error typeError => simp [someDefinition, failsWith_error_iff, Fault.early]
    | ok typed => simp [someDefinition, not_failsWith_ok]

/-- An ALTER TABLE fails in the type of an added column. -/
theorem failsWith_alterTable_iff {alteration : AlterTable} :
    FailsWith (alteration.plan dialect) error ↔ Fails (.alterTable alteration) error := by
  have types : Fails (.alterTable alteration) error ↔
      ColumnDefinition.resolveAll alteration.addColumns = .error error := by
    rw [ColumnDefinition.resolveAll_eq_error_iff]
    constructor
    · intro fails
      cases fails with
      | addedType isFirst => exact ⟨_, _, isFirst, rfl⟩
    · rintro ⟨front, column, isFirst, rfl⟩
      exact .addedType isFirst
  rw [types, AlterTable.plan]
  cases ColumnDefinition.resolveAll alteration.addColumns with
  | error typeError => simp [failsWith_error_iff, Fault.early]
  | ok typed => simp [not_failsWith_ok]

/-- A statement is rejected for what it fails in, whatever the dialect. -/
theorem failsWith_plan_iff {statement : Statement} :
    FailsWith (statement.plan dialect) error ↔ statement.Fails error := by
  cases statement with
  | select query => exact failsWith_select_iff
  | insert insertion => exact failsWith_insert_iff
  | update change => exact failsWith_update_iff
  | delete deletion => exact failsWith_delete_iff
  | createTable table => exact failsWith_createTable_iff
  | alterTable alteration => exact failsWith_alterTable_iff
  | dropTable removal => exact iff_of_false not_failsWith_ok nofun

/-- The statements that fail in something are the malformed ones. -/
theorem exists_fails_iff {statement : Statement} :
    (∃ error, statement.Fails error) ↔ statement.IsMalformed := by
  constructor
  · rintro ⟨error, fails⟩
    cases fails with
    | filter isFirst =>
      obtain ⟨predicate, listed, offends⟩ := isFirst.exists_mem
      exact ⟨predicate, List.mem_append_left _ listed, offends⟩
    | having _ isFirst =>
      obtain ⟨predicate, listed, offends⟩ := isFirst.exists_mem
      exact ⟨predicate, List.mem_append_right _ listed, offends⟩
    | noRow noRow => rw [IsMalformed, noRow]; trivial
    | noColumn rows noColumn => rw [IsMalformed, rows]; exact .inl noColumn
    | shape rows _ isFirst => rw [IsMalformed, rows]; exact .inr isFirst.exists_mem
    | noAssignment noAssignment => exact .inl noAssignment
    | updateFilter _ isFirst => exact .inr isFirst.exists_mem
    | deleteFilter isFirst => exact isFirst.exists_mem
    | noDefinition noDefinition => exact .inl noDefinition
    | columnType isFirst => exact .inr isFirst.exists_mem
    | addedType isFirst => exact isFirst.exists_mem
  · intro malformed
    cases statement with
    | select query =>
      obtain ⟨predicate, listed, offends⟩ := malformed
      by_cases inFilters : ∃ other ∈ query.filters, other.Offends
      · obtain ⟨front, first, isFirst⟩ := exists_isFirst inFilters
        exact ⟨_, .filter isFirst⟩
      · have filters : ∀ other ∈ query.filters, ¬other.Offends := fun other isFilter otherOffends =>
          inFilters ⟨other, isFilter, otherOffends⟩
        have inHaving : predicate ∈ query.having :=
          (List.mem_append.1 listed).resolve_left fun isFilter => filters _ isFilter offends
        obtain ⟨front, first, isFirst⟩ := exists_isFirst ⟨predicate, inHaving, offends⟩
        exact ⟨_, .having filters isFirst⟩
    | insert insertion =>
      rw [IsMalformed] at malformed
      split at malformed
      · rename_i noRow
        exact ⟨_, .noRow noRow⟩
      · rename_i first others rows
        by_cases someColumn : first.columns = []
        · exact ⟨_, .noColumn rows someColumn⟩
        · obtain ⟨front, row, isFirst⟩ :=
            exists_isFirst (malformed.resolve_left someColumn)
          exact ⟨_, .shape rows someColumn isFirst⟩
    | update change =>
      by_cases someAssignment : change.assignments.columns = []
      · exact ⟨_, .noAssignment someAssignment⟩
      · obtain ⟨front, predicate, isFirst⟩ :=
          exists_isFirst (malformed.resolve_left someAssignment)
        exact ⟨_, .updateFilter someAssignment isFirst⟩
    | delete deletion =>
      obtain ⟨front, predicate, isFirst⟩ := exists_isFirst malformed
      exact ⟨_, .deleteFilter isFirst⟩
    | createTable table =>
      rcases malformed with noDefinition | someUntyped
      · exact ⟨_, .noDefinition noDefinition⟩
      · obtain ⟨front, column, isFirst⟩ := exists_isFirst someUntyped
        exact ⟨_, .columnType isFirst⟩
    | alterTable alteration =>
      obtain ⟨front, column, isFirst⟩ := exists_isFirst malformed
      exact ⟨_, .addedType isFirst⟩
    | dropTable removal => exact malformed.elim

end Statement

/-- In every dialect, the statements that are rejected are the malformed ones, and they are
rejected for what they fail in. -/
theorem compile_verdict (dialect : Dialect) (statement : Statement) :
    ((∃ error, compile dialect statement = .error error) ↔ statement.IsMalformed) ∧
      ∀ error, compile dialect statement = .error error ↔ statement.Fails error := by
  simp only [compile_eq_error_iff, Statement.failsWith_plan_iff, Statement.exists_fails_iff,
    implies_true, and_self]

end NeutralSql
