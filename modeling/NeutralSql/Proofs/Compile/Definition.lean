import NeutralSql.Compile.Definition
import NeutralSql.Proofs.Compile.Run

/-!
# The plans of statements on schemas

What CREATE TABLE and ALTER TABLE finish and record, list by list: one statement or one
diagnostic for each constraint that is added to an existing table, one statement for each
column and each index. Their templates have no slots.
-/

namespace NeutralSql

open Template (text)

namespace ColumnDefinition

/-- A column is resolved to the type that its text denotes. -/
theorem resolve_eq_ok_iff {column : ColumnDefinition} {type : LogicalType} :
    column.resolve = .ok type ↔ column.logicalType? = some type := by
  rw [resolve]
  split
  · rename_i unknown
    simp [unknown]
  · rename_i known
    simp [known]

/-- A column is rejected if its text denotes no type, and the error tells both. -/
theorem resolve_eq_error_iff {column : ColumnDefinition} {error : CompileError} :
    column.resolve = .error error ↔
      column.logicalType? = none ∧ error = .unknownType column.name column.type := by
  rw [resolve]
  split
  · rename_i unknown
    simp [unknown, eq_comm]
  · rename_i known
    simp [known]

/-- Columns have types if the first one has a type and the others do. -/
theorem resolveAll_cons_eq_ok {column : ColumnDefinition} {rest : List ColumnDefinition}
    {typed : List (ColumnDefinition × LogicalType)}
    (resolved : resolveAll (column :: rest) = .ok typed) :
    ∃ type others, column.logicalType? = some type ∧ resolveAll rest = .ok others ∧
      typed = (column, type) :: others := by
  rw [resolveAll] at resolved
  split at resolved
  · exact nomatch resolved
  · rename_i type known
    cases others : resolveAll rest with
    | error error =>
      rw [others] at resolved
      exact nomatch resolved
    | ok otherTyped =>
      rw [others] at resolved
      exact ⟨type, otherTyped, resolve_eq_ok_iff.1 known, rfl, (Except.ok.inj resolved).symm⟩

/-- Resolving types keeps the columns in order. -/
theorem columns_of_resolveAll {columns : List ColumnDefinition}
    {typed : List (ColumnDefinition × LogicalType)} (resolved : resolveAll columns = .ok typed) :
    typed.map Prod.fst = columns := by
  induction columns generalizing typed with
  | nil =>
    obtain rfl := Except.ok.inj resolved
    rfl
  | cons column rest inductionHypothesis =>
    obtain ⟨type, others, -, otherTypes, rfl⟩ := resolveAll_cons_eq_ok resolved
    exact congrArg (column :: ·) (inductionHypothesis otherTypes)

/-- Every column is resolved to its own type. -/
theorem logicalType?_of_resolveAll {columns : List ColumnDefinition}
    {typed : List (ColumnDefinition × LogicalType)} (resolved : resolveAll columns = .ok typed) :
    ∀ column ∈ typed, column.1.logicalType? = some column.2 := by
  induction columns generalizing typed with
  | nil =>
    obtain rfl := Except.ok.inj resolved
    exact fun _ => nofun
  | cons column rest inductionHypothesis =>
    obtain ⟨type, others, known, otherTypes, rfl⟩ := resolveAll_cons_eq_ok resolved
    exact List.forall_mem_cons.2 ⟨known, inductionHypothesis otherTypes⟩

/-- A change of columns that leaves their names and types alone commutes with resolving. -/
theorem resolveAll_map (change : ColumnDefinition → ColumnDefinition)
    (name : ∀ column, (change column).name = column.name)
    (type : ∀ column, (change column).type = column.type)
    (logicalType : ∀ column, (change column).logicalType? = column.logicalType?)
    (columns : List ColumnDefinition) :
    resolveAll (columns.map change) =
      (resolveAll columns).map (·.map fun typed => (change typed.1, typed.2)) := by
  induction columns with
  | nil => rfl
  | cons column rest inductionHypothesis =>
    have same : (change column).resolve = column.resolve := by
      rw [resolve, resolve, logicalType, name, type]
    rw [List.map_cons, resolveAll, resolveAll, same, inductionHypothesis]
    cases column.resolve with
    | error error => rfl
    | ok resolved => cases resolveAll rest <;> rfl

end ColumnDefinition

/-- A CREATE TABLE that has a plan has columns of known types. It finishes the table behind
the diagnostics of its columns, and then its indexes. -/
theorem CreateTable.plan_eq {dialect : Dialect} {table : CreateTable} {plan : Plan}
    (planned : table.plan dialect = .ok plan) :
    ∃ typed, table.columns ≠ [] ∧ ColumnDefinition.resolveAll table.columns = .ok typed ∧
      plan = Plan.single
          (table.columns.flatMap fun column => column.definitionNotes dialect (table.isKey column))
          (text (dialect.createTableHead table.name table.ifNotExists ++ " " ++
            columnList (table.body dialect typed))) ++
        (table.indexStatements dialect).map fun statement => .finish (text statement) := by
  rw [CreateTable.plan] at planned
  split at planned
  · contradiction
  · rename_i someColumn
    split at planned
    · contradiction
    · rename_i typed resolved
      refine ⟨typed, ?_, resolved, (Except.ok.inj planned).symm⟩
      rwa [List.isEmpty_iff] at someColumn

/-- An ALTER TABLE that has a plan adds columns of known types, and then constraints. -/
theorem AlterTable.plan_eq {dialect : Dialect} {alteration : AlterTable} {plan : Plan}
    (planned : alteration.plan dialect = .ok plan) :
    ∃ typed, ColumnDefinition.resolveAll alteration.addColumns = .ok typed ∧
      plan = typed.flatMap (columnSteps dialect alteration.table) ++
        constraintSteps dialect alteration.table alteration.addConstraints := by
  rw [AlterTable.plan] at planned
  split at planned
  · contradiction
  · rename_i typed resolved
    exact ⟨typed, resolved, (Except.ok.inj planned).symm⟩

namespace AlterTable

variable (dialect : Dialect) (table : String)

/-- Adding a column records what becomes of it, and finishes one statement. -/
@[simp] theorem notes_columnSteps (typed : ColumnDefinition × LogicalType) :
    (columnSteps dialect table typed).notes = columnNotes dialect typed.1 :=
  Plan.notes_single _ _

@[simp] theorem templates_columnSteps (typed : ColumnDefinition × LogicalType) :
    (columnSteps dialect table typed).templates =
      [text ("ALTER TABLE " ++ table ++ " " ++ dialect.addColumnClause ++ " " ++
        (addedColumn dialect typed.1).definition dialect typed.2 false)] :=
  Plan.templates_single _ _

section Constraints

variable {α : Type} (items : List α) (name clause : α → String)

/-- Of constraints that a dialect cannot add, each one is recorded as left out. -/
theorem notes_constraintStep :
    Plan.notes (items.map fun item => constraintStep dialect table (name item) (clause item)) =
      if dialect.supports .alterAddConstraint then []
      else items.map fun item => .constraintSkipped dialect (clause item) := by
  induction items with
  | nil => split <;> rfl
  | cons item rest inductionHypothesis =>
    rw [List.map_cons, constraintStep]
    split at inductionHypothesis
    · rename_i supported
      rw [if_pos supported, if_pos supported]
      exact inductionHypothesis
    · rename_i unsupported
      rw [if_neg unsupported, if_neg unsupported]
      exact congrArg (_ :: ·) inductionHypothesis

/-- Of constraints that a dialect can add, each one becomes a statement. -/
theorem templates_constraintStep :
    Plan.templates (items.map fun item => constraintStep dialect table (name item) (clause item)) =
      if dialect.supports .alterAddConstraint then
        items.map fun item => text
          ("ALTER TABLE " ++ table ++ " ADD CONSTRAINT " ++ name item ++ " " ++ clause item)
      else [] := by
  induction items with
  | nil => split <;> rfl
  | cons item rest inductionHypothesis =>
    rw [List.map_cons, constraintStep]
    split at inductionHypothesis
    · rename_i supported
      rw [if_pos supported, if_pos supported]
      exact congrArg (_ :: ·) inductionHypothesis
    · rename_i unsupported
      rw [if_neg unsupported, if_neg unsupported]
      exact inductionHypothesis

end Constraints

/-- The constraints of a change leave a diagnostic for its primary key, and for each of the
others unless the dialect can add them. -/
theorem notes_constraintSteps (constraints : Constraints) :
    (constraintSteps dialect table constraints).notes =
      constraints.primaryKey.toList.map (fun columns =>
        .primaryKeySkipped (primaryKeyClause columns)) ++
      (if dialect.supports .alterAddConstraint then []
        else constraints.unique.map fun columns =>
          .constraintSkipped dialect (uniqueClause columns)) ++
      if dialect.supports .alterAddConstraint then []
      else constraints.foreignKeys.map fun foreignKey =>
        .constraintSkipped dialect foreignKey.clause := by
  rw [constraintSteps, Plan.notes_append, Plan.notes_append, Plan.notes_append,
    notes_constraintStep, notes_constraintStep, Plan.notes_map_finish, List.append_nil]
  cases constraints.primaryKey <;> rfl

/-- They finish a statement for each constraint that the dialect can add, and one for each
index. -/
theorem templates_constraintSteps (constraints : Constraints) :
    (constraintSteps dialect table constraints).templates =
      (if dialect.supports .alterAddConstraint then
        constraints.unique.map fun columns => text
          ("ALTER TABLE " ++ table ++ " ADD CONSTRAINT " ++ uniqueName table columns ++ " " ++
            uniqueClause columns)
        else []) ++
      (if dialect.supports .alterAddConstraint then
        constraints.foreignKeys.map fun foreignKey => text
          ("ALTER TABLE " ++ table ++ " ADD CONSTRAINT " ++ foreignKeyName table foreignKey ++
            " " ++ foreignKey.clause)
        else []) ++
      constraints.indexes.map fun index => text (dialect.createIndex table index false) := by
  rw [constraintSteps, Plan.templates_append, Plan.templates_append, Plan.templates_append,
    templates_constraintStep, templates_constraintStep, Plan.templates_map_finish]
  cases constraints.primaryKey <;> rfl

/-- The statements that add constraints have no slots. -/
theorem values_constraintSteps (constraints : Constraints) :
    ∀ template ∈ (constraintSteps dialect table constraints).templates,
      Template.values template = [] := by
  have ofTexts {α : Type} (items : List α) (sql : α → String) :
      ∀ template ∈ items.map fun item => text (sql item), Template.values template = [] :=
    List.forall_mem_map.2 fun _ _ => rfl
  rw [templates_constraintSteps, List.forall_mem_append, List.forall_mem_append]
  split
  · exact ⟨⟨ofTexts _ _, ofTexts _ _⟩, ofTexts _ _⟩
  · exact ⟨⟨ofTexts [] id, ofTexts [] id⟩, ofTexts _ _⟩

end AlterTable

end NeutralSql
