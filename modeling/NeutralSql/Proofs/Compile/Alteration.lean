import NeutralSql.Proofs.Compile.TableLayout

/-!
# Changes of existing tables

An ALTER TABLE asks for columns, a primary key and further constraints. Each of these changes
has one outcome: a statement of its own, or a diagnostic that names the clause which is left
out. What an ALTER TABLE makes are the outcomes of its changes, one after the other and each of
them once. `AlterTable.compile_accounted` says so, and that a column which should refuse null is
declared that way or reported once.
-/

namespace NeutralSql

open Template (text)

namespace ColumnDefinition

/-- The modifiers by which a column refuses null. -/
def refusals : List String :=
  ["NOT NULL", "NOT NULL AUTO_INCREMENT", "IDENTITY(1,1) NOT NULL"]

/-- A modifier makes a column refuse null. -/
def refusesNull (modifier : String) : Bool :=
  refusals.contains modifier

end ColumnDefinition

namespace Diagnostic

/-- The clause that a diagnostic reports as left out. -/
def skipped? (diagnostic : Diagnostic) : Option String :=
  match diagnostic.kind with
  | .constraintSkipped clause => some clause
  | _ => none

/-- The column that a diagnostic reports as accepting null. -/
def downgraded? (diagnostic : Diagnostic) : Option String :=
  match diagnostic.kind with
  | .nullabilityDowngraded column => some column
  | _ => none

end Diagnostic

namespace AlterTable

/-- One of the changes that an ALTER TABLE asks for. -/
inductive Change where
  | addColumn (column : ColumnDefinition × LogicalType)
  | setPrimaryKey (columns : List String)
  | addUnique (columns : List String)
  | addForeignKey (foreignKey : ForeignKey)
  | addIndex (index : IndexDefinition)

/-- What becomes of a change. -/
inductive Outcome where
  /-- It has a statement of its own. -/
  | statement (sql : String)
  /-- It is left out, and a diagnostic names its clause. -/
  | skipped (clause : String)

/-- The text of the statement, if there is one. -/
def Outcome.statement? : Outcome → Option String
  | .statement sql => some sql
  | .skipped _ => none

/-- The clause that is left out, if one is. -/
def Outcome.skipped? : Outcome → Option String
  | .statement _ => none
  | .skipped clause => some clause

/-- The modifiers of an added column. -/
def modifiers (dialect : Dialect) (column : ColumnDefinition × LogicalType) : List String :=
  (addedColumn dialect column.1).modifiers dialect column.2 false

/-- A constraint is added under a name where the dialect can do so. -/
def addition (dialect : Dialect) (table name clause : String) : Outcome :=
  if dialect.supports .alterAddConstraint then
    .statement ("ALTER TABLE " ++ table ++ " ADD CONSTRAINT " ++ name ++ " " ++ clause)
  else .skipped clause

/-- The outcome of a change. -/
def Change.outcome (dialect : Dialect) (table : String) : Change → Outcome
  | .addColumn column =>
    .statement ("ALTER TABLE " ++ table ++ " " ++ dialect.addColumnClause ++ " " ++
      String.intercalate " " (column.1.name :: modifiers dialect column))
  | .setPrimaryKey columns => .skipped (primaryKeyClause columns)
  | .addUnique columns => addition dialect table (uniqueName table columns) (uniqueClause columns)
  | .addForeignKey foreignKey =>
    addition dialect table (foreignKeyName table foreignKey) foreignKey.clause
  | .addIndex index => .statement (dialect.createIndex table index false)

/-- The changes of constraints, each kind in order. -/
def constraintChanges (constraints : Constraints) : List Change :=
  constraints.primaryKey.toList.map .setPrimaryKey ++ constraints.unique.map .addUnique ++
    constraints.foreignKeys.map .addForeignKey ++ constraints.indexes.map .addIndex

/-- An added column should refuse null, has no default for the rows that are there, and is
declared neither that way nor with a serial type, which refuses null by itself. -/
def acceptsNull (dialect : Dialect) (column : ColumnDefinition × LogicalType) : Bool :=
  !column.1.nullable && column.1.default.isNone &&
    !(modifiers dialect column).any ColumnDefinition.refusesNull &&
    !(column.1.autoIncrement && dialect = .postgresql)

/-- The statements of an ALTER TABLE and the diagnostics that it has left waiting, with the
added columns and their types. -/
structure IsAccounted (dialect : Dialect) (alteration : AlterTable) (compiled : List Compiled)
    (waiting : List Diagnostic) (typed : List (ColumnDefinition × LogicalType)) : Prop where
  columns : typed.map Prod.fst = alteration.addColumns
  types : ∀ column ∈ typed, column.1.logicalType? = some column.2
  /-- The statements are those of the changes, in order and without values. -/
  statements : compiled.map Compiled.bare =
    ((typed.map Change.addColumn ++ constraintChanges alteration.addConstraints).filterMap
      fun change => (change.outcome dialect alteration.table).statement?).map
        fun sql => .ofParts sql []
  /-- The clauses reported as left out are those of the other changes, in order. -/
  skipped : (compiled.flatMap Compiled.diagnostics ++ waiting).filterMap Diagnostic.skipped? =
    (typed.map Change.addColumn ++ constraintChanges alteration.addConstraints).filterMap
      fun change => (change.outcome dialect alteration.table).skipped?
  /-- No change is lost, and none has two outcomes. -/
  total : compiled.length +
      ((compiled.flatMap Compiled.diagnostics ++ waiting).filterMap Diagnostic.skipped?).length =
    (typed.map Change.addColumn ++ constraintChanges alteration.addConstraints).length
  /-- The columns reported as accepting null are those that should not but do. -/
  downgraded : (compiled.flatMap Compiled.diagnostics ++ waiting).filterMap
      Diagnostic.downgraded? =
    (typed.filter (acceptsNull dialect)).map fun column => column.1.name
  serial : dialect = .postgresql → ∀ column ∈ typed, column.1.autoIncrement = true →
    modifiers dialect column = [if column.2 = .bigInteger then "BIGSERIAL" else "SERIAL"]

/-! ## Outcomes -/

section Outcomes

variable (dialect : Dialect) (table : String)

/-- There are as many statements and clauses left out as there are changes. -/
theorem length_outcomes (changes : List Change) :
    (changes.filterMap fun change => (change.outcome dialect table).statement?).length +
        (changes.filterMap fun change => (change.outcome dialect table).skipped?).length =
      changes.length := by
  induction changes with
  | nil => rfl
  | cons change rest inductionHypothesis =>
    cases outcome : change.outcome dialect table with
    | statement sql =>
      have hasOne : (change.outcome dialect table).statement? = some sql := by rw [outcome]; rfl
      have lacksOther : (change.outcome dialect table).skipped? = none := by rw [outcome]; rfl
      simp only [List.filterMap_cons, hasOne, lacksOther, List.length_cons]
      omega
    | skipped clause =>
      have hasOne : (change.outcome dialect table).skipped? = some clause := by rw [outcome]; rfl
      have lacksOther : (change.outcome dialect table).statement? = none := by rw [outcome]; rfl
      simp only [List.filterMap_cons, hasOne, lacksOther, List.length_cons]
      omega

/-- Added columns have a statement each. -/
theorem statements_columns (typed : List (ColumnDefinition × LogicalType)) :
    ((typed.map Change.addColumn).filterMap fun change =>
        (change.outcome dialect table).statement?).map text =
      Plan.templates (typed.flatMap (columnSteps dialect table)) := by
  induction typed with
  | nil => rfl
  | cons first rest inductionHypothesis =>
    rw [List.flatMap_cons, Plan.templates_append, templates_columnSteps, ← inductionHypothesis]
    rfl

/-- No added column is left out. -/
theorem skipped_columns (typed : List (ColumnDefinition × LogicalType)) :
    ((typed.map Change.addColumn).filterMap fun change =>
      (change.outcome dialect table).skipped?) = [] := by
  rw [List.filterMap_map]
  exact List.filterMap_eq_nil_iff.2 fun _ _ => rfl

section Additions

variable {α : Type} (items : List α) (change : α → Change) (name clause : α → String)
  (isAddition : ∀ item,
    (change item).outcome dialect table = addition dialect table (name item) (clause item))

include isAddition

/-- Constraints of one kind have a statement each where the dialect can add them. -/
theorem statements_additions :
    ((items.map change).filterMap fun change => (change.outcome dialect table).statement?) =
      if dialect.supports .alterAddConstraint then
        items.map fun item =>
          "ALTER TABLE " ++ table ++ " ADD CONSTRAINT " ++ name item ++ " " ++ clause item
      else [] := by
  rw [List.filterMap_map]
  split
  · rename_i supported
    rw [← List.filterMap_eq_map]
    refine List.filterMap_congr fun item _ => ?_
    simp [isAddition, addition, supported, Outcome.statement?]
  · rename_i unsupported
    refine List.filterMap_eq_nil_iff.2 fun item _ => ?_
    simp [isAddition, addition, unsupported, Outcome.statement?]

/-- Elsewhere each of them is left out. -/
theorem skipped_additions :
    ((items.map change).filterMap fun change => (change.outcome dialect table).skipped?) =
      if dialect.supports .alterAddConstraint then [] else items.map clause := by
  rw [List.filterMap_map]
  split
  · rename_i supported
    refine List.filterMap_eq_nil_iff.2 fun item _ => ?_
    simp [isAddition, addition, supported, Outcome.skipped?]
  · rename_i unsupported
    rw [← List.filterMap_eq_map]
    refine List.filterMap_congr fun item _ => ?_
    simp [isAddition, addition, unsupported, Outcome.skipped?]

end Additions

variable (constraints : Constraints)

/-- The statements of constraints are the texts that their steps finish. -/
theorem statements_constraintChanges :
    ((constraintChanges constraints).filterMap fun change =>
        (change.outcome dialect table).statement?).map text =
      (constraintSteps dialect table constraints).templates := by
  have key : (constraints.primaryKey.toList.map Change.setPrimaryKey).filterMap
      (fun change => (change.outcome dialect table).statement?) = [] := by
    cases constraints.primaryKey <;> rfl
  have unique := statements_additions dialect table constraints.unique Change.addUnique
    (uniqueName table) uniqueClause fun _ => rfl
  have foreignKeys := statements_additions dialect table constraints.foreignKeys
    Change.addForeignKey (foreignKeyName table) ForeignKey.clause fun _ => rfl
  have indexes : (constraints.indexes.map Change.addIndex).filterMap
      (fun change => (change.outcome dialect table).statement?) =
        constraints.indexes.map fun index => dialect.createIndex table index false := by
    rw [List.filterMap_map, ← List.filterMap_eq_map]
    rfl
  rw [constraintChanges, List.filterMap_append, List.filterMap_append, List.filterMap_append, key,
    unique, foreignKeys, indexes, templates_constraintSteps, List.nil_append, List.map_append,
    List.map_append]
  split <;> simp only [List.map_map, List.map_nil, Function.comp_def]

/-- The clauses of the others are those that their steps report. -/
theorem skipped_constraintChanges :
    (constraintSteps dialect table constraints).notes.filterMap Diagnostic.skipped? =
      (constraintChanges constraints).filterMap fun change =>
        (change.outcome dialect table).skipped? := by
  have unique := skipped_additions dialect table constraints.unique Change.addUnique
    (uniqueName table) uniqueClause fun _ => rfl
  have foreignKeys := skipped_additions dialect table constraints.foreignKeys
    Change.addForeignKey (foreignKeyName table) ForeignKey.clause fun _ => rfl
  have indexes : (constraints.indexes.map Change.addIndex).filterMap
      (fun change => (change.outcome dialect table).skipped?) = [] := by
    rw [List.filterMap_map]
    exact List.filterMap_eq_nil_iff.2 fun _ _ => rfl
  have reported {α : Type} (items : List α) (clause : α → String) :
      (items.map fun item => Diagnostic.constraintSkipped dialect (clause item)).filterMap
        Diagnostic.skipped? = items.map clause := by
    rw [List.filterMap_map, ← List.filterMap_eq_map]
    rfl
  rw [constraintChanges, List.filterMap_append, List.filterMap_append, List.filterMap_append,
    unique, foreignKeys, indexes, notes_constraintSteps, List.filterMap_append,
    List.filterMap_append, List.append_nil]
  have key : (constraints.primaryKey.toList.map fun columns =>
        Diagnostic.primaryKeySkipped (primaryKeyClause columns)).filterMap Diagnostic.skipped? =
      (constraints.primaryKey.toList.map Change.setPrimaryKey).filterMap
        fun change => (change.outcome dialect table).skipped? := by
    cases constraints.primaryKey <;> rfl
  rw [key]
  split
  · rfl
  · rw [reported, reported]

/-- Constraints say nothing about columns that accept null. -/
theorem downgraded_constraintSteps :
    (constraintSteps dialect table constraints).notes.filterMap Diagnostic.downgraded? = [] := by
  rw [notes_constraintSteps]
  refine List.filterMap_eq_nil_iff.2 fun diagnostic recorded => ?_
  simp only [List.mem_append, List.mem_map, List.mem_ite_nil_left] at recorded
  obtain (⟨_, -, rfl⟩ | ⟨-, _, -, rfl⟩) | ⟨-, _, -, rfl⟩ := recorded
  · rfl
  · rfl
  · rfl

end Outcomes

/-! ## Columns that should refuse null -/

end AlterTable

namespace ColumnDefinition

/-- A native type refuses nothing. -/
theorem refusesNull_native (dialect : Dialect) (type : LogicalType) :
    refusesNull (type.native dialect) = false := by
  have sized (name : String) (sizes : List UInt32) :
      refusesNull (LogicalType.sized name sizes) = false := by
    -- Sizes end with a parenthesis, and no refusal does.
    have ends : (LogicalType.sized name sizes).toList.getLast? = some ')' := by
      rw [LogicalType.sized, String.toList_append]
      exact List.getLast?_concat
    have others : ∀ refusal ∈ refusals, refusal.toList.getLast? ≠ some ')' := by
      decide
    rw [refusesNull, Bool.eq_false_iff, ne_eq, List.contains_iff_mem]
    exact fun listed => others _ listed ends
  cases dialect <;> cases type <;> first | exact sized _ _ | decide

end ColumnDefinition

namespace AlterTable

open ColumnDefinition (refusesNull refusesNull_native)

section Columns

variable (dialect : Dialect) (column : ColumnDefinition) (type : LogicalType)

/-- Only SQLite adds another column than the one that is asked for. -/
theorem addedColumn_of_ne_sqlite (other : dialect ≠ .sqlite) :
    addedColumn dialect column = column := by
  rw [addedColumn_eq, downgradedColumn]
  cases dialect with
  | sqlite => contradiction
  | postgresql | mysql | mssql =>
    simp [Dialect.supports, Dialect.capabilities]

/-- On PostgreSQL, an added column that numbers its rows has a serial type. -/
theorem modifiers_serial (numbered : column.autoIncrement = true) :
    modifiers .postgresql (column, type) =
      [if type = .bigInteger then "BIGSERIAL" else "SERIAL"] := by
  rw [modifiers, addedColumn_of_ne_sqlite .postgresql column (by decide),
    ColumnDefinition.modifiers, ColumnDefinition.numberedForm?, if_pos numbered]
  rfl

/-- A column that has to refuse null is added as such in the dialects that can do so without a
default, by its modifiers or by its serial type. -/
theorem refuses_of_ne_sqlite (other : dialect ≠ .sqlite) (refusing : column.nullable = false) :
    ((modifiers dialect (column, type)).any refusesNull ||
      column.autoIncrement && dialect = .postgresql) = true := by
  rw [modifiers, addedColumn_of_ne_sqlite dialect column other, ColumnDefinition.modifiers,
    ColumnDefinition.numberedForm?]
  cases column.autoIncrement with
  | false =>
    have listed : "NOT NULL" ∈ column.plainForm dialect type false := by
      simp [ColumnDefinition.plainForm, refusing]
    have refuses : (column.plainForm dialect type false).any refusesNull = true :=
      List.any_eq_true.2 ⟨_, listed, by decide⟩
    simp [refuses]
  | true =>
    cases dialect with
    | sqlite => contradiction
    | postgresql => simp
    | mysql => simp [Dialect.capabilities, refusesNull, ColumnDefinition.refusals]
    | mssql => simp [Dialect.capabilities, refusesNull, ColumnDefinition.refusals]

/-- SQLite adds a column without a default as a nullable one. -/
theorem modifiers_sqlite (unset : column.default = none) :
    modifiers .sqlite (column, type) = [type.native .sqlite] := by
  have numbering : (addedColumn .sqlite column).autoIncrement = false := by
    rw [addedColumn_eq, downgradedColumn]
    exact Bool.and_false _
  have nullability : (addedColumn .sqlite column).nullable = true := by
    rw [addedColumn_eq, downgradedColumn, unset]
    exact Bool.or_true _
  have noDefault : (addedColumn .sqlite column).default = none := unset
  simp [modifiers, ColumnDefinition.modifiers, ColumnDefinition.numberedForm?,
    ColumnDefinition.plainForm, numbering, nullability, noDefault]

/-- An added column accepts null against its definition exactly where the dialect needs a
default for it. -/
theorem acceptsNull_eq : acceptsNull dialect (column, type) = losesNotNull dialect column := by
  rw [acceptsNull, losesNotNull]
  cases refusing : column.nullable with
  | true => rfl
  | false =>
    cases unset : column.default with
    | some value => rfl
    | none =>
      by_cases isSqlite : dialect = .sqlite
      · subst isSqlite
        rw [modifiers_sqlite column type unset, List.any_cons, refusesNull_native]
        simp [Dialect.supports, Dialect.capabilities]
      · have refuses := refuses_of_ne_sqlite dialect column type isSqlite refusing
        have supported : dialect.supports .addNotNullWithoutDefault = true := by
          cases dialect <;> first | rfl | contradiction
        rw [Bool.or_eq_true] at refuses
        rcases refuses with byModifier | bySerial
        · simp [byModifier, supported]
        · simp [bySerial, supported]

/-- What is recorded for an added column. -/
theorem columnNotes_cases :
    columnNotes dialect column =
      (if losesAutoIncrement dialect column then
        [.autoIncrementOnExisting dialect column.name] else []) ++
      if losesNotNull dialect column then [.nullabilityDowngraded dialect column.name] else [] := by
  rw [columnNotes, addedColumn_eq, definitionNotes_downgradedColumn, List.append_nil]

/-- An added column is reported as accepting null if it does so against its definition. -/
theorem downgraded_columnNotes :
    (columnNotes dialect column).filterMap Diagnostic.downgraded? =
      if acceptsNull dialect (column, type) then [column.name] else [] := by
  rw [acceptsNull_eq, columnNotes_cases]
  cases losesAutoIncrement dialect column <;> cases losesNotNull dialect column <;> rfl

/-- No constraint is reported for an added column. -/
theorem skipped_columnNotes :
    (columnNotes dialect column).filterMap Diagnostic.skipped? = [] := by
  rw [columnNotes_cases]
  cases losesAutoIncrement dialect column <;> cases losesNotNull dialect column <;> rfl

end Columns

/-! ## Whole changes -/

/-- The columns reported by the steps of added columns are those that accept null. -/
theorem downgraded_flatMap_columnNotes (dialect : Dialect)
    (typed : List (ColumnDefinition × LogicalType)) :
    (typed.flatMap fun column => columnNotes dialect column.1).filterMap Diagnostic.downgraded? =
      (typed.filter (acceptsNull dialect)).map fun column => column.1.name := by
  induction typed with
  | nil => rfl
  | cons first rest inductionHypothesis =>
    obtain ⟨column, type⟩ := first
    rw [List.flatMap_cons, List.filterMap_append, inductionHypothesis,
      downgraded_columnNotes dialect column type, List.filter_cons]
    split <;> rfl

/-- An ALTER TABLE that compiles on its own gives every change its one outcome, in order: a
statement without values, or a diagnostic that it is left out. Of the columns that should refuse
null and have no default, those are reported, each of them once, that are declared neither that
way nor with a serial type. -/
theorem compile_accounted {dialect : Dialect} {alteration : AlterTable}
    {compiled : List Compiled} {after : Context}
    (accepted : (Context.empty dialect).compile (.alterTable alteration) = (.ok compiled, after)) :
    ∃ typed, alteration.IsAccounted dialect compiled after.pending typed := by
  obtain ⟨plan, planned, ran⟩ := Context.run_of_compile accepted
  obtain ⟨typed, resolved, steps⟩ := AlterTable.plan_eq planned
  have unbound : (Context.empty dialect).params = [] := rfl
  have made := Context.bare_run plan unbound
  have reported := (Context.empty dialect).diagnostics_run plan
  rw [ran, steps] at made reported
  have statements : compiled.map Compiled.bare =
      ((typed.map Change.addColumn ++ constraintChanges alteration.addConstraints).filterMap
        fun change => (change.outcome dialect alteration.table).statement?).map
          fun sql => .ofParts sql [] := by
    rw [made, Plan.templates_append, ← statements_columns, ← statements_constraintChanges,
      ← List.map_append, ← List.filterMap_append, List.map_map]
    exact List.map_congr_left fun sql _ => Template.written_text dialect sql
  have notes : compiled.flatMap Compiled.diagnostics ++ after.pending =
      (typed.flatMap fun column => columnNotes dialect column.1) ++
        (constraintSteps dialect alteration.table alteration.addConstraints).notes := by
    rw [reported, Plan.notes_append, Plan.notes_flatMap]
    simp only [notes_columnSteps]
    rfl
  have skipped : (compiled.flatMap Compiled.diagnostics ++ after.pending).filterMap
        Diagnostic.skipped? =
      (typed.map Change.addColumn ++ constraintChanges alteration.addConstraints).filterMap
        fun change => (change.outcome dialect alteration.table).skipped? := by
    have noColumn : (typed.flatMap fun column => columnNotes dialect column.1).filterMap
        Diagnostic.skipped? = [] := by
      rw [List.filterMap_flatMap, List.flatMap_eq_nil_iff]
      exact fun column _ => skipped_columnNotes dialect column.1
    rw [notes, List.filterMap_append, List.filterMap_append, noColumn, skipped_columns,
      skipped_constraintChanges]
  refine ⟨typed, ColumnDefinition.columns_of_resolveAll resolved,
    ColumnDefinition.logicalType?_of_resolveAll resolved, statements, skipped, ?_, ?_, ?_⟩
  · have count := congrArg List.length statements
    rw [List.length_map, List.length_map] at count
    rw [count, skipped, length_outcomes]
  · rw [notes, List.filterMap_append, downgraded_flatMap_columnNotes, downgraded_constraintSteps,
      List.append_nil]
  · rintro rfl column - numbered
    exact modifiers_serial column.1 column.2 numbered

/-- A change with an outcome of every sort: two columns that have to refuse null, one of which
should number its rows, a primary key, a group of unique columns, a reference and an index. -/
def ledger : AlterTable where
  table := "ledger"
  addColumns :=
    [(ColumnDefinition.plain "seq" "bigint").numbered,
     (ColumnDefinition.plain "note" "string(20)").notNull]
  addConstraints :=
    ⟨some ["id"], [["seq", "note"]], [⟨"account", "accounts", "id"⟩], [⟨["note"], none⟩]⟩

/-- What SQLite makes of it: the columns and the index are added, both columns are reported as
accepting null, and the constraints are left out. -/
theorem compile_accounted_ledger :
    ∃ compiled after typed,
      (Context.empty .sqlite).compile (.alterTable ledger) = (.ok compiled, after) ∧
        ledger.IsAccounted .sqlite compiled after.pending typed ∧
        compiled.map Compiled.sql =
          ["ALTER TABLE ledger ADD COLUMN seq INTEGER",
           "ALTER TABLE ledger ADD COLUMN note VARCHAR(20)",
           "CREATE INDEX idx_ledger_note ON ledger (note)"] ∧
        (compiled.flatMap Compiled.diagnostics).filterMap Diagnostic.skipped? =
          ["PRIMARY KEY (id)", "UNIQUE (seq, note)",
           "FOREIGN KEY (account) REFERENCES accounts (id)"] ∧
        (compiled.flatMap Compiled.diagnostics).filterMap Diagnostic.downgraded? =
          ["seq", "note"] := by
  have accepted : (Context.empty .sqlite).compile (.alterTable ledger) = (.ok _, _) := rfl
  obtain ⟨typed, isAccounted⟩ := compile_accounted accepted
  exact ⟨_, _, typed, accepted, isAccounted, by decide +kernel, by decide +kernel,
    by decide +kernel⟩

end AlterTable

end NeutralSql
