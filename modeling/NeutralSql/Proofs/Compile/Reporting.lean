import NeutralSql.Proofs.Compile.Alignment
import NeutralSql.Proofs.Compile.Definition
import NeutralSql.Proofs.Compile.Rejection

/-!
# Diagnostics reach the caller

A statement that is compiled on its own hands out every diagnostic that was recorded on the
way, once and in order: with the statement that was finished next, or with the last one. Only
where nothing is finished at all there is no statement to carry them. `compile_reports` says
that this happens for one kind of statement alone, a change of a table of which the dialect
can write nothing.
-/

namespace NeutralSql

namespace Statement

/-- The diagnostics that are recorded while a statement is compiled, in order. -/
def notes (dialect : Dialect) (statement : Statement) : List Diagnostic :=
  match statement.plan dialect with
  | .ok plan => plan.notes
  | .error fault => fault.notes

/-- A change of a table of which a dialect can write nothing: it adds neither columns nor
indexes, and constraints only where the dialect adds none to an existing table. -/
def IsVoid (dialect : Dialect) : Statement → Prop
  | .alterTable alteration =>
    alteration.addColumns = [] ∧ alteration.addConstraints.indexes = [] ∧
      (dialect.supports .alterAddConstraint = true →
        alteration.addConstraints.unique = [] ∧ alteration.addConstraints.foreignKeys = [])
  | _ => False

end Statement

/-- A change of a table finishes nothing exactly if the dialect can write nothing of it. -/
theorem AlterTable.templates_eq_nil_iff {dialect : Dialect} {alteration : AlterTable} {plan : Plan}
    (planned : alteration.plan dialect = .ok plan) :
    plan.templates = [] ↔ (Statement.alterTable alteration).IsVoid dialect := by
  obtain ⟨typed, resolved, rfl⟩ := AlterTable.plan_eq planned
  have columns : Plan.templates (typed.flatMap (columnSteps dialect alteration.table)) = [] ↔
      alteration.addColumns = [] := by
    rw [← ColumnDefinition.columns_of_resolveAll resolved, List.map_eq_nil_iff,
      Plan.templates_flatMap, List.flatMap_eq_nil_iff]
    simp [List.eq_nil_iff_forall_not_mem]
  rw [Plan.templates_append, List.append_eq_nil_iff, columns, templates_constraintSteps,
    List.append_eq_nil_iff, List.append_eq_nil_iff, ite_eq_right_iff, ite_eq_right_iff,
    List.map_eq_nil_iff, List.map_eq_nil_iff, List.map_eq_nil_iff, ← imp_and, Statement.IsVoid]
  refine and_congr_right fun _ => and_comm

/-- A plan finishes nothing exactly if the dialect can write nothing of the statement. -/
theorem Statement.templates_eq_nil_iff {dialect : Dialect} {statement : Statement} {plan : Plan}
    (planned : statement.plan dialect = .ok plan) :
    plan.templates = [] ↔ statement.IsVoid dialect := by
  have finishes {notes : List Diagnostic} {template : Template} {rest : Plan}
      (begins : plan = .single notes template ++ rest) (false : ¬statement.IsVoid dialect) :
      plan.templates = [] ↔ statement.IsVoid dialect := by
    rw [begins, Plan.templates_append, Plan.templates_single]
    exact iff_of_false (List.cons_ne_nil _ _) false
  cases statement with
  | select _ | insert _ | update _ | delete _ =>
    obtain ⟨notes, template, rfl, -⟩ := Statement.plan_of_bound rfl planned
    exact finishes (List.append_nil _).symm id
  | createTable table =>
    obtain ⟨typed, -, -, rfl⟩ := CreateTable.plan_eq planned
    exact finishes rfl id
  | alterTable alteration => exact AlterTable.templates_eq_nil_iff planned
  | dropTable removal =>
    obtain rfl := Except.ok.inj planned
    exact finishes (List.append_nil _).symm id

/-- Leftover diagnostics go to the last statement, if there is one. -/
theorem Compiled.diagnostics_attach (diagnostics : List Diagnostic) {compiled : List Compiled}
    (some : compiled ≠ []) :
    (attach diagnostics compiled).flatMap Compiled.diagnostics =
      compiled.flatMap Compiled.diagnostics ++ diagnostics := by
  induction compiled with
  | nil => contradiction
  | cons first rest inductionHypothesis =>
    cases rest with
    | nil => rw [attach, List.flatMap_singleton, List.flatMap_singleton]
    | cons second others =>
      have next : attach diagnostics (first :: second :: others) =
          first :: attach diagnostics (second :: others) := rfl
      rw [next, List.flatMap_cons, inductionHypothesis (List.cons_ne_nil _ _),
        ← List.append_assoc, ← List.flatMap_cons]

/-- A plan makes no statements exactly if it finishes none. -/
theorem Context.run_eq_nil_iff (dialect : Dialect) (plan : Plan) :
    ((empty dialect).run plan).1 = [] ↔ plan.templates = [] := by
  rw [← List.map_eq_nil_iff, bare_run plan rfl, List.map_eq_nil_iff]

/-- Whether a statement compiles or not, the number of diagnostics in a context grows by those
that are recorded. -/
theorem Context.totalDiagnostics_compile (context : Context) (statement : Statement) :
    (context.compile statement).2.totalDiagnostics =
      context.totalDiagnostics + (statement.notes context.dialect).length := by
  cases planned : statement.plan context.dialect with
  | ok plan =>
    rw [compile_eq_run planned, Statement.notes, planned]
    exact context.totalDiagnostics_run plan
  | error fault =>
    have rejected : context.compile statement = (.error fault.error, context.abandon fault) := by
      rw [compile, planned]
    rw [rejected, Statement.notes, planned, abandon_eq, totalDiagnostics, totalDiagnostics,
      List.length_append, Nat.add_assoc]

/-- A statement that compiles hands out all diagnostics that were recorded on the way, each of
them once and in order, unless it makes no statements. It makes none exactly if it is a change
of a table of which the dialect can write nothing. -/
theorem compile_reports {dialect : Dialect} {statement : Statement} {compiled : List Compiled}
    (accepted : compile dialect statement = .ok compiled) :
    (¬statement.IsVoid dialect →
        compiled.flatMap Compiled.diagnostics = statement.notes dialect) ∧
      (statement.IsVoid dialect → compiled = []) := by
  obtain ⟨plan, planned⟩ := plan_of_compile accepted
  have recorded : statement.notes dialect = plan.notes := by rw [Statement.notes, planned]
  have finishes := Context.run_eq_nil_iff dialect plan
  rw [Statement.templates_eq_nil_iff planned] at finishes
  rw [compile_eq_attach planned] at accepted
  obtain rfl := Except.ok.inj accepted
  rw [recorded]
  constructor
  · intro writable
    rw [Compiled.diagnostics_attach _ (mt finishes.1 writable), Context.diagnostics_run]
    rfl
  · intro void
    rw [finishes.2 void]
    rfl

/-- A change of a table with something to report of every part: a column that should number
its rows, a primary key, a group of unique columns and a reference. -/
def AlterTable.sample : AlterTable where
  table := "orders"
  addColumns := [(ColumnDefinition.plain "seq" "integer").numbered]
  addConstraints := ⟨some ["id"], [["reference"]], [⟨"customer_id", "customers", "id"⟩], []⟩

/-- On SQLite it makes one statement, which carries five diagnostics. -/
theorem compile_reports_alteration :
    ∃ added, compile .sqlite (.alterTable AlterTable.sample) = .ok [added] ∧
      added.diagnostics.length = 5 ∧
      (¬(Statement.alterTable AlterTable.sample).IsVoid .sqlite →
        [added].flatMap Compiled.diagnostics =
          (Statement.alterTable AlterTable.sample).notes .sqlite) ∧
      ((Statement.alterTable AlterTable.sample).IsVoid .sqlite → [added] = []) := by
  have compiles : ∃ added, compile .sqlite (.alterTable AlterTable.sample) = .ok [added] ∧
      added.diagnostics.length = 5 := ⟨_, rfl, rfl⟩
  obtain ⟨added, accepted, carries⟩ := compiles
  exact ⟨added, accepted, carries, compile_reports accepted⟩

/-- Where a dialect adds no constraints, a change that asks for nothing else makes no
statements, and its diagnostic reaches nobody. -/
theorem compile_hides_skipped_constraint :
    compile .sqlite (.alterTable ((AlterTable.of "orders").constrain (·.addUnique ["reference"]))) =
        .ok [] ∧
      (Statement.alterTable
        ((AlterTable.of "orders").constrain (·.addUnique ["reference"]))).notes .sqlite =
          [.constraintSkipped .sqlite "UNIQUE (reference)"] :=
  ⟨rfl, rfl⟩

end NeutralSql
