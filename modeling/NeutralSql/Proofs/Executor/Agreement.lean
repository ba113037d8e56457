import NeutralSql.Proofs.Executor.Recording
import NeutralSql.Proofs.SqlText.Kind

/-!
# Both entry points agree

An executor decides twice whether a statement reads: a run asks the statement itself, and the
execution of a finished statement looks at the first word of its text. The answers are the
same for everything that compiles, whatever names it holds, so that a run is no more than the
execution of what its statement compiles to.
-/

namespace NeutralSql

open SqlText (classify)

namespace Statement

/-- A query is the statement that reads. -/
theorem kind_eq_read_iff (statement : Statement) :
    statement.kind = .read ↔ statement.isRead = true := by
  rw [kind]
  cases statement.isRead <;> decide

/-- All texts that a statement compiles to begin with a word of its kind. -/
theorem plan_opens {dialect : Dialect} {statement : Statement} {plan : Plan}
    (planned : statement.plan dialect = .ok plan) :
    ∀ template ∈ plan.templates, template.Opens statement.kind := by
  cases statement with
  | select query =>
    obtain rfl := Select.plan_eq planned
    rw [Plan.templates_single, List.forall_mem_singleton]
    exact query.opens_template dialect
  | insert insertion =>
    obtain ⟨rfl, -⟩ := Insert.plan_eq planned
    rw [Plan.templates_single, List.forall_mem_singleton]
    exact insertion.opens_template dialect insertion.columns
  | update change =>
    obtain rfl := Update.plan_eq planned
    rw [Plan.templates_single, List.forall_mem_singleton]
    exact change.opens_head.append _
  | delete deletion =>
    obtain rfl := Delete.plan_eq planned
    rw [Plan.templates_single, List.forall_mem_singleton]
    exact deletion.opens_template
  | createTable table => exact CreateTable.plan_opens planned
  | alterTable alteration => exact AlterTable.plan_opens planned
  | dropTable removal =>
    obtain rfl := Except.ok.inj planned
    exact removal.plan_opens

/-- What a statement compiles to is classified as the statement itself. -/
theorem classify_of_compile {dialect : Dialect} {statement : Statement}
    {compiled : List Compiled} (accepted : compile dialect statement = .ok compiled) :
    ∀ part ∈ compiled, classify part.sql = statement.kind := by
  intro part listed
  obtain ⟨plan, planned⟩ := plan_of_compile accepted
  have bare : part.bare ∈ plan.templates.map (Template.written dialect) := by
    rw [← map_bare_of_compile planned accepted]
    exact List.mem_map_of_mem listed
  obtain ⟨template, finished, written⟩ := List.mem_map.1 bare
  have sql : part.sql = template.write dialect.capabilities.placeholder 0 :=
    congrArg Compiled.sql written.symm
  rw [sql]
  exact ((plan_opens planned template finished).write _ 0).classify_eq

end Statement

namespace CachedExecutor

variable {σ : Type}

/-- Compile a statement and execute what comes of it by the texts. -/
def runByText (database : Database σ) (clock : Nat → Readings) (executor : CachedExecutor σ)
    (statement : Statement) : Outcome σ (List QueryResult) :=
  match compile executor.dialect statement with
  | .error error => (.error (.compile error), executor)
  | .ok compiled => executeAll (execute database) clock executor compiled

/-- Steps that agree on the finished statements make the same run of them. -/
theorem executeAll_congr {first second : Readings → CachedExecutor σ → Compiled →
      Outcome σ QueryResult} {compiled : List Compiled}
    (agree : ∀ statement ∈ compiled, ∀ readings executor,
      first readings executor statement = second readings executor statement)
    (clock : Nat → Readings) (executor : CachedExecutor σ) :
    executeAll first clock executor compiled = executeAll second clock executor compiled := by
  induction compiled generalizing clock executor with
  | nil => rfl
  | cons statement rest inductionHypothesis =>
    rw [List.forall_mem_cons] at agree
    rw [executeAll, executeAll, agree.1]
    rcases second (clock 0) executor statement with ⟨error | result, after⟩
    · rfl
    · simp only [inductionHypothesis agree.2]

/-- A run goes by the texts as much as by the statement. -/
theorem run_eq_runByText (database : Database σ) (clock : Nat → Readings)
    (executor : CachedExecutor σ) (statement : Statement) :
    executor.run database clock statement = executor.runByText database clock statement := by
  rw [runByText]
  cases accepted : compile executor.dialect statement with
  | error error => rw [run, accepted]
  | ok compiled =>
    rw [run_eq_executeAll accepted]
    refine executeAll_congr (fun part listed readings executor => ?_) clock executor
    rw [execute_eq, statement.classify_of_compile accepted part listed]

/-- In every dialect and whatever names a statement holds, each text that it compiles to reads
exactly if the statement does. On every database and every cache a run therefore has the
results or the first error of the execution by the texts and leaves the same executor, and
the same statements reach the database: a recording database, which changes nothing else, has
written down the same. -/
theorem entry_points_agree (dialect : Dialect) (statement : Statement) :
    (∀ compiled, compile dialect statement = .ok compiled → ∀ part ∈ compiled,
      (classify part.sql = .read ↔ statement.isRead = true)) ∧
    ∀ {σ : Type} (database : Database σ) (clock : Nat → Readings) (executor : CachedExecutor σ),
      executor.run database clock statement = executor.runByText database clock statement ∧
      (executor.recording.run database.recording clock statement).map id (viewed Prod.fst) =
        executor.run database clock statement ∧
      (executor.recording.run database.recording clock statement).2.state.2 =
        (executor.recording.runByText database.recording clock statement).2.state.2 := by
  refine ⟨fun compiled accepted part listed => ?_, fun database clock executor =>
    ⟨run_eq_runByText database clock executor statement, ?_, ?_⟩⟩
  · rw [statement.classify_of_compile accepted part listed]
    exact statement.kind_eq_read_iff
  · exact (run_viewed database.refines_recording clock executor.recording statement).symm
  · rw [run_eq_runByText]

end CachedExecutor

/-- A table and an index that look like queries. -/
def CreateTable.sampleMisleading : CreateTable :=
  ⟨"SELECT", [.plain "select" "integer"],
    Constraints.none.addIndex ⟨["select"], some "'; SELECT * FROM ("⟩, true⟩

namespace CachedExecutor

/-- Behind their guards both are seen to write, and a run is an execution of both. -/
theorem entry_points_agree_misleading :
    let request := Statement.createTable CreateTable.sampleMisleading
    let executor : CachedExecutor (String → Nat) :=
      ⟨.mssql, .blank ⟨true, 1, 1, false, false⟩, fun _ => 0⟩
    ∃ compiled, compile .mssql request = .ok compiled ∧ compiled.length = 2 ∧
      (∀ part ∈ compiled, classify part.sql ≠ .read) ∧
      executor.run Database.counting (fun _ => .at 0) request =
        executor.runByText Database.counting (fun _ => .at 0) request ∧
      (executor.recording.run Database.counting.recording (fun _ => .at 0) request).2.state.2 =
        (executor.recording.runByText Database.counting.recording (fun _ => .at 0)
          request).2.state.2 := by
  intro request executor
  have length : (compile .mssql request).toOption.map List.length = some 2 := by
    decide +kernel
  obtain ⟨agrees, runs⟩ := entry_points_agree .mssql request
  obtain ⟨same, -, sameRecord⟩ := runs Database.counting (fun _ => .at 0) executor
  cases accepted : compile .mssql request with
  | error error =>
    rw [accepted] at length
    cases length
  | ok compiled =>
    rw [accepted] at length
    refine ⟨compiled, rfl, Option.some.inj length, fun part listed reads => ?_, same, sameRecord⟩
    exact Bool.false_ne_true ((agrees compiled accepted part listed).1 reads)

end CachedExecutor

end NeutralSql
