import NeutralSql.Proofs.Executor.Transparency

/-!
# What reaches a database

A recording database replies as another one does and writes down every statement that it is
asked. An executor cannot tell the two apart, because all it uses of a database are its
replies: `CachedExecutor.run_viewed`. What reaches a database in the course of a run is
therefore what the recording database has written down after the same run.

Both entry points of an executor treat a finished statement as one that reads or as one that
writes: `executeAs`. They differ in how they find out which of the two it is.
-/

namespace NeutralSql

open SqlText (Kind classify)

/-- What a statement itself says that it does to the database. -/
def Statement.kind (statement : Statement) : Kind :=
  if statement.isRead then .read else .write

variable {σ τ : Type}

namespace Database

/-- A database whose states show, through a view, the states of another one replies as that
one does, and its states change as those of the other. -/
structure Refines (detailed : Database τ) (database : Database σ) (view : τ → σ) : Prop where
  result : ∀ state statement,
    (detailed state statement).result = (database (view state) statement).result
  state : ∀ state statement,
    view (detailed state statement).state = (database (view state) statement).state
  overtaken : ∀ state statement,
    (detailed state statement).overtaken = (database (view state) statement).overtaken

/-- A database that writes down every statement that reaches it. -/
def recording (database : Database σ) : Database (σ × List Compiled) := fun state statement =>
  let reply := database state.1 statement
  ⟨reply.result, (reply.state, state.2 ++ [statement]), reply.overtaken⟩

/-- Apart from the record, the recording database is the recorded one. -/
theorem refines_recording (database : Database σ) : database.recording.Refines database Prod.fst :=
  ⟨fun _ _ => rfl, fun _ _ => rfl, fun _ _ => rfl⟩

end Database

namespace CachedExecutor

/-- Execute a finished statement as one that reads, or as one that writes. -/
def executeAs (database : Database σ) (kind : Kind) (readings : Readings)
    (executor : CachedExecutor σ) (statement : Compiled) : Outcome σ QueryResult :=
  match kind with
  | .read => executeRead database readings executor statement
  | .write => executeWrite database executor statement

/-- Executing a finished statement goes by its text. -/
theorem execute_eq (database : Database σ) (readings : Readings) (executor : CachedExecutor σ)
    (statement : Compiled) :
    executor.execute database readings statement =
      executor.executeAs database (classify statement.sql) readings statement := by
  rw [execute]
  cases classify statement.sql with
  | read => rfl
  | write => rfl

/-- A run goes by what the statement itself says. -/
theorem run_eq_executeAll {executor : CachedExecutor σ} {statement : Statement}
    {compiled : List Compiled} (accepted : compile executor.dialect statement = .ok compiled)
    (database : Database σ) (clock : Nat → Readings) :
    executor.run database clock statement =
      executeAll (executeAs database statement.kind) clock executor compiled := by
  have step : executeAs database statement.kind = fun readings executor compiled =>
      if statement.isRead then executeRead database readings executor compiled
      else executeWrite database executor compiled := by
    rw [Statement.kind]
    cases statement.isRead <;> rfl
  rw [run, accepted, step]

section Sequence

variable {step : Readings → CachedExecutor σ → Compiled → Outcome σ QueryResult}
  {clock : Nat → Readings} {executor after : CachedExecutor σ} {statement : Compiled}

/-- A sequence ends with the error of its first statement. -/
theorem executeAll_cons_of_error {error : ExecuteError}
    (stepped : step (clock 0) executor statement = (.error error, after)) (rest : List Compiled) :
    executeAll step clock executor (statement :: rest) = (.error error, after) := by
  rw [executeAll, stepped]

/-- Behind a first statement that succeeds, a sequence goes as the rest of it does. -/
theorem executeAll_cons_of_ok {result : QueryResult}
    (stepped : step (clock 0) executor statement = (.ok result, after)) (rest : List Compiled) :
    executeAll step clock executor (statement :: rest) =
      (executeAll step (fun index => clock (index + 1)) after rest).map
        (Except.map (result :: ·)) id := by
  rw [executeAll, stepped]
  dsimp only
  rcases executeAll step (fun index => clock (index + 1)) after rest with ⟨_ | _, final⟩
  · rfl
  · rfl

end Sequence

/-- The executor in front of what a view shows of its database. -/
def viewed (view : τ → σ) (executor : CachedExecutor τ) : CachedExecutor σ :=
  ⟨executor.dialect, executor.cache, view executor.state⟩

section Viewed

variable {detailed : Database τ} {database : Database σ} {view : τ → σ}

/-- Asking commutes with a view. -/
theorem ask_viewed (refines : detailed.Refines database view) (executor : CachedExecutor τ)
    (statement : Compiled) :
    (executor.viewed view).ask database statement =
      (executor.ask detailed statement).map id (viewed view) := by
  simp only [ask_eq, viewed, Prod.map_apply, id_eq, refines.result, refines.state,
    refines.overtaken]

/-- So does a statement that reads. -/
theorem executeRead_viewed (refines : detailed.Refines database view) (readings : Readings)
    (executor : CachedExecutor τ) (statement : Compiled) :
    (executor.viewed view).executeRead database readings statement =
      (executor.executeRead detailed readings statement).map id (viewed view) := by
  have asks := fun cache => ask_viewed refines { executor with cache } statement
  by_cases enabled : executor.cache.config.enabled = true
  · have shown : (executor.viewed view).cache.config.enabled = true := enabled
    rw [executeRead, executeRead, if_pos enabled, if_pos shown]
    simp only [viewed] at asks ⊢
    cases executor.cache.get readings.lookup
        (Fingerprint.ofCompiled executor.dialect statement) with
    | mk hit cache =>
      cases hit with
      | some hit => rfl
      | none =>
        dsimp only
        rw [asks]
        rcases CachedExecutor.ask detailed _ statement with ⟨_ | _, after⟩
        · rfl
        · rfl
  · have shown : ¬(executor.viewed view).cache.config.enabled = true := enabled
    rw [executeRead, executeRead, if_neg enabled, if_neg shown]
    exact asks executor.cache

/-- So does a statement that writes. -/
theorem executeWrite_viewed (refines : detailed.Refines database view)
    (executor : CachedExecutor τ) (statement : Compiled) :
    (executor.viewed view).executeWrite database statement =
      (executor.executeWrite detailed statement).map id (viewed view) := by
  rw [executeWrite, executeWrite, ask_viewed refines]
  rcases executor.ask detailed statement with ⟨error | result, after⟩
  · rfl
  · by_cases enabled : after.cache.config.enabled = true
    · simp only [Prod.map_apply, viewed, if_pos enabled, id_eq]
    · simp only [Prod.map_apply, viewed, if_neg enabled, id_eq]

/-- So does a statement that is known to read or to write. -/
theorem executeAs_viewed (refines : detailed.Refines database view) (kind : Kind)
    (readings : Readings) (executor : CachedExecutor τ) (statement : Compiled) :
    (executor.viewed view).executeAs database kind readings statement =
      (executor.executeAs detailed kind readings statement).map id (viewed view) := by
  cases kind with
  | read => exact executeRead_viewed refines readings executor statement
  | write => exact executeWrite_viewed refines executor statement

/-- A run of finished statements commutes with a view if each step does. -/
theorem executeAll_viewed
    {step : Readings → CachedExecutor τ → Compiled → Outcome τ QueryResult}
    {shown : Readings → CachedExecutor σ → Compiled → Outcome σ QueryResult}
    (commutes : ∀ readings executor statement, shown readings (executor.viewed view) statement =
      (step readings executor statement).map id (viewed view))
    (clock : Nat → Readings) (executor : CachedExecutor τ) (compiled : List Compiled) :
    executeAll shown clock (executor.viewed view) compiled =
      (executeAll step clock executor compiled).map id (viewed view) := by
  induction compiled generalizing clock executor with
  | nil => rfl
  | cons statement rest inductionHypothesis =>
    have shownStep := commutes (clock 0) executor statement
    rcases stepped : step (clock 0) executor statement with ⟨error | result, after⟩
    · rw [stepped] at shownStep
      rw [executeAll_cons_of_error stepped, executeAll_cons_of_error shownStep]
      rfl
    · rw [stepped] at shownStep
      rw [executeAll_cons_of_ok stepped, executeAll_cons_of_ok shownStep, inductionHypothesis]
      rfl

/-- So does a run. -/
theorem run_viewed (refines : detailed.Refines database view) (clock : Nat → Readings)
    (executor : CachedExecutor τ) (statement : Statement) :
    (executor.viewed view).run database clock statement =
      (executor.run detailed clock statement).map id (viewed view) := by
  cases accepted : compile executor.dialect statement with
  | error error =>
    have rejected : compile (executor.viewed view).dialect statement = .error error := accepted
    rw [run, run, rejected, accepted]
    rfl
  | ok compiled =>
    have shown : compile (executor.viewed view).dialect statement = .ok compiled := accepted
    rw [run_eq_executeAll accepted, run_eq_executeAll shown]
    exact executeAll_viewed (executeAs_viewed refines statement.kind) clock executor compiled

end Viewed

/-! ## The record -/

/-- The executor in front of the recording database, which has written down nothing. -/
def recording (executor : CachedExecutor σ) : CachedExecutor (σ × List Compiled) :=
  ⟨executor.dialect, executor.cache, (executor.state, [])⟩

variable {executor : CachedExecutor (σ × List Compiled)} {statement : Compiled}

/-- A question is written down. -/
theorem record_ask (database : Database σ) :
    (executor.ask database.recording statement).2.state.2 = executor.state.2 ++ [statement] := by
  rw [ask_eq]
  rfl

/-- A statement that writes is put to the database, once. -/
theorem record_executeWrite (database : Database σ) :
    (executor.executeWrite database.recording statement).2.state.2 =
      executor.state.2 ++ [statement] := by
  rw [executeWrite, ← record_ask database]
  rcases executor.ask database.recording statement with ⟨error | result, after⟩
  · rfl
  · dsimp only
    split
    · rfl
    · rfl

/-- If each step puts its statement to the database, a run that succeeds puts all of them to
it, in their order. -/
theorem record_executeAll
    {step : Readings → CachedExecutor (σ × List Compiled) → Compiled →
      Outcome (σ × List Compiled) QueryResult}
    (records : ∀ readings executor statement,
      (step readings executor statement).2.state.2 = executor.state.2 ++ [statement])
    {clock : Nat → Readings} {compiled : List Compiled} {results : List QueryResult}
    (succeeded : (executeAll step clock executor compiled).1 = .ok results) :
    (executeAll step clock executor compiled).2.state.2 = executor.state.2 ++ compiled := by
  induction compiled generalizing clock executor results with
  | nil => exact (List.append_nil _).symm
  | cons statement rest inductionHypothesis =>
    have recorded := records (clock 0) executor statement
    rcases stepped : step (clock 0) executor statement with ⟨error | result, after⟩
    · rw [executeAll_cons_of_error stepped] at succeeded
      contradiction
    · rw [stepped] at recorded
      rw [executeAll_cons_of_ok stepped] at succeeded ⊢
      rcases others : executeAll step (fun index => clock (index + 1)) after rest with
        ⟨error | otherResults, final⟩
      · rw [others] at succeeded
        contradiction
      · have all := inductionHypothesis (congrArg Prod.fst others)
        rw [others, recorded, List.append_assoc] at all
        exact all

end CachedExecutor

end NeutralSql
