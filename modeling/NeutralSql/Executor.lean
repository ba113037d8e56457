import NeutralSql.Executor.Database
import NeutralSql.SqlText.Kind
import NeutralSql.SqlText.Tables

/-!
# Cached execution

An executor stands between its callers and a database. A statement that reads is
answered from the cache if possible; a statement that writes goes to the database and
then removes what depends on the tables it names. Failures change nothing in the cache
beyond what the lookup before them did.
-/

namespace NeutralSql

/-- The clock readings of one statement: at its lookup and when its result is stored. -/
structure Readings where
  lookup : Nat
  store : Nat

/-- A clock that stands still. -/
def Readings.at (now : Nat) : Readings :=
  ⟨now, now⟩

/-- A cache in front of a database in some state. -/
structure CachedExecutor (σ : Type) where
  dialect : Dialect
  cache : Cache QueryResult
  state : σ

namespace CachedExecutor

/-- The outcome of a request and the executor afterwards. -/
abbrev Outcome (σ α : Type) := Except ExecuteError α × CachedExecutor σ

/-- Ask the database. Tables that were written meanwhile are invalidated at once. -/
def ask (database : Database σ) (executor : CachedExecutor σ) (statement : Compiled) :
    Outcome σ QueryResult :=
  let reply := database executor.state statement
  (reply.result,
    { executor with
      state := reply.state
      cache :=
        if reply.overtaken.isEmpty then executor.cache
        else (executor.cache.invalidate reply.overtaken).2 })

/-- Execute a statement that reads. Its result is stored unless one of its tables was
invalidated while it was under way. -/
def executeRead (database : Database σ) (readings : Readings) (executor : CachedExecutor σ)
    (statement : Compiled) : Outcome σ QueryResult :=
  if executor.cache.config.enabled then
    let fingerprint := Fingerprint.ofCompiled executor.dialect statement
    match executor.cache.get readings.lookup fingerprint with
    | (some hit, cache) => (.ok hit, { executor with cache })
    | (none, cache) =>
      let tables := SqlText.tables statement.sql
      let generation := cache.generation tables
      match ask database { executor with cache } statement with
      | (.ok result, after) =>
        (.ok result,
          { after with
            cache := (after.cache.putIfUnchanged readings.store fingerprint result tables
              generation).2 })
      | (.error error, after) => (.error error, after)
  else ask database executor statement

/-- Execute a statement that writes. -/
def executeWrite (database : Database σ) (executor : CachedExecutor σ) (statement : Compiled) :
    Outcome σ QueryResult :=
  match ask database executor statement with
  | (.ok result, after) =>
    (.ok result,
      if after.cache.config.enabled then
        { after with cache := (after.cache.invalidate (SqlText.tables statement.sql)).2 }
      else after)
  | (.error error, after) => (.error error, after)

/-- Execute a finished statement; its text decides whether it reads. -/
def execute (database : Database σ) (readings : Readings) (executor : CachedExecutor σ)
    (statement : Compiled) : Outcome σ QueryResult :=
  match SqlText.classify statement.sql with
  | .read => executeRead database readings executor statement
  | .write => executeWrite database executor statement

/-- Execute finished statements one after the other, up to the first failure. -/
def executeAll (step : Readings → CachedExecutor σ → Compiled → Outcome σ QueryResult)
    (clock : Nat → Readings) (executor : CachedExecutor σ) :
    List Compiled → Outcome σ (List QueryResult)
  | [] => (.ok [], executor)
  | statement :: rest =>
    match step (clock 0) executor statement with
    | (.error error, after) => (.error error, after)
    | (.ok result, after) =>
      match executeAll step (fun index => clock (index + 1)) after rest with
      | (.error error, final) => (.error error, final)
      | (.ok results, final) => (.ok (result :: results), final)

/-- Compile a statement and execute what comes of it; the statement itself tells whether
it reads. The clock gives the readings of each finished statement. -/
def run (database : Database σ) (clock : Nat → Readings) (executor : CachedExecutor σ)
    (statement : Statement) : Outcome σ (List QueryResult) :=
  match compile executor.dialect statement with
  | .error error => (.error (.compile error), executor)
  | .ok compiled =>
    let step (readings : Readings) (executor : CachedExecutor σ) (compiled : Compiled) :=
      if statement.isRead then executeRead database readings executor compiled
      else executeWrite database executor compiled
    executeAll step clock executor compiled

/-- Ask the database whether a query has rows, past the cache. -/
def hasRows (database : Database σ) (executor : CachedExecutor σ) (question : Template) :
    Outcome σ Bool :=
  let statement := ((Context.empty executor.dialect).finishTemplate question).1
  match ask database executor statement with
  | (.ok result, after) => (.ok !result.rows.isEmpty, after)
  | (.error error, after) => (.error error, after)

/-- Whether a table exists. -/
def hasTable (database : Database σ) (executor : CachedExecutor σ) (table : String) :
    Outcome σ Bool :=
  hasRows database executor (executor.dialect.hasTable table)

/-- Whether a column of a table exists. -/
def hasColumn (database : Database σ) (executor : CachedExecutor σ) (table column : String) :
    Outcome σ Bool :=
  hasRows database executor (executor.dialect.hasColumn table column)

end CachedExecutor

end NeutralSql
