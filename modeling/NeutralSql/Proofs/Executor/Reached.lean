import NeutralSql.Proofs.Executor.Transparency

/-!
# Caches that calls lead to

A call of an executor touches the cache in three kinds of atomic steps: it looks a
fingerprint up, it offers the result of a statement, and it invalidates tables.
`Cache.Reached` holds of every cache that such steps lead to, in any order, so that calls
may overlap in any way; `CachedExecutor.Reached.calls` says that calls one after the other
lead to no other caches. What is invariant is that every entry stems from a statement, and
is stored under its fingerprint and its tables: `Cache.Reached.attributed`.
-/

namespace NeutralSql

open SqlText (tables)

namespace Cache

/-- The caches that calls lead to, if all results that they offer are those of given
statements. What the results are, what the clock shows and which tables are invalidated
is left open. -/
inductive Reached (config : CacheConfig) (dialect : Dialect) (statements : List Compiled) :
    Cache QueryResult → Prop where
  | created {cache : Cache QueryResult} (accepted : Cache.new? config = .ok cache) :
      Reached config dialect statements cache
  | lookUp {cache : Cache QueryResult} (reached : Reached config dialect statements cache)
      (now : Nat) (fingerprint : Fingerprint) :
      Reached config dialect statements (cache.get now fingerprint).2
  | offer {cache : Cache QueryResult} (reached : Reached config dialect statements cache)
      {statement : Compiled} (isStatement : statement ∈ statements) (now : Nat)
      (result : QueryResult) (generation : UInt64) :
      Reached config dialect statements
        (cache.putIfUnchanged now (Fingerprint.ofCompiled dialect statement) result
          (tables statement.sql) generation).2
  | forget {cache : Cache QueryResult} (reached : Reached config dialect statements cache)
      (names : List String) :
      Reached config dialect statements (cache.invalidate names).2

/-- Every entry is stored under the fingerprint and the tables of one of the statements. -/
def Attributed (cache : Cache QueryResult) (dialect : Dialect) (statements : List Compiled) :
    Prop :=
  ∀ stored ∈ cache.entries, ∃ statement ∈ statements,
    stored.1 = Fingerprint.ofCompiled dialect statement ∧
    stored.2.tables = normalize (tables statement.sql)

section Reached

variable {config : CacheConfig} {dialect : Dialect} {statements : List Compiled}
  {cache : Cache QueryResult}

/-- A cache that was made is the empty one of a valid configuration. -/
theorem eq_blank_of_new? (accepted : Cache.new? config = .ok cache) :
    config.validate = .ok () ∧ cache = blank config := by
  rw [Cache.new?] at accepted
  cases valid : config.validate with
  | error error =>
    rw [valid] at accepted
    contradiction
  | ok checked =>
    rw [valid] at accepted
    exact ⟨rfl, (Except.ok.inj accepted).symm⟩

/-- Calls lead to well-formed caches. -/
theorem Reached.wellFormed (reached : Reached config dialect statements cache) :
    cache.WellFormed := by
  induction reached with
  | created accepted =>
    obtain ⟨valid, rfl⟩ := eq_blank_of_new? accepted
    exact wellFormed_blank valid
  | lookUp _ now fingerprint inductionHypothesis => exact inductionHypothesis.get now fingerprint
  | offer _ _ now result generation inductionHypothesis =>
    exact inductionHypothesis.putIfUnchanged now _ result _ generation
  | forget _ names inductionHypothesis => exact inductionHypothesis.invalidate names

/-- Calls leave the configuration. -/
theorem Reached.config_eq (reached : Reached config dialect statements cache) :
    cache.config = config := by
  induction reached with
  | created accepted =>
    obtain ⟨-, rfl⟩ := eq_blank_of_new? accepted
    rfl
  | lookUp _ now fingerprint inductionHypothesis =>
    exact (config_get _ now fingerprint).trans inductionHypothesis
  | offer _ _ now result generation inductionHypothesis =>
    exact (config_putIfUnchanged _ now _ result _ generation).trans inductionHypothesis
  | forget _ names inductionHypothesis =>
    exact (config_invalidate _ names).trans inductionHypothesis

/-- Entries that stem from attributed ones are attributed. -/
theorem Attributed.of_stemsFrom {after : Cache QueryResult}
    (attributed : cache.Attributed dialect statements) (stems : after.StemsFrom cache) :
    after.Attributed dialect statements := by
  intro stored listed
  obtain ⟨earlier, earlierListed, -, dependencies⟩ := stems stored listed
  obtain ⟨origin, isStatement, key, registered⟩ := attributed _ earlierListed
  exact ⟨origin, isStatement, key, dependencies.trans registered⟩

/-- In a cache that calls lead to, every entry stems from a statement. -/
theorem Reached.attributed (reached : Reached config dialect statements cache) :
    cache.Attributed dialect statements := by
  induction reached with
  | created accepted =>
    obtain ⟨-, rfl⟩ := eq_blank_of_new? accepted
    exact fun stored listed => absurd listed List.not_mem_nil
  | lookUp before now fingerprint inductionHypothesis =>
    exact inductionHypothesis.of_stemsFrom (before.wellFormed.stemsFrom_get now fingerprint)
  | offer before isStatement now result generation inductionHypothesis =>
    intro stored listed
    rcases before.wellFormed.mem_of_mem_putIfUnchanged listed with ⟨-, -, rfl⟩ | ⟨earlier, -⟩
    · exact ⟨_, isStatement, rfl, rfl⟩
    · exact inductionHypothesis stored earlier
  | forget before names inductionHypothesis =>
    intro stored listed
    exact inductionHypothesis stored (before.wellFormed.mem_invalidate_iff.1 listed).1

end Reached

end Cache

/-- A call of a cached executor, with the clock that it reads. -/
inductive Call where
  | execute (readings : Readings) (statement : Compiled)
  | run (clock : Nat → Readings) (statement : Statement)
  | hasTable (table : String)
  | hasColumn (table column : String)

/-- The statements whose results a call may offer to the cache. -/
def Call.statements (dialect : Dialect) : Call → List Compiled
  | .execute _ statement => [statement]
  | .run _ statement =>
    match compile dialect statement with
    | .ok compiled => compiled
    | .error _ => []
  | .hasTable _ => []
  | .hasColumn _ _ => []

namespace CachedExecutor

variable {σ : Type}

/-- The executor after a call. -/
def after (database : Database σ) (executor : CachedExecutor σ) : Call → CachedExecutor σ
  | .execute readings statement => (executor.execute database readings statement).2
  | .run clock statement => (executor.run database clock statement).2
  | .hasTable table => (executor.hasTable database table).2
  | .hasColumn table column => (executor.hasColumn database table column).2

/-- What every step on the finished statements keeps is kept up to the first failure. -/
theorem executeAll_keeps {keeps : CachedExecutor σ → Prop}
    {step : Readings → CachedExecutor σ → Compiled → Outcome σ QueryResult}
    {compiled : List Compiled} (stepKeeps : ∀ readings executor, ∀ statement ∈ compiled,
      keeps executor → keeps (step readings executor statement).2)
    (clock : Nat → Readings) {executor : CachedExecutor σ} (holds : keeps executor) :
    keeps (executeAll step clock executor compiled).2 := by
  induction compiled generalizing clock executor with
  | nil => exact holds
  | cons statement rest inductionHypothesis =>
    have restKeeps := fun readings executor other isOther =>
      stepKeeps readings executor other (List.mem_cons_of_mem _ isOther)
    have stepped := stepKeeps (clock 0) executor statement List.mem_cons_self holds
    have final := inductionHypothesis restKeeps (fun index => clock (index + 1)) stepped
    rw [executeAll]
    split
    · rename_i error after failed
      rw [failed] at stepped
      exact stepped
    · rename_i result after succeeded
      rw [succeeded] at final
      split
      · rename_i error last failed
        rw [failed] at final
        exact final
      · rename_i results last succeededAll
        rw [succeededAll] at final
        exact final

/-- A statement that writes asks the database and then invalidates its tables. It leaves it
at the question if that fails or the cache is switched off. -/
theorem executeWrite_cases (database : Database σ) (executor : CachedExecutor σ)
    (statement : Compiled) :
    let asked := (executor.ask database statement).2
    (executor.executeWrite database statement).2 =
        { asked with cache := (asked.cache.invalidate (tables statement.sql)).2 } ∨
      (executor.executeWrite database statement).2 = asked ∧
        (asked.cache.config.enabled = true →
          ∃ error, (executor.executeWrite database statement).1 = .error error) := by
  rw [executeWrite]
  split
  · rename_i result after answered
    rw [answered]
    dsimp only
    split
    · exact .inl rfl
    · rename_i disabled
      exact .inr ⟨rfl, fun enabled => absurd enabled disabled⟩
  · rename_i error after answered
    rw [answered]
    exact .inr ⟨rfl, fun _ => ⟨error, rfl⟩⟩

/-- An executor of a dialect whose cache is one that calls lead to. -/
structure Reached (config : CacheConfig) (dialect : Dialect) (statements : List Compiled)
    (executor : CachedExecutor σ) : Prop where
  dialect_eq : executor.dialect = dialect
  cache : executor.cache.Reached config dialect statements

section Reached

variable {config : CacheConfig} {dialect : Dialect} {statements : List Compiled}
  {executor : CachedExecutor σ} {statement : Compiled}

/-- Asking the database invalidates at most. -/
theorem Reached.ask (reached : executor.Reached config dialect statements)
    (database : Database σ) (statement : Compiled) :
    (executor.ask database statement).2.Reached config dialect statements := by
  rw [ask_eq]
  exact ⟨reached.dialect_eq, reached.cache.forget _⟩

/-- A statement that reads looks up and offers. -/
theorem Reached.executeRead (reached : executor.Reached config dialect statements)
    (isStatement : statement ∈ statements) (database : Database σ) (readings : Readings) :
    (executor.executeRead database readings statement).2.Reached config dialect statements := by
  obtain ⟨rfl, cacheReached⟩ := reached
  have lookedUp := cacheReached.lookUp readings.lookup
    (Fingerprint.ofCompiled executor.dialect statement)
  rw [CachedExecutor.executeRead]
  split
  · dsimp only
    split
    · rename_i hit cache found
      rw [found] at lookedUp
      exact ⟨rfl, lookedUp⟩
    · rename_i cache missed
      rw [missed] at lookedUp
      have afterLookup :
          CachedExecutor.Reached config executor.dialect statements { executor with cache } :=
        ⟨rfl, lookedUp⟩
      have asked := afterLookup.ask database statement
      split
      · rename_i result after answered
        rw [answered] at asked
        exact ⟨asked.dialect_eq, asked.cache.offer isStatement readings.store result _⟩
      · rename_i error after answered
        rw [answered] at asked
        exact asked
  · exact Reached.ask ⟨rfl, cacheReached⟩ database statement

/-- A statement that writes invalidates at most. -/
theorem Reached.executeWrite (reached : executor.Reached config dialect statements)
    (database : Database σ) (statement : Compiled) :
    (executor.executeWrite database statement).2.Reached config dialect statements := by
  have asked := reached.ask database statement
  rcases executor.executeWrite_cases database statement with invalidates | ⟨asks, -⟩
  · rw [invalidates]
    exact ⟨asked.dialect_eq, asked.cache.forget _⟩
  · rw [asks]
    exact asked

/-- A question past the cache asks the database and no more. -/
theorem Reached.hasRows (reached : executor.Reached config dialect statements)
    (database : Database σ) (question : Template) :
    (executor.hasRows database question).2.Reached config dialect statements := by
  have asked := reached.ask database
    ((Context.empty executor.dialect).finishTemplate question).1
  rw [CachedExecutor.hasRows]
  split
  · rename_i result after answered
    rw [answered] at asked
    exact asked
  · rename_i error after answered
    rw [answered] at asked
    exact asked

/-- A call takes no steps but these. -/
theorem Reached.after (reached : executor.Reached config dialect statements)
    (database : Database σ) {call : Call}
    (areStatements : ∀ statement ∈ call.statements dialect, statement ∈ statements) :
    (executor.after database call).Reached config dialect statements := by
  cases call with
  | execute readings statement =>
    have isStatement := areStatements statement List.mem_cons_self
    rw [CachedExecutor.after, CachedExecutor.execute]
    split
    · exact reached.executeRead isStatement database readings
    · exact reached.executeWrite database statement
  | run clock statement =>
    rw [CachedExecutor.after, CachedExecutor.run, reached.dialect_eq]
    rw [Call.statements] at areStatements
    split
    · exact reached
    · rename_i compiled accepted
      rw [accepted] at areStatements
      refine executeAll_keeps (fun readings executor other isOther before => ?_) clock reached
      split
      · exact before.executeRead (areStatements other isOther) database readings
      · exact before.executeWrite database other
  | hasTable table => exact reached.hasRows database _
  | hasColumn table column => exact reached.hasRows database _

/-- So do calls one after the other. -/
theorem Reached.calls (reached : executor.Reached config dialect statements)
    (database : Database σ) {calls : List Call}
    (areStatements : ∀ call ∈ calls, ∀ statement ∈ call.statements dialect,
      statement ∈ statements) :
    (calls.foldl (CachedExecutor.after database) executor).Reached config dialect statements := by
  induction calls generalizing executor with
  | nil => exact reached
  | cons call rest inductionHypothesis =>
    exact inductionHypothesis (reached.after database (areStatements call List.mem_cons_self))
      fun other isOther => areStatements other (List.mem_cons_of_mem _ isOther)

end Reached

end CachedExecutor

end NeutralSql
