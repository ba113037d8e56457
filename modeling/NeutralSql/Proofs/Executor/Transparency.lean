import Mathlib.Data.List.Nodup
import NeutralSql.Executor
import NeutralSql.Proofs.Cache.Invalidation
import NeutralSql.Proofs.Cache.Lookup
import NeutralSql.Proofs.Cache.Storing

/-!
# The cache is transparent

Requests answered through a cache have the results that the database alone would give,
provided that the tables read off a statement's text are all that it reads or writes. The
invariant is `Faithful`: every entry holds what the database would answer now. A write
keeps it because the entries that survive the invalidation depend on no table that the
write may have changed. Nothing is assumed about the clock, nor about tables that are
reported as overtaken, since an invalidation too many only forgets.
-/

namespace NeutralSql

open SqlText (classify tables)

/-- What a database does is settled by the tables that a statement's text refers to. -/
structure Database.RespectsTables {σ γ : Type} (database : Database σ)
    (contents : σ → String → γ) : Prop where
  /-- A statement that reads changes nothing. -/
  read_keeps : ∀ state statement, classify statement.sql = .read →
    (database state statement).state = state
  /-- The result of a statement that reads depends on its text, its values and the contents
  of its tables. -/
  read_depends : ∀ {before after first second}, classify first.sql = .read →
    first.sql = second.sql → first.params = second.params →
    (∀ table ∈ tables first.sql, contents before table = contents after table) →
    (database before first).result = (database after second).result
  /-- A statement that writes changes only its tables. -/
  write_keeps : ∀ state statement, classify statement.sql = .write →
    ∀ table ∉ tables statement.sql,
      contents (database state statement).state table = contents state table
  /-- A statement that fails changes nothing. -/
  error_keeps : ∀ {state statement error}, (database state statement).result = .error error →
    (database state statement).state = state

/-- A request to a cached executor, with its readings of the clock. -/
inductive Request where
  | execute (readings : Readings) (statement : Compiled)
  | purgeExpired (now : Nat)
  | clear

/-- The statements among requests. -/
def Request.statements (requests : List Request) : List Compiled :=
  requests.filterMap fun request =>
    match request with
    | .execute _ statement => some statement
    | _ => none

variable {σ γ : Type}

/-- The results of requests to a database without a cache, and its state afterwards. -/
def Database.serve (database : Database σ) (state : σ) :
    List Request → List (Except ExecuteError QueryResult) × σ
  | [] => ([], state)
  | .execute _ statement :: rest =>
    let reply := database state statement
    let (results, final) := Database.serve database reply.state rest
    (reply.result :: results, final)
  | _ :: rest => Database.serve database state rest

/-- The results of requests to a cached executor, and the executor afterwards. -/
def CachedExecutor.serve (database : Database σ) (executor : CachedExecutor σ) :
    List Request → List (Except ExecuteError QueryResult) × CachedExecutor σ
  | [] => ([], executor)
  | .execute readings statement :: rest =>
    let (result, after) := executor.execute database readings statement
    let (results, final) := CachedExecutor.serve database after rest
    (result :: results, final)
  | .purgeExpired now :: rest =>
    CachedExecutor.serve database
      { executor with cache := (executor.cache.purgeExpired now).2 } rest
  | .clear :: rest =>
    CachedExecutor.serve database { executor with cache := executor.cache.clear } rest

/-- Statements are told apart by their fingerprints, as far as these statements go. -/
def Fingerprint.SeparatesAll (dialect : Dialect) (statements : List Compiled) : Prop :=
  ∀ first ∈ statements, ∀ second ∈ statements,
    Fingerprint.ofCompiled dialect first = Fingerprint.ofCompiled dialect second →
    first.sql = second.sql ∧ first.params = second.params

/-- Every entry holds what the database would answer now to one of the statements, under
the tables and the fingerprint of that statement. -/
def Cache.Faithful (cache : Cache QueryResult) (database : Database σ) (dialect : Dialect)
    (statements : List Compiled) (state : σ) : Prop :=
  ∀ stored ∈ cache.entries, ∃ statement ∈ statements,
    classify statement.sql = .read ∧
    stored.1 = Fingerprint.ofCompiled dialect statement ∧
    stored.2.tables = Cache.normalize (tables statement.sql) ∧
    (database state statement).result = .ok stored.2.value

section Faithful

variable {database : Database σ} {contents : σ → String → γ} {dialect : Dialect}
  {statements : List Compiled} {state : σ} {cache : Cache QueryResult} {statement : Compiled}

/-- Entries that stem from faithful ones are faithful. -/
theorem Cache.Faithful.of_stemsFrom {after : Cache QueryResult}
    (faithful : cache.Faithful database dialect statements state)
    (stems : after.StemsFrom cache) : after.Faithful database dialect statements state := by
  intro stored listed
  obtain ⟨earlier, earlierListed, value, dependencies⟩ := stems stored listed
  obtain ⟨origin, isStatement, reads, key, registered, answer⟩ := faithful _ earlierListed
  exact ⟨origin, isStatement, reads, key, dependencies.trans registered, value ▸ answer⟩

/-- A hit on a faithful cache hands out the answer of the database. -/
theorem Cache.Faithful.result_of_hit (faithful : cache.Faithful database dialect statements state)
    (wellFormed : cache.WellFormed) (respects : database.RespectsTables contents)
    (separates : Fingerprint.SeparatesAll dialect statements) (isStatement : statement ∈ statements)
    {now : Nat} {value : QueryResult}
    (hit : (cache.get now (Fingerprint.ofCompiled dialect statement)).1 = some value) :
    (database state statement).result = .ok value := by
  obtain ⟨entry, stored, rfl⟩ := wellFormed.stored_of_hit hit
  obtain ⟨origin, isOrigin, reads, key, -, answer⟩ := faithful _ stored
  obtain ⟨sameText, sameValues⟩ := separates origin isOrigin statement isStatement key.symm
  rw [← answer]
  exact (respects.read_depends reads sameText sameValues fun _ _ => rfl).symm

/-- Storing the answer to a statement that reads keeps a cache faithful. -/
theorem Cache.Faithful.putIfUnchanged
    (faithful : cache.Faithful database dialect statements state) (wellFormed : cache.WellFormed)
    (isStatement : statement ∈ statements) (reads : classify statement.sql = .read)
    {result : QueryResult} (answer : (database state statement).result = .ok result)
    (now : Nat) (generation : UInt64) :
    (cache.putIfUnchanged now (Fingerprint.ofCompiled dialect statement) result
      (tables statement.sql) generation).2.Faithful database dialect statements state := by
  intro stored listed
  rcases wellFormed.mem_of_mem_putIfUnchanged listed with ⟨-, -, rfl⟩ | ⟨before, -⟩
  · exact ⟨statement, isStatement, reads, rfl, rfl, answer⟩
  · exact faithful stored before

/-- Invalidating the tables of a statement that writes makes a cache faithful to the
database after that statement. -/
theorem Cache.Faithful.invalidate_write
    (faithful : cache.Faithful database dialect statements state) (wellFormed : cache.WellFormed)
    (respects : database.RespectsTables contents) (writes : classify statement.sql = .write) :
    (cache.invalidate (tables statement.sql)).2.Faithful database dialect statements
      (database state statement).state := by
  intro stored listed
  obtain ⟨before, isClear⟩ := wellFormed.mem_invalidate_iff.1 listed
  obtain ⟨origin, isOrigin, reads, key, registered, answer⟩ := faithful stored before
  refine ⟨origin, isOrigin, reads, key, registered, ?_⟩
  rw [← answer]
  refine respects.read_depends reads rfl rfl fun table depends => ?_
  refine respects.write_keeps state statement writes table fun written => ?_
  -- A table of both statements would have taken the entry away.
  refine isClear table written ?_
  rw [registered]
  exact Cache.mem_normalize.2 ⟨table, depends, rfl⟩

end Faithful

namespace CachedExecutor

/-- What holds of an executor between requests: its cache is well-formed and faithful, and
it is empty if it is switched off. -/
structure Reliable (database : Database σ) (statements : List Compiled)
    (executor : CachedExecutor σ) : Prop where
  wellFormed : executor.cache.WellFormed
  faithful : executor.cache.Faithful database executor.dialect statements executor.state
  unused : executor.cache.config.enabled = false → executor.cache.entries = []

variable {database : Database σ} {contents : σ → String → γ} {statements : List Compiled}
  {executor : CachedExecutor σ} {statement : Compiled}

/-- The outcome of a statement mirrors what the database alone would reply to it: the
result and the state are the same, and the executor afterwards is reliable, with the
dialect and the configuration it had. -/
structure Mirrors (database : Database σ) (statements : List Compiled)
    (executor : CachedExecutor σ) (statement : Compiled) (outcome : Outcome σ QueryResult) :
    Prop where
  result : outcome.1 = (database executor.state statement).result
  state : outcome.2.state = (database executor.state statement).state
  dialect : outcome.2.dialect = executor.dialect
  config : outcome.2.cache.config = executor.cache.config
  reliable : outcome.2.Reliable database statements

/-- A cache whose entries stem from those of a reliable executor makes another one. -/
theorem Reliable.of_stemsFrom (reliable : executor.Reliable database statements)
    {cache : Cache QueryResult} (wellFormed : cache.WellFormed)
    (stems : cache.StemsFrom executor.cache) (config : cache.config = executor.cache.config) :
    Reliable database statements { executor with cache } where
  wellFormed := wellFormed
  faithful := reliable.faithful.of_stemsFrom stems
  unused disabled := by
    have noEntries := reliable.unused (config ▸ disabled)
    refine List.eq_nil_iff_forall_not_mem.2 fun stored listed => ?_
    obtain ⟨earlier, earlierListed, -⟩ := stems stored listed
    rw [noEntries] at earlierListed
    exact List.not_mem_nil earlierListed

/-- Asking the database passes on its reply, and invalidates what was overtaken. -/
theorem ask_eq (database : Database σ) (executor : CachedExecutor σ) (statement : Compiled) :
    executor.ask database statement =
      ((database executor.state statement).result,
        { executor with
          state := (database executor.state statement).state
          cache :=
            (executor.cache.invalidate (database executor.state statement).overtaken).2 }) := by
  rw [ask]
  cases (database executor.state statement).overtaken with
  | nil => rfl
  | cons first rest => rfl

/-- Forgetting what was overtaken leaves an executor reliable. -/
theorem Reliable.forget (reliable : executor.Reliable database statements)
    (overtaken : List String) :
    Reliable database statements
      { executor with cache := (executor.cache.invalidate overtaken).2 } := by
  refine reliable.of_stemsFrom (reliable.wellFormed.invalidate overtaken) (.of_subset ?_)
    (Cache.config_invalidate _ _)
  rw [reliable.wellFormed.entries_invalidate]
  exact List.filter_sublist.subset

/-- Asking the database something that changes nothing leaves an executor reliable. -/
theorem Reliable.ask (reliable : executor.Reliable database statements)
    (keeps : (database executor.state statement).state = executor.state) :
    Mirrors database statements executor statement (executor.ask database statement) := by
  have after := reliable.forget (database executor.state statement).overtaken
  rw [ask_eq]
  refine ⟨rfl, rfl, rfl, Cache.config_invalidate _ _, ?_⟩
  rw [keeps]
  exact after

/-- Storing the answer to a statement that reads leaves an executor reliable. -/
theorem Reliable.store (reliable : executor.Reliable database statements)
    (isStatement : statement ∈ statements) (reads : classify statement.sql = .read)
    (enabled : executor.cache.config.enabled = true) {result : QueryResult}
    (answer : (database executor.state statement).result = .ok result)
    {fingerprint : Fingerprint}
    (key : fingerprint = Fingerprint.ofCompiled executor.dialect statement) (now : Nat)
    (generation : UInt64) :
    Reliable database statements { executor with
      cache := (executor.cache.putIfUnchanged now fingerprint result (tables statement.sql)
        generation).2 } where
  wellFormed := reliable.wellFormed.putIfUnchanged now fingerprint result _ generation
  faithful := by
    subst key
    dsimp only
    exact reliable.faithful.putIfUnchanged reliable.wellFormed isStatement reads answer now
      generation
  unused := by
    have config := Cache.config_putIfUnchanged executor.cache now fingerprint result
      (tables statement.sql) generation
    dsimp only
    rw [config, enabled]
    exact fun disabled => absurd disabled (by decide)

/-- A statement that reads has the result that the database alone would give. -/
theorem Reliable.executeRead (reliable : executor.Reliable database statements)
    (respects : database.RespectsTables contents)
    (separates : Fingerprint.SeparatesAll executor.dialect statements)
    (isStatement : statement ∈ statements) (reads : classify statement.sql = .read)
    (readings : Readings) :
    Mirrors database statements executor statement
      (executor.executeRead database readings statement) := by
  have keeps := respects.read_keeps executor.state statement reads
  rw [CachedExecutor.executeRead]
  split
  · rename_i enabled
    have afterLookup := reliable.of_stemsFrom
      (reliable.wellFormed.get readings.lookup (Fingerprint.ofCompiled executor.dialect statement))
      (reliable.wellFormed.stemsFrom_get readings.lookup _)
      (Cache.config_get executor.cache readings.lookup _)
    have config := Cache.config_get executor.cache readings.lookup
      (Fingerprint.ofCompiled executor.dialect statement)
    dsimp only
    split
    · rename_i hit cache found
      have answer : (database executor.state statement).result = .ok hit :=
        reliable.faithful.result_of_hit reliable.wellFormed respects separates isStatement
          (congrArg Prod.fst found)
      rw [found] at afterLookup config
      exact ⟨answer.symm, keeps.symm, rfl, config, afterLookup⟩
    · rename_i cache missed
      rw [missed] at afterLookup config
      have asked := afterLookup.ask keeps
      split
      · rename_i result after answered
        rw [answered] at asked
        have dialect : after.dialect = executor.dialect := asked.dialect
        have sameState : after.state = executor.state := asked.state.trans keeps
        have sameConfig : after.cache.config = executor.cache.config := asked.config.trans config
        have answer : (database after.state statement).result = .ok result := by
          rw [sameState]
          exact asked.result.symm
        have stored := asked.reliable.store isStatement reads (sameConfig ▸ enabled) answer
          (congrArg (Fingerprint.ofCompiled · statement) dialect.symm) readings.store
          (cache.generation (tables statement.sql))
        refine ⟨asked.result, asked.state, asked.dialect, ?_, stored⟩
        dsimp only
        rw [Cache.config_putIfUnchanged, sameConfig]
      · rename_i error after answered
        rw [answered] at asked
        exact ⟨asked.result, asked.state, asked.dialect, asked.config.trans config, asked.reliable⟩
  · exact reliable.ask keeps

/-- A statement that writes has the result that the database alone would give. -/
theorem Reliable.executeWrite (reliable : executor.Reliable database statements)
    (respects : database.RespectsTables contents) (writes : classify statement.sql = .write) :
    Mirrors database statements executor statement (executor.executeWrite database statement) := by
  have overtaken := reliable.forget (database executor.state statement).overtaken
  have config := Cache.config_invalidate executor.cache
    (database executor.state statement).overtaken
  rw [CachedExecutor.executeWrite, ask_eq]
  cases outcome : (database executor.state statement).result with
  | error error =>
    have keeps := respects.error_keeps outcome
    refine ⟨outcome.symm, rfl, rfl, config, ?_⟩
    dsimp only
    rw [keeps]
    exact overtaken
  | ok result =>
    dsimp only
    split
    · rename_i enabled
      refine ⟨outcome.symm, rfl, rfl, ?_, ?_, ?_, ?_⟩
      · dsimp only
        rw [Cache.config_invalidate, config]
      · exact overtaken.wellFormed.invalidate (tables statement.sql)
      · exact overtaken.faithful.invalidate_write overtaken.wellFormed respects writes
      · dsimp only
        rw [Cache.config_invalidate, enabled]
        exact fun disabled => absurd disabled (by decide)
    · rename_i disabled
      have noEntries := overtaken.unused (Bool.eq_false_iff.2 disabled)
      refine ⟨outcome.symm, rfl, rfl, config, ?_⟩
      refine ⟨overtaken.wellFormed, fun stored listed => ?_, fun _ => noEntries⟩
      dsimp only at noEntries listed
      rw [noEntries] at listed
      exact absurd listed List.not_mem_nil

/-- A statement has the result that the database alone would give. -/
theorem Reliable.execute (reliable : executor.Reliable database statements)
    (respects : database.RespectsTables contents)
    (separates : Fingerprint.SeparatesAll executor.dialect statements)
    (isStatement : statement ∈ statements) (readings : Readings) :
    Mirrors database statements executor statement
      (executor.execute database readings statement) := by
  rw [CachedExecutor.execute]
  split
  · rename_i reads
    exact reliable.executeRead respects separates isStatement reads readings
  · rename_i writes
    exact reliable.executeWrite respects writes

/-- Requests to a reliable executor have the results that the database alone would give,
call by call, and leave the database in the same state. -/
theorem Reliable.serve (reliable : executor.Reliable database statements)
    (respects : database.RespectsTables contents)
    (separates : Fingerprint.SeparatesAll executor.dialect statements) (requests : List Request)
    (areStatements : ∀ statement ∈ Request.statements requests, statement ∈ statements) :
    (executor.serve database requests).1 = (Database.serve database executor.state requests).1 ∧
      (executor.serve database requests).2.state =
        (Database.serve database executor.state requests).2 := by
  induction requests generalizing executor with
  | nil => exact ⟨rfl, rfl⟩
  | cons request rest inductionHypothesis =>
    cases request with
    | execute readings statement =>
      have isStatement : statement ∈ statements := areStatements statement List.mem_cons_self
      have restAre : ∀ other ∈ Request.statements rest, other ∈ statements :=
        fun other listed => areStatements other (List.mem_cons_of_mem _ listed)
      have mirrors := reliable.execute respects separates isStatement readings
      rw [← mirrors.dialect] at separates
      obtain ⟨results, final⟩ := inductionHypothesis mirrors.reliable separates restAre
      rw [mirrors.state] at results final
      refine ⟨?_, final⟩
      exact List.cons_eq_cons.2 ⟨mirrors.result, results⟩
    | purgeExpired now =>
      have purged := reliable.of_stemsFrom (reliable.wellFormed.purgeExpired now)
        (reliable.wellFormed.stemsFrom_purgeExpired now) (Cache.config_foldl_remove _ _)
      exact inductionHypothesis purged separates areStatements
    | clear =>
      have cleared := reliable.of_stemsFrom reliable.wellFormed.clear
        (.of_subset (List.nil_subset _)) rfl
      exact inductionHypothesis cleared separates areStatements

/-- On every valid configuration and every database that respects the tables of its
statements, requests to an executor with an empty cache have call by call the results that
the database alone would give, whatever the clock shows, as long as the fingerprints tell
the statements apart. The database ends in the same state. -/
theorem serve_transparent {config : CacheConfig} (valid : config.validate = .ok ())
    (respects : database.RespectsTables contents) {dialect : Dialect} {requests : List Request}
    (separates : Fingerprint.SeparatesAll dialect (Request.statements requests)) (state : σ) :
    ∃ created, Cache.new? config = .ok created ∧
      (CachedExecutor.serve database ⟨dialect, created, state⟩ requests).1 =
        (Database.serve database state requests).1 ∧
      (CachedExecutor.serve database ⟨dialect, created, state⟩ requests).2.state =
        (Database.serve database state requests).2 := by
  have reliable : Reliable database (Request.statements requests)
      ⟨dialect, Cache.blank config, state⟩ :=
    ⟨Cache.wellFormed_blank valid, fun stored listed => absurd listed List.not_mem_nil,
      fun _ => rfl⟩
  exact ⟨Cache.blank config, Cache.new?_of_valid valid,
    reliable.serve respects separates requests fun _ listed => listed⟩

end CachedExecutor

/-- A database that counts the writes to each table. A query shows the counts of its
tables, and a write without a table fails. -/
def Database.counting : Database (String → Nat) := fun state statement =>
  match classify statement.sql, tables statement.sql with
  | .read, names => ⟨.ok (.ofRows (names.map fun name => [(name, .int (state name))])), state, []⟩
  | .write, [] => ⟨.error (.query "no table"), state, []⟩
  | .write, names =>
    ⟨.ok (.affected 1 none), fun name => if name ∈ names then state name + 1 else state name,
      ["audit"]⟩

/-- The counts are the contents of the tables. -/
theorem Database.counting_respectsTables : Database.counting.RespectsTables id where
  read_keeps state statement reads := by
    simp only [counting, reads]
  read_depends {before after first second} reads sameText _ sameContents := by
    simp only [counting, ← sameText, reads]
    congr 2
    refine List.map_congr_left fun table listed => ?_
    have sameCount : before table = after table := sameContents table listed
    rw [sameCount]
  write_keeps state statement writes table notListed := by
    simp only [counting, writes]
    split
    · contradiction
    · rfl
    · simp [notListed]
  error_keeps {state statement error} failed := by
    rw [counting] at failed ⊢
    split at failed
    · contradiction
    · rfl
    · contradiction

/-- The statements of the sample below. -/
def Request.sampleStatements : List Compiled :=
  [.ofParts "SELECT * FROM users" [], .ofParts "UPDATE users SET a = 1" [],
    .ofParts "SELECT * FROM orders" [], .ofParts "DELETE" []]

/-- A query answered from the cache, run again after a write, kept by a purge, answered
once more as a stale result, and run again behind another query in a cache of one entry. -/
def Request.sample : List Request :=
  [.execute (.at 0) (.ofParts "SELECT * FROM users" []),
    .execute (.at 1) (.ofParts "SELECT * FROM users" []),
    .execute (.at 2) (.ofParts "UPDATE users SET a = 1" []),
    .execute (.at 3) (.ofParts "SELECT * FROM users" []), .purgeExpired 4,
    .execute (.at 5000) (.ofParts "SELECT * FROM users" []),
    .execute (.at 5001) (.ofParts "SELECT * FROM orders" []),
    .execute (.at 5002) (.ofParts "DELETE" []),
    .execute (.at 5003) (.ofParts "SELECT * FROM users" [])]

/-- The fingerprints of the sample's statements tell them apart. -/
theorem Request.separatesAll_sample :
    Fingerprint.SeparatesAll .sqlite (Request.statements Request.sample) := by
  have distinct : (sampleStatements.map (Fingerprint.ofCompiled .sqlite)).Nodup := by
    decide +kernel
  have listed : ∀ statement ∈ Request.statements Request.sample, statement ∈ sampleStatements := by
    simp [Request.statements, sample, sampleStatements]
  intro first isFirst second isSecond same
  have equal :=
    List.inj_on_of_nodup_map distinct (listed first isFirst) (listed second isSecond) same
  exact ⟨congrArg Compiled.sql equal, congrArg Compiled.params equal⟩

namespace CachedExecutor

/-- The sample of requests, on a cache of one entry that hands out stale results. -/
theorem serve_transparent_sample :
    CacheConfig.validate ⟨true, 1, 1, false, true⟩ = .ok () ∧
      Database.counting.RespectsTables id ∧
      Fingerprint.SeparatesAll .sqlite (Request.statements Request.sample) ∧
      ∃ created, Cache.new? ⟨true, 1, 1, false, true⟩ = .ok created ∧
        (CachedExecutor.serve Database.counting ⟨.sqlite, created, fun _ => 0⟩ Request.sample).1 =
          (Database.serve Database.counting (fun _ => 0) Request.sample).1 ∧
        (CachedExecutor.serve Database.counting ⟨.sqlite, created, fun _ => 0⟩
            Request.sample).2.state =
          (Database.serve Database.counting (fun _ => 0) Request.sample).2 :=
  ⟨by decide, Database.counting_respectsTables, Request.separatesAll_sample,
    serve_transparent (by decide) Database.counting_respectsTables Request.separatesAll_sample _⟩

end CachedExecutor

end NeutralSql
