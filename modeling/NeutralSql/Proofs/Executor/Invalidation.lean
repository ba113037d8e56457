import NeutralSql.Proofs.Executor.Reached
import NeutralSql.Proofs.SqlText.Write
import NeutralSql.Samples

/-!
# Compiled writes invalidate compiled reads

The tables of a statement reach the cache through the text it compiles to, so that a write
makes an executor forget a query only if the scan finds a common table in both texts. The
scan finds every table of a query, and the table of a write in the first text it compiles
to; after that text no entry depends on the table, and the texts behind it only remove more
entries. The executor must ask the database when the query is run next:
`CachedExecutor.run_write_forgets`.
-/

namespace NeutralSql

open SqlText (ContainsWord Denotes tables)

/-- A query that compiles makes one statement, whose text refers to all tables of the
query. -/
theorem Select.exists_of_compile {dialect : Dialect} {query : Select} {compiled : List Compiled}
    (accepted : compile dialect (.select query) = .ok compiled)
    (named : ∀ name ∈ query.tableNames, ∃ table, Denotes name table)
    (plain : ∀ expression ∈ query.expressions, ∀ anchor ∈ SqlText.anchors,
      ¬ContainsWord anchor expression.toList) :
    ∃ read, compiled = [read] ∧
      ∀ name ∈ query.tableNames, ∀ table, Denotes name table → table ∈ tables read.sql := by
  obtain ⟨plan, planned⟩ := plan_of_compile accepted
  obtain rfl := Select.plan_eq planned
  rw [compile_of_single planned] at accepted
  obtain rfl := Except.ok.inj accepted
  refine ⟨_, rfl, fun name listed table denotes => ?_⟩
  exact query.mem_tables_template dialect.capabilities.placeholder named
    (fun expression isExpression => SqlText.quiet_of_not_containsWord (plain expression isExpression))
    listed denotes

namespace Cache

/-- No entry depends on a table. -/
def IsFreeOf (cache : Cache QueryResult) (table : String) : Prop :=
  ∀ stored ∈ cache.entries, table ∉ stored.2.tables

variable {cache : Cache QueryResult} {table : String}

/-- A cache stays free of a table when others are invalidated. -/
theorem IsFreeOf.invalidate (free : cache.IsFreeOf table) (wellFormed : cache.WellFormed)
    (names : List String) : (cache.invalidate names).2.IsFreeOf table :=
  fun stored listed => free stored (wellFormed.mem_invalidate_iff.1 listed).1

/-- A cache is free of an invalidated table. -/
theorem WellFormed.isFreeOf_invalidate (wellFormed : cache.WellFormed) {names : List String}
    (invalidated : table ∈ names) (lower : Text.lowercase table = table) :
    (cache.invalidate names).2.IsFreeOf table := by
  intro stored listed
  have isClear := (wellFormed.mem_invalidate_iff.1 listed).2 table invalidated
  rw [lower] at isClear
  exact isClear

/-- A cache that is free of a table of a statement holds nothing under the fingerprint of
that statement. -/
theorem Reached.entry?_eq_none {config : CacheConfig} {dialect : Dialect}
    {statements : List Compiled} {statement : Compiled}
    (reached : cache.Reached config dialect statements) (free : cache.IsFreeOf table)
    (separates : Fingerprint.SeparatesAll dialect (statement :: statements))
    (depends : table ∈ tables statement.sql) (lower : Text.lowercase table = table) :
    cache.entry? (Fingerprint.ofCompiled dialect statement) = none := by
  refine Option.eq_none_iff_forall_ne_some.2 fun entry found => ?_
  have listed := reached.wellFormed.entry?_eq_some_iff.1 found
  obtain ⟨origin, isOrigin, key, registered⟩ := reached.attributed _ listed
  obtain ⟨sameText, -⟩ := separates statement List.mem_cons_self origin
    (List.mem_cons_of_mem _ isOrigin) key
  -- The entry stems from a statement with the same text, so it depends on the table as well.
  refine free _ listed ?_
  rw [registered, ← sameText]
  exact mem_normalize.2 ⟨table, depends, lower⟩

end Cache

namespace CachedExecutor

variable {σ : Type} {database : Database σ} {config : CacheConfig} {dialect : Dialect}
  {statements : List Compiled} {executor : CachedExecutor σ} {statement : Compiled}
  {table : String}

/-- A run executes what the statement compiles to. -/
theorem run_eq {statement : Statement} {compiled : List Compiled}
    (accepted : compile executor.dialect statement = .ok compiled) (database : Database σ)
    (clock : Nat → Readings) :
    executor.run database clock statement =
      executeAll (fun readings executor compiled =>
        if statement.isRead then executeRead database readings executor compiled
        else executeWrite database executor compiled) clock executor compiled := by
  rw [run, accepted]

/-- A completed run is one of a statement that compiles. -/
theorem compile_of_run {statement : Statement} {clock : Nat → Readings}
    {results : List QueryResult}
    (completed : (executor.run database clock statement).1 = .ok results) :
    ∃ compiled, compile executor.dialect statement = .ok compiled := by
  rw [run] at completed
  split at completed
  · contradiction
  · rename_i compiled accepted
    exact ⟨compiled, accepted⟩

/-- If all statements are executed, then so is the first one, and the rest after it. -/
theorem executeAll_cons {step : Readings → CachedExecutor σ → Compiled → Outcome σ QueryResult}
    {clock : Nat → Readings} {rest : List Compiled} {results : List QueryResult}
    (completed : (executeAll step clock executor (statement :: rest)).1 = .ok results) :
    (∃ result, (step (clock 0) executor statement).1 = .ok result) ∧
      (executeAll step clock executor (statement :: rest)).2 =
        (executeAll step (fun index => clock (index + 1))
          (step (clock 0) executor statement).2 rest).2 := by
  rw [executeAll] at completed ⊢
  cases outcome : step (clock 0) executor statement with
  | mk first after =>
    rw [outcome] at completed
    cases first with
    | error error => contradiction
    | ok result =>
      refine ⟨⟨result, rfl⟩, ?_⟩
      dsimp only
      split
      · rename_i error final failed
        rw [failed]
      · rename_i others final succeeded
        rw [succeeded]

/-- Calls have led to the executor, and no entry of its cache depends on a table. -/
structure HasForgotten (config : CacheConfig) (dialect : Dialect) (statements : List Compiled)
    (table : String) (executor : CachedExecutor σ) : Prop where
  reached : executor.Reached config dialect statements
  free : executor.cache.IsFreeOf table

/-- Asking the database recalls nothing. -/
theorem HasForgotten.ask (forgotten : executor.HasForgotten config dialect statements table)
    (database : Database σ) (statement : Compiled) :
    (executor.ask database statement).2.HasForgotten config dialect statements table := by
  refine ⟨forgotten.reached.ask database statement, ?_⟩
  rw [ask_eq]
  exact forgotten.free.invalidate forgotten.reached.cache.wellFormed _

/-- Nor does a statement that writes. -/
theorem HasForgotten.executeWrite
    (forgotten : executor.HasForgotten config dialect statements table)
    (database : Database σ) (statement : Compiled) :
    (executor.executeWrite database statement).2.HasForgotten config dialect statements
      table := by
  have asked := forgotten.ask database statement
  refine ⟨forgotten.reached.executeWrite database statement, ?_⟩
  rcases executor.executeWrite_cases database statement with invalidates | ⟨asks, -⟩
  · rw [invalidates]
    exact asked.free.invalidate asked.reached.cache.wellFormed _
  · rw [asks]
    exact asked.free

/-- A statement that writes makes the executor forget its tables, if it succeeds. -/
theorem Reached.hasForgotten_executeWrite
    (reached : executor.Reached config dialect statements) (enabled : config.enabled = true)
    (written : table ∈ tables statement.sql) (lower : Text.lowercase table = table)
    {result : QueryResult}
    (succeeded : (executor.executeWrite database statement).1 = .ok result) :
    (executor.executeWrite database statement).2.HasForgotten config dialect statements
      table := by
  have asked := reached.ask database statement
  refine ⟨reached.executeWrite database statement, ?_⟩
  rcases executor.executeWrite_cases database statement with invalidates | ⟨-, fails⟩
  · rw [invalidates]
    exact asked.cache.wellFormed.isFreeOf_invalidate written lower
  · obtain ⟨error, failed⟩ := fails (asked.cache.config_eq ▸ enabled)
    rw [failed] at succeeded
    contradiction

/-- A completed run of a statement that writes makes the executor forget the table that the
statement names. -/
theorem Reached.hasForgotten_run (reached : executor.Reached config dialect statements)
    (enabled : config.enabled = true) {write : Statement} (writes : write.writes = true)
    (denotes : Denotes write.table table) {clock : Nat → Readings} {results : List QueryResult}
    (completed : (executor.run database clock write).1 = .ok results) :
    (executor.run database clock write).2.HasForgotten config dialect statements table := by
  obtain ⟨compiled, accepted⟩ := compile_of_run completed
  obtain ⟨first, others, rfl, written⟩ := Statement.exists_first_of_writes writes denotes accepted
  rw [run_eq accepted] at completed ⊢
  simp only [Statement.isRead_of_writes writes, Bool.false_eq_true, if_false] at completed ⊢
  obtain ⟨⟨result, succeeded⟩, final⟩ := executeAll_cons completed
  rw [final]
  have firstForgotten :=
    reached.hasForgotten_executeWrite enabled written denotes.lowercase succeeded
  -- What a write finishes behind its first text, such as the indexes of a table, may fail or
  -- invalidate more, but stores nothing.
  have othersKeep : ∀ (_ : Readings) (executor : CachedExecutor σ), ∀ other ∈ others,
      executor.HasForgotten config dialect statements table →
      (executor.executeWrite database other).2.HasForgotten config dialect statements table :=
    fun _ _ other _ forgotten => forgotten.executeWrite database other
  exact executeAll_keeps othersKeep _ firstForgotten

/-- A statement under whose fingerprint nothing is stored is put to the database. -/
theorem executeRead_of_absent (enabled : executor.cache.config.enabled = true)
    (absent : executor.cache.entry? (Fingerprint.ofCompiled executor.dialect statement) = none)
    (database : Database σ) (readings : Readings) :
    (executor.executeRead database readings statement).1 =
        (database executor.state statement).result ∧
      (executor.executeRead database readings statement).2.state =
        (database executor.state statement).state := by
  rcases executor.cache.get_cases readings.lookup
      (Fingerprint.ofCompiled executor.dialect statement) with
    ⟨-, missed⟩ | ⟨entry, found, -⟩ | ⟨entry, found, -⟩
  · rw [CachedExecutor.executeRead, if_pos enabled]
    simp only [missed, ask_eq]
    cases (database executor.state statement).result with
    | error error => exact ⟨rfl, rfl⟩
    | ok result => exact ⟨rfl, rfl⟩
  · rw [absent] at found
    contradiction
  · rw [absent] at found
    contradiction

/-- A query under whose fingerprint nothing is stored is run by the database. -/
theorem run_of_absent {query : Select} {read : Compiled}
    (accepted : compile executor.dialect (.select query) = .ok [read])
    (enabled : executor.cache.config.enabled = true)
    (absent : executor.cache.entry? (Fingerprint.ofCompiled executor.dialect read) = none)
    (database : Database σ) (clock : Nat → Readings) :
    (executor.run database clock (.select query)).1 =
        (database executor.state read).result.map ([·]) ∧
      (executor.run database clock (.select query)).2.state =
        (database executor.state read).state := by
  obtain ⟨result, state⟩ := executeRead_of_absent enabled absent database (clock 0)
  rw [run_eq accepted, executeAll]
  simp only [Statement.isRead, if_true, ← result, ← state]
  cases executor.executeRead database (clock 0) read with
  | mk answer after =>
    cases answer with
    | error error => exact ⟨rfl, rfl⟩
    | ok answer => exact ⟨rfl, rfl⟩

/-- The text of a query refers to the table of the query and all joined ones. After a
completed write to one of them, on whatever cache calls have led to, no entry is stored
under the fingerprint of the query, so that every database is asked when the query is run
next. -/
theorem run_write_forgets {query : Select} {write : Statement} {compiled : List Compiled}
    (named : ∀ name ∈ query.tableNames, ∃ table, Denotes name table)
    (plain : ∀ expression ∈ query.expressions, ∀ anchor ∈ SqlText.anchors,
      ¬ContainsWord anchor expression.toList)
    (writes : write.writes = true) (written : Denotes write.table table)
    (shared : ∃ name ∈ query.tableNames, Denotes name table)
    (accepted : compile dialect (.select query) = .ok compiled) :
    ∃ read, compiled = [read] ∧
      (∀ name ∈ query.tableNames, ∀ table, Denotes name table → table ∈ tables read.sql) ∧
      ∀ {σ : Type} {config statements} {executor : CachedExecutor σ} {database clock results},
        executor.Reached config dialect statements → config.enabled = true →
        Fingerprint.SeparatesAll dialect (read :: statements) →
        (executor.run database clock write).1 = .ok results →
        let after := (executor.run database clock write).2
        after.cache.entry? (Fingerprint.ofCompiled dialect read) = none ∧
          ∀ (next : Database σ) (later : Nat → Readings),
            (after.run next later (.select query)).1 =
                (next after.state read).result.map ([·]) ∧
              (after.run next later (.select query)).2.state = (next after.state read).state := by
  obtain ⟨read, rfl, found⟩ := Select.exists_of_compile accepted named plain
  obtain ⟨name, isTable, denotes⟩ := shared
  refine ⟨read, rfl, found, fun reached enabled separates completed => ?_⟩
  obtain ⟨afterReached, free⟩ := reached.hasForgotten_run enabled writes written completed
  have absent := afterReached.cache.entry?_eq_none free separates
    (found name isTable table denotes) written.lowercase
  refine ⟨absent, fun next later => ?_⟩
  refine run_of_absent ?_ ?_ ?_ next later
  · rw [afterReached.dialect_eq]
    exact accepted
  · rw [afterReached.cache.config_eq]
    exact enabled
  · rw [afterReached.dialect_eq]
    exact absent

end CachedExecutor

/-- The orders of a schema with their customers. -/
def Select.sampleJoin : Select :=
  { Samples.ordersWithCustomers .left with table := "shop.Orders" }

/-- A table of orders, unless it exists. -/
def CreateTable.sampleOrders : CreateTable :=
  ⟨"ORDERS", [.plain "id" "integer"], .none, true⟩

/-- The names of the tables in both denote two tables. -/
theorem Select.denotes_sampleJoin :
    Denotes "shop.Orders" "orders" ∧ Denotes "customers" "customers" ∧
      Denotes "ORDERS" "orders" := by
  have dotted : SqlText.IsPath "Orders".toList ("shop".toList ++ '.' :: "Orders".toList) :=
    .dotted (by decide) (.single (by decide))
  exact ⟨⟨_, dotted, by decide, by decide⟩, ⟨_, .single (by decide), by decide, by decide⟩,
    ⟨_, .single (by decide), by decide, by decide⟩⟩

namespace CachedExecutor

/-- An executor with an empty cache, which has room for one entry. -/
def sampleStart : CachedExecutor (String → Nat) :=
  ⟨.mssql, Cache.blank ⟨true, 1, 1, false, true⟩, fun _ => 0⟩

/-- The executor with the sample query in its cache. -/
def sampleJoined : CachedExecutor (String → Nat) :=
  sampleStart.after Database.counting (.run (fun _ => .at 0) (.select Select.sampleJoin))

/-- A guarded CREATE TABLE for the orders takes the sample query out of the cache. -/
theorem run_write_forgets_guarded :
    sampleJoined.cache.size = 1 ∧
      ∃ read results, compile .mssql (.select Select.sampleJoin) = .ok [read] ∧
        "orders" ∈ tables read.sql ∧ "customers" ∈ tables read.sql ∧
        (sampleJoined.run Database.counting (fun _ => .at 1)
          (.createTable CreateTable.sampleOrders)).1 = .ok results ∧
        (sampleJoined.run Database.counting (fun _ => .at 1)
            (.createTable CreateTable.sampleOrders)).2.cache.entry?
          (Fingerprint.ofCompiled .mssql read) = none := by
  obtain ⟨own, joined, written⟩ := Select.denotes_sampleJoin
  have named : ∀ name ∈ Select.sampleJoin.tableNames, ∃ table, Denotes name table :=
    List.forall_mem_cons.2 ⟨⟨_, own⟩, List.forall_mem_singleton.2 ⟨_, joined⟩⟩
  have plain : ∀ expression ∈ Select.sampleJoin.expressions, ∀ anchor ∈ SqlText.anchors,
      ¬ContainsWord anchor expression.toList := by
    have apart : ∀ expression ∈ Select.sampleJoin.expressions, ∀ anchor ∈ SqlText.anchors,
        ¬Text.asciiLower anchor.toList <:+: Text.asciiLower expression.toList := by
      decide
    exact fun expression isExpression anchor listed =>
      SqlText.not_containsWord_of_not_infix (apart expression isExpression anchor listed)
  have planned : (Statement.select Select.sampleJoin).plan .mssql =
      .ok (.single [] (Select.sampleJoin.template .mssql)) := rfl
  have accepted := compile_of_single planned
  have writes : (Statement.createTable CreateTable.sampleOrders).writes = true := rfl
  obtain ⟨read, isRead, found, forgets⟩ :=
    run_write_forgets named plain writes written ⟨_, List.mem_cons_self, own⟩ accepted
  rw [isRead] at accepted
  have started : sampleStart.Reached ⟨true, 1, 1, false, true⟩ .mssql [read] :=
    ⟨rfl, .created rfl⟩
  have reached : sampleJoined.Reached ⟨true, 1, 1, false, true⟩ .mssql [read] := by
    refine started.after Database.counting fun statement isStatement => ?_
    rw [Call.statements, accepted] at isStatement
    exact isStatement
  have separates : Fingerprint.SeparatesAll .mssql [read, read] := by
    intro first isFirst second isSecond _
    simp only [List.mem_cons, List.not_mem_nil, or_false, or_self] at isFirst isSecond
    rw [isFirst, isSecond]
    exact ⟨rfl, rfl⟩
  have completes : (sampleJoined.run Database.counting (fun _ => .at 1)
      (.createTable CreateTable.sampleOrders)).1.toOption.isSome = true := by
    decide +kernel
  cases outcome : (sampleJoined.run Database.counting (fun _ => .at 1)
      (.createTable CreateTable.sampleOrders)).1 with
  | error error =>
    rw [outcome] at completes
    contradiction
  | ok results =>
    have ownFound := found "shop.Orders" List.mem_cons_self "orders" own
    have joinedFound := found "customers" (List.mem_cons_of_mem _ List.mem_cons_self) _ joined
    exact ⟨by decide +kernel, read, results, accepted, ownFound, joinedFound, rfl,
      (forgets reached rfl separates outcome).1⟩

end CachedExecutor

end NeutralSql
