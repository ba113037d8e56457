import NeutralSql.Proofs.Cache.Accounting
import NeutralSql.Proofs.Compile.Context
import NeutralSql.Proofs.Compile.Query
import NeutralSql.Proofs.Executor.Reached
import NeutralSql.Proofs.Executor.Recording

/-!
# Failures leave the cache intact

A statement that fails was put to the database, and its error is the error of the database.
The cache afterwards is the one before, except for what the lookup in front of the question
did to it: one more miss, and an expired entry under the same fingerprint is gone
(`Cache.Missed`). A run stops at the first statement that fails, in the state to which the
statements in front of it have led. What other clients have written in the meantime is
invalidated as always.
-/

namespace NeutralSql

open SqlText (Kind classify)

namespace Cache

variable {α : Type} {before : Cache α} {now : Nat} {fingerprint : Fingerprint}

/-- What a lookup leaves that finds no answer: there is one more miss, the entry under the
fingerprint is gone if it had expired, and nothing else has changed. -/
structure Missed (before after : Cache α) (now : Nat) (fingerprint : Fingerprint) : Prop where
  expired : ∀ entry, before.entry? fingerprint = some entry →
    entry.isExpired before.config now = true ∧ before.config.allowStale = false
  untouched : before.entry? fingerprint = none →
    after = { before with misses := before.misses + 1 }
  config : after.config = before.config
  entries : after.entries = without fingerprint before.entries
  registered : ∀ table other, other ∈ after.index.under table ↔
    other ∈ before.index.under table ∧ other ≠ fingerprint
  generations : after.generations = before.generations
  counters : after.counters = { before.counters with misses := before.misses + 1 }

/-- A lookup in a well-formed cache that finds no answer leaves this. -/
theorem WellFormed.missed_get (wellFormed : before.WellFormed)
    (unanswered : (before.get now fingerprint).1 = none) :
    before.Missed (before.get now fingerprint).2 now fingerprint := by
  have counters := before.counters_get now fingerprint
  rw [unanswered] at counters
  have missing : before.contains now fingerprint = false := by
    rw [Bool.eq_false_iff]
    intro contained
    obtain ⟨entry, found, fresh⟩ := contains_eq_true_iff.1 contained
    rw [get_of_fresh found fresh] at unanswered
    contradiction
  have registered : ∀ table other,
      other ∈ (before.remove fingerprint).index.under table ↔
        other ∈ before.index.under table ∧ other ≠ fingerprint :=
    fun _ _ => wellFormed.toSound.mem_under_remove
  have left := entries_get_of_not_contains missing
  rcases before.get_cases now fingerprint with
    ⟨absent, got⟩ | ⟨stored, isStored, expired, got⟩ | ⟨stored, -, -, got⟩
  · have unchanged : before.remove fingerprint = before := by rw [Cache.remove, absent]
    rw [unchanged] at registered
    rw [got] at left counters ⊢
    refine ⟨fun entry found => ?_, fun _ => rfl, rfl, left, registered, rfl, counters⟩
    rw [absent] at found
    contradiction
  · rw [got] at unanswered
    split at unanswered
    · contradiction
    · rename_i neverStale
      rw [if_neg neverStale] at got
      rw [got] at left counters ⊢
      refine ⟨fun entry found => ?_, fun absent => ?_, config_remove before fingerprint, left,
        registered, generations_remove before fingerprint, counters⟩
      · rw [isStored, Option.some.injEq] at found
        exact ⟨found ▸ expired, Bool.eq_false_iff.2 neverStale⟩
      · rw [absent] at isStored
        contradiction
  · rw [got] at unanswered
    contradiction

end Cache

namespace CachedExecutor

variable {σ : Type} {database : Database σ} {kind : Kind} {readings : Readings}
  {executor : CachedExecutor σ} {statement : Compiled} {error : ExecuteError}

/-! ## One statement -/

/-- A statement is put to the database: it writes, or the cache is switched off, or it holds
no answer. -/
def Asks (executor : CachedExecutor σ) (kind : Kind) (readings : Readings)
    (statement : Compiled) : Prop :=
  kind = .read → executor.cache.config.enabled = true →
    (executor.cache.get readings.lookup
      (Fingerprint.ofCompiled executor.dialect statement)).1 = none

/-- The statement fails: it is put to the database, which replies an error. -/
structure Fails (database : Database σ) (kind : Kind) (readings : Readings)
    (executor : CachedExecutor σ) (statement : Compiled) (error : ExecuteError) : Prop where
  asks : executor.Asks kind readings statement
  replied : (database executor.state statement).result = .error error

/-- The executor behind the lookup with which a statement that reads begins. -/
def lookedUp (executor : CachedExecutor σ) (kind : Kind) (readings : Readings)
    (statement : Compiled) : CachedExecutor σ :=
  if kind = .read ∧ executor.cache.config.enabled = true then
    { executor with
      cache := (executor.cache.get readings.lookup
        (Fingerprint.ofCompiled executor.dialect statement)).2 }
  else executor

/-- What is in the cache when a statement is put to the database: what was there before, or
what a lookup without an answer leaves. -/
structure Asked (kind : Kind) (readings : Readings) (executor : CachedExecutor σ)
    (statement : Compiled) (left : Cache QueryResult) : Prop where
  kept : kind = .write ∨ executor.cache.config.enabled = false → left = executor.cache
  missed : kind = .read → executor.cache.config.enabled = true →
    executor.cache.Missed left readings.lookup
      (Fingerprint.ofCompiled executor.dialect statement)

/-- What a failed statement leaves: its error, the database as it replied, and the cache in
which it was asked, without what other clients have invalidated meanwhile. -/
structure FailedWith (database : Database σ) (kind : Kind) (readings : Readings)
    (executor : CachedExecutor σ) (statement : Compiled) (error : ExecuteError)
    {α : Type} (outcome : Outcome σ α) : Prop where
  error_eq : outcome.1 = .error error
  dialect : outcome.2.dialect = executor.dialect
  state : outcome.2.state = (database executor.state statement).state
  cache : ∃ left, executor.Asked kind readings statement left ∧
    outcome.2.cache = (left.invalidate (database executor.state statement).overtaken).2 ∧
    ((database executor.state statement).overtaken = [] → outcome.2.cache = left)

/-- The lookup touches the cache only. -/
theorem lookedUp_eq (executor : CachedExecutor σ) (kind : Kind) (readings : Readings)
    (statement : Compiled) :
    (executor.lookedUp kind readings statement).dialect = executor.dialect ∧
      (executor.lookedUp kind readings statement).state = executor.state := by
  rw [lookedUp]
  split
  · exact ⟨rfl, rfl⟩
  · exact ⟨rfl, rfl⟩

/-- Behind the lookup the cache is what a statement is asked in. -/
theorem Asks.asked_lookedUp (asks : executor.Asks kind readings statement)
    (wellFormed : kind = .read → executor.cache.WellFormed) :
    executor.Asked kind readings statement (executor.lookedUp kind readings statement).cache := by
  rw [lookedUp]
  split
  · rename_i looks
    obtain ⟨rfl, enabled⟩ := looks
    refine ⟨?_, fun _ _ => (wellFormed rfl).missed_get (asks rfl enabled)⟩
    rintro (writes | disabled)
    · contradiction
    · rw [enabled] at disabled
      contradiction
  · rename_i looksNot
    exact ⟨fun _ => rfl, fun reads enabled => absurd ⟨reads, enabled⟩ looksNot⟩

/-- A statement that fails leaves it at the question behind the lookup. -/
theorem Fails.executeAs_eq (fails : executor.Fails database kind readings statement error) :
    executor.executeAs database kind readings statement =
      (executor.lookedUp kind readings statement).ask database statement := by
  obtain ⟨asks, replied⟩ := fails
  cases kind with
  | write =>
    rw [executeAs, executeWrite, ask_eq, replied, lookedUp, if_neg (by simp), ask_eq, replied]
  | read =>
    rw [executeAs, executeRead]
    by_cases enabled : executor.cache.config.enabled = true
    · rw [if_pos enabled, lookedUp, if_pos ⟨rfl, enabled⟩]
      have unanswered := asks rfl enabled
      rcases got : executor.cache.get readings.lookup
        (Fingerprint.ofCompiled executor.dialect statement) with ⟨hit, cache⟩
      rw [got] at unanswered
      obtain rfl : hit = none := unanswered
      simp only [got, ask_eq, replied]
    · rw [if_neg enabled, lookedUp, if_neg (fun looks => enabled looks.2)]

/-- A statement fails only with an error of the database. -/
theorem fails_of_executeAs
    (failed : (executor.executeAs database kind readings statement).1 = .error error) :
    executor.Fails database kind readings statement error := by
  cases kind with
  | write =>
    refine ⟨fun reads => by contradiction, ?_⟩
    rw [executeAs, executeWrite, ask_eq] at failed
    cases reply : (database executor.state statement).result with
    | ok result =>
      rw [reply] at failed
      contradiction
    | error other =>
      rw [reply] at failed
      exact failed
  | read =>
    rw [executeAs, executeRead] at failed
    by_cases enabled : executor.cache.config.enabled = true
    · rw [if_pos enabled] at failed
      dsimp only at failed
      rcases got : executor.cache.get readings.lookup
        (Fingerprint.ofCompiled executor.dialect statement) with ⟨_ | hit, cache⟩
      · refine ⟨fun _ _ => congrArg Prod.fst got, ?_⟩
        rw [got] at failed
        simp only [ask_eq] at failed
        cases reply : (database executor.state statement).result with
        | ok result =>
          rw [reply] at failed
          contradiction
        | error other =>
          rw [reply] at failed
          exact failed
      · rw [got] at failed
        contradiction
    · rw [if_neg enabled, ask_eq] at failed
      exact ⟨fun _ isEnabled => absurd isEnabled enabled, failed⟩

/-- A failed statement leaves its error and, up to the lookup, the cache as it was. -/
theorem Fails.failedWith (fails : executor.Fails database kind readings statement error)
    (wellFormed : kind = .read → executor.cache.WellFormed) :
    executor.FailedWith database kind readings statement error
      (executor.executeAs database kind readings statement) := by
  obtain ⟨dialect, state⟩ := executor.lookedUp_eq kind readings statement
  rw [fails.executeAs_eq, ask_eq, state]
  refine ⟨fails.replied, dialect, rfl, _, fails.asks.asked_lookedUp wellFormed, rfl, ?_⟩
  intro nothingOvertaken
  dsimp only
  rw [nothingOvertaken]
  rfl

/-! ## Runs -/

section Run

variable {step : Readings → CachedExecutor σ → Compiled → Outcome σ QueryResult}
  {clock : Nat → Readings} {front compiled : List Compiled} {results : List QueryResult}
  {reached : CachedExecutor σ} {failing : Compiled}

/-- A run stops at a statement that fails behind others that succeed. -/
theorem executeAll_of_error
    (succeeded : executeAll step clock executor front = (.ok results, reached))
    (failed : (step (clock front.length) reached failing).1 = .error error)
    (rest : List Compiled) :
    executeAll step clock executor (front ++ failing :: rest) =
      (.error error, (step (clock front.length) reached failing).2) := by
  induction front generalizing clock executor results with
  | nil =>
    obtain ⟨-, rfl⟩ := Prod.mk.inj succeeded
    exact executeAll_cons_of_error (Prod.ext failed rfl) rest
  | cons first others inductionHypothesis =>
    rw [List.cons_append]
    rcases stepped : step (clock 0) executor first with ⟨other | result, after⟩
    · rw [executeAll_cons_of_error stepped] at succeeded
      cases succeeded
    · rw [executeAll_cons_of_ok stepped] at succeeded ⊢
      rcases behind : executeAll step (fun index => clock (index + 1)) after others with
        ⟨other | otherResults, last⟩
      · rw [behind] at succeeded
        cases succeeded
      · rw [behind] at succeeded
        obtain ⟨-, rfl⟩ := Prod.mk.inj succeeded
        rw [inductionHypothesis behind failed]
        rfl

/-- A run that fails has stopped at the first statement that fails. -/
theorem exists_of_executeAll_error
    (failed : (executeAll step clock executor compiled).1 = .error error) :
    ∃ front failing rest results reached, compiled = front ++ failing :: rest ∧
      executeAll step clock executor front = (.ok results, reached) ∧
      (step (clock front.length) reached failing).1 = .error error := by
  induction compiled generalizing clock executor with
  | nil => contradiction
  | cons first others inductionHypothesis =>
    rcases stepped : step (clock 0) executor first with ⟨other | result, after⟩
    · rw [executeAll_cons_of_error stepped] at failed
      obtain rfl := Except.error.inj failed
      exact ⟨[], first, others, [], executor, rfl, rfl, congrArg Prod.fst stepped⟩
    · rw [executeAll_cons_of_ok stepped] at failed
      rcases behind : executeAll step (fun index => clock (index + 1)) after others with
        ⟨other | otherResults, last⟩
      · rw [behind] at failed
        obtain ⟨front, failing, rest, results, reached, rfl, succeeded, stopped⟩ :=
          inductionHypothesis ((congrArg Prod.fst behind).trans failed)
        refine ⟨first :: front, failing, rest, result :: results, reached, rfl, ?_, stopped⟩
        rw [executeAll_cons_of_ok stepped, succeeded]
        rfl
      · rw [behind] at failed
        contradiction

end Run

/-- A query that compiles makes one statement. -/
theorem exists_of_compile_select {dialect : Dialect} {query : Select} {compiled : List Compiled}
    (accepted : compile dialect (.select query) = .ok compiled) :
    ∃ read, compiled = [read] := by
  obtain ⟨plan, planned⟩ := plan_of_compile accepted
  obtain rfl := Select.plan_eq planned
  rw [compile_of_single planned] at accepted
  exact ⟨_, (Except.ok.inj accepted).symm⟩

/-- What a statement compiles to is run up to a statement that fails: those in front of it
succeed, and it fails on the executor to which they lead. -/
structure StopsAt (database : Database σ) (kind : Kind) (clock : Nat → Readings)
    (executor : CachedExecutor σ) (compiled front : List Compiled) (reached : CachedExecutor σ)
    (failing : Compiled) (error : ExecuteError) : Prop where
  split : ∃ rest, compiled = front ++ failing :: rest
  succeeded : ∃ results,
    executeAll (executeAs database kind) clock executor front = (.ok results, reached)
  fails : reached.Fails database kind (clock front.length) failing error

section StopsAt

variable {clock : Nat → Readings} {request : Statement} {compiled front : List Compiled}
  {reached : CachedExecutor σ} {failing : Compiled}

/-- A run that stops leaves what the failing statement leaves. -/
theorem StopsAt.run_eq (accepted : compile executor.dialect request = .ok compiled)
    (stops : executor.StopsAt database request.kind clock compiled front reached failing error) :
    executor.run database clock request =
      (.error error, (reached.executeAs database request.kind (clock front.length) failing).2) := by
  obtain ⟨⟨rest, rfl⟩, ⟨results, succeeded⟩, fails⟩ := stops
  rw [run_eq_executeAll accepted]
  refine executeAll_of_error succeeded ?_ rest
  rw [fails.executeAs_eq, ask_eq, (reached.lookedUp_eq _ _ _).2]
  exact fails.replied

/-- A run that fails has stopped somewhere. -/
theorem run_eq_error_iff (accepted : compile executor.dialect request = .ok compiled) :
    (executor.run database clock request).1 = .error error ↔ ∃ front reached failing,
      executor.StopsAt database request.kind clock compiled front reached failing error := by
  constructor
  · intro failed
    rw [run_eq_executeAll accepted] at failed
    obtain ⟨front, failing, rest, results, reached, split, succeeded, stopped⟩ :=
      exists_of_executeAll_error failed
    exact ⟨front, reached, failing, ⟨rest, split⟩, ⟨results, succeeded⟩,
      fails_of_executeAs stopped⟩
  · rintro ⟨front, reached, failing, stops⟩
    rw [stops.run_eq accepted]

/-- A statement that reads has nothing in front of it. -/
theorem StopsAt.front_eq_nil (accepted : compile executor.dialect request = .ok compiled)
    (stops : executor.StopsAt database request.kind clock compiled front reached failing error)
    (reads : request.kind = .read) : front = [] ∧ reached = executor := by
  obtain ⟨⟨rest, rfl⟩, ⟨results, succeeded⟩, -⟩ := stops
  cases request with
  | select query =>
    obtain ⟨read, single⟩ := exists_of_compile_select accepted
    obtain ⟨rfl, -⟩ := List.append_eq_singleton_iff.1 single |>.resolve_right (by simp)
    exact ⟨rfl, (Prod.mk.inj succeeded).2.symm⟩
  | _ => contradiction

/-- With a recording database a run stops at the same place, and the statements in front have
been written down. -/
theorem StopsAt.recording (accepted : compile executor.dialect request = .ok compiled)
    (stops : executor.StopsAt database request.kind clock compiled front reached failing error) :
    ∃ recorded, recorded.state.2 = front ∧
      executor.recording.StopsAt database.recording request.kind clock compiled front recorded
        failing error := by
  obtain ⟨results, succeeded⟩ := stops.succeeded
  have commutes := executeAll_viewed
    (executeAs_viewed database.refines_recording request.kind) clock executor.recording front
  rcases recordedRun : executeAll (executeAs database.recording request.kind) clock
    executor.recording front with ⟨outcome, recorded⟩
  rw [recordedRun] at commutes
  obtain ⟨rfl, rfl⟩ := Prod.mk.inj (succeeded.symm.trans commutes)
  refine ⟨recorded, ?_, stops.split, ⟨results, recordedRun⟩, stops.fails.asks,
    stops.fails.replied⟩
  cases kind : request.kind with
  | read =>
    -- A lookup may answer a query in front, which is then not written down; there is none.
    obtain ⟨rfl, -⟩ := stops.front_eq_nil accepted kind
    exact congrArg (fun outcome => outcome.2.state.2) recordedRun.symm
  | write =>
    rw [kind] at recordedRun
    have records : ∀ readings (executor : CachedExecutor (σ × List Compiled)) statement,
        (executor.executeAs database.recording .write readings statement).2.state.2 =
          executor.state.2 ++ [statement] :=
      fun _ _ _ => record_executeWrite database
    have writtenDown := record_executeAll records (congrArg Prod.fst recordedRun)
    rw [recordedRun] at writtenDown
    exact writtenDown

/-- What reaches the database are the statements up to the one that fails. -/
theorem StopsAt.record_run (accepted : compile executor.dialect request = .ok compiled)
    (stops : executor.StopsAt database request.kind clock compiled front reached failing error) :
    (executor.recording.run database.recording clock request).2.state.2 = front ++ [failing] := by
  obtain ⟨recorded, rfl, recordedStops⟩ := stops.recording accepted
  have shown : compile executor.recording.dialect request = .ok compiled := accepted
  rw [recordedStops.run_eq shown]
  dsimp only
  rw [recordedStops.fails.executeAs_eq, record_ask, (recorded.lookedUp_eq _ _ _).2]

end StopsAt

/-- Whatever is in a well-formed cache, a statement fails exactly if it is put to the database
and that replies an error. The error is passed on. A write or a switched-off cache then leaves
the cache as it was, and a read only what a lookup without an answer does to it, apart from
what other clients have invalidated. A run fails exactly if it stops somewhere; it has then
put to the database the statements up to that place and no others, and leaves what the failing
statement leaves of the cache to which the statements in front have led. -/
theorem failure_keeps_cache (wellFormed : executor.cache.WellFormed) (database : Database σ) :
    (∀ readings statement error,
      ((executor.execute database readings statement).1 = .error error ↔
        executor.Fails database (classify statement.sql) readings statement error) ∧
      (executor.Fails database (classify statement.sql) readings statement error →
        executor.FailedWith database (classify statement.sql) readings statement error
          (executor.execute database readings statement))) ∧
    ∀ clock request compiled error, compile executor.dialect request = .ok compiled →
      ((executor.run database clock request).1 = .error error ↔ ∃ front reached failing,
        executor.StopsAt database request.kind clock compiled front reached failing error) ∧
      ∀ front reached failing,
        executor.StopsAt database request.kind clock compiled front reached failing error →
        reached.FailedWith database request.kind (clock front.length) failing error
          (executor.run database clock request) ∧
        (executor.recording.run database.recording clock request).2.state.2 =
          front ++ [failing] := by
  refine ⟨fun readings statement error => ?_, fun clock request compiled error accepted =>
    ⟨run_eq_error_iff accepted, fun front reached failing stops => ⟨?_, stops.record_run accepted⟩⟩⟩
  · rw [execute_eq]
    have failed (fails : executor.Fails database (classify statement.sql) readings statement
        error) := fails.failedWith fun _ => wellFormed
    exact ⟨⟨fails_of_executeAs, fun fails => (failed fails).error_eq⟩, failed⟩
  · have failed := stops.fails.failedWith fun reads =>
      (stops.front_eq_nil accepted reads).2 ▸ wellFormed
    rw [stops.run_eq accepted]
    exact ⟨rfl, failed.dialect, failed.state, failed.cache⟩

end CachedExecutor

/-- A database that answers a number of statements and none after them. -/
def Database.rationed : Database Nat := fun left _ =>
  match left with
  | 0 => ⟨.error (.connection "closed"), 0, []⟩
  | rest + 1 => ⟨.ok .empty, rest, []⟩

/-- A query of the users. -/
def Compiled.sampleUsers : Compiled :=
  .ofParts "SELECT * FROM users" []

/-- A table that comes to three statements where indexes are separate ones. -/
def CreateTable.sampleIndexed : CreateTable :=
  ⟨"items", [.plain "id" "integer", .plain "name" "string"],
    (Constraints.none.addIndex ⟨["id"], none⟩).addIndex ⟨["name"], none⟩, false⟩

namespace CachedExecutor

/-- The rationed database behind a cache of two entries, one of them of the users. -/
def sampleRationed (left : Nat) : CachedExecutor Nat :=
  let users := Fingerprint.ofCompiled .sqlite Compiled.sampleUsers
  let orders := Fingerprint.ofCompiled .sqlite (.ofParts "SELECT * FROM orders" [])
  let start : Cache QueryResult := .blank ⟨true, 2, 1, false, false⟩
  ⟨.sqlite, ((start.put 0 users .empty ["users"]).2.put 5000 orders .empty ["orders"]).2, left⟩

/-- The cache of the sample is well-formed. -/
theorem wellFormed_sampleRationed (left : Nat) : (sampleRationed left).cache.WellFormed :=
  ((Cache.wellFormed_blank (by decide)).put 0 _ _ _).put 5000 _ _ _

/-- A query finds its entry expired and is refused; a table is created, and the first of its
indexes is refused. -/
theorem failure_keeps_cache_rationed :
    (∀ left, (sampleRationed left).cache.WellFormed) ∧ (sampleRationed 0).cache.size = 2 ∧
      (sampleRationed 0).FailedWith Database.rationed (classify Compiled.sampleUsers.sql) (.at 5000)
        Compiled.sampleUsers (.connection "closed")
        ((sampleRationed 0).execute Database.rationed (.at 5000) Compiled.sampleUsers) ∧
      ∃ compiled error front reached failing,
        compile .sqlite (.createTable CreateTable.sampleIndexed) = .ok compiled ∧
        compiled.length = 3 ∧ front.length = 1 ∧
        (sampleRationed 1).StopsAt Database.rationed .write (fun _ => .at 5000) compiled front
          reached failing error ∧
        reached.FailedWith Database.rationed .write (.at 5000) failing error
          ((sampleRationed 1).run Database.rationed (fun _ => .at 5000)
            (.createTable CreateTable.sampleIndexed)) ∧
        ((sampleRationed 1).recording.run Database.rationed.recording (fun _ => .at 5000)
          (.createTable CreateTable.sampleIndexed)).2.state.2 = front ++ [failing] := by
  obtain ⟨statements, -⟩ :=
    failure_keeps_cache (wellFormed_sampleRationed 0) Database.rationed
  obtain ⟨-, runs⟩ := failure_keeps_cache (wellFormed_sampleRationed 1) Database.rationed
  have unanswered : ((sampleRationed 0).cache.get (Readings.at 5000).lookup
      (Fingerprint.ofCompiled .sqlite Compiled.sampleUsers)).1.isNone = true := by
    decide +kernel
  have refused := (statements (.at 5000) Compiled.sampleUsers (.connection "closed")).2
    ⟨fun _ _ => Option.isNone_iff_eq_none.1 unanswered, rfl⟩
  refine ⟨wellFormed_sampleRationed, by decide +kernel, refused, ?_⟩
  have isRefused : ((sampleRationed 1).run Database.rationed (fun _ => .at 5000)
      (.createTable CreateTable.sampleIndexed)).1.toOption.isNone = true := by
    decide +kernel
  have lengths : (compile .sqlite (.createTable CreateTable.sampleIndexed)).toOption.map
        List.length = some 3 ∧
      ((sampleRationed 1).recording.run Database.rationed.recording (fun _ => .at 5000)
        (.createTable CreateTable.sampleIndexed)).2.state.2.length = 2 := by
    decide +kernel
  cases accepted : compile .sqlite (.createTable CreateTable.sampleIndexed) with
  | error error =>
    rw [accepted] at lengths
    exact absurd lengths.1 (by simp [Except.toOption])
  | ok compiled =>
    rw [accepted] at lengths
    cases failed : ((sampleRationed 1).run Database.rationed (fun _ => .at 5000)
        (.createTable CreateTable.sampleIndexed)).1 with
    | ok results =>
      rw [failed] at isRefused
      cases isRefused
    | error error =>
      have outcome := runs (fun _ => .at 5000) (.createTable CreateTable.sampleIndexed) compiled
        error accepted
      obtain ⟨stopped, leaves⟩ := outcome
      obtain ⟨front, reached, failing, stops⟩ := stopped.1 failed
      obtain ⟨left, record⟩ := leaves front reached failing stops
      refine ⟨compiled, error, front, reached, failing, rfl, Option.some.inj lengths.1, ?_, stops,
        left, record⟩
      have two := lengths.2
      rw [record, List.length_append, List.length_singleton] at two
      omega

end CachedExecutor

end NeutralSql
