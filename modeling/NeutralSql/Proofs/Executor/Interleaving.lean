import Mathlib.Logic.Function.Basic
import NeutralSql.Proofs.Executor.Transparency

/-!
# Interleaved execution

Many statements are under way on one cache. A statement that reads takes up to four atomic
steps: the lookup, the note of the generation, the answer of the database, and the
conditional store. One that writes takes two: the database step and the invalidation. A
schedule says whose turn it is, with the reading of the clock or the reply of the database
that the step meets with; between two steps of a statement any others may take theirs.

`run_executeRead` and `run_executeWrite` say that a statement which nobody interrupts does
what the executor does.
-/

namespace NeutralSql

/-- How far a statement that reads has come. -/
inductive Reading where
  | waiting
  | missed
  | noted (generation : UInt64)
  | fetched (generation : UInt64) (result : QueryResult) (readAt : Nat)
  /-- The result was offered to the cache. -/
  | offered (result : QueryResult) (readAt : Nat)
  /-- The statement failed, or found its answer in the cache, or went past it. -/
  | done (result : Except ExecuteError QueryResult)

/-- What a statement that reads has returned. -/
def Reading.result? : Reading → Option (Except ExecuteError QueryResult)
  | .offered result _ => some (.ok result)
  | .done result => some result
  | _ => none

/-- How far a statement that writes has come. -/
inductive Writing where
  | waiting
  | written (result : QueryResult) (writtenAt : Nat)
  /-- The tables of the statement were invalidated. -/
  | completed (result : QueryResult) (writtenAt : Nat)
  /-- The statement failed, or went past the cache. -/
  | done (result : Except ExecuteError QueryResult)

/-- What a statement that writes has returned. -/
def Writing.result? : Writing → Option (Except ExecuteError QueryResult)
  | .completed result _ => some (.ok result)
  | .done result => some result
  | _ => none

/-- When the database step of a statement that writes took place. -/
def Writing.writtenAt? : Writing → Option Nat
  | .written _ writtenAt => some writtenAt
  | .completed _ writtenAt => some writtenAt
  | _ => none

/-- The statements of any number of readers and writers. -/
structure Workload (ρ ω : Type) where
  dialect : Dialect
  query : ρ → Compiled
  update : ω → Compiled

/-- The fingerprint of what a reader asks. -/
def Workload.fingerprint {ρ ω : Type} (workload : Workload ρ ω) (reader : ρ) : Fingerprint :=
  Fingerprint.ofCompiled workload.dialect (workload.query reader)

/-- The tables that a reader's statement refers to. -/
def Workload.readTables {ρ ω : Type} (workload : Workload ρ ω) (reader : ρ) : List String :=
  SqlText.tables (workload.query reader).sql

/-- The tables that a writer's statement refers to. -/
def Workload.writtenTables {ρ ω : Type} (workload : Workload ρ ω) (writer : ω) : List String :=
  SqlText.tables (workload.update writer).sql

/-- A shared cache with the statements under way on it. -/
structure Traffic (ρ ω : Type) where
  cache : Cache QueryResult
  reading : ρ → Reading
  writing : ω → Writing
  /-- The number of turns taken so far. -/
  time : Nat
  /-- The tables invalidated so far, in lower case. -/
  invalidated : List String
  /-- The reader whose result was last stored under a fingerprint. -/
  producer : Fingerprint → Option ρ

/-- A turn of a schedule. -/
inductive Turn (ρ ω : Type) where
  /-- A reader takes its next step. -/
  | read (reader : ρ) (now : Nat) (reply : Except ExecuteError QueryResult)
  /-- A writer takes its next step. -/
  | write (writer : ω) (reply : Except ExecuteError QueryResult)
  /-- Somebody else invalidates tables. -/
  | overtake (tables : List String)
  | purgeExpired (now : Nat)
  | clear

namespace Traffic

variable {ρ ω : Type}

/-- A cache on which every statement waits. -/
def start (cache : Cache QueryResult) : Traffic ρ ω :=
  ⟨cache, fun _ => .waiting, fun _ => .waiting, 0, [], fun _ => none⟩

/-- Let time pass. -/
def tick (traffic : Traffic ρ ω) : Traffic ρ ω :=
  { traffic with time := traffic.time + 1 }

/-- Invalidate tables. -/
def forget (traffic : Traffic ρ ω) (tables : List String) : Traffic ρ ω :=
  { traffic with
    cache := (traffic.cache.invalidate tables).2
    invalidated := traffic.invalidated ++ tables.map Text.lowercase }

/-- Invalidating no table changes nothing. -/
@[simp] theorem forget_nil (traffic : Traffic ρ ω) : traffic.forget [] = traffic := by
  rw [forget, List.map_nil, List.append_nil]
  rfl

/-- Offer a reader's result to the cache, which stores it or not. -/
def offer (traffic : Traffic ρ ω) (reader : ρ) (now : Nat) (fingerprint : Fingerprint)
    (tables : List String) (generation : UInt64) (result : QueryResult) : Traffic ρ ω :=
  let stored := traffic.cache.putIfUnchanged now fingerprint result tables generation
  { traffic with
    cache := stored.2
    producer :=
      if stored.1 then Function.update traffic.producer fingerprint (some reader)
      else traffic.producer }

section Readers

variable [DecidableEq ρ]

/-- Let a reader get on. -/
def advance (traffic : Traffic ρ ω) (reader : ρ) (reading : Reading) : Traffic ρ ω :=
  { traffic with reading := Function.update traffic.reading reader reading }

@[simp] theorem reading_advance_self (traffic : Traffic ρ ω) (reader : ρ) (reading : Reading) :
    (traffic.advance reader reading).reading reader = reading :=
  Function.update_self _ _ _

theorem reading_advance_of_ne (traffic : Traffic ρ ω) {reader other : ρ} (isOther : other ≠ reader)
    (reading : Reading) :
    (traffic.advance reader reading).reading other = traffic.reading other :=
  Function.update_of_ne isOther _ _

/-- The lookup of a reader. -/
def lookUp (traffic : Traffic ρ ω) (reader : ρ) (now : Nat) (fingerprint : Fingerprint) :
    Traffic ρ ω :=
  match traffic.cache.get now fingerprint with
  | (some hit, cache) => { traffic with cache }.advance reader (.done (.ok hit))
  | (none, cache) => { traffic with cache }.advance reader .missed

/-- The database's answer to a reader. -/
def fetch (traffic : Traffic ρ ω) (reader : ρ) (generation : UInt64) :
    Except ExecuteError QueryResult → Traffic ρ ω
  | .ok result => traffic.advance reader (.fetched generation result traffic.time)
  | .error error => traffic.advance reader (.done (.error error))

end Readers

section Writers

variable [DecidableEq ω]

/-- Let a writer get on. -/
def advanceWriter (traffic : Traffic ρ ω) (writer : ω) (writing : Writing) : Traffic ρ ω :=
  { traffic with writing := Function.update traffic.writing writer writing }

/-- The database step of a writer. -/
def write (traffic : Traffic ρ ω) (writer : ω) : Except ExecuteError QueryResult → Traffic ρ ω
  | .ok result => traffic.advanceWriter writer (.written result traffic.time)
  | .error error => traffic.advanceWriter writer (.done (.error error))

end Writers

end Traffic

namespace Workload

variable {ρ ω : Type}

section Readers

variable [DecidableEq ρ]

/-- The next step of a reader, if it has one. -/
def stepReader (workload : Workload ρ ω) (traffic : Traffic ρ ω) (reader : ρ) (now : Nat)
    (reply : Except ExecuteError QueryResult) : Traffic ρ ω :=
  match traffic.reading reader with
  | .waiting =>
    if traffic.cache.config.enabled then traffic.lookUp reader now (workload.fingerprint reader)
    else traffic.advance reader (.done reply)
  | .missed =>
    traffic.advance reader (.noted (traffic.cache.generation (workload.readTables reader)))
  | .noted generation => traffic.fetch reader generation reply
  | .fetched generation result readAt =>
    (traffic.advance reader (.offered result readAt)).offer reader now
      (workload.fingerprint reader) (workload.readTables reader) generation result
  | .offered _ _ => traffic
  | .done _ => traffic

/-- A reader invalidates nothing. -/
theorem invalidated_stepReader (workload : Workload ρ ω) (traffic : Traffic ρ ω) (reader : ρ)
    (now : Nat) (reply : Except ExecuteError QueryResult) :
    (workload.stepReader traffic reader now reply).invalidated = traffic.invalidated := by
  rw [stepReader]
  cases traffic.reading reader with
  | waiting =>
    dsimp only
    split
    · rw [Traffic.lookUp]
      split <;> rfl
    · rfl
  | missed => rfl
  | noted generation => cases reply <;> rfl
  | fetched generation result readAt => dsimp only [Traffic.offer, Traffic.advance]
  | offered result readAt => rfl
  | done result => rfl

end Readers

section Writers

variable [DecidableEq ω]

/-- The next step of a writer, if it has one. -/
def stepWriter (workload : Workload ρ ω) (traffic : Traffic ρ ω) (writer : ω)
    (reply : Except ExecuteError QueryResult) : Traffic ρ ω :=
  match traffic.writing writer with
  | .waiting => traffic.write writer reply
  | .written result writtenAt =>
    if traffic.cache.config.enabled then
      (traffic.forget (workload.writtenTables writer)).advanceWriter writer
        (.completed result writtenAt)
    else traffic.advanceWriter writer (.done (.ok result))
  | .completed _ _ => traffic
  | .done _ => traffic

/-- A writer takes no invalidation back. -/
theorem invalidated_stepWriter (workload : Workload ρ ω) (traffic : Traffic ρ ω) (writer : ω)
    (reply : Except ExecuteError QueryResult) :
    traffic.invalidated <+: (workload.stepWriter traffic writer reply).invalidated := by
  rw [stepWriter]
  cases traffic.writing writer with
  | waiting => cases reply <;> exact List.prefix_rfl
  | written result writtenAt =>
    dsimp only
    split
    · exact List.prefix_append _ _
    · exact List.prefix_rfl
  | completed result writtenAt => exact List.prefix_rfl
  | done result => exact List.prefix_rfl

end Writers

variable [DecidableEq ρ] [DecidableEq ω]

/-- What a turn does. -/
def take (workload : Workload ρ ω) (traffic : Traffic ρ ω) : Turn ρ ω → Traffic ρ ω
  | .read reader now reply => workload.stepReader traffic reader now reply
  | .write writer reply => workload.stepWriter traffic writer reply
  | .overtake tables => traffic.forget tables
  | .purgeExpired now => { traffic with cache := (traffic.cache.purgeExpired now).2 }
  | .clear => { traffic with cache := traffic.cache.clear }

/-- Take a turn, and let time pass. -/
def step (workload : Workload ρ ω) (traffic : Traffic ρ ω) (turn : Turn ρ ω) : Traffic ρ ω :=
  (workload.take traffic turn).tick

/-- Take the turns of a schedule. -/
def run (workload : Workload ρ ω) (traffic : Traffic ρ ω) (turns : List (Turn ρ ω)) :
    Traffic ρ ω :=
  turns.foldl workload.step traffic

/-- The first turn of a schedule is taken first. -/
theorem run_cons (workload : Workload ρ ω) (traffic : Traffic ρ ω) (turn : Turn ρ ω)
    (turns : List (Turn ρ ω)) :
    workload.run traffic (turn :: turns) = workload.run (workload.step traffic turn) turns :=
  rfl

/-- No schedule takes invalidations back. -/
theorem invalidated_run (workload : Workload ρ ω) (traffic : Traffic ρ ω)
    (turns : List (Turn ρ ω)) :
    traffic.invalidated <+: (workload.run traffic turns).invalidated := by
  induction turns generalizing traffic with
  | nil => exact List.prefix_rfl
  | cons turn rest inductionHypothesis =>
    refine List.IsPrefix.trans ?_ (inductionHypothesis (workload.step traffic turn))
    cases turn with
    | read reader now reply =>
      have kept : (workload.step traffic (.read reader now reply)).invalidated =
          traffic.invalidated := workload.invalidated_stepReader traffic reader now reply
      exact kept ▸ List.prefix_rfl
    | write writer reply => exact workload.invalidated_stepWriter traffic writer reply
    | overtake tables => exact List.prefix_append _ _
    | purgeExpired now => exact List.prefix_rfl
    | clear => exact List.prefix_rfl

section Alone

variable {σ : Type} {workload : Workload ρ ω} {traffic : Traffic ρ ω}

/-- A reader that takes all its turns, with nothing in between but the tables overtaken
while the database answers, does what the executor does. -/
theorem run_executeRead (database : Database σ) (readings : Readings)
    (executor : CachedExecutor σ) (reader : ρ) (sameCache : traffic.cache = executor.cache)
    (sameDialect : workload.dialect = executor.dialect)
    (waits : traffic.reading reader = .waiting) :
    ∃ turns : List (Turn ρ ω),
      (∀ turn ∈ turns, (∃ now reply, turn = .read reader now reply) ∨
        ∃ tables, turn = .overtake tables) ∧
      (workload.run traffic turns).cache =
        (executor.executeRead database readings (workload.query reader)).2.cache ∧
      ((workload.run traffic turns).reading reader).result? =
        some (executor.executeRead database readings (workload.query reader)).1 := by
  have key : workload.fingerprint reader =
      Fingerprint.ofCompiled executor.dialect (workload.query reader) :=
    congrArg (Fingerprint.ofCompiled · (workload.query reader)) sameDialect
  obtain ⟨reply, isReply⟩ : ∃ reply, database executor.state (workload.query reader) = reply :=
    ⟨_, rfl⟩
  rw [CachedExecutor.executeRead]
  split
  · rename_i enabled
    dsimp only
    split
    · rename_i hit cache found
      refine ⟨[.read reader readings.lookup reply.result], ?_⟩
      simp [run, step, take, Traffic.tick, stepReader, waits, sameCache, enabled, Traffic.lookUp,
        key, found, Traffic.advance, Reading.result?]
    · rename_i cache missed
      rw [CachedExecutor.ask_eq, isReply]
      cases outcome : reply.result with
      | error error =>
        refine ⟨[.read reader readings.lookup reply.result, .read reader 0 reply.result,
          .read reader 0 reply.result, .overtake reply.overtaken], ?_⟩
        simp [run, step, take, Traffic.tick, stepReader, waits, sameCache, enabled, Traffic.lookUp,
          key, missed, Traffic.advance, Traffic.fetch, outcome, Traffic.forget, Reading.result?]
      | ok result =>
        refine ⟨[.read reader readings.lookup reply.result, .read reader 0 reply.result,
          .read reader 0 reply.result, .overtake reply.overtaken,
          .read reader readings.store reply.result], ?_⟩
        simp [run, step, take, Traffic.tick, stepReader, waits, sameCache, enabled, Traffic.lookUp,
          key, missed, Traffic.advance, Traffic.fetch, outcome, Traffic.forget, Traffic.offer,
          readTables, Reading.result?]
  · rename_i disabled
    rw [CachedExecutor.ask_eq, isReply]
    refine ⟨[.read reader readings.lookup reply.result, .overtake reply.overtaken], ?_⟩
    simp [run, step, take, Traffic.tick, stepReader, waits, sameCache, disabled, Traffic.advance,
      Traffic.forget, Reading.result?]

/-- A writer that takes all its turns, with nothing in between but the tables overtaken
while the database answers, does what the executor does. -/
theorem run_executeWrite (database : Database σ) (executor : CachedExecutor σ) (writer : ω)
    (sameCache : traffic.cache = executor.cache) (waits : traffic.writing writer = .waiting) :
    ∃ turns : List (Turn ρ ω),
      (∀ turn ∈ turns, (∃ reply, turn = .write writer reply) ∨
        ∃ tables, turn = .overtake tables) ∧
      (workload.run traffic turns).cache =
        (executor.executeWrite database (workload.update writer)).2.cache ∧
      ((workload.run traffic turns).writing writer).result? =
        some (executor.executeWrite database (workload.update writer)).1 := by
  obtain ⟨reply, isReply⟩ : ∃ reply, database executor.state (workload.update writer) = reply :=
    ⟨_, rfl⟩
  rw [CachedExecutor.executeWrite, CachedExecutor.ask_eq, isReply]
  cases outcome : reply.result with
  | error error =>
    refine ⟨[.write writer reply.result, .overtake reply.overtaken], ?_⟩
    simp [run, step, take, Traffic.tick, stepWriter, waits, sameCache, outcome, Traffic.write,
      Traffic.advanceWriter, Traffic.forget, Writing.result?]
  | ok result =>
    refine ⟨[.write writer reply.result, .overtake reply.overtaken,
      .write writer reply.result], ?_⟩
    by_cases enabled : executor.cache.config.enabled = true
    · simp [run, step, take, Traffic.tick, stepWriter, waits, sameCache, outcome, enabled,
        Traffic.write, Traffic.advanceWriter, Traffic.forget, writtenTables, Writing.result?]
    · simp [run, step, take, Traffic.tick, stepWriter, waits, sameCache, outcome, enabled,
        Traffic.write, Traffic.advanceWriter, Traffic.forget, Writing.result?]

end Alone

end Workload

end NeutralSql
