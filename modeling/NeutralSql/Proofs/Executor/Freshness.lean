import NeutralSql.Proofs.Cache.Generation
import NeutralSql.Proofs.Executor.Interleaving

/-!
# No entry outlives a completed write

However the steps of readers and writers interleave, what is stored was read after every
completed write to one of its tables. A result that was read too early is refused, because
the invalidation of such a write moved the sum of the generations that its reader noted.
`Consistent` is the invariant, and `Consistent.step` says that every turn keeps it.
-/

namespace NeutralSql.Workload

open Cache (strikes normalize)

variable {ρ ω : Type} {workload : Workload ρ ω} {traffic : Traffic ρ ω}

/-- A writer's statement refers to one of the tables in a set of names in lower case. -/
def Touches (workload : Workload ρ ω) (writer : ω) (tables : List String) : Prop :=
  ∃ table ∈ workload.writtenTables writer, Text.lowercase table ∈ tables

/-- Every completed write to one of the tables had its database step before a moment. -/
def SettledBefore (workload : Workload ρ ω) (writing : ω → Writing) (tables : List String)
    (moment : Nat) : Prop :=
  ∀ writer result writtenAt, writing writer = .completed result writtenAt →
    workload.Touches writer tables → writtenAt < moment

/-- A stored entry holds what its reader read, under the fingerprint and the tables of that
reader's statement, after every completed write to one of these tables. -/
def Fresh (workload : Workload ρ ω) (traffic : Traffic ρ ω)
    (stored : Fingerprint × Cache.Entry QueryResult) : Prop :=
  ∃ reader readAt, traffic.producer stored.1 = some reader ∧
    traffic.reading reader = .offered stored.2.value readAt ∧
    stored.1 = workload.fingerprint reader ∧
    stored.2.tables = normalize (workload.readTables reader) ∧
    workload.SettledBefore traffic.writing stored.2.tables readAt

/-- What the generation that a reader noted tells about the invalidations since then: if
there were none of its tables, then its result was read after every completed write. -/
def Tracks (workload : Workload ρ ω) (invalidated : List String) (writing : ω → Writing)
    (reader : ρ) : Reading → Prop
  | .noted generation =>
    ∃ earlier ≤ strikes invalidated (workload.readTables reader),
      generation = UInt64.ofNat earlier
  | .fetched generation _ readAt =>
    ∃ earlier ≤ strikes invalidated (workload.readTables reader),
      generation = UInt64.ofNat earlier ∧
      (strikes invalidated (workload.readTables reader) = earlier →
        workload.SettledBefore writing (normalize (workload.readTables reader)) readAt)
  | _ => True

/-- The invariant of interleaved execution. -/
structure Consistent (workload : Workload ρ ω) (traffic : Traffic ρ ω) : Prop where
  wellFormed : traffic.cache.WellFormed
  count : traffic.cache.generations.Count traffic.invalidated
  past : ∀ writer writtenAt, (traffic.writing writer).writtenAt? = some writtenAt →
    writtenAt < traffic.time
  tracks : ∀ reader,
    workload.Tracks traffic.invalidated traffic.writing reader (traffic.reading reader)
  fresh : ∀ stored ∈ traffic.cache.entries, workload.Fresh traffic stored

/-- Before the first turn nothing is stored and nothing was written. -/
theorem consistent_start {config : CacheConfig} {created : Cache QueryResult}
    (isNew : Cache.new? config = .ok created) (workload : Workload ρ ω) :
    workload.Consistent (.start created) := by
  cases valid : config.validate with
  | error error =>
    rw [Cache.new?, valid] at isNew
    contradiction
  | ok =>
    rw [Cache.new?_of_valid valid] at isNew
    obtain rfl := Except.ok.inj isNew
    refine ⟨Cache.wellFormed_blank valid, .nil, ?_, fun reader => trivial, ?_⟩
    · intro writer writtenAt written
      contradiction
    · exact fun stored listed => absurd listed List.not_mem_nil

/-- Time passing keeps the invariant. -/
theorem Consistent.tick (consistent : workload.Consistent traffic) :
    workload.Consistent traffic.tick :=
  ⟨consistent.wellFormed, consistent.count,
    fun writer writtenAt written => Nat.lt_succ_of_lt (consistent.past writer writtenAt written),
    consistent.tracks, consistent.fresh⟩

/-- A cache that invalidates nothing and whose entries stem from those before keeps the
invariant. -/
theorem Consistent.keep (consistent : workload.Consistent traffic) {cache : Cache QueryResult}
    (wellFormed : cache.WellFormed) (stems : cache.StemsFrom traffic.cache)
    (generations : cache.generations = traffic.cache.generations) :
    workload.Consistent { traffic with cache } where
  wellFormed := wellFormed
  count := by
    dsimp only
    rw [generations]
    exact consistent.count
  past := consistent.past
  tracks := consistent.tracks
  fresh stored listed := by
    obtain ⟨earlier, earlierListed, value, tables⟩ := stems stored listed
    have fresh := consistent.fresh _ earlierListed
    rw [Fresh, ← value, ← tables] at fresh
    exact fresh

/-- An invalidation only adds to the number of invalidations. -/
theorem strikes_forget (traffic : Traffic ρ ω) (tables names : List String) :
    strikes (traffic.forget tables).invalidated names =
      strikes traffic.invalidated names + strikes (tables.map Text.lowercase) names :=
  Cache.strikes_append _ _ _

/-- What a generation tells stays true when tables are invalidated, and writers complete
all of whose tables are among them. -/
theorem Tracks.settle {reader : ρ} {reading : Reading}
    (tracks : workload.Tracks traffic.invalidated traffic.writing reader reading)
    {tables : List String} {writing : ω → Writing}
    (accounted : ∀ writer result writtenAt, writing writer = .completed result writtenAt →
      traffic.writing writer = .completed result writtenAt ∨
        workload.writtenTables writer ⊆ tables) :
    workload.Tracks (traffic.forget tables).invalidated writing reader reading := by
  have grown := strikes_forget traffic tables (workload.readTables reader)
  cases reading with
  | waiting => trivial
  | missed => trivial
  | offered result readAt => trivial
  | done result => trivial
  | noted generation =>
    obtain ⟨earlier, isEarlier, rfl⟩ := tracks
    exact ⟨earlier, by omega, rfl⟩
  | fetched generation result readAt =>
    obtain ⟨earlier, isEarlier, rfl, settled⟩ := tracks
    refine ⟨earlier, by omega, rfl, ?_⟩
    intro unmoved writer written writtenAt completed touches
    rcases accounted writer written writtenAt completed with already | covered
    · exact settled (by omega) writer written writtenAt already touches
    -- The writer's own invalidation has moved the sum.
    · obtain ⟨table, isWritten, depends⟩ := touches
      have struck : 0 < strikes (tables.map Text.lowercase) (workload.readTables reader) :=
        Cache.strikes_pos (List.mem_map_of_mem (covered isWritten)) depends
      omega

/-- Invalidating tables keeps the invariant, and meanwhile writers may get on: those that
complete must have had all their tables invalidated. -/
theorem Consistent.settle (consistent : workload.Consistent traffic) (tables : List String)
    {writing : ω → Writing}
    (past : ∀ writer writtenAt, (writing writer).writtenAt? = some writtenAt →
      writtenAt < traffic.time)
    (accounted : ∀ writer result writtenAt, writing writer = .completed result writtenAt →
      traffic.writing writer = .completed result writtenAt ∨
        workload.writtenTables writer ⊆ tables) :
    workload.Consistent { traffic.forget tables with writing } where
  wellFormed := consistent.wellFormed.invalidate tables
  count := by
    have advanced := consistent.count.advanceAll (tables.map Text.lowercase)
    rw [← Cache.generations_invalidate] at advanced
    exact advanced
  past := past
  tracks reader := (consistent.tracks reader).settle accounted
  fresh stored listed := by
    obtain ⟨before, isClear⟩ := consistent.wellFormed.mem_invalidate_iff.1 listed
    obtain ⟨reader, readAt, produced, offered, key, sameTables, settled⟩ :=
      consistent.fresh stored before
    refine ⟨reader, readAt, produced, offered, key, sameTables, ?_⟩
    intro writer result writtenAt completed touches
    rcases accounted writer result writtenAt completed with already | covered
    · exact settled writer result writtenAt already touches
    · obtain ⟨table, isWritten, depends⟩ := touches
      exact absurd depends (isClear table (covered isWritten))

/-- Offering a result to the cache keeps the invariant, if it was read after every completed
write or is refused. -/
theorem Consistent.offer (consistent : workload.Consistent traffic) {reader : ρ}
    {generation : UInt64} {result : QueryResult} {readAt : Nat}
    (offered : traffic.reading reader = .offered result readAt)
    (settled : traffic.cache.generation (workload.readTables reader) = generation →
      workload.SettledBefore traffic.writing (normalize (workload.readTables reader)) readAt)
    (now : Nat) :
    workload.Consistent (traffic.offer reader now (workload.fingerprint reader)
      (workload.readTables reader) generation result) := by
  rw [Traffic.offer]
  refine ⟨?_, ?_, consistent.past, consistent.tracks, ?_⟩
  · exact consistent.wellFormed.putIfUnchanged now _ result _ generation
  · dsimp only
    rw [Cache.generations_putIfUnchanged]
    exact consistent.count
  · intro stored listed
    rw [Fresh]
    dsimp only at listed ⊢
    rcases consistent.wellFormed.mem_of_mem_putIfUnchanged listed with
      ⟨accepted, unmoved, rfl⟩ | ⟨before, differs⟩
    · refine ⟨reader, readAt, ?_, offered, rfl, rfl, settled unmoved⟩
      rw [if_pos accepted, Function.update_self]
    · obtain ⟨producer, producedAt, produced, rest⟩ := consistent.fresh stored before
      refine ⟨producer, producedAt, ?_, rest⟩
      split
      · rename_i accepted
        rw [Function.update_of_ne (differs accepted)]
        exact produced
      · exact produced

section Writers

variable [DecidableEq ω]

/-- Invalidating tables lets a writer get on. It must not complete unless these are all of
its tables. -/
theorem Consistent.advanceWriter (consistent : workload.Consistent traffic)
    (tables : List String) {writer : ω} {writing : Writing}
    (past : ∀ writtenAt, writing.writtenAt? = some writtenAt → writtenAt < traffic.time)
    (accounted : ∀ result writtenAt, writing = .completed result writtenAt →
      workload.writtenTables writer ⊆ tables) :
    workload.Consistent ((traffic.forget tables).advanceWriter writer writing) := by
  refine consistent.settle tables ?_ ?_
  · intro other writtenAt dated
    by_cases isWriter : other = writer
    · rw [isWriter, Function.update_self] at dated
      exact past writtenAt dated
    · rw [Function.update_of_ne isWriter] at dated
      exact consistent.past other writtenAt dated
  · intro other result writtenAt completed
    by_cases isWriter : other = writer
    · subst isWriter
      rw [Function.update_self] at completed
      exact Or.inr (accounted result writtenAt completed)
    · rw [Function.update_of_ne isWriter] at completed
      exact Or.inl completed

/-- Every step of a writer keeps the invariant. -/
theorem Consistent.stepWriter (consistent : workload.Consistent traffic) (writer : ω)
    (reply : Except ExecuteError QueryResult) :
    workload.Consistent (workload.stepWriter traffic writer reply).tick := by
  have leave : ∀ result, workload.Consistent (traffic.advanceWriter writer (.done result)) := by
    intro result
    rw [← Traffic.forget_nil traffic]
    exact consistent.advanceWriter [] (by simp [Writing.writtenAt?]) (by simp)
  rw [Workload.stepWriter]
  cases phase : traffic.writing writer with
  | waiting =>
    cases reply with
    | error error => exact (leave _).tick
    | ok result =>
      have written : workload.Consistent ((traffic.tick.forget []).advanceWriter writer
          (.written result traffic.time)) :=
        consistent.tick.advanceWriter [] (by simp [Writing.writtenAt?, Traffic.tick]) (by simp)
      rwa [Traffic.forget_nil] at written
  | written result writtenAt =>
    dsimp only
    split
    · refine Consistent.tick (consistent.advanceWriter _ ?_ ?_)
      · intro moment dated
        obtain rfl : writtenAt = moment := Option.some.inj dated
        refine consistent.past writer writtenAt ?_
        rw [phase]
        rfl
      · exact fun _ _ _ => List.Subset.refl _
    · exact (leave _).tick
  | completed result writtenAt => exact consistent.tick
  | done result => exact consistent.tick

end Writers

section Readers

variable [DecidableEq ρ]

/-- A reader that has offered nothing yet may get on to where it tracks its tables. -/
theorem Consistent.advance (consistent : workload.Consistent traffic) {reader : ρ}
    (notOffered : ∀ result readAt, traffic.reading reader ≠ .offered result readAt)
    {reading : Reading}
    (tracks : workload.Tracks traffic.invalidated traffic.writing reader reading) :
    workload.Consistent (traffic.advance reader reading) where
  wellFormed := consistent.wellFormed
  count := consistent.count
  past := consistent.past
  tracks other := by
    by_cases isReader : other = reader
    · subst isReader
      rw [Traffic.reading_advance_self]
      exact tracks
    · rw [traffic.reading_advance_of_ne isReader]
      exact consistent.tracks other
  fresh stored listed := by
    obtain ⟨producer, readAt, produced, offered, key, tables, settled⟩ :=
      consistent.fresh stored listed
    refine ⟨producer, readAt, produced, ?_, key, tables, settled⟩
    have isOther : producer ≠ reader := by
      rintro rfl
      exact notOffered _ _ offered
    rw [traffic.reading_advance_of_ne isOther]
    exact offered

/-- A lookup keeps the invariant. -/
theorem Consistent.lookUp (consistent : workload.Consistent traffic) {reader : ρ}
    (waits : traffic.reading reader = .waiting) (now : Nat) (fingerprint : Fingerprint) :
    workload.Consistent (traffic.lookUp reader now fingerprint) := by
  have wellFormed := consistent.wellFormed
  have after := consistent.keep (wellFormed.get now fingerprint)
    (wellFormed.stemsFrom_get now fingerprint) (Cache.generations_get _ _ _)
  have notOffered : ∀ result readAt, traffic.reading reader ≠ .offered result readAt := by
    simp [waits]
  rw [Traffic.lookUp]
  split
  · rename_i hit cache found
    rw [found] at after
    exact after.advance notOffered trivial
  · rename_i cache missed
    rw [missed] at after
    exact after.advance notOffered trivial

/-- Noting the generation of its tables keeps the invariant. -/
theorem Consistent.note (consistent : workload.Consistent traffic) {reader : ρ}
    (missed : traffic.reading reader = .missed) :
    workload.Consistent (traffic.advance reader
      (.noted (traffic.cache.generation (workload.readTables reader)))) := by
  refine consistent.advance (by simp [missed]) ?_
  exact ⟨_, Nat.le_refl _, Cache.generation_eq_strikes consistent.count _⟩

/-- The answer of the database keeps the invariant: every completed write took place before
now. -/
theorem Consistent.fetch (consistent : workload.Consistent traffic) {reader : ρ}
    {generation : UInt64} (noted : traffic.reading reader = .noted generation)
    (reply : Except ExecuteError QueryResult) :
    workload.Consistent (traffic.fetch reader generation reply) := by
  have notOffered : ∀ result readAt, traffic.reading reader ≠ .offered result readAt := by
    simp [noted]
  have tracks := consistent.tracks reader
  rw [noted] at tracks
  obtain ⟨earlier, isEarlier, rfl⟩ := tracks
  cases reply with
  | error error => exact consistent.advance notOffered trivial
  | ok result =>
    refine consistent.advance notOffered ⟨earlier, isEarlier, rfl, ?_⟩
    intro _ writer written writtenAt completed _
    refine consistent.past writer writtenAt ?_
    rw [completed]
    rfl

/-- Storing a result keeps the invariant, as long as 64 bits can count the invalidations. -/
theorem Consistent.store (consistent : workload.Consistent traffic)
    (few : traffic.invalidated.length < 2 ^ 64) {reader : ρ} {generation : UInt64}
    {result : QueryResult} {readAt : Nat}
    (fetched : traffic.reading reader = .fetched generation result readAt) (now : Nat) :
    workload.Consistent ((traffic.advance reader (.offered result readAt)).offer reader now
      (workload.fingerprint reader) (workload.readTables reader) generation result) := by
  have tracks := consistent.tracks reader
  rw [fetched] at tracks
  obtain ⟨earlier, isEarlier, rfl, settled⟩ := tracks
  have advanced : workload.Consistent (traffic.advance reader (.offered result readAt)) :=
    consistent.advance (by simp [fetched]) trivial
  refine advanced.offer (traffic.reading_advance_self reader _) ?_ now
  intro same
  have unmoved : UInt64.ofNat (strikes traffic.invalidated (workload.readTables reader)) =
      UInt64.ofNat earlier :=
    (Cache.generation_eq_strikes consistent.count _).symm.trans same
  exact settled (Cache.strikes_eq_of_generation_eq few isEarlier unmoved)

/-- Every step of a reader keeps the invariant. -/
theorem Consistent.stepReader (consistent : workload.Consistent traffic)
    (few : traffic.invalidated.length < 2 ^ 64) (reader : ρ) (now : Nat)
    (reply : Except ExecuteError QueryResult) :
    workload.Consistent (workload.stepReader traffic reader now reply) := by
  rw [Workload.stepReader]
  cases phase : traffic.reading reader with
  | waiting =>
    dsimp only
    split
    · exact consistent.lookUp phase now _
    · exact consistent.advance (by simp [phase]) trivial
  | missed => exact consistent.note phase
  | noted generation => exact consistent.fetch phase reply
  | fetched generation result readAt => exact consistent.store few phase now
  | offered result readAt => exact consistent
  | done result => exact consistent

end Readers

section Turns

variable [DecidableEq ρ] [DecidableEq ω]

/-- Every turn keeps the invariant, as long as 64 bits can count the invalidations. -/
theorem Consistent.step (consistent : workload.Consistent traffic)
    (few : traffic.invalidated.length < 2 ^ 64) (turn : Turn ρ ω) :
    workload.Consistent (workload.step traffic turn) := by
  have wellFormed := consistent.wellFormed
  cases turn with
  | read reader now reply => exact (consistent.stepReader few reader now reply).tick
  | write writer reply => exact consistent.stepWriter writer reply
  | overtake tables =>
    exact (consistent.settle tables consistent.past fun _ _ _ completed => .inl completed).tick
  | purgeExpired now =>
    exact (consistent.keep (wellFormed.purgeExpired now) (wellFormed.stemsFrom_purgeExpired now)
      (Cache.generations_foldl_remove _ _)).tick
  | clear => exact (consistent.keep wellFormed.clear (.of_subset (List.nil_subset _)) rfl).tick

/-- Every schedule keeps the invariant, as long as 64 bits can count the invalidations. -/
theorem Consistent.run (consistent : workload.Consistent traffic) {turns : List (Turn ρ ω)}
    (few : (workload.run traffic turns).invalidated.length < 2 ^ 64) :
    workload.Consistent (workload.run traffic turns) := by
  induction turns generalizing traffic with
  | nil => exact consistent
  | cons turn rest inductionHypothesis =>
    rw [run_cons] at few ⊢
    have fewBefore : traffic.invalidated.length < 2 ^ 64 :=
      Nat.lt_of_le_of_lt (workload.invalidated_run traffic (turn :: rest)).length_le few
    exact inductionHypothesis (consistent.step fewBefore turn) few

/-- Whatever a schedule of readers and writers on a new cache has done, with fewer than
2 ^ 64 invalidations of tables, each stored entry is what its reader read from the database
after every completed write to one of its tables. So is the value that a hit hands out. -/
theorem run_fresh {config : CacheConfig} {created : Cache QueryResult}
    (isNew : Cache.new? config = .ok created) (workload : Workload ρ ω)
    (turns : List (Turn ρ ω))
    (few : (workload.run (.start created) turns).invalidated.length < 2 ^ 64) :
    (∀ stored ∈ (workload.run (.start created) turns).cache.entries,
      workload.Fresh (workload.run (.start created) turns) stored) ∧
    ∀ now fingerprint value,
      ((workload.run (.start created) turns).cache.get now fingerprint).1 = some value →
      ∃ entry, (fingerprint, entry) ∈ (workload.run (.start created) turns).cache.entries ∧
        entry.value = value ∧
        workload.Fresh (workload.run (.start created) turns) (fingerprint, entry) := by
  have consistent := (consistent_start isNew workload).run few
  refine ⟨consistent.fresh, fun now fingerprint value hit => ?_⟩
  obtain ⟨entry, stored, same⟩ := consistent.wellFormed.stored_of_hit hit
  exact ⟨entry, stored, same, consistent.fresh _ stored⟩

end Turns

/-- Three readers with one query, and a writer to its table. -/
def sample : Workload (Fin 3) Unit where
  dialect := .sqlite
  query _ := .ofParts "SELECT * FROM users" []
  update _ := .ofParts "UPDATE users SET a = 1" []

/-- The write overtakes the first reader after its answer and the second one before it, so
that neither result is stored. The third reader comes last, and its result is. -/
def sampleTurns : List (Turn (Fin 3) Unit) :=
  [.read 0 0 (.ok .empty), .read 0 0 (.ok .empty), .read 0 0 (.ok .empty),
    .read 1 1 (.ok .empty), .read 1 1 (.ok .empty), .write () (.ok .empty),
    .write () (.ok .empty), .read 0 2 (.ok .empty), .read 1 2 (.ok .empty),
    .read 1 2 (.ok .empty), .read 2 3 (.ok .empty), .read 2 3 (.ok .empty),
    .read 2 3 (.ok .empty), .read 2 3 (.ok .empty)]

/-- The sample schedule, which ends with one entry. -/
theorem run_fresh_sample :
    let config : CacheConfig := ⟨true, 1, 1, false, true⟩
    let after := sample.run (.start (.blank config)) sampleTurns
    Cache.new? config = .ok (Cache.blank config : Cache QueryResult) ∧
      after.invalidated.length < 2 ^ 64 ∧ after.cache.entries.length = 1 ∧
      (∀ stored ∈ after.cache.entries, sample.Fresh after stored) ∧
      ∀ now fingerprint value, (after.cache.get now fingerprint).1 = some value →
        ∃ entry, (fingerprint, entry) ∈ after.cache.entries ∧ entry.value = value ∧
          sample.Fresh after (fingerprint, entry) := by
  intro config after
  have isNew : Cache.new? config = .ok (Cache.blank config : Cache QueryResult) :=
    Cache.new?_of_valid (by decide)
  have few : after.invalidated.length < 2 ^ 64 := by
    decide +kernel
  have oneEntry : after.cache.entries.length = 1 := by
    decide +kernel
  exact ⟨isNew, few, oneEntry, run_fresh isNew sample sampleTurns few⟩

end NeutralSql.Workload
