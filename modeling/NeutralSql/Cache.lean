import NeutralSql.Cache.Config
import NeutralSql.Cache.Stats
import NeutralSql.Fingerprint
import NeutralSql.Text.Lowercase
import NeutralSql.Text.NameSet

/-!
# The query cache

A cache holds results under fingerprints, most recently used first. Each entry knows the
tables that its statement read, and an index leads from a table to the entries that
depend on it, so that a write removes them. Each table also has a generation that every
invalidation advances: a result is only stored if no table of its statement was
invalidated since the statement was sent.

Time is an argument of the operations that depend on it, in microseconds.
-/

namespace NeutralSql

/-- Results that are worth keeping. -/
class Cacheable (α : Type) where
  /-- The result may be stored. -/
  isCacheable : α → Bool

/-- An absent result is not worth keeping. -/
instance [Cacheable α] : Cacheable (Option α) where
  isCacheable
    | some value => Cacheable.isCacheable value
    | none => false

/-- Null, false, zero and the empty string are not worth keeping. -/
instance : Cacheable Json where
  isCacheable
    | .null => false
    | .bool value => value
    | .number (.int value) => value ≠ 0
    | .number (.float value) => !value.isZero
    | .string value => !value.isEmpty
    | .array _ => true
    | .object _ => true

namespace Cache

/-- A stored result. -/
structure Entry (α : Type) where
  value : α
  /-- The tables that the result depends on, as a set of names in lower case. -/
  tables : List String
  /-- When the entry was stored or, if hits make it young, last hit. -/
  storedAt : Nat

/-- An entry has expired when its age exceeds the time to live. -/
def Entry.isExpired (entry : Entry α) (config : CacheConfig) (now : Nat) : Bool :=
  config.ttlMicroseconds < now - entry.storedAt

/-- The fingerprints of the entries that depend on a table, for each table that has one. -/
abbrev Index := List (String × List Fingerprint)

namespace Index

/-- Register a fingerprint under a table. -/
def add (fingerprint : Fingerprint) (table : String) : Index → Index
  | [] => [(table, [fingerprint])]
  | slot :: rest =>
    if slot.1 = table then
      (table, if slot.2.contains fingerprint then slot.2 else fingerprint :: slot.2) :: rest
    else slot :: add fingerprint table rest

/-- Take a fingerprint out from under a table; a table without fingerprints goes too. -/
def remove (fingerprint : Fingerprint) (table : String) : Index → Index
  | [] => []
  | slot :: rest =>
    if slot.1 = table then
      let left := slot.2.filter (· ≠ fingerprint)
      if left.isEmpty then rest else (table, left) :: rest
    else slot :: remove fingerprint table rest

/-- Register a fingerprint under several tables. -/
def addAll (index : Index) (fingerprint : Fingerprint) (tables : List String) : Index :=
  tables.foldl (fun index table => index.add fingerprint table) index

/-- Take a fingerprint out from under several tables. -/
def removeAll (index : Index) (fingerprint : Fingerprint) (tables : List String) : Index :=
  tables.foldl (fun index table => index.remove fingerprint table) index

/-- The fingerprints under a table. -/
def under (index : Index) (table : String) : List Fingerprint :=
  (index.lookup table).getD []

/-- Take out a table with all its fingerprints. -/
def dropTable (index : Index) (table : String) : Index :=
  index.filter fun slot => slot.1 ≠ table

end Index

/-- How often each table was invalidated; tables that never were are left out. -/
abbrev Generations := List (String × UInt64)

namespace Generations

/-- The generation of a table. -/
def get (generations : Generations) (table : String) : UInt64 :=
  (generations.lookup table).getD 0

/-- Advance the generation of a table. -/
def advance (table : String) : Generations → Generations
  | [] => [(table, 1)]
  | slot :: rest =>
    if slot.1 = table then (table, slot.2 + 1) :: rest else slot :: advance table rest

/-- The sum of the generations of tables. -/
def total (generations : Generations) (tables : List String) : UInt64 :=
  tables.foldl (fun sum table => sum + generations.get table) 0

end Generations

/-- The set of names, in lower case, of the tables in a list. -/
def normalize (tables : List String) : List String :=
  Text.nameSet (tables.map Text.lowercase)

end Cache

/-- A cache of results. Its counters are natural numbers where generations wrap around: fewer
than `2 ^ 64` operations keep every counter within 64 bits. -/
structure Cache (α : Type) where
  config : CacheConfig
  /-- The entries, most recently used first. -/
  entries : List (Fingerprint × Cache.Entry α)
  index : Cache.Index
  generations : Cache.Generations
  hits : Nat
  misses : Nat
  sets : Nat
  invalidations : Nat

namespace Cache

/-- An empty cache of a configuration that allows one. -/
def new? (config : CacheConfig) : Except ConfigError (Cache α) :=
  config.validate.map fun _ => ⟨config, [], [], [], 0, 0, 0, 0⟩

/-- The largest number of entries. -/
def capacity (cache : Cache α) : Nat :=
  cache.config.max.toNat

/-- The number of entries. -/
def size (cache : Cache α) : Nat :=
  cache.entries.length

/-- The entry under a fingerprint, whether it has expired or not. -/
def entry? (cache : Cache α) (fingerprint : Fingerprint) : Option (Entry α) :=
  cache.entries.lookup fingerprint

/-- The entries without the one under a fingerprint. -/
def without (fingerprint : Fingerprint) (entries : List (Fingerprint × Entry α)) :
    List (Fingerprint × Entry α) :=
  entries.filter fun stored => stored.1 ≠ fingerprint

/-- Remove the entry under a fingerprint from the entries and from the index. -/
def remove (cache : Cache α) (fingerprint : Fingerprint) : Cache α :=
  match cache.entry? fingerprint with
  | none => cache
  | some entry =>
    { cache with
      entries := without fingerprint cache.entries
      index := cache.index.removeAll fingerprint entry.tables }

/-- Remove the entry that was not used for the longest time. -/
def evict (cache : Cache α) : Cache α :=
  match cache.entries.getLast? with
  | none => cache
  | some oldest => cache.remove oldest.1

/-- Store an entry in front of all others. An entry under the same fingerprint is
replaced; otherwise, where the cache is full, the last entry gives way. -/
def insert (cache : Cache α) (now : Nat) (fingerprint : Fingerprint) (value : α)
    (tables : List String) : Cache α :=
  let others := cache.remove fingerprint
  let room := if others.size < others.capacity then others else others.evict
  { room with
    entries := (fingerprint, ⟨value, tables, now⟩) :: room.entries
    index := room.index.addAll fingerprint tables
    sets := room.sets + 1 }

/-- Look up a result. A hit makes its entry the most recent one. An expired entry is
removed; it still counts as a hit where stale results are allowed. -/
def get (cache : Cache α) (now : Nat) (fingerprint : Fingerprint) : Option α × Cache α :=
  match cache.entry? fingerprint with
  | none => (none, { cache with misses := cache.misses + 1 })
  | some entry =>
    if entry.isExpired cache.config now then
      let left := cache.remove fingerprint
      if cache.config.allowStale then (some entry.value, { left with hits := left.hits + 1 })
      else (none, { left with misses := left.misses + 1 })
    else
      let storedAt := if cache.config.updateAgeOnGet then now else entry.storedAt
      (some entry.value,
        { cache with
          entries := (fingerprint, { entry with storedAt }) :: without fingerprint cache.entries
          hits := cache.hits + 1 })

/-- The sum of the generations of tables. -/
def generation (cache : Cache α) (tables : List String) : UInt64 :=
  cache.generations.total (normalize tables)

/-- Store a result that is worth keeping; the answer says whether it was stored. -/
def put [Cacheable α] (cache : Cache α) (now : Nat) (fingerprint : Fingerprint) (value : α)
    (tables : List String) : Bool × Cache α :=
  if Cacheable.isCacheable value then
    (true, cache.insert now fingerprint value (normalize tables))
  else (false, cache)

/-- Store a result that is worth keeping, unless one of its tables was invalidated since
the given generation was read. -/
def putIfUnchanged [Cacheable α] (cache : Cache α) (now : Nat) (fingerprint : Fingerprint)
    (value : α) (tables : List String) (generation : UInt64) : Bool × Cache α :=
  if cache.generation tables = generation then cache.put now fingerprint value tables
  else (false, cache)

/-- Remove the entries under fingerprints one after the other; the answer is the number of
removals that found an entry. -/
def removeEach (cache : Cache α) : List Fingerprint → Nat × Cache α
  | [] => (0, cache)
  | fingerprint :: rest =>
    let found := (cache.entry? fingerprint).isSome.toNat
    let (removed, left) := (cache.remove fingerprint).removeEach rest
    (found + removed, left)

/-- Advance the generation of one table, given in lower case, and take it out of the index. -/
def dropTable (cache : Cache α) (table : String) : Cache α :=
  { cache with
    generations := cache.generations.advance table
    index := cache.index.dropTable table }

/-- Advance the generation of one table, given in lower case, and remove the entries that
depend on it; the answer is the number of removals that found an entry. -/
def invalidateTable (cache : Cache α) (table : String) : Nat × Cache α :=
  (cache.dropTable table).removeEach (cache.index.under table)

/-- Invalidate tables one after the other; the answer is the number of removed entries. -/
def invalidate (cache : Cache α) (tables : List String) : Nat × Cache α :=
  let (removed, left) := tables.foldl (fun (progress : Nat × Cache α) table =>
    let (removed, left) := progress.2.invalidateTable (Text.lowercase table)
    (progress.1 + removed, left)) (0, cache)
  (removed, { left with invalidations := left.invalidations + removed })

/-- Remove all expired entries; the answer is their number. -/
def purgeExpired (cache : Cache α) (now : Nat) : Nat × Cache α :=
  let expired := cache.entries.filter fun stored => stored.2.isExpired cache.config now
  (expired.length, (expired.map Prod.fst).foldl remove cache)

/-- Remove all entries; counters and generations stay. -/
def clear (cache : Cache α) : Cache α :=
  { cache with entries := [], index := [] }

/-- Set the counters to zero. -/
def resetStats (cache : Cache α) : Cache α :=
  { cache with hits := 0, misses := 0, sets := 0, invalidations := 0 }

/-- The counters, the number of entries and the capacity. -/
def stats (cache : Cache α) : CacheStats :=
  .ofCounters cache.hits cache.misses cache.sets cache.invalidations cache.size cache.capacity

/-- An entry is stored under a fingerprint and has not expired. -/
def contains (cache : Cache α) (now : Nat) (fingerprint : Fingerprint) : Bool :=
  (cache.entry? fingerprint).any fun entry => !entry.isExpired cache.config now

/-- The tables of the entry under a fingerprint. -/
def tablesFor? (cache : Cache α) (fingerprint : Fingerprint) : Option (List String) :=
  (cache.entry? fingerprint).map Entry.tables

/-- The fingerprints of the entries that depend on a table, in no particular order. -/
def fingerprintsFor (cache : Cache α) (table : String) : List Fingerprint :=
  cache.index.under (Text.lowercase table)

/-- The index registers exactly the tables of the stored entries. -/
def isConsistent (cache : Cache α) : Bool :=
  (cache.index.all fun slot =>
    !slot.2.isEmpty && slot.2.all fun fingerprint =>
      (cache.entry? fingerprint).any fun entry => entry.tables.contains slot.1) &&
  cache.entries.all fun stored =>
    stored.2.tables.all fun table => (cache.index.under table).contains stored.1

end Cache

end NeutralSql
