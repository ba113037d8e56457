import Mathlib.Algebra.BigOperators.Group.Finset.Basic
import Mathlib.Data.Finset.Sort
import Mathlib.Data.UInt
import NeutralSql.Proofs.Cache.Operation

/-!
# A cache without an index

A plain cache keeps one list of entries, most recently used first, beside the counters and
a generation for every table. Whatever concerns tables is answered by scanning the list:
an invalidation drops each entry whose tables meet the named ones. It says in a few lines
what a cache with an index has to do.
-/

namespace NeutralSql

namespace PlainCache

/-- A stored result. -/
structure Entry (α : Type) where
  fingerprint : Fingerprint
  value : α
  /-- The tables that the result depends on, in lower case. -/
  tables : Finset String
  storedAt : Nat

namespace Entry

variable {α : Type} (entry : Entry α)

/-- The age of an entry exceeds the time to live. -/
def isExpired (config : CacheConfig) (now : Nat) : Bool :=
  config.ttlMicroseconds < now - entry.storedAt

/-- One of the tables of an entry is among these. -/
def meets (names : Finset String) : Bool :=
  (entry.tables ∩ names).Nonempty

end Entry

/-- The names in a list as a set in lower case. -/
def lowercase (tables : List String) : Finset String :=
  (tables.map Text.lowercase).toFinset

end PlainCache

/-- A cache without an index. -/
structure PlainCache (α : Type) where
  config : CacheConfig
  /-- The entries, most recently used first. -/
  entries : List (PlainCache.Entry α)
  /-- How often each table was invalidated. -/
  generations : String → UInt64
  hits : Nat
  misses : Nat
  sets : Nat
  invalidations : Nat

namespace PlainCache

variable {α : Type} (cache : PlainCache α)

/-- A plain cache before all operations. -/
def blank (config : CacheConfig) : PlainCache α :=
  ⟨config, [], fun _ => 0, 0, 0, 0, 0⟩

/-- The largest number of entries. -/
def capacity : Nat :=
  cache.config.max.toNat

/-- The number of entries. -/
def size : Nat :=
  cache.entries.length

/-- The entry under a fingerprint, whether it has expired or not. -/
def find? (fingerprint : Fingerprint) : Option (Entry α) :=
  cache.entries.find? fun entry => entry.fingerprint = fingerprint

/-- The entries under other fingerprints. -/
def others (fingerprint : Fingerprint) : List (Entry α) :=
  cache.entries.filter fun entry => entry.fingerprint ≠ fingerprint

/-- Look up a result: an entry that has not expired moves to the front, and one that has
is dropped. -/
def get (now : Nat) (fingerprint : Fingerprint) : Option α × PlainCache α :=
  match cache.find? fingerprint with
  | none => (none, { cache with misses := cache.misses + 1 })
  | some entry =>
    if entry.isExpired cache.config now then
      let left := cache.others fingerprint
      if cache.config.allowStale then
        (some entry.value, { cache with entries := left, hits := cache.hits + 1 })
      else (none, { cache with entries := left, misses := cache.misses + 1 })
    else
      let storedAt := if cache.config.updateAgeOnGet then now else entry.storedAt
      (some entry.value,
        { cache with
          entries := { entry with storedAt } :: cache.others fingerprint
          hits := cache.hits + 1 })

/-- The entries that make room for one more: where the others fill the cache, the last of
them gives way. -/
def room (fingerprint : Fingerprint) : List (Entry α) :=
  let others := cache.others fingerprint
  if others.length < cache.capacity then others else others.dropLast

/-- Store a result in front, if it is worth keeping. -/
def put [Cacheable α] (now : Nat) (fingerprint : Fingerprint) (value : α)
    (tables : List String) : Bool × PlainCache α :=
  if Cacheable.isCacheable value then
    (true,
      { cache with
        entries := ⟨fingerprint, value, lowercase tables, now⟩ :: cache.room fingerprint
        sets := cache.sets + 1 })
  else (false, cache)

/-- The sum of the generations of the tables in a list. -/
def generation (tables : List String) : UInt64 :=
  ∑ table ∈ lowercase tables, cache.generations table

/-- Store a result unless the generation of its tables has moved. -/
def putIfUnchanged [Cacheable α] (now : Nat) (fingerprint : Fingerprint) (value : α)
    (tables : List String) (generation : UInt64) : Bool × PlainCache α :=
  if cache.generation tables = generation then cache.put now fingerprint value tables
  else (false, cache)

/-- Drop every entry that depends on a table in a list, and advance each table by one for
every time that the list names it; the answer is the number of dropped entries. -/
def invalidate (tables : List String) : Nat × PlainCache α :=
  let dropped := cache.entries.filter fun entry => entry.meets (lowercase tables)
  (dropped.length,
    { cache with
      entries := cache.entries.filter fun entry => !entry.meets (lowercase tables)
      generations := fun table =>
        cache.generations table + UInt64.ofNat ((tables.map Text.lowercase).count table)
      invalidations := cache.invalidations + dropped.length })

/-- Drop all expired entries; the answer is their number. -/
def purgeExpired (now : Nat) : Nat × PlainCache α :=
  ((cache.entries.filter fun entry => entry.isExpired cache.config now).length,
    { cache with
      entries := cache.entries.filter fun entry => !entry.isExpired cache.config now })

/-- The counters, the number of entries and the capacity. -/
def stats : CacheStats :=
  .ofCounters cache.hits cache.misses cache.sets cache.invalidations cache.size cache.capacity

/-- An entry is stored under a fingerprint and has not expired. -/
def contains (now : Nat) (fingerprint : Fingerprint) : Bool :=
  (cache.find? fingerprint).any fun entry => !entry.isExpired cache.config now

/-- The tables of the entry under a fingerprint. -/
def tablesFor? (fingerprint : Fingerprint) : Option (Finset String) :=
  (cache.find? fingerprint).map Entry.tables

/-- The fingerprints of the entries that depend on a table. -/
def fingerprintsFor (table : String) : List Fingerprint :=
  (cache.entries.filter fun entry => Text.lowercase table ∈ entry.tables).map
    Entry.fingerprint

variable [Cacheable α]

/-- The plain cache after an operation. -/
def apply : Cache.Operation α → PlainCache α
  | .get now fingerprint => (cache.get now fingerprint).2
  | .put now fingerprint value tables => (cache.put now fingerprint value tables).2
  | .putIfUnchanged now fingerprint value tables generation =>
    (cache.putIfUnchanged now fingerprint value tables generation).2
  | .invalidate tables => (cache.invalidate tables).2
  | .purgeExpired now => (cache.purgeExpired now).2
  | .clear => { cache with entries := [] }
  | .resetStats => { cache with hits := 0, misses := 0, sets := 0, invalidations := 0 }

end PlainCache

/-- What an operation on a cache answers. -/
inductive Cache.Answer (α : Type) where
  | found (value : Option α)
  | stored (accepted : Bool)
  | removed (number : Nat)
  | done

namespace PlainCache

variable {α : Type} [Cacheable α] (cache : PlainCache α)

/-- The answer of a plain cache to an operation. -/
def answer : Cache.Operation α → Cache.Answer α
  | .get now fingerprint => .found (cache.get now fingerprint).1
  | .put now fingerprint value tables => .stored (cache.put now fingerprint value tables).1
  | .putIfUnchanged now fingerprint value tables generation =>
    .stored (cache.putIfUnchanged now fingerprint value tables generation).1
  | .invalidate tables => .removed (cache.invalidate tables).1
  | .purgeExpired now => .removed (cache.purgeExpired now).1
  | .clear => .done
  | .resetStats => .done

/-- The answers of a plain cache to operations one after the other, and what it is
afterwards. -/
def serve (cache : PlainCache α) :
    List (Cache.Operation α) → List (Cache.Answer α) × PlainCache α
  | [] => ([], cache)
  | operation :: rest =>
    let later := (cache.apply operation).serve rest
    (cache.answer operation :: later.1, later.2)

end PlainCache

end NeutralSql
