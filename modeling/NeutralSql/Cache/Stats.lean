import NeutralSql.Json.Record

/-!
# Cache statistics

Counters of a cache with the share of lookups that hit, a percentage with two decimals.
-/

namespace NeutralSql

/-- A summary of the counters of a cache. The counts are natural numbers, and those of a cache
that has served fewer than `2 ^ 64` operations have 64 bits. -/
structure CacheStats where
  hits : Nat
  misses : Nat
  sets : Nat
  /-- Entries that were removed because one of their tables changed. -/
  invalidations : Nat
  /-- All lookups. -/
  total : Nat
  /-- The percentage of lookups that hit. -/
  hitRate : Binary64
  size : Nat
  maxSize : Nat
  deriving DecidableEq

namespace CacheStats

/-- The percentage of hits among all lookups, rounded to two decimals with a half going
up. Both counts are doubles before they are divided. -/
def percentage (hits total : Nat) : Binary64 :=
  if total = 0 then .ofNat 0
  else
    let share := (Binary64.ofNat hits).div (.ofNat total)
    (Binary64.ofNat (share.mul (.ofNat 10000)).roundToNat).div (.ofNat 100)

/-- The summary of counters. -/
def ofCounters (hits misses sets invalidations size maxSize : Nat) : CacheStats :=
  ⟨hits, misses, sets, invalidations, hits + misses, percentage hits (hits + misses), size,
   maxSize⟩

/-- A summary as JSON. -/
def toJson (stats : CacheStats) : Json :=
  .object
    [("hits", .int stats.hits),
     ("misses", .int stats.misses),
     ("sets", .int stats.sets),
     ("invalidations", .int stats.invalidations),
     ("total", .int stats.total),
     ("hitRate", .float stats.hitRate),
     ("size", .int stats.size),
     ("maxSize", .int stats.maxSize)]

/-- A counter of 64 bits. -/
def counter? : Document → Option Nat :=
  Document.asNat? UInt64.size

/-- The summary that a document holds. -/
def ofDocument? (document : Document) : Option CacheStats := do
  let [hits, misses, sets, invalidations, total, hitRate, size, maxSize] ←
      document.fields?
        ["hits", "misses", "sets", "invalidations", "total", "hitRate", "size", "maxSize"]
    | none
  return {
    hits := ← hits.required? counter?
    misses := ← misses.required? counter?
    sets := ← sets.required? counter?
    invalidations := ← invalidations.required? counter?
    total := ← total.required? counter?
    hitRate := ← hitRate.required? Document.asBinary64?
    size := ← size.required? counter?
    maxSize := ← maxSize.required? counter? }

end CacheStats

end NeutralSql
