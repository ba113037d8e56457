import NeutralSql.Proofs.Cache.Invalidation
import NeutralSql.Proofs.Cache.Lookup
import NeutralSql.Proofs.Cache.Storing

/-!
# Operations on a cache and their runs

A run carries out operations one after the other, with whatever arguments and clock
readings. Every operation keeps a cache well-formed, hence so does every run, and what
that means for the index and the store is `Coherent`.
-/

namespace NeutralSql.Cache

variable {α : Type} {cache : Cache α}

/-- The store and its index agree, in terms of what an observer of both can see. -/
structure Coherent (cache : Cache α) : Prop where
  /-- A fingerprint is in the index under a table exactly where it is stored with an entry
  whose list of tables contains that table. -/
  registered_iff : ∀ fingerprint table, fingerprint ∈ cache.index.under table ↔
    ∃ entry, cache.entry? fingerprint = some entry ∧ table ∈ entry.tables
  /-- No table stands empty in the index. -/
  nonempty : ∀ slot ∈ cache.index, slot.2 ≠ []
  /-- No fingerprint is stored twice. -/
  distinct : (cache.entries.map Prod.fst).Nodup
  /-- The tables of every entry are in lower case. -/
  lowercase : ∀ stored ∈ cache.entries, ∀ table ∈ stored.2.tables, Text.lowercase table = table
  /-- The tables of every entry are strictly sorted. -/
  sorted : ∀ stored ∈ cache.entries, stored.2.tables.Pairwise (· < ·)
  /-- The tables of every entry are free of repetitions. -/
  single : ∀ stored ∈ cache.entries, stored.2.tables.Nodup
  /-- There are no more entries than the configuration allows. -/
  bounded : cache.entries.length ≤ cache.config.max.toNat
  /-- The check of the cache on itself succeeds. -/
  checked : cache.isConsistent = true

/-- In a well-formed cache the store and its index agree. -/
theorem WellFormed.coherent (wellFormed : cache.WellFormed) : cache.Coherent where
  registered_iff _ _ := wellFormed.registered_iff
  nonempty := wellFormed.proper.nonempty
  distinct := wellFormed.distinct
  lowercase stored listed := (wellFormed.normalized stored listed).lowercase
  sorted stored listed := (wellFormed.normalized stored listed).sorted
  single stored listed := (wellFormed.normalized stored listed).sorted.imp ne_of_lt
  bounded := wellFormed.bounded
  checked := wellFormed.isConsistent

/-- An operation with its arguments and, where time matters, its reading of the clock. -/
inductive Operation (α : Type) where
  | get (now : Nat) (fingerprint : Fingerprint)
  | put (now : Nat) (fingerprint : Fingerprint) (value : α) (tables : List String)
  | putIfUnchanged (now : Nat) (fingerprint : Fingerprint) (value : α) (tables : List String)
      (generation : UInt64)
  | invalidate (tables : List String)
  | purgeExpired (now : Nat)
  | clear
  | resetStats

variable [Cacheable α]

/-- The cache after an operation. -/
def apply (cache : Cache α) : Operation α → Cache α
  | .get now fingerprint => (cache.get now fingerprint).2
  | .put now fingerprint value tables => (cache.put now fingerprint value tables).2
  | .putIfUnchanged now fingerprint value tables generation =>
    (cache.putIfUnchanged now fingerprint value tables generation).2
  | .invalidate tables => (cache.invalidate tables).2
  | .purgeExpired now => (cache.purgeExpired now).2
  | .clear => cache.clear
  | .resetStats => cache.resetStats

/-- The cache after operations one after the other. -/
def run (cache : Cache α) (operations : List (Operation α)) : Cache α :=
  operations.foldl apply cache

/-- Every operation keeps a cache well-formed. -/
theorem WellFormed.apply (wellFormed : cache.WellFormed) (operation : Operation α) :
    (cache.apply operation).WellFormed := by
  cases operation with
  | get now fingerprint => exact wellFormed.get now fingerprint
  | put now fingerprint value tables => exact wellFormed.put now fingerprint value tables
  | putIfUnchanged now fingerprint value tables generation =>
    exact wellFormed.putIfUnchanged now fingerprint value tables generation
  | invalidate tables => exact wellFormed.invalidate tables
  | purgeExpired now => exact wellFormed.purgeExpired now
  | clear => exact wellFormed.clear
  | resetStats => exact wellFormed.congr rfl rfl rfl

/-- Every run keeps a cache well-formed. -/
theorem WellFormed.run (wellFormed : cache.WellFormed) (operations : List (Operation α)) :
    (cache.run operations).WellFormed := by
  induction operations generalizing cache with
  | nil => exact wellFormed
  | cons first rest inductionHypothesis => exact inductionHypothesis (wellFormed.apply first)

/-- No operation changes the configuration. -/
theorem config_apply (cache : Cache α) (operation : Operation α) :
    (cache.apply operation).config = cache.config := by
  cases operation with
  | get now fingerprint => exact config_get cache now fingerprint
  | put now fingerprint value tables => exact config_put cache now fingerprint value tables
  | putIfUnchanged now fingerprint value tables generation =>
    exact config_putIfUnchanged cache now fingerprint value tables generation
  | invalidate tables => exact config_invalidate cache tables
  | purgeExpired now => exact config_foldl_remove cache _
  | clear => rfl
  | resetStats => rfl

/-- No run changes the configuration. -/
theorem config_run (cache : Cache α) (operations : List (Operation α)) :
    (cache.run operations).config = cache.config := by
  induction operations generalizing cache with
  | nil => rfl
  | cons first rest inductionHypothesis =>
    exact (inductionHypothesis _).trans (config_apply cache first)

/-- A valid configuration makes a cache, and the store and its index agree after every run
of operations on it. -/
theorem coherent_run {config : CacheConfig} (valid : config.validate = .ok ())
    (operations : List (Operation α)) :
    ∃ created : Cache α, new? config = .ok created ∧
      (created.run operations).config = config ∧ (created.run operations).Coherent := by
  have wellFormed := (wellFormed_blank valid).run operations
  exact ⟨blank config, new?_of_valid valid, config_run _ operations, wellFormed.coherent⟩

/-- Overwriting, eviction, expiry with a stale answer, and invalidation on a cache of two
entries. -/
theorem coherent_run_small :
    CacheConfig.validate ⟨true, 2, 1, false, true⟩ = .ok () ∧
      ∃ created : Cache Json, new? ⟨true, 2, 1, false, true⟩ = .ok created ∧
        let final := created.run
          [.put 0 ⟨"a"⟩ (.bool true) ["Users"], .put 1 ⟨"a"⟩ (.bool true) ["users", "Orders"],
            .put 2 ⟨"b"⟩ (.bool true) ["orders"], .put 3 ⟨"c"⟩ (.bool true) ["ORDERS", "orders"],
            .get 2000 ⟨"b"⟩, .invalidate ["ORDERS"]]
        final.config = ⟨true, 2, 1, false, true⟩ ∧ final.Coherent :=
  ⟨by decide, coherent_run (by decide) _⟩

end NeutralSql.Cache
