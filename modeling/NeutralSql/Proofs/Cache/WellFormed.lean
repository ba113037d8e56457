import NeutralSql.Proofs.Cache.Removal
import NeutralSql.Proofs.Text.Lowercase
import NeutralSql.Proofs.Text.NameSet

/-!
# The invariant between operations

A well-formed cache registers exactly what it stores, under normalized tables, within its
capacity. An empty cache is well-formed, and taking entries out keeps a cache so. What an
operation leaves stems from what was there before: `StemsFrom`.
-/

namespace NeutralSql.Cache

variable {α : Type} {cache : Cache α} {fingerprint other : Fingerprint} {table : String}

/-- The tables of an entry as `normalize` leaves them. -/
structure Normalized (tables : List String) : Prop where
  sorted : tables.Pairwise (· < ·)
  lowercase : ∀ table ∈ tables, Text.lowercase table = table

/-- Normalizing lower-cases the names, and their order and number do not matter. -/
@[simp] theorem mem_normalize {tables : List String} :
    table ∈ normalize tables ↔ ∃ name ∈ tables, Text.lowercase name = table := by
  rw [normalize, Text.mem_nameSet, List.mem_map]

/-- What `normalize` leaves is normalized. -/
theorem normalized_normalize (tables : List String) : Normalized (normalize tables) where
  sorted := Text.pairwise_nameSet _
  lowercase table listed := by
    obtain ⟨name, -, rfl⟩ := mem_normalize.1 listed
    exact Text.lowercase_lowercase name

/-- What holds between operations: the index registers exactly what is stored, tables are
normalized, and the entries are within a capacity that is not zero. -/
structure WellFormed (cache : Cache α) : Prop extends Sound cache where
  registered_of_stored : ∀ {fingerprint entry}, (fingerprint, entry) ∈ cache.entries →
    ∀ table ∈ entry.tables, fingerprint ∈ cache.index.under table
  normalized : ∀ stored ∈ cache.entries, Normalized stored.2.tables
  bounded : cache.size ≤ cache.capacity
  positive : 0 < cache.capacity

/-- The index registers a fingerprint under a table exactly where the entry under the
fingerprint depends on the table. -/
theorem WellFormed.registered_iff (wellFormed : cache.WellFormed) :
    fingerprint ∈ cache.index.under table ↔
      ∃ entry, cache.entry? fingerprint = some entry ∧ table ∈ entry.tables := by
  constructor
  · intro registered
    obtain ⟨entry, stored, depends⟩ := wellFormed.stored_of_registered registered
    exact ⟨entry, wellFormed.entry?_eq_some_iff.2 stored, depends⟩
  · rintro ⟨entry, found, depends⟩
    exact wellFormed.registered_of_stored (wellFormed.entry?_eq_some_iff.1 found) table depends

/-- A well-formed cache passes its own check. -/
theorem WellFormed.isConsistent (wellFormed : cache.WellFormed) : cache.isConsistent = true := by
  rw [Cache.isConsistent, Bool.and_eq_true, List.all_eq_true, List.all_eq_true]
  constructor
  · intro slot listed
    have someThere : slot.2.isEmpty = false := by
      simpa using wellFormed.proper.nonempty slot listed
    rw [someThere, Bool.not_false, Bool.true_and, List.all_eq_true]
    intro fingerprint registered
    rw [← wellFormed.proper.under_eq listed, wellFormed.registered_iff] at registered
    obtain ⟨entry, found, depends⟩ := registered
    rw [found]
    exact List.contains_iff_mem.2 depends
  · intro stored listed
    rw [List.all_eq_true]
    intro table depends
    exact List.contains_iff_mem.2 (wellFormed.registered_of_stored listed table depends)

/-- The cache that a valid configuration makes. -/
def blank (config : CacheConfig) : Cache α :=
  ⟨config, [], [], [], 0, 0, 0, 0⟩

/-- A valid configuration makes a cache. -/
theorem new?_of_valid {config : CacheConfig} (valid : config.validate = .ok ()) :
    new? config = .ok (blank config : Cache α) := by
  rw [new?, valid]
  rfl

/-- A cache without entries and registrations is well-formed if there is room in it. -/
theorem wellFormed_of_empty (entries : cache.entries = []) (index : cache.index = [])
    (positive : 0 < cache.capacity) : cache.WellFormed where
  distinct := by
    rw [entries]
    exact List.nodup_nil
  proper := by
    rw [index]
    exact Index.Proper.nil
  stored_of_registered registered := by
    rw [index] at registered
    exact absurd registered (by simp [Index.under])
  registered_of_stored stored := by
    rw [entries] at stored
    exact absurd stored List.not_mem_nil
  normalized stored listed := by
    rw [entries] at listed
    exact absurd listed List.not_mem_nil
  bounded := by
    rw [size, entries]
    exact Nat.zero_le _
  positive := positive

/-- The cache that a valid configuration makes is well-formed. -/
theorem wellFormed_blank {config : CacheConfig} (valid : config.validate = .ok ()) :
    (blank config : Cache α).WellFormed := by
  refine wellFormed_of_empty rfl rfl ?_
  by_contra isZero
  have noRoom : config.max = 0 := UInt64.toNat_inj.1 (Nat.eq_zero_of_not_pos isZero)
  rw [CacheConfig.validate, if_pos noRoom] at valid
  exact absurd valid (by simp)

/-- Counters have no part in the invariant. -/
theorem WellFormed.congr {after : Cache α} (wellFormed : cache.WellFormed)
    (entries : after.entries = cache.entries) (index : after.index = cache.index)
    (config : after.config = cache.config) : after.WellFormed := by
  cases after
  cases entries
  cases index
  cases config
  exact ⟨⟨wellFormed.distinct, wellFormed.proper, wellFormed.stored_of_registered⟩,
    wellFormed.registered_of_stored, wellFormed.normalized, wellFormed.bounded,
    wellFormed.positive⟩

/-- A cache that only lost entries is well-formed if it is sound and the entries that
remain are registered as before. -/
theorem WellFormed.shrink {after : Cache α} (wellFormed : cache.WellFormed)
    (sound : after.Sound) (entries : after.entries.Sublist cache.entries)
    (config : after.config = cache.config)
    (kept : ∀ {fingerprint entry table}, (fingerprint, entry) ∈ after.entries →
      table ∈ entry.tables → fingerprint ∈ cache.index.under table →
      fingerprint ∈ after.index.under table) : after.WellFormed where
  toSound := sound
  registered_of_stored stored table depends :=
    kept stored depends
      (wellFormed.registered_of_stored (entries.subset stored) table depends)
  normalized stored listed := wellFormed.normalized stored (entries.subset listed)
  bounded := by
    rw [size, capacity, config]
    exact Nat.le_trans entries.length_le wellFormed.bounded
  positive := by
    rw [capacity, config]
    exact wellFormed.positive

/-- Removing several fingerprints keeps a cache well-formed. -/
theorem WellFormed.foldl_remove (wellFormed : cache.WellFormed)
    (fingerprints : List Fingerprint) : (fingerprints.foldl Cache.remove cache).WellFormed := by
  refine wellFormed.shrink (wellFormed.toSound.foldl_remove fingerprints) ?_
    (config_foldl_remove cache fingerprints) ?_
  · rw [entries_foldl_remove]
    exact List.filter_sublist
  · intro fingerprint entry table stored _ registered
    rw [entries_foldl_remove, List.mem_filter, decide_eq_true_eq] at stored
    exact wellFormed.toSound.mem_under_foldl_remove.2 ⟨registered, stored.2⟩

/-- A removal keeps a cache well-formed. -/
theorem WellFormed.remove (wellFormed : cache.WellFormed) (fingerprint : Fingerprint) :
    (cache.remove fingerprint).WellFormed :=
  wellFormed.foldl_remove [fingerprint]

/-- An eviction keeps a cache well-formed. -/
theorem WellFormed.evict (wellFormed : cache.WellFormed) : cache.evict.WellFormed := by
  rw [Cache.evict]
  split
  · exact wellFormed
  · exact wellFormed.remove _

/-- The entries of a cache stem from those of an earlier one if every entry has a
predecessor there with its value and its tables. -/
def StemsFrom (after before : Cache α) : Prop :=
  ∀ stored ∈ after.entries, ∃ earlier, (stored.1, earlier) ∈ before.entries ∧
    stored.2.value = earlier.value ∧ stored.2.tables = earlier.tables

/-- Entries that were there before stem from themselves. -/
theorem StemsFrom.of_subset {after before : Cache α}
    (entries : after.entries ⊆ before.entries) : after.StemsFrom before :=
  fun stored listed => ⟨stored.2, entries listed, rfl, rfl⟩

end NeutralSql.Cache
