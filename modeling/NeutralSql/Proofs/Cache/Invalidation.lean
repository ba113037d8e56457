import NeutralSql.Proofs.Cache.WellFormed

/-!
# Invalidation and housekeeping

Invalidation finds entries through the index. In a well-formed cache that comes to the
same as scanning the entries for those that depend on a table:
`WellFormed.entries_invalidate`. It counts the removals that find an entry, and that is how many
entries go: `Sound.size_invalidateTable`. Each named table advances by one generation.
-/

namespace NeutralSql.Cache

variable {α : Type} {cache : Cache α} {fingerprint : Fingerprint} {table : String}

/-- An entry depends on none of the tables, given in any letter case. -/
def Entry.isClearOf (entry : Entry α) (tables : List String) : Bool :=
  tables.all fun name => !entry.tables.contains (Text.lowercase name)

/-- Counting apart, invalidating a table removes what stands under it from a cache whose index
has lost the table. -/
theorem invalidateTable_snd (cache : Cache α) (table : String) :
    (cache.invalidateTable table).2 =
      (cache.index.under table).foldl remove (cache.dropTable table) :=
  removeEach_snd _ _

/-- A cache whose index has lost a table is sound, though entries that depend on the table may
still be there. -/
theorem Sound.dropTable (sound : cache.Sound) (table : String) : (cache.dropTable table).Sound where
  distinct := sound.distinct
  proper := sound.proper.dropTable table
  stored_of_registered registered :=
    sound.stored_of_registered (Index.mem_under_dropTable.1 registered).1

/-- Invalidating a table removes the entries that depend on it. -/
theorem WellFormed.entries_invalidateTable (wellFormed : cache.WellFormed) (table : String) :
    (cache.invalidateTable table).2.entries =
      cache.entries.filter fun stored => !stored.2.tables.contains table := by
  rw [invalidateTable_snd, entries_foldl_remove]
  refine List.filter_congr fun stored listed => ?_
  have registered : stored.1 ∈ cache.index.under table ↔ table ∈ stored.2.tables := by
    rw [wellFormed.registered_iff]
    constructor
    · rintro ⟨entry, found, depends⟩
      rwa [wellFormed.entry_unique listed (wellFormed.entry?_eq_some_iff.1 found)]
    · exact fun depends => ⟨stored.2, wellFormed.entry?_eq_some_iff.2 listed, depends⟩
  simp [registered]

/-- Invalidating a table keeps a cache well-formed. -/
theorem WellFormed.invalidateTable (wellFormed : cache.WellFormed) (table : String) :
    (cache.invalidateTable table).2.WellFormed := by
  have entries := wellFormed.entries_invalidateTable table
  rw [invalidateTable_snd] at entries ⊢
  have sound := wellFormed.toSound.dropTable table
  refine wellFormed.shrink (sound.foldl_remove _) ?_ (config_foldl_remove _ _) ?_
  · rw [entries]
    exact List.filter_sublist
  · intro fingerprint entry name stored depends registered
    rw [entries, List.mem_filter] at stored
    have differs : name ≠ table := by
      rintro rfl
      simp [depends] at stored
    have notRemoved : fingerprint ∉ cache.index.under table := by
      intro removed
      obtain ⟨removedEntry, removedStored, removedDepends⟩ :=
        wellFormed.stored_of_registered removed
      rw [wellFormed.entry_unique removedStored stored.1] at removedDepends
      simp [removedDepends] at stored
    refine sound.mem_under_foldl_remove.2 ⟨?_, notRemoved⟩
    exact Index.mem_under_dropTable.2 ⟨registered, differs⟩

/-- Invalidating a table counts the entries that go: each of them is found once. -/
theorem Sound.size_invalidateTable (sound : cache.Sound) (table : String) :
    (cache.invalidateTable table).1 + (cache.invalidateTable table).2.size = cache.size :=
  (sound.dropTable table).size_removeEach _

/-- Invalidating a table leaves the configuration. -/
@[simp] theorem config_invalidateTable (cache : Cache α) (table : String) :
    (cache.invalidateTable table).2.config = cache.config := by
  rw [invalidateTable_snd, config_foldl_remove]
  rfl

/-- Invalidating a table advances its generation. -/
@[simp] theorem generations_invalidateTable (cache : Cache α) (table : String) :
    (cache.invalidateTable table).2.generations = cache.generations.advance table := by
  rw [invalidateTable_snd, generations_foldl_remove]
  rfl

/-- Invalidate tables one after the other without counting. -/
def invalidateEach (cache : Cache α) (tables : List String) : Cache α :=
  tables.foldl (fun left table => (left.invalidateTable (Text.lowercase table)).2) cache

/-- How many removals found an entry, and what is left, after one more table. -/
def invalidateNext (progress : Nat × Cache α) (table : String) : Nat × Cache α :=
  let invalidated := progress.2.invalidateTable (Text.lowercase table)
  (progress.1 + invalidated.1, invalidated.2)

/-- Counting leaves no trace in what is left. -/
theorem foldl_invalidateNext_snd (progress : Nat × Cache α) (tables : List String) :
    (tables.foldl invalidateNext progress).2 = progress.2.invalidateEach tables := by
  induction tables generalizing progress with
  | nil => rfl
  | cons first rest inductionHypothesis => exact inductionHypothesis (invalidateNext progress first)

/-- The count grows by what the cache shrinks by. -/
theorem foldl_invalidateNext_fst (progress : Nat × Cache α)
    (wellFormed : progress.2.WellFormed) (tables : List String) :
    (tables.foldl invalidateNext progress).1 + (progress.2.invalidateEach tables).size =
      progress.1 + progress.2.size := by
  induction tables generalizing progress with
  | nil => rfl
  | cons first rest inductionHypothesis =>
    have table := wellFormed.size_invalidateTable (Text.lowercase first)
    calc
      _ = (invalidateNext progress first).1 + (invalidateNext progress first).2.size :=
        inductionHypothesis (invalidateNext progress first) (wellFormed.invalidateTable _)
      _ = progress.1 + progress.2.size := by
        rw [← table]
        exact Nat.add_assoc _ _ _

/-- Counting apart, an invalidation takes the tables one after the other. -/
theorem invalidate_eq (cache : Cache α) (tables : List String) :
    (cache.invalidate tables).2 =
      { cache.invalidateEach tables with
        invalidations :=
          (cache.invalidateEach tables).invalidations + (cache.invalidate tables).1 } := by
  rw [← foldl_invalidateNext_snd (0, cache)]
  rfl

/-- Invalidating tables one after the other keeps a cache well-formed, and removes the
entries that depend on one of them. -/
theorem WellFormed.invalidateEach (wellFormed : cache.WellFormed) (tables : List String) :
    (cache.invalidateEach tables).WellFormed ∧
      (cache.invalidateEach tables).entries =
        cache.entries.filter fun stored => stored.2.isClearOf tables := by
  induction tables generalizing cache with
  | nil => exact ⟨wellFormed, by simp [Cache.invalidateEach, Entry.isClearOf]⟩
  | cons first rest inductionHypothesis =>
    obtain ⟨restWellFormed, entries⟩ :=
      inductionHypothesis (wellFormed.invalidateTable (Text.lowercase first))
    refine ⟨restWellFormed, entries.trans ?_⟩
    rw [wellFormed.entries_invalidateTable, List.filter_filter]
    refine List.filter_congr fun stored _ => ?_
    rw [Entry.isClearOf, Entry.isClearOf, List.all_cons, Bool.and_comm]

/-- The number that an invalidation answers is what the cache shrinks by: tables that share
entries are not counted twice. -/
theorem WellFormed.size_invalidate (wellFormed : cache.WellFormed) (tables : List String) :
    (cache.invalidate tables).1 + (cache.invalidateEach tables).size = cache.size :=
  (foldl_invalidateNext_fst (0, cache) wellFormed tables).trans (Nat.zero_add _)

/-- An invalidation keeps a cache well-formed. -/
theorem WellFormed.invalidate (wellFormed : cache.WellFormed) (tables : List String) :
    (cache.invalidate tables).2.WellFormed := by
  rw [invalidate_eq]
  exact (wellFormed.invalidateEach tables).1.congr rfl rfl rfl

/-- An invalidation removes exactly the entries that depend on one of the tables. -/
theorem WellFormed.entries_invalidate (wellFormed : cache.WellFormed) (tables : List String) :
    (cache.invalidate tables).2.entries =
      cache.entries.filter fun stored => stored.2.isClearOf tables := by
  rw [invalidate_eq]
  exact (wellFormed.invalidateEach tables).2

/-- An entry that an invalidation leaves depends on none of the tables. -/
theorem WellFormed.mem_invalidate_iff (wellFormed : cache.WellFormed) {tables : List String}
    {stored : Fingerprint × Entry α} :
    stored ∈ (cache.invalidate tables).2.entries ↔
      stored ∈ cache.entries ∧ ∀ name ∈ tables, Text.lowercase name ∉ stored.2.tables := by
  rw [wellFormed.entries_invalidate, List.mem_filter, Entry.isClearOf, List.all_eq_true]
  simp

/-- An invalidation leaves the configuration. -/
@[simp] theorem config_invalidate (cache : Cache α) (tables : List String) :
    (cache.invalidate tables).2.config = cache.config := by
  have each : (cache.invalidateEach tables).config = cache.config := by
    induction tables generalizing cache with
    | nil => rfl
    | cons first rest inductionHypothesis =>
      exact (inductionHypothesis _).trans (config_invalidateTable cache _)
  rw [invalidate_eq]
  exact each

/-- An invalidation advances the generation of each of its tables in turn. -/
theorem generations_invalidate (cache : Cache α) (tables : List String) :
    (cache.invalidate tables).2.generations =
      (tables.map Text.lowercase).foldl (fun generations table => generations.advance table)
        cache.generations := by
  have each : (cache.invalidateEach tables).generations =
      (tables.map Text.lowercase).foldl (fun generations table => generations.advance table)
        cache.generations := by
    induction tables generalizing cache with
    | nil => rfl
    | cons first rest inductionHypothesis =>
      rw [List.map_cons, List.foldl_cons, ← generations_invalidateTable]
      exact inductionHypothesis _
  rw [invalidate_eq]
  exact each

/-- Purging removes the entries that have expired. -/
theorem WellFormed.entries_purgeExpired (wellFormed : cache.WellFormed) (now : Nat) :
    (cache.purgeExpired now).2.entries =
      cache.entries.filter fun stored => !stored.2.isExpired cache.config now := by
  rw [purgeExpired]
  simp only [entries_foldl_remove]
  refine List.filter_congr fun stored listed => ?_
  have isRemoved : stored.1 ∈ (cache.entries.filter fun stored =>
      stored.2.isExpired cache.config now).map Prod.fst ↔
      stored.2.isExpired cache.config now = true := by
    rw [List.mem_map]
    constructor
    · rintro ⟨⟨fingerprint, entry⟩, expired, rfl⟩
      rw [List.mem_filter] at expired
      exact wellFormed.entry_unique expired.1 listed ▸ expired.2
    · exact fun expired => ⟨stored, List.mem_filter.2 ⟨listed, expired⟩, rfl⟩
  rw [Bool.eq_iff_iff, decide_eq_true_iff, isRemoved]
  simp

/-- Purging keeps a cache well-formed. -/
theorem WellFormed.purgeExpired (wellFormed : cache.WellFormed) (now : Nat) :
    (cache.purgeExpired now).2.WellFormed :=
  wellFormed.foldl_remove _

/-- After purging the entries stem from those before it. -/
theorem WellFormed.stemsFrom_purgeExpired (wellFormed : cache.WellFormed) (now : Nat) :
    (cache.purgeExpired now).2.StemsFrom cache := by
  refine .of_subset ?_
  rw [wellFormed.entries_purgeExpired]
  exact List.filter_sublist.subset

/-- Clearing keeps a cache well-formed. -/
theorem WellFormed.clear (wellFormed : cache.WellFormed) : cache.clear.WellFormed :=
  wellFormed_of_empty rfl rfl wellFormed.positive

end NeutralSql.Cache
