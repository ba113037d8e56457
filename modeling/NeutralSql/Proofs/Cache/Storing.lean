import NeutralSql.Proofs.Cache.WellFormed

/-!
# Storing

A store makes room and puts its entry in front. The entry under the same fingerprint goes
first; only where the others fill the cache does the last one give way.
-/

namespace NeutralSql.Cache

variable {α : Type} {cache : Cache α} {fingerprint : Fingerprint}

/-- A cache about to take in an entry: the entry under the same fingerprint is gone, and
so is the last one where the others fill the cache. -/
def makeRoom (cache : Cache α) (fingerprint : Fingerprint) : Cache α :=
  let others := cache.remove fingerprint
  if others.size < others.capacity then others else others.evict

/-- An insertion puts its entry in front of those that make room for it. -/
theorem insert_eq (cache : Cache α) (now : Nat) (fingerprint : Fingerprint) (value : α)
    (tables : List String) :
    cache.insert now fingerprint value tables =
      { cache.makeRoom fingerprint with
        entries := (fingerprint, ⟨value, tables, now⟩) :: (cache.makeRoom fingerprint).entries
        index := (cache.makeRoom fingerprint).index.addAll fingerprint tables
        sets := (cache.makeRoom fingerprint).sets + 1 } :=
  rfl

/-- An insertion stores its entry under its fingerprint. -/
theorem entry?_insert (cache : Cache α) (now : Nat) (fingerprint : Fingerprint) (value : α)
    (tables : List String) :
    entry? (cache.insert now fingerprint value tables) fingerprint =
      some ⟨value, tables, now⟩ := by
  rw [Cache.entry?, insert_eq]
  exact List.lookup_cons_self

/-- An insertion registers its fingerprint under its tables. -/
theorem mem_under_insert (cache : Cache α) (now : Nat) (fingerprint : Fingerprint) (value : α)
    {tables : List String} {table : String} (depends : table ∈ tables) :
    fingerprint ∈ (cache.insert now fingerprint value tables).index.under table := by
  rw [insert_eq]
  exact Index.mem_under_addAll.2 (Or.inr ⟨rfl, depends⟩)

/-- Making room leaves the configuration. -/
@[simp] theorem config_makeRoom (cache : Cache α) (fingerprint : Fingerprint) :
    (cache.makeRoom fingerprint).config = cache.config := by
  rw [makeRoom]
  split <;> simp

/-- Making room leaves the generations. -/
@[simp] theorem generations_makeRoom (cache : Cache α) (fingerprint : Fingerprint) :
    (cache.makeRoom fingerprint).generations = cache.generations := by
  rw [makeRoom]
  split <;> simp

/-- Making room keeps a cache well-formed. -/
theorem WellFormed.makeRoom (wellFormed : cache.WellFormed) (fingerprint : Fingerprint) :
    (cache.makeRoom fingerprint).WellFormed := by
  rw [Cache.makeRoom]
  split
  · exact wellFormed.remove fingerprint
  · exact (wellFormed.remove fingerprint).evict

/-- The entries that make room for a new one are those under other fingerprints, without
the last of them where they fill the cache. -/
theorem WellFormed.entries_makeRoom (wellFormed : cache.WellFormed)
    (fingerprint : Fingerprint) :
    (cache.makeRoom fingerprint).entries =
      if (without fingerprint cache.entries).length < cache.capacity
      then without fingerprint cache.entries
      else (without fingerprint cache.entries).dropLast := by
  have sound := wellFormed.toSound.remove fingerprint
  rw [Cache.makeRoom, size, capacity, capacity, entries_remove, config_remove]
  split
  · rw [entries_remove]
  · rw [sound.entries_evict, entries_remove]

/-- Entries that make room are stored already, under other fingerprints. -/
theorem WellFormed.mem_of_mem_makeRoom (wellFormed : cache.WellFormed)
    {stored : Fingerprint × Entry α}
    (remains : stored ∈ (cache.makeRoom fingerprint).entries) :
    stored ∈ cache.entries ∧ stored.1 ≠ fingerprint := by
  rw [wellFormed.entries_makeRoom] at remains
  split at remains
  · exact mem_without.1 remains
  · exact mem_without.1 ((List.dropLast_sublist _).mem remains)

/-- There is room for one more entry afterwards. -/
theorem WellFormed.size_makeRoom (wellFormed : cache.WellFormed) (fingerprint : Fingerprint) :
    (cache.makeRoom fingerprint).size < cache.capacity := by
  have fewer : (without fingerprint cache.entries).length ≤ cache.capacity :=
    Nat.le_trans (List.length_filter_le _ _) wellFormed.bounded
  have positive := wellFormed.positive
  rw [size, wellFormed.entries_makeRoom]
  split
  · assumption
  · rw [List.length_dropLast]
    omega

/-- A new entry in front of a well-formed cache with room keeps it well-formed. -/
theorem WellFormed.push {after : Cache α} (wellFormed : cache.WellFormed) (entry : Entry α)
    (isNew : ∀ stored ∈ cache.entries, stored.1 ≠ fingerprint)
    (normalized : Normalized entry.tables) (someRoom : cache.size < cache.capacity)
    (entries : after.entries = (fingerprint, entry) :: cache.entries)
    (index : after.index = cache.index.addAll fingerprint entry.tables)
    (config : after.config = cache.config) : after.WellFormed where
  distinct := by
    rw [entries, List.map_cons, List.nodup_cons, List.mem_map]
    exact ⟨fun ⟨stored, listed, same⟩ => isNew stored listed same, wellFormed.distinct⟩
  proper := by
    rw [index]
    exact wellFormed.proper.addAll fingerprint entry.tables
  stored_of_registered registered := by
    rw [index, Index.mem_under_addAll] at registered
    rw [entries]
    rcases registered with before | ⟨rfl, depends⟩
    · obtain ⟨stored, listed, depends⟩ := wellFormed.stored_of_registered before
      exact ⟨stored, List.mem_cons_of_mem _ listed, depends⟩
    · exact ⟨entry, List.mem_cons_self, depends⟩
  registered_of_stored stored table depends := by
    rw [index, Index.mem_under_addAll]
    rw [entries, List.mem_cons, Prod.mk.injEq] at stored
    rcases stored with ⟨rfl, rfl⟩ | listed
    · exact Or.inr ⟨rfl, depends⟩
    · exact Or.inl (wellFormed.registered_of_stored listed table depends)
  normalized := by
    rw [entries, List.forall_mem_cons]
    exact ⟨normalized, wellFormed.normalized⟩
  bounded := by
    rw [size, capacity, entries, config]
    exact someRoom
  positive := by
    rw [capacity, config]
    exact wellFormed.positive

/-- An insertion under normalized tables keeps a cache well-formed. -/
theorem WellFormed.insert (wellFormed : cache.WellFormed) (now : Nat)
    (fingerprint : Fingerprint) (value : α) {tables : List String}
    (normalized : Normalized tables) :
    (cache.insert now fingerprint value tables).WellFormed := by
  have someRoom : (cache.makeRoom fingerprint).size < (cache.makeRoom fingerprint).capacity := by
    rw [capacity, config_makeRoom]
    exact wellFormed.size_makeRoom fingerprint
  rw [insert_eq]
  refine (wellFormed.makeRoom fingerprint).push ⟨value, tables, now⟩ ?_ normalized someRoom
    rfl rfl rfl
  exact fun stored remains => (wellFormed.mem_of_mem_makeRoom remains).2

section Cacheable

variable [Cacheable α]

/-- A refused store changes nothing, and an accepted one is an insertion under normalized
tables. -/
theorem put_cases (cache : Cache α) (now : Nat) (fingerprint : Fingerprint) (value : α)
    (tables : List String) :
    (Cacheable.isCacheable value = false ∧
      cache.put now fingerprint value tables = (false, cache)) ∨
    (Cacheable.isCacheable value = true ∧
      cache.put now fingerprint value tables =
        (true, cache.insert now fingerprint value (normalize tables))) := by
  rw [put]
  split
  · rename_i worth
    exact Or.inr ⟨worth, rfl⟩
  · rename_i worthless
    exact Or.inl ⟨Bool.eq_false_iff.2 worthless, rfl⟩

/-- A conditional store is refused after an invalidation, and is a store otherwise. -/
theorem putIfUnchanged_cases (cache : Cache α) (now : Nat) (fingerprint : Fingerprint)
    (value : α) (tables : List String) (generation : UInt64) :
    (cache.generation tables ≠ generation ∧
      cache.putIfUnchanged now fingerprint value tables generation = (false, cache)) ∨
    (cache.generation tables = generation ∧
      cache.putIfUnchanged now fingerprint value tables generation =
        cache.put now fingerprint value tables) := by
  rw [putIfUnchanged]
  split
  · rename_i unchanged
    exact Or.inr ⟨unchanged, rfl⟩
  · rename_i changed
    exact Or.inl ⟨changed, rfl⟩

/-- A conditional store is refused and changes nothing, or is accepted and is an
insertion. -/
theorem putIfUnchanged_eq (cache : Cache α) (now : Nat) (fingerprint : Fingerprint) (value : α)
    (tables : List String) (generation : UInt64) :
    cache.putIfUnchanged now fingerprint value tables generation = (false, cache) ∨
      cache.putIfUnchanged now fingerprint value tables generation =
        (true, cache.insert now fingerprint value (normalize tables)) := by
  rcases cache.putIfUnchanged_cases now fingerprint value tables generation with
    ⟨-, refused⟩ | ⟨-, attempted⟩
  · exact Or.inl refused
  · rw [attempted]
    exact (cache.put_cases now fingerprint value tables).imp And.right And.right

/-- Storing keeps a cache well-formed. -/
theorem WellFormed.put (wellFormed : cache.WellFormed) (now : Nat) (fingerprint : Fingerprint)
    (value : α) (tables : List String) :
    (cache.put now fingerprint value tables).2.WellFormed := by
  rcases cache.put_cases now fingerprint value tables with ⟨-, refused⟩ | ⟨-, accepted⟩
  · rw [refused]
    exact wellFormed
  · rw [accepted]
    exact wellFormed.insert now fingerprint value (normalized_normalize tables)

/-- Storing conditionally keeps a cache well-formed. -/
theorem WellFormed.putIfUnchanged (wellFormed : cache.WellFormed) (now : Nat)
    (fingerprint : Fingerprint) (value : α) (tables : List String) (generation : UInt64) :
    (cache.putIfUnchanged now fingerprint value tables generation).2.WellFormed := by
  rcases cache.putIfUnchanged_cases now fingerprint value tables generation with
    ⟨-, refused⟩ | ⟨-, accepted⟩
  · rw [refused]
    exact wellFormed
  · rw [accepted]
    exact wellFormed.put now fingerprint value tables

/-- After a conditional store an entry is the stored one, where the generation has not
moved, or was there before, under another fingerprint if the store was accepted. -/
theorem WellFormed.mem_of_mem_putIfUnchanged (wellFormed : cache.WellFormed) {now : Nat}
    {value : α} {tables : List String} {generation : UInt64} {stored : Fingerprint × Entry α}
    (listed : stored ∈
      (cache.putIfUnchanged now fingerprint value tables generation).2.entries) :
    ((cache.putIfUnchanged now fingerprint value tables generation).1 = true ∧
      cache.generation tables = generation ∧
      stored = (fingerprint, ⟨value, normalize tables, now⟩)) ∨
    (stored ∈ cache.entries ∧
      ((cache.putIfUnchanged now fingerprint value tables generation).1 = true →
        stored.1 ≠ fingerprint)) := by
  rcases cache.putIfUnchanged_cases now fingerprint value tables generation with
    ⟨-, refused⟩ | ⟨unchanged, attempted⟩
  · rw [refused] at listed ⊢
    exact Or.inr ⟨listed, fun accepted => absurd accepted (by simp)⟩
  · rw [attempted] at listed ⊢
    rcases cache.put_cases now fingerprint value tables with ⟨-, refused⟩ | ⟨-, inserted⟩
    · rw [refused] at listed ⊢
      exact Or.inr ⟨listed, fun accepted => absurd accepted (by simp)⟩
    · rw [inserted, insert_eq] at listed
      rw [inserted]
      rcases List.mem_cons.1 listed with isFirst | isBehind
      · exact Or.inl ⟨rfl, unchanged, isFirst⟩
      · obtain ⟨before, differs⟩ := wellFormed.mem_of_mem_makeRoom isBehind
        exact Or.inr ⟨before, fun _ => differs⟩

/-- Storing leaves the configuration. -/
@[simp] theorem config_put (cache : Cache α) (now : Nat) (fingerprint : Fingerprint) (value : α)
    (tables : List String) :
    (cache.put now fingerprint value tables).2.config = cache.config := by
  rcases cache.put_cases now fingerprint value tables with ⟨-, refused⟩ | ⟨-, accepted⟩
  · rw [refused]
  · rw [accepted]
    exact config_makeRoom cache fingerprint

/-- Storing leaves the generations. -/
@[simp] theorem generations_put (cache : Cache α) (now : Nat) (fingerprint : Fingerprint)
    (value : α) (tables : List String) :
    (cache.put now fingerprint value tables).2.generations = cache.generations := by
  rcases cache.put_cases now fingerprint value tables with ⟨-, refused⟩ | ⟨-, accepted⟩
  · rw [refused]
  · rw [accepted]
    exact generations_makeRoom cache fingerprint

/-- Storing conditionally leaves the configuration. -/
@[simp] theorem config_putIfUnchanged (cache : Cache α) (now : Nat) (fingerprint : Fingerprint)
    (value : α) (tables : List String) (generation : UInt64) :
    (cache.putIfUnchanged now fingerprint value tables generation).2.config = cache.config := by
  rcases cache.putIfUnchanged_cases now fingerprint value tables generation with
    ⟨-, refused⟩ | ⟨-, accepted⟩
  · rw [refused]
  · rw [accepted, config_put]

/-- Storing conditionally leaves the generations. -/
@[simp] theorem generations_putIfUnchanged (cache : Cache α) (now : Nat)
    (fingerprint : Fingerprint) (value : α) (tables : List String) (generation : UInt64) :
    (cache.putIfUnchanged now fingerprint value tables generation).2.generations =
      cache.generations := by
  rcases cache.putIfUnchanged_cases now fingerprint value tables generation with
    ⟨-, refused⟩ | ⟨-, accepted⟩
  · rw [refused]
  · rw [accepted, generations_put]

end Cacheable

end NeutralSql.Cache
