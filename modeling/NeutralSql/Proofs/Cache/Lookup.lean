import NeutralSql.Proofs.Cache.WellFormed

/-!
# Lookups

A lookup misses, drops an expired entry, or hits; `get_cases` is the one place that reads
this off. The entries afterwards stem from those before, with the same values and tables.
-/

namespace NeutralSql.Cache

variable {α : Type} {cache : Cache α} {fingerprint : Fingerprint}

/-- The cache after a hit: the entry found stands in front, young again where the
configuration says so. -/
def refreshed (cache : Cache α) (now : Nat) (fingerprint : Fingerprint) (entry : Entry α) :
    Cache α :=
  { cache with
    entries :=
      (fingerprint, { entry with
        storedAt := if cache.config.updateAgeOnGet then now else entry.storedAt }) ::
      without fingerprint cache.entries
    hits := cache.hits + 1 }

/-- A lookup misses, drops an expired entry, or hits. -/
theorem get_cases (cache : Cache α) (now : Nat) (fingerprint : Fingerprint) :
    (cache.entry? fingerprint = none ∧
      cache.get now fingerprint = (none, { cache with misses := cache.misses + 1 })) ∨
    (∃ entry, cache.entry? fingerprint = some entry ∧
      entry.isExpired cache.config now = true ∧
      cache.get now fingerprint =
        if cache.config.allowStale then
          (some entry.value,
            { cache.remove fingerprint with hits := (cache.remove fingerprint).hits + 1 })
        else
          (none,
            { cache.remove fingerprint with misses := (cache.remove fingerprint).misses + 1 })) ∨
    (∃ entry, cache.entry? fingerprint = some entry ∧
      entry.isExpired cache.config now = false ∧
      cache.get now fingerprint = (some entry.value, cache.refreshed now fingerprint entry)) := by
  rw [get]
  split
  · rename_i absent
    exact Or.inl ⟨absent, rfl⟩
  · rename_i entry found
    split
    · rename_i expired
      exact Or.inr (Or.inl ⟨entry, found, expired, rfl⟩)
    · rename_i fresh
      exact Or.inr (Or.inr ⟨entry, found, Bool.eq_false_iff.2 fresh, rfl⟩)

/-- A fingerprint is contained where an entry is stored under it that has not expired. -/
theorem contains_eq_true_iff {now : Nat} :
    cache.contains now fingerprint = true ↔
      ∃ entry, cache.entry? fingerprint = some entry ∧
        entry.isExpired cache.config now = false := by
  rw [contains, Option.any_eq_true]
  simp

/-- A lookup hits an entry that has not expired. -/
theorem get_of_fresh {now : Nat} {entry : Entry α} (found : cache.entry? fingerprint = some entry)
    (fresh : entry.isExpired cache.config now = false) :
    cache.get now fingerprint = (some entry.value, cache.refreshed now fingerprint entry) := by
  simp [get, found, fresh, refreshed]

/-- A hit hands out the value of the entry stored under its fingerprint. -/
theorem WellFormed.stored_of_hit (wellFormed : cache.WellFormed) {now : Nat} {value : α}
    (hit : (cache.get now fingerprint).1 = some value) :
    ∃ entry, (fingerprint, entry) ∈ cache.entries ∧ entry.value = value := by
  rcases cache.get_cases now fingerprint with
    ⟨-, miss⟩ | ⟨entry, found, -, expired⟩ | ⟨entry, found, -, fresh⟩
  · rw [miss] at hit
    exact absurd hit (by simp)
  · refine ⟨entry, wellFormed.entry?_eq_some_iff.1 found, ?_⟩
    rw [expired] at hit
    split at hit
    · exact Option.some.inj hit
    · exact absurd hit (by simp)
  · refine ⟨entry, wellFormed.entry?_eq_some_iff.1 found, ?_⟩
    rw [fresh] at hit
    exact Option.some.inj hit

/-- Where expired results are not handed out, a hit found an entry that had not expired. -/
theorem contains_of_hit (neverStale : cache.config.allowStale = false) {now : Nat} {value : α}
    (hit : (cache.get now fingerprint).1 = some value) :
    cache.contains now fingerprint = true := by
  rcases cache.get_cases now fingerprint with
    ⟨-, miss⟩ | ⟨entry, -, -, expired⟩ | ⟨entry, found, fresh, -⟩
  · rw [miss] at hit
    exact absurd hit (by simp)
  · rw [expired, neverStale] at hit
    exact absurd hit (by simp)
  · exact contains_eq_true_iff.2 ⟨entry, found, fresh⟩

/-- A lookup of what the cache does not contain leaves the entries under the other
fingerprints. -/
theorem entries_get_of_not_contains {now : Nat}
    (missing : cache.contains now fingerprint = false) :
    (cache.get now fingerprint).2.entries = without fingerprint cache.entries := by
  rcases cache.get_cases now fingerprint with
    ⟨absent, miss⟩ | ⟨entry, -, -, expired⟩ | ⟨entry, found, fresh, -⟩
  · have unchanged := entries_remove cache fingerprint
    rw [remove, absent] at unchanged
    rw [miss]
    exact unchanged
  · rw [expired]
    split <;> exact entries_remove cache fingerprint
  · rw [contains, found] at missing
    simp [fresh] at missing

/-- A hit leaves a cache well-formed. -/
theorem WellFormed.refreshed (wellFormed : cache.WellFormed) (now : Nat) {entry : Entry α}
    (stored : (fingerprint, entry) ∈ cache.entries) :
    (cache.refreshed now fingerprint entry).WellFormed where
  distinct := by
    have others := wellFormed.distinct.sublist
      (List.filter_sublist (l := cache.entries) (p := fun stored => stored.1 ≠ fingerprint)
        |>.map Prod.fst)
    refine List.nodup_cons.2 ⟨?_, others⟩
    rw [List.mem_map]
    rintro ⟨other, listed, same⟩
    exact (mem_without.1 listed).2 same
  proper := wellFormed.proper
  stored_of_registered := by
    intro other table registered
    obtain ⟨otherEntry, listed, depends⟩ := wellFormed.stored_of_registered registered
    by_cases same : other = fingerprint
    · subst same
      rw [wellFormed.entry_unique listed stored] at depends
      exact ⟨_, List.mem_cons_self, depends⟩
    · exact ⟨otherEntry, List.mem_cons_of_mem _ (mem_without.2 ⟨listed, same⟩), depends⟩
  registered_of_stored := by
    intro other otherEntry listed table depends
    rcases List.mem_cons.1 listed with isFirst | isBehind
    · rw [Prod.mk.injEq] at isFirst
      obtain ⟨rfl, rfl⟩ := isFirst
      exact wellFormed.registered_of_stored stored table depends
    · exact wellFormed.registered_of_stored (mem_without.1 isBehind).1 table depends
  normalized := by
    have entryNormalized : Normalized entry.tables := wellFormed.normalized _ stored
    refine List.forall_mem_cons.2 ⟨entryNormalized, ?_⟩
    exact fun other listed => wellFormed.normalized other (mem_without.1 listed).1
  bounded := by
    have fewer : (without fingerprint cache.entries).length < cache.entries.length :=
      List.length_filter_lt_length_iff_exists.2 ⟨_, stored, by simp⟩
    exact Nat.le_trans fewer wellFormed.bounded
  positive := wellFormed.positive

/-- A lookup keeps a cache well-formed. -/
theorem WellFormed.get (wellFormed : cache.WellFormed) (now : Nat) (fingerprint : Fingerprint) :
    (cache.get now fingerprint).2.WellFormed := by
  rcases cache.get_cases now fingerprint with
    ⟨-, miss⟩ | ⟨entry, -, -, expired⟩ | ⟨entry, found, -, fresh⟩
  · rw [miss]
    exact wellFormed.congr rfl rfl rfl
  · rw [expired]
    split
    · exact (wellFormed.remove fingerprint).congr rfl rfl rfl
    · exact (wellFormed.remove fingerprint).congr rfl rfl rfl
  · rw [fresh]
    exact wellFormed.refreshed now (wellFormed.entry?_eq_some_iff.1 found)

/-- After a lookup the entries stem from those before it. -/
theorem WellFormed.stemsFrom_get (wellFormed : cache.WellFormed) (now : Nat)
    (fingerprint : Fingerprint) : (cache.get now fingerprint).2.StemsFrom cache := by
  have removed : (cache.remove fingerprint).entries ⊆ cache.entries := by
    rw [entries_remove]
    exact List.filter_sublist.subset
  rcases cache.get_cases now fingerprint with
    ⟨-, miss⟩ | ⟨entry, -, -, expired⟩ | ⟨entry, found, -, fresh⟩
  · rw [miss]
    exact .of_subset (List.Subset.refl _)
  · rw [expired]
    split
    · exact .of_subset removed
    · exact .of_subset removed
  · rw [fresh]
    intro stored listed
    rcases List.mem_cons.1 listed with rfl | isBehind
    · exact ⟨entry, wellFormed.entry?_eq_some_iff.1 found, rfl, rfl⟩
    · exact ⟨stored.2, (mem_without.1 isBehind).1, rfl, rfl⟩

/-- A lookup leaves the configuration. -/
@[simp] theorem config_get (cache : Cache α) (now : Nat) (fingerprint : Fingerprint) :
    (cache.get now fingerprint).2.config = cache.config := by
  rcases cache.get_cases now fingerprint with ⟨-, miss⟩ | ⟨_, -, -, expired⟩ | ⟨_, -, -, fresh⟩
  · rw [miss]
  · rw [expired]
    split <;> exact config_remove cache fingerprint
  · rw [fresh]
    rfl

/-- A lookup leaves the generations. -/
@[simp] theorem generations_get (cache : Cache α) (now : Nat) (fingerprint : Fingerprint) :
    (cache.get now fingerprint).2.generations = cache.generations := by
  rcases cache.get_cases now fingerprint with ⟨-, miss⟩ | ⟨_, -, -, expired⟩ | ⟨_, -, -, fresh⟩
  · rw [miss]
  · rw [expired]
    split <;> exact generations_remove cache fingerprint
  · rw [fresh]
    rfl

end NeutralSql.Cache
