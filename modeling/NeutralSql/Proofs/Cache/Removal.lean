import NeutralSql.Proofs.Association
import NeutralSql.Proofs.Cache.Index

/-!
# Removing entries

All removals take the same path: overwriting, eviction, expiry, purging and invalidation.
A removal relies on less than the invariant between operations, because invalidation
drops a table from the index before it removes the entries that stood under it. `Sound`
says what remains: the index never registers what is not stored.
-/

namespace NeutralSql.Cache

variable {α : Type} {cache : Cache α} {fingerprint other : Fingerprint} {table : String}

/-- Every fingerprint stored once, and nothing registered that is not stored with its
table. -/
structure Sound (cache : Cache α) : Prop where
  distinct : (cache.entries.map Prod.fst).Nodup
  proper : cache.index.Proper
  stored_of_registered : ∀ {fingerprint table}, fingerprint ∈ cache.index.under table →
    ∃ entry, (fingerprint, entry) ∈ cache.entries ∧ table ∈ entry.tables

/-- The entry under a fingerprint is the one stored with it. -/
theorem Sound.entry?_eq_some_iff (sound : cache.Sound) {entry : Entry α} :
    cache.entry? fingerprint = some entry ↔ (fingerprint, entry) ∈ cache.entries :=
  lookup_eq_some_iff_mem sound.distinct

/-- Of two entries under one fingerprint both are the same. -/
theorem Sound.entry_unique (sound : cache.Sound) {first second : Entry α}
    (isFirst : (fingerprint, first) ∈ cache.entries)
    (isSecond : (fingerprint, second) ∈ cache.entries) : first = second := by
  have firstFound := sound.entry?_eq_some_iff.2 isFirst
  have secondFound := sound.entry?_eq_some_iff.2 isSecond
  exact Option.some.inj (firstFound.symm.trans secondFound)

/-- Without a fingerprint, the entries under the others remain. -/
@[simp] theorem mem_without {entries : List (Fingerprint × Entry α)}
    {stored : Fingerprint × Entry α} :
    stored ∈ without fingerprint entries ↔ stored ∈ entries ∧ stored.1 ≠ fingerprint := by
  simp [without]

/-- A removal takes the entry out, if there is one. -/
@[simp] theorem entries_remove (cache : Cache α) (fingerprint : Fingerprint) :
    (cache.remove fingerprint).entries = without fingerprint cache.entries := by
  rw [remove]
  split
  · rename_i absent
    rw [Cache.entry?, List.lookup_eq_none_iff] at absent
    symm
    rw [without, List.filter_eq_self]
    intro stored listed
    have differs : fingerprint ≠ stored.1 := by simpa using absent stored listed
    simpa using differs.symm
  · rfl

/-- A removal leaves the configuration. -/
@[simp] theorem config_remove (cache : Cache α) (fingerprint : Fingerprint) :
    (cache.remove fingerprint).config = cache.config := by
  rw [remove]
  split <;> rfl

/-- A removal leaves the generations. -/
@[simp] theorem generations_remove (cache : Cache α) (fingerprint : Fingerprint) :
    (cache.remove fingerprint).generations = cache.generations := by
  rw [remove]
  split <;> rfl

/-- A removal takes out the registrations of its fingerprint and no others. -/
theorem Sound.mem_under_remove (sound : cache.Sound) :
    other ∈ (cache.remove fingerprint).index.under table ↔
      other ∈ cache.index.under table ∧ other ≠ fingerprint := by
  rw [remove]
  split
  · rename_i absent
    refine ⟨fun registered => ⟨registered, ?_⟩, And.left⟩
    rintro rfl
    obtain ⟨entry, stored, -⟩ := sound.stored_of_registered registered
    rw [sound.entry?_eq_some_iff.2 stored] at absent
    exact Option.some_ne_none entry absent
  · rename_i entry found
    rw [sound.proper.mem_under_removeAll]
    refine and_congr_right fun registered => not_congr ?_
    refine ⟨And.left, fun same => ⟨same, ?_⟩⟩
    -- The index registered the fingerprint here, so the table is one of its entry's.
    obtain ⟨registeredEntry, stored, depends⟩ := sound.stored_of_registered registered
    have isStored := sound.entry?_eq_some_iff.1 found
    rw [← same] at isStored
    exact sound.entry_unique isStored stored ▸ depends

/-- A removal keeps a cache sound. -/
theorem Sound.remove (sound : cache.Sound) (fingerprint : Fingerprint) :
    (cache.remove fingerprint).Sound where
  distinct := by
    rw [entries_remove]
    exact sound.distinct.sublist (List.filter_sublist.map Prod.fst)
  proper := by
    rw [Cache.remove]
    split
    · exact sound.proper
    · exact sound.proper.removeAll fingerprint _
  stored_of_registered registered := by
    obtain ⟨registered, differs⟩ := sound.mem_under_remove.1 registered
    obtain ⟨entry, stored, depends⟩ := sound.stored_of_registered registered
    exact ⟨entry, by simpa using ⟨stored, differs⟩, depends⟩

/-- The entries under other fingerprints, and the one under a fingerprint if there is one,
are all. -/
theorem Sound.length_without (sound : cache.Sound) (fingerprint : Fingerprint) :
    (without fingerprint cache.entries).length + (cache.entry? fingerprint).isSome.toNat =
      cache.size := by
  have others : (without fingerprint cache.entries).map Prod.fst =
      (cache.entries.map Prod.fst).erase fingerprint := by
    rw [sound.distinct.erase_eq_filter, List.filter_map, without]
    refine congrArg (List.map Prod.fst) (List.filter_congr fun stored _ => ?_)
    simp [bne, Bool.beq_eq_decide_eq]
  have number := congrArg List.length others
  rw [List.length_map, List.length_erase, List.length_map] at number
  rw [number, size]
  cases found : cache.entry? fingerprint with
  | none =>
    rw [Cache.entry?, lookup_eq_none_iff_not_mem] at found
    simp [found]
  | some entry =>
    have listed := sound.entry?_eq_some_iff.1 found
    have isMember : fingerprint ∈ cache.entries.map Prod.fst := List.mem_map_of_mem listed
    have positive : 0 < cache.entries.length := List.length_pos_of_mem listed
    rw [if_pos isMember]
    exact Nat.sub_add_cancel positive

/-- A removal loses one entry where it finds one, and none otherwise. -/
theorem Sound.size_remove (sound : cache.Sound) (fingerprint : Fingerprint) :
    (cache.remove fingerprint).size + (cache.entry? fingerprint).isSome.toNat = cache.size := by
  rw [size, entries_remove]
  exact sound.length_without fingerprint

section Several

variable {fingerprints : List Fingerprint}

/-- Removing several fingerprints leaves the entries under the others. -/
theorem entries_foldl_remove (cache : Cache α) (fingerprints : List Fingerprint) :
    (fingerprints.foldl remove cache).entries =
      cache.entries.filter fun stored => stored.1 ∉ fingerprints := by
  induction fingerprints generalizing cache with
  | nil => simp
  | cons first rest inductionHypothesis =>
    rw [List.foldl_cons, inductionHypothesis, entries_remove, without, List.filter_filter]
    refine List.filter_congr fun stored _ => ?_
    simp [Bool.and_comm]

/-- Removing several fingerprints leaves the configuration. -/
@[simp] theorem config_foldl_remove (cache : Cache α) (fingerprints : List Fingerprint) :
    (fingerprints.foldl remove cache).config = cache.config := by
  induction fingerprints generalizing cache with
  | nil => rfl
  | cons first rest inductionHypothesis =>
    rw [List.foldl_cons, inductionHypothesis, config_remove]

/-- Removing several fingerprints leaves the generations. -/
@[simp] theorem generations_foldl_remove (cache : Cache α) (fingerprints : List Fingerprint) :
    (fingerprints.foldl remove cache).generations = cache.generations := by
  induction fingerprints generalizing cache with
  | nil => rfl
  | cons first rest inductionHypothesis =>
    rw [List.foldl_cons, inductionHypothesis, generations_remove]

/-- Removing several fingerprints keeps a cache sound. -/
theorem Sound.foldl_remove (sound : cache.Sound) (fingerprints : List Fingerprint) :
    (fingerprints.foldl Cache.remove cache).Sound := by
  induction fingerprints generalizing cache with
  | nil => exact sound
  | cons first rest inductionHypothesis => exact inductionHypothesis (sound.remove first)

/-- Removing several fingerprints takes out their registrations and no others. -/
theorem Sound.mem_under_foldl_remove (sound : cache.Sound) :
    other ∈ (fingerprints.foldl Cache.remove cache).index.under table ↔
      other ∈ cache.index.under table ∧ other ∉ fingerprints := by
  induction fingerprints generalizing cache with
  | nil => simp
  | cons first rest inductionHypothesis =>
    rw [List.foldl_cons, inductionHypothesis (sound.remove first), sound.mem_under_remove,
      List.mem_cons, not_or, and_assoc]

/-- Counting apart, removals are made one after the other. -/
@[simp] theorem removeEach_snd (cache : Cache α) (fingerprints : List Fingerprint) :
    (cache.removeEach fingerprints).2 = fingerprints.foldl remove cache := by
  induction fingerprints generalizing cache with
  | nil => rfl
  | cons first rest inductionHypothesis => exact inductionHypothesis (cache.remove first)

/-- The number of removals that find an entry is the number of entries that go. -/
theorem Sound.size_removeEach (sound : cache.Sound) (fingerprints : List Fingerprint) :
    (cache.removeEach fingerprints).1 + (cache.removeEach fingerprints).2.size = cache.size := by
  induction fingerprints generalizing cache with
  | nil => exact Nat.zero_add _
  | cons first rest inductionHypothesis =>
    have later := inductionHypothesis (sound.remove first)
    rw [removeEach, Nat.add_assoc, later, Nat.add_comm]
    exact sound.size_remove first

end Several

/-- Without the fingerprint of the last entry, the entries in front of it remain. -/
theorem without_getLast {entries : List (Fingerprint × Entry α)}
    {oldest : Fingerprint × Entry α} (distinct : (entries.map Prod.fst).Nodup)
    (isLast : entries.getLast? = some oldest) : without oldest.1 entries = entries.dropLast := by
  obtain ⟨newer, rfl⟩ := List.getLast?_eq_some_iff.1 isLast
  rw [List.map_append, List.nodup_append] at distinct
  have differs : ∀ stored ∈ newer, stored.1 ≠ oldest.1 := fun stored listed =>
    distinct.2.2 stored.1 (List.mem_map_of_mem listed) oldest.1 (by simp)
  rw [without, List.filter_append, List.dropLast_concat]
  simpa using differs

/-- Of entries with distinct fingerprints, those missing from what is left of them when the
last one is dropped are that one. -/
theorem filter_not_mem_dropLast {entries : List (Fingerprint × Entry α)}
    (distinct : (entries.map Prod.fst).Nodup) :
    (entries.filter fun stored => stored.1 ∉ entries.dropLast.map Prod.fst) =
      entries.getLast?.toList := by
  cases isLast : entries.getLast? with
  | none =>
    rw [List.getLast?_eq_none_iff.1 isLast]
    rfl
  | some oldest =>
    obtain ⟨newer, rfl⟩ := List.getLast?_eq_some_iff.1 isLast
    rw [List.map_append, List.nodup_append] at distinct
    have remains : oldest.1 ∉ newer.map Prod.fst := fun listed =>
      distinct.2.2 oldest.1 listed oldest.1 (by simp) rfl
    rw [List.dropLast_concat, List.filter_append, List.filter_eq_nil_iff.2,
      List.filter_cons_of_pos (by simpa using remains)]
    · rfl
    · exact fun stored listed => by simpa using ⟨stored.2, listed⟩

/-- An eviction takes out the entry at the end. -/
theorem Sound.entries_evict (sound : cache.Sound) :
    cache.evict.entries = cache.entries.dropLast := by
  rw [evict]
  split
  · rename_i isEmpty
    rw [List.getLast?_eq_none_iff.1 isEmpty, List.dropLast_nil]
  · rename_i oldest isLast
    rw [entries_remove, without_getLast sound.distinct isLast]

/-- An eviction leaves the configuration. -/
@[simp] theorem config_evict (cache : Cache α) : cache.evict.config = cache.config := by
  rw [evict]
  split
  · rfl
  · exact config_remove cache _

/-- An eviction leaves the generations. -/
@[simp] theorem generations_evict (cache : Cache α) :
    cache.evict.generations = cache.generations := by
  rw [evict]
  split
  · rfl
  · exact generations_remove cache _

end NeutralSql.Cache
