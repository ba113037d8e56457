import Mathlib.Algebra.BigOperators.Group.Finset.Defs
import NeutralSql.Proofs.Cache.Generation
import NeutralSql.Proofs.Cache.Plain

/-!
# The indexed cache refines the plain one

Without its index a cache is a plain one: `Cache.plain`. In a well-formed cache each
operation gives the answer of the plain cache and leaves what the plain cache leaves, and
all that can be looked at shows the same. The index may be rearranged between operations,
as the iteration order of sets is nobody's promise.
-/

namespace NeutralSql.Cache

variable {α : Type} {cache : Cache α} {fingerprint : Fingerprint}

namespace Index

/-- A choice of the order in which the tables of an index and the fingerprints under a table
are gone through. Whatever order the sets have while an operation goes through them, it is
the order of some rearrangement before the operation, as operations only take out of the
sets that they go through. -/
structure Rearrangement where
  apply : Index → Index
  tables : ∀ index, ((apply index).map Prod.fst).Perm (index.map Prod.fst)
  fingerprints : ∀ index table, ((apply index).under table).Perm (index.under table)

/-- A rearranged index is proper. -/
theorem Proper.rearranged {index : Index} (proper : index.Proper) (order : Rearrangement) :
    (order.apply index).Proper := by
  have distinct : ((order.apply index).map Prod.fst).Nodup :=
    (order.tables index).nodup_iff.2 proper.distinct
  -- A slot holds what stands under its table, and that is what stood there before.
  have slots : ∀ slot ∈ order.apply index, slot.2.Perm (index.under slot.1) := by
    intro slot listed
    rw [← under_eq_of_distinct distinct listed]
    exact order.fingerprints index slot.1
  refine ⟨distinct, fun slot listed emptied => ?_, fun slot listed => ?_⟩
  · have wasListed : slot.1 ∈ index.map Prod.fst :=
      (order.tables index).subset (List.mem_map_of_mem listed)
    refine proper.under_ne_nil_iff.2 wasListed ?_
    rw [← List.nil_perm, ← emptied]
    exact slots slot listed
  · exact (slots slot listed).nodup_iff.2 (proper.nodup_under slot.1)

end Index

/-- A cache with its index in another order. -/
def rearranged (cache : Cache α) (order : Index.Rearrangement) : Cache α :=
  { cache with index := order.apply cache.index }

/-- A rearranged cache is well-formed. -/
theorem WellFormed.rearranged (wellFormed : cache.WellFormed) (order : Index.Rearrangement) :
    (cache.rearranged order).WellFormed where
  distinct := wellFormed.distinct
  proper := wellFormed.proper.rearranged order
  stored_of_registered registered :=
    wellFormed.stored_of_registered ((order.fingerprints _ _).mem_iff.1 registered)
  registered_of_stored stored table depends :=
    (order.fingerprints _ _).mem_iff.2 (wellFormed.registered_of_stored stored table depends)
  normalized := wellFormed.normalized
  bounded := wellFormed.bounded
  positive := wellFormed.positive

/-! ## The plain view -/

/-- An entry with its fingerprint and its tables as a set. -/
def plainEntry (stored : Fingerprint × Entry α) : PlainCache.Entry α :=
  ⟨stored.1, stored.2.value, stored.2.tables.toFinset, stored.2.storedAt⟩

/-- A cache without its index. -/
def plain (cache : Cache α) : PlainCache α :=
  ⟨cache.config, cache.entries.map plainEntry, cache.generations.get, cache.hits, cache.misses,
    cache.sets, cache.invalidations⟩

/-- The plain cache drops what a condition on the view of an entry drops. -/
theorem map_plainEntry_filter (entries : List (Fingerprint × Entry α))
    (keep : Fingerprint × Entry α → Bool) (keepPlain : PlainCache.Entry α → Bool)
    (same : ∀ stored ∈ entries, keep stored = keepPlain (plainEntry stored)) :
    (entries.filter keep).map plainEntry = (entries.map plainEntry).filter keepPlain := by
  rw [List.filter_map]
  exact congrArg _ (List.filter_congr same)

/-- Looking up an entry finds its view in the plain cache. -/
theorem find?_plain (cache : Cache α) (fingerprint : Fingerprint) :
    cache.plain.find? fingerprint =
      (cache.entry? fingerprint).map fun entry => plainEntry (fingerprint, entry) := by
  have found : ∀ entries : List (Fingerprint × Entry α),
      (entries.map plainEntry).find? (fun entry => entry.fingerprint = fingerprint) =
        (entries.lookup fingerprint).map fun entry => plainEntry (fingerprint, entry) := by
    intro entries
    induction entries with
    | nil => rfl
    | cons first rest inductionHypothesis =>
      rw [List.map_cons, List.find?_cons, List.lookup_cons, inductionHypothesis]
      by_cases same : fingerprint = first.1
      · subst same
        simp [plainEntry]
      · simp [plainEntry, Ne.symm same, beq_eq_false_iff_ne.2 same]
  exact found cache.entries

/-- The entries under other fingerprints are the same in both caches. -/
theorem map_plainEntry_without (cache : Cache α) (fingerprint : Fingerprint) :
    (without fingerprint cache.entries).map plainEntry = cache.plain.others fingerprint :=
  map_plainEntry_filter cache.entries _ _ fun _ _ => rfl

/-- Normalized tables are the set of the lower-case names. -/
theorem toFinset_normalize (tables : List String) :
    (normalize tables).toFinset = PlainCache.lowercase tables := by
  ext table
  simp [PlainCache.lowercase]

/-- Both caches have the same generation of some tables. -/
theorem generation_plain (cache : Cache α) (tables : List String) :
    cache.plain.generation tables = cache.generation tables := by
  have sum : ∀ names : List String,
      cache.generations.total names = (names.map cache.generations.get).sum := by
    intro names
    induction names with
    | nil => rfl
    | cons first rest inductionHypothesis =>
      rw [Generations.total_cons, List.map_cons, List.sum_cons, inductionHypothesis]
  have distinct : (normalize tables).Nodup := Text.nodup_nameSet _
  rw [generation, sum, ← List.sum_toFinset _ distinct]
  exact congrArg (fun names => names.sum cache.generations.get) (toFinset_normalize tables).symm

/-! ## Frames -/

/-- A removal takes the entry out of the plain cache and leaves the rest of it. -/
theorem plain_remove (cache : Cache α) (fingerprint : Fingerprint) :
    (cache.remove fingerprint).plain =
      { cache.plain with entries := cache.plain.others fingerprint } := by
  have entries := congrArg (List.map plainEntry) (entries_remove cache fingerprint)
  rw [map_plainEntry_without] at entries
  rw [← entries, remove]
  split <;> rfl

/-- Several removals leave the entries under other fingerprints and the rest of the plain
cache. -/
theorem plain_foldl_remove (cache : Cache α) (fingerprints : List Fingerprint) :
    (fingerprints.foldl remove cache).plain =
      { cache.plain with
        entries := (cache.entries.filter fun stored => stored.1 ∉ fingerprints).map plainEntry } := by
  rw [← entries_foldl_remove]
  induction fingerprints generalizing cache with
  | nil => rfl
  | cons first rest inductionHypothesis =>
    rw [List.foldl_cons, inductionHypothesis, plain_remove]

/-- An eviction changes nothing but the entries of the plain cache. -/
theorem plain_evict (cache : Cache α) :
    cache.evict.plain = { cache.plain with entries := cache.evict.plain.entries } := by
  rw [evict]
  split
  · rfl
  · rw [plain_remove]

/-- Making room changes nothing but the entries of the plain cache. -/
theorem WellFormed.plain_makeRoom (wellFormed : cache.WellFormed) (fingerprint : Fingerprint) :
    (cache.makeRoom fingerprint).plain =
      { cache.plain with entries := cache.plain.room fingerprint } := by
  have frame : (cache.makeRoom fingerprint).plain =
      { cache.plain with entries := (cache.makeRoom fingerprint).plain.entries } := by
    rw [Cache.makeRoom]
    split
    · rw [plain_remove]
    · rw [plain_evict, plain_remove]
  have entries : (cache.makeRoom fingerprint).plain.entries = cache.plain.room fingerprint := by
    rw [plain, wellFormed.entries_makeRoom, PlainCache.room, ← map_plainEntry_without,
      List.length_map]
    split
    · exact (if_pos ‹_›).symm
    · rw [List.map_dropLast]
      exact (if_neg ‹_›).symm
  rw [frame, entries]

/-- Invalidating tables one after the other leaves the counters of the plain cache. -/
theorem plain_invalidateEach (cache : Cache α) (tables : List String) :
    (cache.invalidateEach tables).plain =
      { cache.plain with
        entries := (cache.invalidateEach tables).entries.map plainEntry
        generations := (cache.invalidateEach tables).generations.get } := by
  induction tables generalizing cache with
  | nil => rfl
  | cons first rest inductionHypothesis =>
    have table : (cache.invalidateTable (Text.lowercase first)).2.plain =
        { cache.plain with
          entries := (cache.invalidateTable (Text.lowercase first)).2.entries.map plainEntry
          generations := (cache.invalidateTable (Text.lowercase first)).2.generations.get } := by
      rw [invalidateTable_snd, plain_foldl_remove, entries_foldl_remove,
        generations_foldl_remove]
      rfl
    rw [invalidateEach, List.foldl_cons, ← invalidateEach, inductionHypothesis, table]

/-! ## What an invalidation names -/

/-- Advancing tables in turn adds to each generation the number of times its table is
named. -/
theorem Generations.get_advanceAll (generations : Generations) (tables : List String)
    (table : String) :
    (tables.foldl (fun generations table => generations.advance table) generations).get table =
      generations.get table + UInt64.ofNat (tables.count table) := by
  induction tables generalizing generations with
  | nil => exact (UInt64.add_zero _).symm
  | cons first rest inductionHypothesis =>
    rw [List.foldl_cons, inductionHypothesis, get_advance, List.count_cons, UInt64.ofNat_add]
    by_cases same : table = first
    · subst same
      rw [if_pos rfl, beq_self_eq_true, if_pos rfl, UInt64.add_assoc, UInt64.add_comm 1]
      rfl
    · rw [if_neg same, beq_eq_false_iff_ne.2 (Ne.symm same)]
      simp

/-- An entry is clear of tables exactly if its view does not meet them. -/
theorem isClearOf_eq (stored : Fingerprint × Entry α) (tables : List String) :
    stored.2.isClearOf tables = !(plainEntry stored).meets (PlainCache.lowercase tables) := by
  rw [Bool.eq_iff_iff, Entry.isClearOf, List.all_eq_true, Bool.not_eq_true',
    PlainCache.Entry.meets, decide_eq_false_iff_not, Finset.not_nonempty_iff_eq_empty,
    Finset.eq_empty_iff_forall_notMem]
  simp only [PlainCache.lowercase, plainEntry, Finset.mem_inter, List.mem_toFinset, List.mem_map,
    not_and, not_exists]
  constructor
  · rintro clear table depends name named rfl
    simpa [depends] using clear name named
  · intro clear name named
    have absent : Text.lowercase name ∉ stored.2.tables := fun depends =>
      clear _ depends name named rfl
    simpa using absent

/-! ## Looking at a cache -/

/-- A cache shows what a plain cache shows, whatever it is asked. -/
structure Shows (cache : Cache α) (plain : PlainCache α) : Prop where
  stats : cache.stats = plain.stats
  size : cache.size = plain.size
  contains : ∀ now fingerprint, cache.contains now fingerprint = plain.contains now fingerprint
  /-- The tables of an entry come in order. -/
  tablesFor? : ∀ fingerprint, cache.tablesFor? fingerprint =
    (plain.tablesFor? fingerprint).map fun tables => tables.sort (· ≤ ·)
  generation : ∀ tables, cache.generation tables = plain.generation tables
  /-- The fingerprints under a table come in any order, each of them once. -/
  fingerprintsFor : ∀ table, (cache.fingerprintsFor table).Perm (plain.fingerprintsFor table)

/-- The index finds under a table what a scan of the entries finds. -/
theorem WellFormed.fingerprintsFor_perm (wellFormed : cache.WellFormed) (table : String) :
    (cache.fingerprintsFor table).Perm (cache.plain.fingerprintsFor table) := by
  have scanned : cache.plain.fingerprintsFor table =
      (cache.entries.filter fun stored =>
        stored.2.tables.contains (Text.lowercase table)).map Prod.fst := by
    rw [PlainCache.fingerprintsFor, plain, ← map_plainEntry_filter cache.entries
      (fun stored => stored.2.tables.contains (Text.lowercase table)) _
      (fun stored _ => by simp [plainEntry]), List.map_map]
    rfl
  have once : ((cache.entries.filter fun stored =>
      stored.2.tables.contains (Text.lowercase table)).map Prod.fst).Nodup :=
    wellFormed.distinct.sublist (List.filter_sublist.map Prod.fst)
  rw [scanned, Cache.fingerprintsFor]
  refine (List.perm_ext_iff_of_nodup (wellFormed.proper.nodup_under _) once).2 fun fingerprint => ?_
  rw [wellFormed.registered_iff, List.mem_map]
  constructor
  · rintro ⟨entry, found, depends⟩
    have listed := wellFormed.entry?_eq_some_iff.1 found
    exact ⟨(fingerprint, entry), List.mem_filter.2 ⟨listed, by simpa using depends⟩, rfl⟩
  · rintro ⟨⟨stored, entry⟩, listed, rfl⟩
    obtain ⟨listed, depends⟩ := List.mem_filter.1 listed
    exact ⟨entry, wellFormed.entry?_eq_some_iff.2 listed, by simpa using depends⟩

/-- A well-formed cache shows what it shows without its index. -/
theorem WellFormed.shows (wellFormed : cache.WellFormed) : cache.Shows cache.plain where
  stats := by
    rw [Cache.stats, PlainCache.stats, PlainCache.size, plain, List.length_map]
    rfl
  size := (List.length_map _).symm
  contains now fingerprint := by
    rw [Cache.contains, PlainCache.contains, find?_plain, Option.any_map]
    rfl
  tablesFor? fingerprint := by
    rw [Cache.tablesFor?, PlainCache.tablesFor?, find?_plain, Option.map_map, Option.map_map]
    refine Option.map_congr fun entry found => ?_
    have sorted := (wellFormed.normalized _ (wellFormed.entry?_eq_some_iff.1 found)).sorted
    have distinct : entry.tables.Nodup := sorted.imp ne_of_lt
    exact ((List.toFinset_sort _ distinct).2 (sorted.imp le_of_lt)).symm
  generation tables := (generation_plain cache tables).symm
  fingerprintsFor := wellFormed.fingerprintsFor_perm

/-! ## One operation -/

/-- A lookup answers as in the plain cache, and leaves what the plain cache leaves. -/
theorem get_plain (cache : Cache α) (now : Nat) (fingerprint : Fingerprint) :
    cache.plain.get now fingerprint =
      ((cache.get now fingerprint).1, (cache.get now fingerprint).2.plain) := by
  rw [PlainCache.get, find?_plain]
  rcases cache.get_cases now fingerprint with
    ⟨absent, miss⟩ | ⟨entry, found, expired, dropped⟩ | ⟨entry, found, fresh, hit⟩
  · rw [absent, miss]
    rfl
  · have isExpired : (plainEntry (fingerprint, entry)).isExpired cache.plain.config now = true :=
      expired
    rw [found, dropped, Option.map_some]
    simp only [if_pos isExpired]
    have left := plain_remove cache fingerprint
    have allowed : cache.plain.config.allowStale = cache.config.allowStale := rfl
    rw [allowed]
    split
    · exact congrArg (fun left : PlainCache α =>
        (some entry.value, { left with hits := left.hits + 1 })) left.symm
    · exact congrArg (fun left : PlainCache α =>
        (none, { left with misses := left.misses + 1 })) left.symm
  · have isFresh : (plainEntry (fingerprint, entry)).isExpired cache.plain.config now = false :=
      fresh
    rw [found, hit, Option.map_some]
    simp only [isFresh, Bool.false_eq_true, if_false, refreshed]
    exact congrArg (fun others => (some entry.value,
      { cache.plain with
        entries := plainEntry (fingerprint, { entry with
          storedAt := if cache.config.updateAgeOnGet then now else entry.storedAt }) :: others
        hits := cache.hits + 1 })) (map_plainEntry_without cache fingerprint).symm

/-- An invalidation answers as in the plain cache, and leaves what the plain cache
leaves. -/
theorem WellFormed.invalidate_plain (wellFormed : cache.WellFormed) (tables : List String) :
    cache.plain.invalidate tables =
      ((cache.invalidate tables).1, (cache.invalidate tables).2.plain) := by
  have kept : (cache.invalidateEach tables).entries.map plainEntry =
      cache.plain.entries.filter fun entry => !entry.meets (PlainCache.lowercase tables) := by
    rw [(wellFormed.invalidateEach tables).2]
    exact map_plainEntry_filter cache.entries _ _ fun stored _ => isClearOf_eq stored tables
  have generations : (cache.invalidateEach tables).generations.get = fun table =>
      cache.generations.get table + UInt64.ofNat ((tables.map Text.lowercase).count table) := by
    have advanced := cache.generations_invalidate tables
    rw [invalidate_eq] at advanced
    funext table
    rw [← Generations.get_advanceAll, ← advanced]
  have dropped : (cache.plain.entries.filter fun entry =>
      entry.meets (PlainCache.lowercase tables)).length = (cache.invalidate tables).1 := by
    have split := List.length_eq_length_filter_add (l := cache.plain.entries) fun entry =>
      entry.meets (PlainCache.lowercase tables)
    have size := wellFormed.size_invalidate tables
    have all : cache.plain.entries.length = cache.size := List.length_map _
    rw [all, ← kept, List.length_map, ← size, Cache.size] at split
    omega
  rw [PlainCache.invalidate, dropped, ← kept, invalidate_eq]
  have left := plain_invalidateEach cache tables
  rw [generations] at left
  exact congrArg (fun left : PlainCache α => ((cache.invalidate tables).1,
    { left with invalidations := left.invalidations + (cache.invalidate tables).1 })) left.symm

/-- Purging answers as in the plain cache, and leaves what the plain cache leaves. -/
theorem WellFormed.purgeExpired_plain (wellFormed : cache.WellFormed) (now : Nat) :
    cache.plain.purgeExpired now =
      ((cache.purgeExpired now).1, (cache.purgeExpired now).2.plain) := by
  have kept : (cache.purgeExpired now).2.entries.map plainEntry =
      cache.plain.entries.filter fun entry => !entry.isExpired cache.config now := by
    rw [wellFormed.entries_purgeExpired]
    exact map_plainEntry_filter cache.entries _ _ fun _ _ => rfl
  have dropped : (cache.plain.entries.filter fun entry =>
      entry.isExpired cache.config now).length = (cache.purgeExpired now).1 := by
    have expired := map_plainEntry_filter cache.entries
      (fun stored => stored.2.isExpired cache.config now)
      (fun entry => entry.isExpired cache.config now) fun _ _ => rfl
    exact (congrArg List.length expired).symm.trans (List.length_map _)
  have left := plain_foldl_remove cache
    ((cache.entries.filter fun stored => stored.2.isExpired cache.config now).map Prod.fst)
  rw [← entries_foldl_remove] at left
  refine Prod.ext dropped ?_
  refine Eq.trans ?_ left.symm
  exact congrArg (fun entries => { cache.plain with entries }) kept.symm

variable [Cacheable α]

/-- A store answers as in the plain cache, and leaves what the plain cache leaves. -/
theorem WellFormed.put_plain (wellFormed : cache.WellFormed) (now : Nat)
    (fingerprint : Fingerprint) (value : α) (tables : List String) :
    cache.plain.put now fingerprint value tables =
      ((cache.put now fingerprint value tables).1,
        (cache.put now fingerprint value tables).2.plain) := by
  rw [PlainCache.put]
  rcases cache.put_cases now fingerprint value tables with
    ⟨worthless, refused⟩ | ⟨worth, accepted⟩
  · rw [refused, if_neg (Bool.eq_false_iff.1 worthless)]
  · rw [accepted, if_pos worth, insert_eq, ← toFinset_normalize]
    exact congrArg (fun room : PlainCache α => (true,
      { room with
        entries := ⟨fingerprint, value, (normalize tables).toFinset, now⟩ :: room.entries
        sets := room.sets + 1 })) (wellFormed.plain_makeRoom fingerprint).symm

/-- A conditional store answers as in the plain cache, and leaves what the plain cache
leaves. -/
theorem WellFormed.putIfUnchanged_plain (wellFormed : cache.WellFormed) (now : Nat)
    (fingerprint : Fingerprint) (value : α) (tables : List String) (generation : UInt64) :
    cache.plain.putIfUnchanged now fingerprint value tables generation =
      ((cache.putIfUnchanged now fingerprint value tables generation).1,
        (cache.putIfUnchanged now fingerprint value tables generation).2.plain) := by
  rw [PlainCache.putIfUnchanged, generation_plain]
  rcases cache.putIfUnchanged_cases now fingerprint value tables generation with
    ⟨changed, refused⟩ | ⟨unchanged, attempted⟩
  · rw [refused, if_neg changed]
  · rw [attempted, if_pos unchanged, wellFormed.put_plain]

/-- The answer of a cache to an operation. -/
def answer (cache : Cache α) : Operation α → Answer α
  | .get now fingerprint => .found (cache.get now fingerprint).1
  | .put now fingerprint value tables => .stored (cache.put now fingerprint value tables).1
  | .putIfUnchanged now fingerprint value tables generation =>
    .stored (cache.putIfUnchanged now fingerprint value tables generation).1
  | .invalidate tables => .removed (cache.invalidate tables).1
  | .purgeExpired now => .removed (cache.purgeExpired now).1
  | .clear => .done
  | .resetStats => .done

/-- Every operation answers as in the plain cache, and leaves what the plain cache
leaves. -/
theorem WellFormed.apply_plain (wellFormed : cache.WellFormed) (operation : Operation α) :
    cache.answer operation = cache.plain.answer operation ∧
      (cache.apply operation).plain = cache.plain.apply operation := by
  cases operation with
  | get now fingerprint =>
    have same := get_plain cache now fingerprint
    exact ⟨congrArg (Answer.found ∘ Prod.fst) same.symm, congrArg Prod.snd same.symm⟩
  | put now fingerprint value tables =>
    have same := wellFormed.put_plain now fingerprint value tables
    exact ⟨congrArg (Answer.stored ∘ Prod.fst) same.symm, congrArg Prod.snd same.symm⟩
  | putIfUnchanged now fingerprint value tables generation =>
    have same := wellFormed.putIfUnchanged_plain now fingerprint value tables generation
    exact ⟨congrArg (Answer.stored ∘ Prod.fst) same.symm, congrArg Prod.snd same.symm⟩
  | invalidate tables =>
    have same := wellFormed.invalidate_plain tables
    exact ⟨congrArg (Answer.removed ∘ Prod.fst) same.symm, congrArg Prod.snd same.symm⟩
  | purgeExpired now =>
    have same := wellFormed.purgeExpired_plain now
    exact ⟨congrArg (Answer.removed ∘ Prod.fst) same.symm, congrArg Prod.snd same.symm⟩
  | clear => exact ⟨rfl, rfl⟩
  | resetStats => exact ⟨rfl, rfl⟩

/-! ## Runs -/

/-- The answers of a cache to operations one after the other, and what it is afterwards.
Before each operation the index is rearranged. -/
def serve (cache : Cache α) :
    List (Index.Rearrangement × Operation α) → List (Answer α) × Cache α
  | [] => ([], cache)
  | (order, operation) :: rest =>
    let arranged := cache.rearranged order
    let later := (arranged.apply operation).serve rest
    (arranged.answer operation :: later.1, later.2)

/-- A run answers as in the plain cache, and leaves what the plain cache leaves. -/
theorem WellFormed.serve_plain (wellFormed : cache.WellFormed)
    (steps : List (Index.Rearrangement × Operation α)) :
    (cache.serve steps).2.WellFormed ∧
      (cache.serve steps).1 = (cache.plain.serve (steps.map Prod.snd)).1 ∧
      (cache.serve steps).2.plain = (cache.plain.serve (steps.map Prod.snd)).2 := by
  induction steps generalizing cache with
  | nil => exact ⟨wellFormed, rfl, rfl⟩
  | cons first rest inductionHypothesis =>
    have arranged := wellFormed.rearranged first.1
    obtain ⟨sameAnswer, sameCache⟩ := arranged.apply_plain first.2
    obtain ⟨wellFormedAfter, sameAnswers, sameFinal⟩ := inductionHypothesis (arranged.apply first.2)
    rw [sameCache] at sameAnswers sameFinal
    exact ⟨wellFormedAfter, congrArg₂ List.cons sameAnswer sameAnswers, sameFinal⟩

/-- The indexed cache refines the plain one: a valid configuration makes a cache that, through
every sequence of operations with every clock reading and in every iteration order, answers
each operation as the plain cache does, and shows afterwards what the plain cache shows. -/
theorem serve_refines_plain {config : CacheConfig} (valid : config.validate = .ok ())
    (steps : List (Index.Rearrangement × Operation α)) (order : Index.Rearrangement) :
    ∃ created : Cache α, new? config = .ok created ∧
      let plain := (PlainCache.blank config : PlainCache α).serve (steps.map Prod.snd)
      (created.serve steps).1 = plain.1 ∧
        ((created.serve steps).2.rearranged order).Shows plain.2 := by
  obtain ⟨wellFormed, sameAnswers, sameFinal⟩ := (wellFormed_blank valid).serve_plain steps
  refine ⟨blank config, new?_of_valid valid, sameAnswers, ?_⟩
  have shows := (wellFormed.rearranged order).shows
  exact (congrArg (Shows _) sameFinal).mp shows

/-- The fingerprints under each table in reverse. -/
def Index.Rearrangement.reversed : Index.Rearrangement where
  apply index := index.map fun slot => (slot.1, slot.2.reverse)
  tables index := by
    rw [List.map_map]
    exact .refl _
  fingerprints index table := by
    induction index with
    | nil => exact .refl _
    | cons slot rest inductionHypothesis =>
      rw [List.map_cons, Index.under_cons, Index.under_cons]
      split
      · exact List.reverse_perm slot.2
      · exact inductionHypothesis

/-- An overwrite with other tables, an eviction, an expired entry and an invalidation that
names a table twice, on a cache of two entries whose index is reversed now and then. -/
theorem serve_refines_plain_small :
    CacheConfig.validate ⟨true, 2, 1, true, false⟩ = .ok () ∧
      let steps : List (Index.Rearrangement × Operation Json) :=
        [(.reversed, .put 0 ⟨"a"⟩ (.bool true) ["Users"]),
          (.reversed, .put 1 ⟨"a"⟩ (.bool true) ["users", "Orders"]),
          (.reversed, .put 2 ⟨"b"⟩ (.bool true) ["orders"]),
          (.reversed, .put 3 ⟨"c"⟩ (.bool true) ["ORDERS", "orders", "items"]),
          (.reversed, .get 900 ⟨"b"⟩),
          (.reversed, .purgeExpired 1500),
          (.reversed, .invalidate ["Orders", "ORDERS"])]
      ∃ created : Cache Json, new? ⟨true, 2, 1, true, false⟩ = .ok created ∧
        let plain := (PlainCache.blank ⟨true, 2, 1, true, false⟩).serve (steps.map Prod.snd)
        (created.serve steps).1 = plain.1 ∧
          ((created.serve steps).2.rearranged .reversed).Shows plain.2 :=
  ⟨by decide, serve_refines_plain (by decide) _ _⟩

end NeutralSql.Cache
