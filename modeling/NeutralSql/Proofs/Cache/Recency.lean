import Mathlib.Data.Finset.Card
import Mathlib.Data.List.DropRight
import Mathlib.Data.List.Induction
import NeutralSql.Proofs.Cache.History

/-!
# No premature eviction

A cache is in order of use: in front of an entry stand only such that were used after it.
An entry at the end of a full cache therefore has as many others in front of it as have been
used since, and gives way no earlier: `Lingers` is the invariant. What only looks at a cache,
or drops an expired entry, leaves the order of the others.
-/

namespace NeutralSql.Cache

variable {α : Type} {cache : Cache α} {fingerprint : Fingerprint} {others : Finset Fingerprint}

/-- The fingerprints of a cache from the one that gives way next to the one used last. -/
def evictionOrder (cache : Cache α) : List Fingerprint :=
  (cache.entries.map Prod.fst).reverse

/-- A lookup of what the cache does not contain takes it out of the order of eviction. -/
theorem evictionOrder_get_of_not_contains {now : Nat}
    (missing : cache.contains now fingerprint = false) :
    (cache.get now fingerprint).2.evictionOrder =
      cache.evictionOrder.filter fun other => other ≠ fingerprint := by
  rw [evictionOrder, evictionOrder, entries_get_of_not_contains missing, List.filter_reverse,
    List.filter_map]
  rfl

/-- As many others as fit into the cache were used since an entry was, or the entry is stored
and only such others stand in front of it. -/
def Lingers (cache : Cache α) (fingerprint : Fingerprint) (others : Finset Fingerprint) : Prop :=
  cache.capacity ≤ others.card ∨
    ∃ newer entry older, cache.entries = newer ++ (fingerprint, entry) :: older ∧
      ∀ stored ∈ newer, stored.1 ∈ others

/-- Without a fingerprint, an entry under another one stays where it is. -/
theorem without_append_cons {other : Fingerprint} (differs : fingerprint ≠ other)
    (newer older : List (Fingerprint × Entry α)) (entry : Entry α) :
    without other (newer ++ (fingerprint, entry) :: older) =
      without other newer ++ (fingerprint, entry) :: without other older := by
  rw [without, List.filter_append, List.filter_cons_of_pos (by simpa using differs)]
  rfl

/-- An entry in front lingers. -/
theorem lingers_of_first {entry : Entry α} {older : List (Fingerprint × Entry α)}
    (entries : cache.entries = (fingerprint, entry) :: older) : cache.Lingers fingerprint others :=
  Or.inr ⟨[], entry, older, entries, fun _ listed => absurd listed List.not_mem_nil⟩

/-- Where an entry has only others in front of it that were used since, and gives way to a
new one, the others and the new one fill the cache. -/
theorem WellFormed.capacity_le_of_last (wellFormed : cache.WellFormed) {other : Fingerprint}
    {newer : List (Fingerprint × Entry α)} {entry : Entry α}
    (isLast : without other cache.entries = newer ++ [(fingerprint, entry)])
    (inFront : ∀ stored ∈ newer, stored.1 ∈ others)
    (full : cache.capacity ≤ (without other cache.entries).length) :
    cache.capacity ≤ (others ∪ {other}).card := by
  have listed : ∀ stored ∈ newer, stored ∈ without other cache.entries := by
    intro stored isNewer
    rw [isLast]
    exact List.mem_append_left _ isNewer
  have distinct : (newer.map Prod.fst).Nodup := by
    have remaining : ((without other cache.entries).map Prod.fst).Nodup :=
      wellFormed.distinct.sublist (List.filter_sublist.map Prod.fst)
    rw [isLast, List.map_append] at remaining
    exact remaining.of_append_left
  have isNew : other ∉ (newer.map Prod.fst).toFinset := by
    rw [List.mem_toFinset, List.mem_map]
    rintro ⟨stored, isNewer, rfl⟩
    exact (mem_without.1 (listed stored isNewer)).2 rfl
  have among : (newer.map Prod.fst).toFinset ∪ {other} ⊆ others ∪ {other} := by
    refine Finset.union_subset_union_left fun name isNewer => ?_
    obtain ⟨stored, isStored, rfl⟩ := List.mem_map.1 (List.mem_toFinset.1 isNewer)
    exact inFront stored isStored
  calc cache.capacity ≤ newer.length + 1 := by
        rw [isLast, List.length_append] at full
        exact full
    _ = ((newer.map Prod.fst).toFinset ∪ {other}).card := by
        rw [Finset.card_union_of_disjoint (Finset.disjoint_singleton_right.2 isNew),
          List.toFinset_card_of_nodup distinct, List.length_map, Finset.card_singleton]
    _ ≤ (others ∪ {other}).card := Finset.card_le_card among

/-- A store under another fingerprint lets an entry linger. -/
theorem WellFormed.lingers_store (wellFormed : cache.WellFormed)
    (lingers : cache.Lingers fingerprint others) {after : Cache α}
    (config : after.config = cache.config) {stored : Fingerprint × Entry α}
    (differs : fingerprint ≠ stored.1)
    (entries : after.entries = stored :: (cache.makeRoom stored.1).entries) :
    after.Lingers fingerprint (others ∪ {stored.1}) := by
  rw [Lingers, capacity, config, ← capacity]
  rcases lingers with many | ⟨newer, entry, older, listed, inFront⟩
  · exact Or.inl (many.trans (Finset.card_le_card Finset.subset_union_left))
  have remaining := without_append_cons differs newer older entry
  rw [← listed] at remaining
  have stillInFront : ∀ other ∈ without stored.1 newer, other.1 ∈ others :=
    fun other isNewer => inFront other (mem_without.1 isNewer).1
  have behindFirst : ∀ other ∈ stored :: without stored.1 newer, other.1 ∈ others ∪ {stored.1} := by
    refine List.forall_mem_cons.2 ⟨Finset.mem_union_right _ (Finset.mem_singleton_self _), ?_⟩
    exact fun other isNewer => Finset.mem_union_left _ (stillInFront other isNewer)
  rw [wellFormed.entries_makeRoom] at entries
  split at entries
  · rw [remaining] at entries
    exact Or.inr ⟨_, entry, _, entries, behindFirst⟩
  · rename_i full
    rw [not_lt] at full
    cases isOlder : without stored.1 older with
    | nil =>
      rw [isOlder] at remaining
      exact Or.inl (wellFormed.capacity_le_of_last remaining stillInFront full)
    | cons next rest =>
      rw [remaining, isOlder, List.dropLast_append_of_ne_nil (List.cons_ne_nil _ _),
        List.dropLast_cons_of_ne_nil (List.cons_ne_nil _ _)] at entries
      exact Or.inr ⟨_, entry, _, entries, behindFirst⟩

/-- A hit on another entry lets an entry linger. -/
theorem Lingers.refreshed (lingers : cache.Lingers fingerprint others) (now : Nat)
    {target : Fingerprint} (differs : fingerprint ≠ target) (hit : Entry α) :
    (cache.refreshed now target hit).Lingers fingerprint (others ∪ {target}) := by
  rcases lingers with many | ⟨newer, entry, older, listed, inFront⟩
  · exact Or.inl (many.trans (Finset.card_le_card Finset.subset_union_left))
  have entries : (cache.refreshed now target hit).entries = _ :: without target cache.entries := rfl
  rw [listed, without_append_cons differs, ← List.cons_append] at entries
  refine Or.inr ⟨_, entry, _, entries, List.forall_mem_cons.2 ⟨?_, ?_⟩⟩
  · exact Finset.mem_union_right _ (Finset.mem_singleton_self _)
  · exact fun other isNewer => Finset.mem_union_left _ (inFront other (mem_without.1 isNewer).1)

/-- Taking out others lets an entry linger. -/
theorem Lingers.filter (lingers : cache.Lingers fingerprint others) {after : Cache α}
    (config : after.config = cache.config) (keep : Fingerprint × Entry α → Bool)
    (kept : ∀ entry, (fingerprint, entry) ∈ cache.entries → keep (fingerprint, entry) = true)
    (entries : after.entries = cache.entries.filter keep) : after.Lingers fingerprint others := by
  rw [Lingers, capacity, config, ← capacity]
  rcases lingers with many | ⟨newer, entry, older, listed, inFront⟩
  · exact Or.inl many
  have isKept : keep (fingerprint, entry) = true := by
    refine kept entry ?_
    rw [listed]
    exact List.mem_append_right _ List.mem_cons_self
  rw [listed, List.filter_append, List.filter_cons_of_pos isKept] at entries
  exact Or.inr ⟨_, entry, _, entries,
    fun other isNewer => inFront other (List.mem_of_mem_filter isNewer)⟩

/-! ## Runs -/

variable [Cacheable α] {moment : Moment α}

/-- The fingerprints that were used after the last use of one. -/
def usedSince (fingerprint : Fingerprint) (moments : List (Moment α)) : Finset Fingerprint :=
  ((moments.filterMap Moment.used?).rtakeWhile fun used => used ≠ fingerprint).toFinset

/-- The next use of a fingerprint starts anew, and that of another one adds to those used
since. -/
theorem usedSince_append (fingerprint : Fingerprint) (moments : List (Moment α))
    (moment : Moment α) :
    usedSince fingerprint (moments ++ [moment]) =
      match moment.used? with
      | none => usedSince fingerprint moments
      | some used =>
        if used = fingerprint then ∅ else usedSince fingerprint moments ∪ {used} := by
  rw [usedSince, List.filterMap_append]
  cases isUsed : moment.used? with
  | none => simp [isUsed, usedSince]
  | some used =>
    rw [List.filterMap_cons_some isUsed, List.filterMap_nil, List.rtakeWhile_concat]
    by_cases same : used = fingerprint
    · simp [same]
    · simp [same, usedSince]

/-- An entry lingers through a moment that does not withdraw it. -/
theorem WellFormed.lingers_after (wellFormed : moment.cache.WellFormed)
    {moments : List (Moment α)}
    (lingers : moment.cache.Lingers fingerprint (usedSince fingerprint moments))
    (kept : moment.withdraws fingerprint
      ((moment.cache.tablesFor? fingerprint).getD []) = false) :
    moment.after.Lingers fingerprint (usedSince fingerprint (moments ++ [moment])) := by
  have config : moment.after.config = moment.cache.config := config_apply _ _
  rw [usedSince_append]
  rcases wellFormed.step_cases with
    ⟨stored, accepted, entries⟩ | ⟨now, target, hit, isGet, contained, -, isRefreshed⟩ |
    ⟨unused, -, entries⟩
  · rw [(Moment.after_of_stored accepted).2]
    dsimp only
    split
    · rename_i same
      subst same
      exact lingers_of_first entries
    · rename_i differs
      exact wellFormed.lingers_store lingers config (Ne.symm differs) entries
  · have used : moment.used? = some target := by
      simp [Moment.used?, isGet, contained]
    rw [used, isRefreshed]
    dsimp only
    split
    · rename_i same
      subst same
      exact lingers_of_first rfl
    · rename_i differs
      exact lingers.refreshed now (Ne.symm differs) hit
  · rw [unused]
    refine lingers.filter config _ (fun entry listed => ?_) entries
    rw [tablesFor?, wellFormed.entry?_eq_some_iff.2 listed, Option.map_some, Option.getD_some]
      at kept
    rw [kept, Bool.not_false]

/-- An entry lingers through a run that begins by storing it and does not withdraw it. -/
theorem WellFormed.lingers_run (wellFormed : cache.WellFormed) {before : List (Operation α)}
    {source : Operation α} {stored : Fingerprint × Entry α}
    (accepted : Moment.stored? ⟨cache.run before, source⟩ = some stored)
    (later : List (Operation α))
    (kept : ∀ moment ∈ (cache.run (before ++ [source])).history later,
      moment.withdraws stored.1 ((moment.cache.tablesFor? stored.1).getD []) = false) :
    (cache.run (before ++ [source] ++ later)).Lingers stored.1
      (usedSince stored.1 (cache.history (before ++ [source] ++ later))) := by
  -- The induction peels off the last operation, as `usedSince` looks back from the end.
  induction later using List.reverseRecOn with
  | nil =>
    rw [List.append_nil, run_concat]
    exact lingers_of_first (Moment.entries_after_of_stored accepted)
  | append_singleton later operation inductionHypothesis =>
    rw [history_concat] at kept
    have lingers := inductionHypothesis fun moment listed =>
      kept moment (List.mem_append_left _ listed)
    have isKept := kept _ (List.mem_append_right _ (List.mem_singleton_self _))
    rw [← run_append] at isKept
    rw [← List.append_assoc, run_concat, history_concat]
    exact WellFormed.lingers_after (wellFormed.run _) lingers isKept

/-! ## Who gives way -/

/-- A store over an entry evicts none. -/
theorem WellFormed.evicted_of_present (wellFormed : moment.cache.WellFormed)
    {stored : Fingerprint × Entry α} (accepted : moment.stored? = some stored)
    (present : (moment.cache.entry? stored.1).isSome = true) : moment.evicted = [] := by
  obtain ⟨entry, found⟩ := Option.isSome_iff_exists.1 present
  have fewer : (without stored.1 moment.cache.entries).length < moment.cache.entries.length :=
    List.length_filter_lt_length_iff_exists.2
      ⟨_, wellFormed.entry?_eq_some_iff.1 found, by simp⟩
  rw [wellFormed.evicted_eq accepted, if_pos (Nat.lt_of_lt_of_le fewer wellFormed.bounded)]

/-- A store of a new entry evicts none while there is room, and else the first in the order
of eviction. -/
theorem WellFormed.evicted_of_absent (wellFormed : moment.cache.WellFormed)
    {stored : Fingerprint × Entry α} (accepted : moment.stored? = some stored)
    (absent : moment.cache.entry? stored.1 = none) :
    moment.evicted =
      if moment.cache.size < moment.cache.capacity then []
      else moment.cache.evictionOrder.take 1 := by
  have unchanged := entries_remove moment.cache stored.1
  rw [Cache.remove, absent] at unchanged
  have first : moment.cache.evictionOrder.take 1 =
      moment.cache.entries.getLast?.toList.map Prod.fst := by
    rw [evictionOrder]
    cases isLast : moment.cache.entries.getLast? with
    | none => simp [List.getLast?_eq_none_iff.1 isLast]
    | some oldest =>
      obtain ⟨newer, isEntries⟩ := List.getLast?_eq_some_iff.1 isLast
      simp [isEntries]
  rw [wellFormed.evicted_eq accepted, ← unchanged, first]
  rfl

/-! ## Calls -/

/-- What can be done with a cache: an operation, or a look at it. -/
inductive Call (α : Type) where
  | change (operation : Operation α)
  | contains (now : Nat) (fingerprint : Fingerprint)
  | tablesFor (fingerprint : Fingerprint)
  | stats

/-- The operation of a call, unless it is a look. -/
def Call.operation? : Call α → Option (Operation α)
  | .change operation => some operation
  | .contains _ _ => none
  | .tablesFor _ => none
  | .stats => none

/-- The cache after a call: a look only answers. -/
def perform (cache : Cache α) : Call α → Cache α
  | .change operation => cache.apply operation
  | .contains _ _ => cache
  | .tablesFor _ => cache
  | .stats => cache

/-- The cache after calls one after the other. -/
def performAll (cache : Cache α) (calls : List (Call α)) : Cache α :=
  calls.foldl perform cache

/-- Looks are no part of a run. -/
theorem performAll_eq (cache : Cache α) (calls : List (Call α)) :
    cache.performAll calls = cache.run (calls.filterMap Call.operation?) := by
  induction calls generalizing cache with
  | nil => rfl
  | cons call rest inductionHypothesis =>
    cases call with
    | change operation => exact inductionHypothesis (cache.apply operation)
    | contains now fingerprint => exact inductionHypothesis cache
    | tablesFor fingerprint => exact inductionHypothesis cache
    | stats => exact inductionHypothesis cache

/-- Nothing is evicted early. Whatever is done with a cache that a valid configuration makes,
an entry that was stored, and was not withdrawn since, is still stored as long as fewer other
fingerprints than fit into the cache were used after its last use. At every point a store over
an entry evicts none; one of a new entry evicts the first in the order of eviction, if the
cache is full; looks leave that order, and so do lookups of expired entries for all others. -/
theorem recently_used_stays {config : CacheConfig} (valid : config.validate = .ok ()) :
    ∃ created : Cache α, new? config = .ok created ∧ ∀ calls : List (Call α),
      let cache := created.performAll calls
      (∀ before source later fingerprint entry,
        calls.filterMap Call.operation? = before ++ [source] ++ later →
        Moment.stored? ⟨created.run before, source⟩ = some (fingerprint, entry) →
        (∀ moment ∈ (created.run (before ++ [source])).history later,
          moment.withdraws fingerprint
            ((moment.cache.tablesFor? fingerprint).getD []) = false) →
        (usedSince fingerprint (created.history (before ++ [source] ++ later))).card <
          config.max.toNat →
        (cache.tablesFor? fingerprint).isSome = true) ∧
      (∀ operation stored, Moment.stored? ⟨cache, operation⟩ = some stored →
        ((cache.entry? stored.1).isSome = true → Moment.evicted ⟨cache, operation⟩ = []) ∧
        (cache.entry? stored.1 = none → Moment.evicted ⟨cache, operation⟩ =
          if cache.size < cache.capacity then [] else cache.evictionOrder.take 1)) ∧
      (∀ call : Call α, call.operation? = none →
        (cache.perform call).evictionOrder = cache.evictionOrder) ∧
      ∀ now fingerprint,
        (cache.entry? fingerprint).any (fun entry => entry.isExpired cache.config now) = true →
        (cache.get now fingerprint).2.evictionOrder =
          cache.evictionOrder.filter fun other => other ≠ fingerprint := by
  have wellFormed : (blank config : Cache α).WellFormed := wellFormed_blank valid
  refine ⟨blank config, new?_of_valid valid, fun calls => ?_⟩
  intro cache
  have cacheWellFormed : cache.WellFormed := by
    have run := wellFormed.run (calls.filterMap Call.operation?)
    rwa [← performAll_eq] at run
  refine ⟨?_, ?_, ?_, ?_⟩
  · intro before source later fingerprint entry parts accepted kept few
    have isRun : cache = (blank config).run (before ++ [source] ++ later) := by
      rw [← parts, ← performAll_eq]
    have lingers := wellFormed.lingers_run accepted later kept
    rcases lingers with many | ⟨newer, current, older, listed, -⟩
    · rw [capacity, config_run] at many
      exact absurd few (Nat.not_lt_of_le many)
    · have isStored : (fingerprint, current) ∈ cache.entries := by
        rw [isRun, listed]
        exact List.mem_append_right _ List.mem_cons_self
      rw [tablesFor?, cacheWellFormed.entry?_eq_some_iff.2 isStored]
      rfl
  · intro operation stored accepted
    exact ⟨WellFormed.evicted_of_present cacheWellFormed accepted,
      WellFormed.evicted_of_absent cacheWellFormed accepted⟩
  · intro call isLook
    cases call with
    | change operation => exact absurd isLook (Option.some_ne_none operation)
    | contains now fingerprint => rfl
    | tablesFor fingerprint => rfl
    | stats => rfl
  · intro now fingerprint expired
    refine evictionOrder_get_of_not_contains ?_
    rw [Option.any_eq_true] at expired
    obtain ⟨entry, found, isExpired⟩ := expired
    simp [contains, found, isExpired]

/-- In a cache of two entries the one that was looked up outlives the one stored after it,
past a look and an expired lookup, and is the next to give way. -/
theorem recently_used_stays_looked_up :
    let config : CacheConfig := ⟨true, 2, 1, true, false⟩
    let calls : List (Call Json) :=
      [.change (.put 0 ⟨"z"⟩ (.bool true) ["orders"]),
        .change (.put 900 ⟨"a"⟩ (.bool true) ["users"]), .change (.get 1500 ⟨"z"⟩),
        .change (.put 1600 ⟨"b"⟩ (.bool true) ["orders"]), .change (.get 1700 ⟨"a"⟩),
        .contains 1700 ⟨"b"⟩, .change (.put 1800 ⟨"c"⟩ (.bool true) ["items"])]
    let cache := (blank config).performAll calls
    config.validate = .ok () ∧ (cache.tablesFor? ⟨"a"⟩).isSome = true ∧
      Moment.evicted ⟨cache, .put 1900 ⟨"d"⟩ (.bool true) ["users"]⟩ = [⟨"a"⟩] ∧
      Moment.evicted ⟨cache, .put 1900 ⟨"a"⟩ (.bool true) ["users"]⟩ = [] ∧
      (cache.perform .stats).evictionOrder = cache.evictionOrder ∧
      (cache.get 2900 ⟨"a"⟩).2.evictionOrder =
        cache.evictionOrder.filter fun other => other ≠ ⟨"a"⟩ := by
  intro config calls cache
  have valid : config.validate = .ok () := by decide
  obtain ⟨created, isNew, always⟩ := recently_used_stays (α := Json) valid
  obtain rfl := Except.ok.inj ((new?_of_valid valid).symm.trans isNew)
  obtain ⟨stays, evicts, looks, expires⟩ := always calls
  refine ⟨valid, ?_, ?_, ?_, looks .stats rfl, expires 2900 ⟨"a"⟩ (by decide +kernel)⟩
  · exact stays [.put 0 ⟨"z"⟩ (.bool true) ["orders"]] (.put 900 ⟨"a"⟩ (.bool true) ["users"])
      [.get 1500 ⟨"z"⟩, .put 1600 ⟨"b"⟩ (.bool true) ["orders"], .get 1700 ⟨"a"⟩,
        .put 1800 ⟨"c"⟩ (.bool true) ["items"]]
      ⟨"a"⟩ ⟨.bool true, ["users"], 900⟩ rfl rfl (by decide +kernel) (by decide +kernel)
  · have evicted := (evicts (.put 1900 ⟨"d"⟩ (.bool true) ["users"])
      (⟨"d"⟩, ⟨.bool true, ["users"], 1900⟩) rfl).2 (by decide +kernel)
    exact evicted.trans (by decide +kernel)
  · exact (evicts _ (⟨"a"⟩, ⟨.bool true, ["users"], 1900⟩) rfl).1 (by decide +kernel)

end NeutralSql.Cache
