import Mathlib.Algebra.BigOperators.Group.List.Basic
import Mathlib.Data.List.DropRight
import Mathlib.Data.List.Induction
import NeutralSql.Proofs.Cache.History
import NeutralSql.Proofs.Cache.Refinement

/-!
# Accounting

The counters of a cache sum up what happened since they were reset, and its size is what all
its operations have added and taken away: an entry that was stored is still there, or has left
in exactly one of six ways. Each moment of a run keeps both, whatever the operation.
-/

namespace NeutralSql.Cache

variable {α : Type} {cache : Cache α}

/-! ## What one operation does to the size -/

/-- A lookup loses an entry that it finds expired, and no other. -/
theorem WellFormed.size_get (wellFormed : cache.WellFormed) (now : Nat)
    (fingerprint : Fingerprint) :
    (cache.get now fingerprint).2.size +
        ((cache.entry? fingerprint).any fun entry => entry.isExpired cache.config now).toNat =
      cache.size := by
  have others := wellFormed.length_without fingerprint
  cases contained : cache.contains now fingerprint with
  | false =>
    have isExpired : ((cache.entry? fingerprint).any fun entry =>
        entry.isExpired cache.config now) = (cache.entry? fingerprint).isSome := by
      rw [contains] at contained
      cases found : cache.entry? fingerprint with
      | none => rfl
      | some entry => simpa [found] using contained
    rw [isExpired, size, entries_get_of_not_contains contained]
    exact others
  | true =>
    obtain ⟨entry, found, fresh⟩ := contains_eq_true_iff.1 contained
    rw [found] at others
    rw [get_of_fresh found fresh, found, Option.any_some, fresh]
    exact others

/-- An invalidation loses as many entries as it answers. -/
theorem WellFormed.size_invalidate_snd (wellFormed : cache.WellFormed) (tables : List String) :
    (cache.invalidate tables).2.size + (cache.invalidate tables).1 = cache.size := by
  rw [Nat.add_comm, invalidate_eq]
  exact wellFormed.size_invalidate tables

/-- Purging loses as many entries as it answers. -/
theorem WellFormed.size_purgeExpired (wellFormed : cache.WellFormed) (now : Nat) :
    (cache.purgeExpired now).2.size + (cache.purgeExpired now).1 = cache.size := by
  have entries := List.length_eq_length_filter_add (l := cache.entries) fun stored =>
    stored.2.isExpired cache.config now
  rw [← wellFormed.entries_purgeExpired] at entries
  rw [Nat.add_comm]
  exact entries.symm

/-! ## What one operation does to the counters -/

/-- What a cache counts. -/
structure Counters where
  hits : Nat
  misses : Nat
  sets : Nat
  invalidations : Nat

/-- The counters of a cache. -/
def counters (cache : Cache α) : Counters :=
  ⟨cache.hits, cache.misses, cache.sets, cache.invalidations⟩

/-- Caches whose plain ones differ in entries and generations only have the same counters. -/
theorem counters_eq_of_plain {other : Cache α} {entries : List (PlainCache.Entry α)}
    {generations : String → UInt64}
    (same : cache.plain = { other.plain with entries, generations }) :
    cache.counters = other.counters :=
  congrArg (fun plain : PlainCache α =>
    (⟨plain.hits, plain.misses, plain.sets, plain.invalidations⟩ : Counters)) same

/-- A lookup is a hit or a miss by its answer. -/
theorem counters_get (cache : Cache α) (now : Nat) (fingerprint : Fingerprint) :
    (cache.get now fingerprint).2.counters =
      if (cache.get now fingerprint).1.isSome then
        { cache.counters with hits := cache.hits + 1 }
      else { cache.counters with misses := cache.misses + 1 } := by
  have removed : (cache.remove fingerprint).counters = cache.counters :=
    counters_eq_of_plain (plain_remove cache fingerprint)
  rcases cache.get_cases now fingerprint with
    ⟨-, miss⟩ | ⟨entry, -, -, expired⟩ | ⟨entry, -, -, hit⟩
  · rw [miss]
    rfl
  · rw [expired]
    split
    · exact congrArg (fun counters : Counters =>
        { counters with hits := counters.hits + 1 }) removed
    · exact congrArg (fun counters : Counters =>
        { counters with misses := counters.misses + 1 }) removed
  · rw [hit]
    rfl

/-- An insertion is a set. -/
theorem WellFormed.counters_insert (wellFormed : cache.WellFormed) (now : Nat)
    (fingerprint : Fingerprint) (value : α) (tables : List String) :
    (cache.insert now fingerprint value tables).counters =
      { cache.counters with sets := cache.sets + 1 } :=
  congrArg (fun counters : Counters => { counters with sets := counters.sets + 1 })
    (counters_eq_of_plain (wellFormed.plain_makeRoom fingerprint))

/-- An invalidation adds what it answers. -/
theorem counters_invalidate (cache : Cache α) (tables : List String) :
    (cache.invalidate tables).2.counters =
      { cache.counters with
        invalidations := cache.invalidations + (cache.invalidate tables).1 } := by
  rw [invalidate_eq]
  exact congrArg (fun counters : Counters =>
    { counters with invalidations := counters.invalidations + (cache.invalidate tables).1 })
    (counters_eq_of_plain (plain_invalidateEach cache tables))

/-- Purging is not counted. -/
theorem counters_purgeExpired (cache : Cache α) (now : Nat) :
    (cache.purgeExpired now).2.counters = cache.counters :=
  counters_eq_of_plain (plain_foldl_remove cache _)

/-! ## Amounts -/

namespace Moment

/-- The operation sets the counters to zero. -/
def resets (moment : Moment α) : Bool :=
  match moment.operation with
  | .resetStats => true
  | _ => false

/-- One for a lookup. -/
def lookups (moment : Moment α) : Nat :=
  match moment.operation with
  | .get _ _ => 1
  | _ => 0

/-- One for a lookup that hands out a value. -/
def answered (moment : Moment α) : Nat :=
  match moment.operation with
  | .get now fingerprint => if (moment.cache.get now fingerprint).1.isSome then 1 else 0
  | _ => 0

/-- One for a lookup that hands out nothing. -/
def unanswered (moment : Moment α) : Nat :=
  match moment.operation with
  | .get now fingerprint => if (moment.cache.get now fingerprint).1.isSome then 0 else 1
  | _ => 0

/-- The number that an invalidation answers. -/
def invalidated (moment : Moment α) : Nat :=
  match moment.operation with
  | .invalidate tables => (moment.cache.invalidate tables).1
  | _ => 0

/-- The number that purging answers. -/
def purged (moment : Moment α) : Nat :=
  match moment.operation with
  | .purgeExpired now => (moment.cache.purgeExpired now).1
  | _ => 0

/-- One for a lookup that finds its entry expired. -/
def foundExpired (moment : Moment α) : Nat :=
  match moment.operation with
  | .get now fingerprint =>
    ((moment.cache.entry? fingerprint).any fun entry =>
      entry.isExpired moment.cache.config now).toNat
  | _ => 0

/-- The number of entries that clearing the cache drops. -/
def cleared (moment : Moment α) : Nat :=
  match moment.operation with
  | .clear => moment.cache.size
  | _ => 0

/-- An operation looks up at most once. -/
theorem lookups_le_one (moment : Moment α) : moment.lookups ≤ 1 := by
  obtain ⟨cache, operation⟩ := moment
  cases operation with
  | get => exact Nat.le_refl 1
  | _ => exact Nat.zero_le 1

/-- Every lookup is answered or not. -/
theorem answered_add_unanswered (moment : Moment α) :
    moment.answered + moment.unanswered = moment.lookups := by
  obtain ⟨cache, operation⟩ := moment
  cases operation with
  | get now fingerprint =>
    simp only [answered, unanswered]
    split <;> rfl
  | _ => rfl

end Moment

/-- The sum of an amount over moments. -/
def total (amount : Moment α → Nat) (moments : List (Moment α)) : Nat :=
  (moments.map amount).sum

/-- The last moment adds its amount. -/
@[simp] theorem total_concat (amount : Moment α → Nat) (moments : List (Moment α))
    (moment : Moment α) :
    total amount (moments ++ [moment]) = total amount moments + amount moment := by
  simp [total]

/-- The moments after the last one that set the counters to zero. -/
def sinceReset (moments : List (Moment α)) : List (Moment α) :=
  moments.rtakeWhile fun moment => !moment.resets

/-! ## What one moment adds and takes away -/

variable [Cacheable α] {moment : Moment α} {moments : List (Moment α)}

namespace Moment

/-- One for a store that is accepted. -/
def accepted (moment : Moment α) : Nat :=
  moment.stored?.isSome.toNat

/-- One for an accepted store under a fingerprint that has an entry. -/
def overwritten (moment : Moment α) : Nat :=
  match moment.stored? with
  | none => 0
  | some stored => (moment.cache.entry? stored.1).isSome.toNat

/-- The counters after a moment that does not set them to zero. -/
def counted (moment : Moment α) : Counters where
  hits := moment.cache.hits + moment.answered
  misses := moment.cache.misses + moment.unanswered
  sets := moment.cache.sets + moment.accepted
  invalidations := moment.cache.invalidations + moment.invalidated

/-- The number of entries that leave the cache. -/
def lost (moment : Moment α) : Nat :=
  moment.overwritten + moment.evicted.length + moment.invalidated + moment.purged +
    moment.foundExpired + moment.cleared

end Moment

/-- A store lets at most one entry give way, and only if it is accepted. -/
theorem WellFormed.length_evicted_le (wellFormed : moment.cache.WellFormed) :
    moment.evicted.length ≤ moment.accepted := by
  cases accepted : moment.stored? with
  | none => simp [Moment.evicted, accepted]
  | some stored =>
    rw [wellFormed.evicted_eq accepted, Moment.accepted, accepted]
    split
    · exact Nat.zero_le _
    · rw [List.length_map]
      cases (without stored.1 moment.cache.entries).getLast? <;> simp

/-- An accepted store adds one entry, less the one that it replaces and the one that gives
way. -/
theorem WellFormed.size_after_of_stored (wellFormed : moment.cache.WellFormed)
    {stored : Fingerprint × Entry α} (accepted : moment.stored? = some stored) :
    moment.after.size + (moment.overwritten + moment.evicted.length) =
      moment.cache.size + moment.accepted := by
  have others := wellFormed.length_without stored.1
  have evicted := wellFormed.evicted_eq accepted
  have positive : 0 < moment.cache.capacity := wellFormed.positive
  rw [Moment.accepted, Moment.overwritten, accepted, size, Moment.entries_after_of_stored accepted,
    List.length_cons, wellFormed.entries_makeRoom]
  simp only [Option.isSome_some, Bool.toNat_true]
  split
  · rename_i isRoom
    rw [if_pos isRoom] at evicted
    rw [evicted, List.length_nil]
    omega
  · rename_i full
    rw [if_neg full] at evicted
    have nonempty : without stored.1 moment.cache.entries ≠ [] := by
      intro isEmpty
      rw [isEmpty] at full
      exact full positive
    have one : moment.evicted.length = 1 := by
      rw [evicted, List.getLast?_eq_some_getLast nonempty]
      rfl
    rw [one, List.length_dropLast]
    have atLeastOne := List.length_pos_iff.2 nonempty
    omega

/-- An accepted store is nothing else that counts. -/
theorem Moment.amounts_of_stored {stored : Fingerprint × Entry α}
    (accepted : moment.stored? = some stored) :
    moment.answered = 0 ∧ moment.unanswered = 0 ∧ moment.invalidated = 0 ∧
      moment.lost = moment.overwritten + moment.evicted.length := by
  obtain ⟨cache, operation⟩ := moment
  cases operation with
  | put => exact ⟨rfl, rfl, rfl, rfl⟩
  | putIfUnchanged => exact ⟨rfl, rfl, rfl, rfl⟩
  | _ => simp [stored?] at accepted

/-- A moment without an accepted store overwrites nothing, and lets nothing give way. -/
theorem Moment.amounts_of_not_stored (refused : moment.stored? = none) :
    moment.accepted = 0 ∧
      moment.lost =
        moment.invalidated + moment.purged + moment.foundExpired + moment.cleared := by
  simp [accepted, lost, overwritten, evicted, refused]

/-- In every moment, what the cache holds afterwards and what it loses are what it held and
what it takes in. -/
theorem WellFormed.size_after (wellFormed : moment.cache.WellFormed) :
    moment.after.size + moment.lost = moment.cache.size + moment.accepted := by
  -- Both kinds of stores are the same once accepted, and do nothing if refused.
  cases stores : moment.stored? with
  | some stored =>
    obtain ⟨-, -, -, lost⟩ := Moment.amounts_of_stored stores
    rw [lost]
    exact wellFormed.size_after_of_stored stores
  | none =>
    obtain ⟨accepted, lost⟩ := Moment.amounts_of_not_stored stores
    rw [accepted, lost]
    obtain ⟨cache, operation⟩ := moment
    cases operation with
    | get now fingerprint =>
      simp only [Moment.invalidated, Moment.purged, Moment.cleared, Nat.zero_add, Nat.add_zero]
      exact wellFormed.size_get now fingerprint
    | put => exact congrArg size (Moment.after_put_of_refused stores)
    | putIfUnchanged => exact congrArg size (Moment.after_putIfUnchanged_of_refused stores)
    | invalidate tables => exact wellFormed.size_invalidate_snd tables
    | purgeExpired now =>
      simp only [Moment.invalidated, Nat.zero_add]
      exact wellFormed.size_purgeExpired now
    | clear =>
      simp only [Moment.invalidated, Moment.purged, Moment.foundExpired, Nat.zero_add]
      exact Nat.zero_add _
    | resetStats => rfl

/-- Every moment but a reset adds to the counters: a lookup is a hit or a miss by its answer,
an accepted store is a set, and an invalidation adds what it answers. -/
theorem WellFormed.counters_after (wellFormed : moment.cache.WellFormed)
    (counts : moment.resets = false) : moment.after.counters = moment.counted := by
  cases stores : moment.stored? with
  | some stored =>
    obtain ⟨answered, unanswered, invalidated, -⟩ := Moment.amounts_of_stored stores
    rw [(Moment.after_of_stored stores).1, wellFormed.counters_insert, Moment.counted, answered,
      unanswered, invalidated, Moment.accepted, stores]
    rfl
  | none =>
    obtain ⟨accepted, -⟩ := Moment.amounts_of_not_stored stores
    rw [Moment.counted, accepted]
    obtain ⟨cache, operation⟩ := moment
    cases operation with
    | get now fingerprint =>
      refine (counters_get cache now fingerprint).trans ?_
      simp only [Moment.answered, Moment.unanswered]
      split <;> rfl
    | put => exact congrArg counters (Moment.after_put_of_refused stores)
    | putIfUnchanged => exact congrArg counters (Moment.after_putIfUnchanged_of_refused stores)
    | invalidate tables => exact counters_invalidate cache tables
    | purgeExpired now => exact counters_purgeExpired cache now
    | clear => rfl
    | resetStats => exact absurd counts (by simp [Moment.resets])

/-! ## Runs -/

/-- The counters of a cache tell what happened in some moments. -/
structure Counts (cache : Cache α) (moments : List (Moment α)) : Prop where
  /-- Every lookup is a hit or a miss. -/
  lookups : cache.stats.hits + cache.stats.misses = total Moment.lookups moments
  /-- The hits are the lookups that hand out a value. -/
  hits : cache.stats.hits = total Moment.answered moments
  /-- The sets are the accepted stores. -/
  sets : cache.stats.sets = total Moment.accepted moments
  /-- The invalidations are what invalidations answer. -/
  invalidations : cache.stats.invalidations = total Moment.invalidated moments

/-- The size of a cache is what some moments have left of what they stored. -/
structure Balances (cache : Cache α) (moments : List (Moment α)) : Prop where
  /-- Every entry that was stored is still there, or has left in one of six ways: it was
  overwritten, gave way, was invalidated, was purged, was found expired, or was cleared. -/
  size : cache.stats.size + (total Moment.overwritten moments +
      total (fun moment => moment.evicted.length) moments + total Moment.invalidated moments +
      total Moment.purged moments + total Moment.foundExpired moments +
      total Moment.cleared moments) = total Moment.accepted moments
  /-- Only an accepted store lets an entry give way, and no more than one. -/
  evicted : ∀ moment ∈ moments, moment.evicted.length ≤ moment.accepted

/-- The counters tell of one more moment, unless it sets them to zero. -/
theorem Counts.after (counts : moment.cache.Counts moments)
    (wellFormed : moment.cache.WellFormed) (goesOn : moment.resets = false) :
    moment.after.Counts (moments ++ [moment]) := by
  obtain ⟨hits, misses, sets, invalidations⟩ :=
    Counters.mk.inj (wellFormed.counters_after goesOn)
  refine ⟨?_, ?_, ?_, ?_⟩
  · rw [total_concat, ← counts.lookups, ← moment.answered_add_unanswered]
    exact (congrArg₂ (· + ·) hits misses).trans (Nat.add_add_add_comm _ _ _ _)
  · rw [total_concat, ← counts.hits]
    exact hits
  · rw [total_concat, ← counts.sets]
    exact sets
  · rw [total_concat, ← counts.invalidations]
    exact invalidations

/-- After a reset the counters tell of nothing. -/
theorem counts_of_resets (resets : moment.resets = true) : moment.after.Counts [] := by
  obtain ⟨cache, operation⟩ := moment
  cases operation with
  | resetStats => exact ⟨rfl, rfl, rfl, rfl⟩
  | _ => exact absurd resets (by simp [Moment.resets])

/-- The size balances after one more moment. -/
theorem Balances.after (balances : moment.cache.Balances moments)
    (wellFormed : moment.cache.WellFormed) : moment.after.Balances (moments ++ [moment]) where
  size := by
    have step := wellFormed.size_after
    have before := balances.size
    change moment.cache.size + _ = _ at before
    change moment.after.size + _ = _
    rw [Moment.lost] at step
    simp only [total_concat]
    omega
  evicted := by
    refine List.forall_mem_append.2 ⟨balances.evicted, ?_⟩
    exact List.forall_mem_singleton.2 wellFormed.length_evicted_le

/-- A run keeps the counters and the balance. -/
theorem WellFormed.accounts_run (wellFormed : cache.WellFormed) (counts : cache.Counts [])
    (balances : cache.Balances []) (operations : List (Operation α)) :
    (cache.run operations).Counts (sinceReset (cache.history operations)) ∧
      (cache.run operations).Balances (cache.history operations) := by
  -- The induction peels off the last operation, as `sinceReset` looks back from the end.
  induction operations using List.reverseRecOn with
  | nil => exact ⟨counts, balances⟩
  | append_singleton earlier operation inductionHypothesis =>
    obtain ⟨counts, balances⟩ := inductionHypothesis
    have met := wellFormed.run earlier
    rw [run_concat, history_concat, sinceReset, List.rtakeWhile_concat, ← sinceReset]
    refine ⟨?_, balances.after met⟩
    split
    · rename_i goesOn
      exact counts.after met (by simpa using goesOn)
    · rename_i resets
      exact counts_of_resets (by simpa using resets)

/-- The books of a cache are right. After every run on a cache that a valid configuration
makes, its counters tell what happened since they were last set to zero, or since it was
created, and its size is the number of accepted stores over the whole run without the entries
that left, each of them once and in one of six ways. -/
theorem stats_account_for_history {config : CacheConfig} (valid : config.validate = .ok ()) :
    ∃ created : Cache α, new? config = .ok created ∧ ∀ operations : List (Operation α),
      let moments := created.history operations
      (created.run operations).Counts (sinceReset moments) ∧
        (created.run operations).Balances moments :=
  ⟨blank config, new?_of_valid valid, (wellFormed_blank valid).accounts_run ⟨rfl, rfl, rfl, rfl⟩
    ⟨rfl, fun _ listed => absurd listed List.not_mem_nil⟩⟩

/-- Entries that leave a cache of two in all six ways, and counters that are set to zero in
between. -/
theorem stats_account_for_history_small :
    let config : CacheConfig := ⟨true, 2, 1, false, true⟩
    let operations : List (Operation Json) :=
      [.put 0 ⟨"a"⟩ (.bool true) ["users"], .put 10 ⟨"a"⟩ (.bool true) ["users", "items"],
        .put 20 ⟨"b"⟩ (.bool true) ["orders"], .get 25 ⟨"d"⟩,
        .put 30 ⟨"c"⟩ (.bool true) ["Orders"], .resetStats, .put 40 ⟨"d"⟩ (.bool false) [],
        .get 1025 ⟨"b"⟩, .invalidate ["ORDERS", "orders"], .put 1100 ⟨"d"⟩ (.bool true) [],
        .purgeExpired 3000, .put 3100 ⟨"e"⟩ (.bool true) [], .clear, .get 3200 ⟨"e"⟩,
        .put 3300 ⟨"f"⟩ (.bool true) []]
    let final := (blank config).run operations
    let moments := (blank config).history operations
    config.validate = .ok () ∧ final.Counts (sinceReset moments) ∧ final.Balances moments ∧
      final.stats.size = 1 ∧ total Moment.accepted moments = 7 ∧
      total Moment.overwritten moments = 1 ∧
      total (fun moment => moment.evicted.length) moments = 1 ∧
      total Moment.invalidated moments = 1 ∧ total Moment.purged moments = 1 ∧
      total Moment.foundExpired moments = 1 ∧ total Moment.cleared moments = 1 := by
  intro config operations final moments
  have valid : config.validate = .ok () := by decide
  obtain ⟨created, isNew, accounts⟩ := stats_account_for_history (α := Json) valid
  obtain rfl := Except.ok.inj ((new?_of_valid valid).symm.trans isNew)
  obtain ⟨counts, balances⟩ := accounts operations
  refine ⟨valid, counts, balances, ?_⟩
  decide +kernel

/-! ## The range of the counters -/

/-- The counters of a cache are within a bound. An entry that is still there counts, as it may be
invalidated later. -/
structure CountsWithin (cache : Cache α) (bound : Nat) : Prop where
  lookups : cache.hits + cache.misses ≤ bound
  sets : cache.sets ≤ bound
  invalidations : cache.invalidations + cache.size ≤ bound

/-- One operation looks up at most once, stores at most once, and invalidates only what was
there. -/
theorem CountsWithin.after {bound : Nat} (within : moment.cache.CountsWithin bound)
    (wellFormed : moment.cache.WellFormed) : moment.after.CountsWithin (bound + 1) := by
  obtain ⟨lookupsWithin, setsWithin, invalidationsWithin⟩ := within
  have size := wellFormed.size_after
  have stored : moment.accepted ≤ 1 := Bool.toNat_le _
  cases resets : moment.resets with
  | true =>
    have counts := counts_of_resets resets
    have noLookups : moment.after.hits + moment.after.misses = 0 := counts.lookups
    have noSets : moment.after.sets = 0 := counts.sets
    have noInvalidations : moment.after.invalidations = 0 := counts.invalidations
    constructor <;> omega
  | false =>
    obtain ⟨hits, misses, sets, invalidations⟩ :=
      Counters.mk.inj (wellFormed.counters_after resets)
    have lookups := moment.answered_add_unanswered
    have atMostOne := moment.lookups_le_one
    rw [Moment.lost] at size
    constructor <;> omega

/-- The bound grows by one with every operation of a run. -/
theorem CountsWithin.run {bound : Nat} (within : cache.CountsWithin bound)
    (wellFormed : cache.WellFormed) (operations : List (Operation α)) :
    (cache.run operations).CountsWithin (bound + operations.length) := by
  induction operations using List.reverseRecOn with
  | nil => exact within
  | append_singleton earlier operation inductionHypothesis =>
    rw [run_concat, List.length_append, List.length_singleton, ← Nat.add_assoc]
    exact inductionHypothesis.after (wellFormed.run earlier)

/-- The counts of a summary are numbers of 64 bits. -/
structure CountsFit (stats : CacheStats) : Prop where
  total : stats.total < 2 ^ 64
  hits : stats.hits < 2 ^ 64
  misses : stats.misses < 2 ^ 64
  sets : stats.sets < 2 ^ 64
  invalidations : stats.invalidations < 2 ^ 64
  size : stats.size < 2 ^ 64
  maxSize : stats.maxSize < 2 ^ 64

/-- Counting with 64 bits is enough: no run of fewer than `2 ^ 64` operations on a cache that a
valid configuration makes takes a number of its summary beyond them. -/
theorem countsFit_run {config : CacheConfig} (valid : config.validate = .ok ())
    {operations : List (Operation α)} (few : operations.length < 2 ^ 64) :
    CountsFit ((blank config : Cache α).run operations).stats := by
  have wellFormed : (blank config : Cache α).WellFormed := wellFormed_blank valid
  have atFirst : (blank config : Cache α).CountsWithin 0 :=
    ⟨Nat.le_refl 0, Nat.le_refl 0, Nat.le_refl 0⟩
  have within := atFirst.run wellFormed operations
  rw [Nat.zero_add] at within
  have bounded := (wellFormed.run operations).bounded
  have lookups := Nat.lt_of_le_of_lt within.lookups few
  have invalidations := Nat.lt_of_le_of_lt within.invalidations few
  have maxSize := ((blank config : Cache α).run operations).config.max.toNat_lt
  exact {
    total := lookups
    hits := Nat.lt_of_le_of_lt (Nat.le_add_right _ _) lookups
    misses := Nat.lt_of_le_of_lt (Nat.le_add_left _ _) lookups
    sets := Nat.lt_of_le_of_lt within.sets few
    invalidations := Nat.lt_of_le_of_lt (Nat.le_add_right _ _) invalidations
    size := Nat.lt_of_le_of_lt bounded maxSize
    maxSize := maxSize }

end NeutralSql.Cache
