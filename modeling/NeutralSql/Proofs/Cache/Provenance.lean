import Mathlib.Data.List.Induction
import NeutralSql.Proofs.Cache.History

/-!
# Where a result comes from

Every stored entry has an origin: an accepted store that nothing after it has ended. The
entry is the one that was stored, only younger where hits renew it: `exists_origin`. A
lookup therefore answers with the value of such a store, and within its time to live unless
expired results may be handed out.
-/

namespace NeutralSql.Cache

variable {α : Type} {start cache : Cache α} {moment : Moment α}
  {operations : List (Operation α)} {fingerprint : Fingerprint}

/-- A hit that hands out an entry although it has expired. -/
def Moment.handsOutExpired (moment : Moment α) (fingerprint : Fingerprint) : Bool :=
  match moment.operation with
  | .get now target =>
    target = fingerprint && (moment.cache.get now target).1.isSome &&
      (moment.cache.entry? target).any fun entry => entry.isExpired moment.cache.config now
  | _ => false

/-- Where no entry is stored, none is handed out. -/
theorem Moment.handsOutExpired_of_absent (absent : moment.cache.entry? fingerprint = none) :
    moment.handsOutExpired fingerprint = false := by
  obtain ⟨cache, operation⟩ := moment
  cases operation with
  | get now target =>
    by_cases same : target = fingerprint
    · simp [handsOutExpired, same, absent]
    · simp [handsOutExpired, same]
  | _ => rfl

variable [Cacheable α]

/-- A moment ends nothing of what is stored under a fingerprint for some tables. -/
structure Moment.Spares (moment : Moment α) (fingerprint : Fingerprint) (tables : List String) :
    Prop where
  /-- No other result is stored under the fingerprint. -/
  notReplaced : ∀ stored, moment.stored? = some stored → stored.1 ≠ fingerprint
  /-- No table is invalidated, no lookup or purge finds the entry expired, and the cache is
  not cleared. -/
  notWithdrawn : moment.withdraws fingerprint tables = false
  /-- The entry does not give way to another one. -/
  notEvicted : fingerprint ∉ moment.evicted

/-- An accepted store under a fingerprint that nothing after it in a run has ended. -/
structure Origin (start : Cache α) (operations : List (Operation α))
    (fingerprint : Fingerprint) where
  before : List (Operation α)
  source : Operation α
  later : List (Operation α)
  entry : Entry α
  parts : operations = before ++ source :: later
  accepted : Moment.stored? ⟨start.run before, source⟩ = some (fingerprint, entry)
  spared : ∀ moment ∈ (start.run (before ++ [source])).history later,
    moment.Spares fingerprint entry.tables

/-- The time from which an entry is as old as it is: that of its store or, where hits make
entries young again, that of the latest hit after it. -/
def Origin.renewedAt (origin : Origin start operations fingerprint) : Nat :=
  let hits := ((start.run (origin.before ++ [origin.source])).history origin.later).filterMap
    fun moment => moment.hitTime? fingerprint
  if start.config.updateAgeOnGet then hits.getLast?.getD origin.entry.storedAt
  else origin.entry.storedAt

/-- What an origin has become. -/
def Origin.current (origin : Origin start operations fingerprint) : Entry α :=
  { origin.entry with storedAt := origin.renewedAt }

/-- An accepted store under a fingerprint. -/
def Moment.storesUnder (moment : Moment α) (fingerprint : Fingerprint) : Bool :=
  moment.stored?.any fun stored => stored.1 = fingerprint

/-- How many lookups hand out an entry although it has expired, before it is stored again. -/
def expiredAnswers (fingerprint : Fingerprint) (moments : List (Moment α)) : Nat :=
  (moments.takeWhile fun moment => !moment.storesUnder fingerprint).countP
    fun moment => moment.handsOutExpired fingerprint

/-! ## One moment -/

/-- An entry that is stored afterwards was not evicted. -/
theorem WellFormed.not_mem_evicted (wellFormed : moment.cache.WellFormed)
    {stored : Fingerprint × Entry α} (listed : stored ∈ moment.after.entries) :
    stored.1 ∉ moment.evicted := by
  have found : Cache.entry? moment.after stored.1 = some stored.2 :=
    (wellFormed.apply moment.operation).entry?_eq_some_iff.2 listed
  rw [Moment.evicted]
  split
  · exact List.not_mem_nil
  · simp [found]

/-- What is stored after a moment is what it stored, or was stored before and spared, and
has become younger where hits renew entries and this was one. -/
theorem WellFormed.mem_after (wellFormed : moment.cache.WellFormed) {entry : Entry α}
    (listed : (fingerprint, entry) ∈ moment.after.entries) :
    moment.stored? = some (fingerprint, entry) ∨
      ∃ earlier, (fingerprint, earlier) ∈ moment.cache.entries ∧
        moment.Spares fingerprint earlier.tables ∧
        entry = { earlier with
          storedAt :=
            if moment.cache.config.updateAgeOnGet then
              (moment.hitTime? fingerprint).getD earlier.storedAt
            else earlier.storedAt } := by
  have notEvicted : fingerprint ∉ moment.evicted := wellFormed.not_mem_evicted listed
  rcases wellFormed.step_cases with
    ⟨stored, accepted, entries⟩ | ⟨now, target, hit, isGet, contained, hitListed, isRefreshed⟩ |
    ⟨unused, notStored, entries⟩
  · rw [entries] at listed
    rcases List.mem_cons.1 listed with rfl | remains
    · exact Or.inl accepted
    · obtain ⟨wasListed, differs⟩ := wellFormed.mem_of_mem_makeRoom remains
      refine Or.inr ⟨entry, wasListed, ⟨?_, ?_, notEvicted⟩, ?_⟩
      · rintro other isStored rfl
        rw [accepted, Option.some.injEq] at isStored
        exact differs (congrArg Prod.fst isStored).symm
      · exact Moment.withdraws_of_stored accepted _ _
      · simp [Moment.hitTime?_of_stored accepted]
  · have notStored : moment.stored? = none := by
      rw [Moment.stored?, isGet]
    have notReplaced : ∀ stored, moment.stored? = some stored → stored.1 ≠ fingerprint :=
      fun stored isStored => absurd (notStored.symm.trans isStored) (by simp)
    rw [isRefreshed] at listed
    rcases List.mem_cons.1 listed with isFirst | isBehind
    · obtain ⟨rfl, rfl⟩ := Prod.mk.inj isFirst
      refine Or.inr ⟨hit, hitListed, ⟨notReplaced, ?_, notEvicted⟩, ?_⟩
      · exact Moment.withdraws_of_hit isGet contained _ _
      · simp [Moment.hitTime?, isGet, contained]
    · obtain ⟨wasListed, differs⟩ := mem_without.1 isBehind
      refine Or.inr ⟨entry, wasListed, ⟨notReplaced, ?_, notEvicted⟩, ?_⟩
      · exact Moment.withdraws_of_hit isGet contained _ _
      · simp [Moment.hitTime?, isGet, Ne.symm differs]
  · rw [entries, List.mem_filter, Bool.not_eq_true'] at listed
    refine Or.inr ⟨entry, listed.1, ⟨?_, listed.2, notEvicted⟩, ?_⟩
    · exact fun other isStored => absurd (notStored.symm.trans isStored) (by simp)
    · simp [Moment.hitTime?_of_unused unused]

/-! ## A run -/

namespace Origin

/-- A store is an origin in the run that it ends. -/
def ofStore {operation : Operation α} {entry : Entry α}
    (accepted : Moment.stored? ⟨start.run operations, operation⟩ = some (fingerprint, entry)) :
    Origin start (operations ++ [operation]) fingerprint where
  before := operations
  source := operation
  later := []
  entry := entry
  parts := rfl
  accepted := accepted
  spared _ listed := absurd listed List.not_mem_nil

/-- The operations after an origin lead to where the run leads. -/
theorem run_later (origin : Origin start operations fingerprint) :
    (start.run (origin.before ++ [origin.source])).run origin.later = start.run operations := by
  rw [← run_append, List.append_assoc, List.singleton_append, ← origin.parts]

/-- An origin is one in a longer run if the next operation spares it. -/
def extend (origin : Origin start operations fingerprint) {operation : Operation α}
    (spares : Moment.Spares ⟨start.run operations, operation⟩ fingerprint origin.entry.tables) :
    Origin start (operations ++ [operation]) fingerprint where
  before := origin.before
  source := origin.source
  later := origin.later ++ [operation]
  entry := origin.entry
  parts := (congrArg (· ++ [operation]) origin.parts).trans (List.append_assoc _ _ _)
  accepted := origin.accepted
  spared moment listed := by
    rw [history_concat, origin.run_later, List.mem_append] at listed
    rcases listed with isEarlier | isLast
    · exact origin.spared moment isEarlier
    · rw [List.mem_singleton.1 isLast]
      exact spares

/-- The next operation renews an origin by a hit, where hits make entries young again. -/
theorem renewedAt_extend (origin : Origin start operations fingerprint)
    {operation : Operation α}
    (spares : Moment.Spares ⟨start.run operations, operation⟩ fingerprint origin.entry.tables) :
    (origin.extend spares).renewedAt =
      if start.config.updateAgeOnGet then
        (Moment.hitTime? ⟨start.run operations, operation⟩ fingerprint).getD origin.renewedAt
      else origin.renewedAt := by
  have history :=
    history_concat (start.run (origin.before ++ [origin.source])) origin.later operation
  rw [origin.run_later] at history
  rw [renewedAt, renewedAt]
  simp only [extend, history, List.filterMap_append]
  cases isHit : Moment.hitTime? ⟨start.run operations, operation⟩ fingerprint with
  | none => simp [isHit]
  | some now =>
    by_cases renews : start.config.updateAgeOnGet = true <;> simp [isHit, renews]

/-- The next operation makes nothing else of what an origin has become. -/
theorem current_extend (origin : Origin start operations fingerprint) {operation : Operation α}
    (spares : Moment.Spares ⟨start.run operations, operation⟩ fingerprint origin.entry.tables) :
    (origin.extend spares).current =
      { origin.current with
        storedAt :=
          if start.config.updateAgeOnGet then
            (Moment.hitTime? ⟨start.run operations, operation⟩ fingerprint).getD
              origin.current.storedAt
          else origin.current.storedAt } := by
  rw [current, origin.renewedAt_extend spares]
  rfl

end Origin

/-- Every entry that is stored after a run from an empty cache has an origin in the run, and
is what that has become. -/
theorem WellFormed.exists_origin (wellFormed : start.WellFormed) (isEmpty : start.entries = [])
    {operations : List (Operation α)} {entry : Entry α}
    (listed : (fingerprint, entry) ∈ (start.run operations).entries) :
    ∃ origin : Origin start operations fingerprint, entry = origin.current := by
  -- The induction peels off the last operation, which meets the cache after the others.
  induction operations using List.reverseRecOn generalizing entry with
  | nil =>
    have isListed : (fingerprint, entry) ∈ start.entries := listed
    rw [isEmpty] at isListed
    exact absurd isListed List.not_mem_nil
  | append_singleton operations operation inductionHypothesis =>
    rw [run_concat] at listed
    rcases WellFormed.mem_after (wellFormed.run operations) listed with
      accepted | ⟨earlier, wasListed, spares, isEarlier⟩
    · exact ⟨.ofStore accepted, by simp [Origin.current, Origin.renewedAt, Origin.ofStore, history]⟩
    · obtain ⟨origin, rfl⟩ := inductionHypothesis wasListed
      refine ⟨origin.extend spares, ?_⟩
      simp only [config_run] at isEarlier
      exact isEarlier.trans (origin.current_extend spares).symm

/-! ## Expired results -/

/-- An entry that was absent still is, unless it is stored. -/
theorem WellFormed.absent_after (wellFormed : moment.cache.WellFormed)
    (absent : moment.cache.entry? fingerprint = none)
    (notStored : moment.storesUnder fingerprint = false) :
    Cache.entry? moment.after fingerprint = none := by
  rw [Option.eq_none_iff_forall_ne_some]
  intro entry found
  have listed : (fingerprint, entry) ∈ moment.after.entries :=
    (wellFormed.apply moment.operation).entry?_eq_some_iff.1 found
  rcases wellFormed.mem_after listed with accepted | ⟨earlier, wasListed, -, -⟩
  · simp [Moment.storesUnder, accepted] at notStored
  · rw [wellFormed.entry?_eq_some_iff.2 wasListed] at absent
    exact Option.some_ne_none earlier absent

/-- An expired entry is gone after it was handed out. -/
theorem WellFormed.absent_after_handsOutExpired (wellFormed : moment.cache.WellFormed)
    (handedOut : moment.handsOutExpired fingerprint = true) :
    Cache.entry? moment.after fingerprint = none := by
  obtain ⟨cache, operation⟩ := moment
  cases operation with
  | get now target =>
    rw [Moment.handsOutExpired, Bool.and_eq_true, Bool.and_eq_true, decide_eq_true_iff] at handedOut
    obtain ⟨⟨rfl, -⟩, expired⟩ := handedOut
    have missing : cache.contains now target = false := by
      rw [Option.any_eq_true] at expired
      obtain ⟨entry, found, isExpired⟩ := expired
      simp [contains, found, isExpired]
    have entries := entries_get_of_not_contains missing
    rw [Option.eq_none_iff_forall_ne_some]
    intro entry found
    have listed : (target, entry) ∈ (cache.get now target).2.entries :=
      (wellFormed.get now target).entry?_eq_some_iff.1 found
    rw [entries] at listed
    exact (mem_without.1 listed).2 rfl
  | _ => exact absurd handedOut Bool.false_ne_true

/-- A moment counts unless it stores the entry, which ends the count. -/
theorem expiredAnswers_cons (fingerprint : Fingerprint) (moment : Moment α)
    (rest : List (Moment α)) :
    expiredAnswers fingerprint (moment :: rest) =
      if moment.storesUnder fingerprint then 0
      else expiredAnswers fingerprint rest +
        if moment.handsOutExpired fingerprint then 1 else 0 := by
  cases stores : moment.storesUnder fingerprint with
  | true => simp [expiredAnswers, stores]
  | false => simp [expiredAnswers, stores, List.countP_cons]

/-- While an absent entry is not stored, it is not handed out. -/
theorem WellFormed.expiredAnswers_of_absent (wellFormed : cache.WellFormed)
    (absent : cache.entry? fingerprint = none) (operations : List (Operation α)) :
    expiredAnswers fingerprint (cache.history operations) = 0 := by
  induction operations generalizing cache with
  | nil => rfl
  | cons operation rest inductionHypothesis =>
    rw [history, expiredAnswers_cons, Moment.handsOutExpired_of_absent absent]
    split
    · rfl
    · rename_i notStored
      exact inductionHypothesis (wellFormed.apply operation)
        (WellFormed.absent_after wellFormed absent (Bool.eq_false_iff.2 notStored))

/-- Until it is stored again, an entry is handed out at most once after it expired. -/
theorem WellFormed.expiredAnswers_le_one (wellFormed : cache.WellFormed)
    (operations : List (Operation α)) :
    expiredAnswers fingerprint (cache.history operations) ≤ 1 := by
  induction operations generalizing cache with
  | nil => exact Nat.zero_le 1
  | cons operation rest inductionHypothesis =>
    have afterWellFormed : (cache.apply operation).WellFormed := wellFormed.apply operation
    rw [history, expiredAnswers_cons]
    split
    · exact Nat.zero_le 1
    · split
      · rename_i handedOut
        have absent : Cache.entry? (cache.apply operation) fingerprint = none :=
          WellFormed.absent_after_handsOutExpired wellFormed handedOut
        rw [afterWellFormed.expiredAnswers_of_absent absent]
      · exact inductionHypothesis afterWellFormed

/-- Every hit has a fresh origin. In every run on a cache that a valid configuration makes, a
lookup that answers answers with the value of an accepted store that nothing since then has
replaced, invalidated, cleared, evicted or found expired. Unless expired results may be handed
out, that store, or the latest hit since then where hits renew entries, is no longer ago than
the time to live. Of what an accepted store has stored, at most one lookup hands it out
expired. None of this needs the clock to run forward. -/
theorem hit_has_origin {config : CacheConfig} (valid : config.validate = .ok ()) :
    ∃ created : Cache α, new? config = .ok created ∧
      (∀ operations now fingerprint value,
        ((created.run operations).get now fingerprint).1 = some value →
          ∃ origin : Origin created operations fingerprint, origin.entry.value = value ∧
            (config.allowStale = false → now ≤ origin.renewedAt + config.ttlMicroseconds)) ∧
      ∀ before source later fingerprint entry,
        Moment.stored? ⟨created.run before, source⟩ = some (fingerprint, entry) →
          expiredAnswers fingerprint ((created.run (before ++ [source])).history later) ≤ 1 := by
  have wellFormed : (blank config : Cache α).WellFormed := wellFormed_blank valid
  refine ⟨blank config, new?_of_valid valid, ?_, ?_⟩
  · intro operations now fingerprint value hit
    obtain ⟨entry, listed, rfl⟩ := (wellFormed.run operations).stored_of_hit hit
    obtain ⟨origin, rfl⟩ := wellFormed.exists_origin rfl listed
    refine ⟨origin, rfl, fun neverStale => ?_⟩
    have config := config_run (blank config : Cache α) operations
    have contained := contains_of_hit (by rw [config]; exact neverStale) hit
    obtain ⟨found, isFound, fresh⟩ := contains_eq_true_iff.1 contained
    rw [(wellFormed.run operations).entry?_eq_some_iff.2 listed, Option.some.injEq] at isFound
    rw [← isFound, config, Entry.isExpired, decide_eq_false_iff_not, not_lt] at fresh
    exact Nat.sub_le_iff_le_add'.1 fresh
  · intro before source later fingerprint entry _
    exact (wellFormed.run _).expiredAnswers_le_one later

/-- A hit long after the store, on an entry that an earlier hit renewed, past an overwriting
and an eviction of others. -/
theorem hit_has_origin_renewed :
    let config : CacheConfig := ⟨true, 2, 1, true, false⟩
    let operations : List (Operation Json) :=
      [.put 0 ⟨"a"⟩ (.bool true) ["users"], .put 100 ⟨"a"⟩ (.string "row") ["Users", "items"],
        .put 200 ⟨"b"⟩ (.bool true) ["orders"], .get 900 ⟨"a"⟩,
        .put 1000 ⟨"c"⟩ (.bool true) ["orders"], .invalidate ["ORDERS"]]
    config.validate = .ok () ∧
      (((blank config).run operations).get 1800 ⟨"a"⟩).1 = some (.string "row") ∧
      ∃ origin : Origin (blank config) operations ⟨"a"⟩,
        origin.entry.value = .string "row" ∧ 1800 ≤ origin.renewedAt + config.ttlMicroseconds := by
  intro config operations
  have valid : config.validate = .ok () := by decide
  have shown : (((blank config).run operations).get 1800 ⟨"a"⟩).1.bind
      (fun value => match value with | .string text => some text | _ => none) = some "row" := by
    decide +kernel
  obtain ⟨value, hit, isRow⟩ := Option.bind_eq_some_iff.1 shown
  obtain rfl : value = .string "row" := by
    cases value <;> simp_all
  obtain ⟨created, isNew, provenance, -⟩ := hit_has_origin (α := Json) valid
  obtain rfl := Except.ok.inj ((new?_of_valid valid).symm.trans isNew)
  obtain ⟨origin, value, young⟩ := provenance operations 1800 ⟨"a"⟩ _ hit
  exact ⟨valid, hit, origin, value, young rfl⟩

end NeutralSql.Cache
