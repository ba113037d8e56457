import NeutralSql.Proofs.Cache.Operation

/-!
# Histories

A history goes through a run moment by moment: every operation together with the cache that
it meets. A moment may store an entry, use one, withdraw some, and let one give way to the
entry that it stores. `WellFormed.step_cases` says once what this does to the entries; how
a whole run treats an entry follows from it by induction on the operations.
-/

namespace NeutralSql.Cache

variable {α : Type}

/-- An operation and the cache that it meets. -/
structure Moment (α : Type) where
  cache : Cache α
  operation : Operation α

namespace Moment

/-- When the entry under a fingerprint was hit before it expired. -/
def hitTime? (moment : Moment α) (fingerprint : Fingerprint) : Option Nat :=
  match moment.operation with
  | .get now target =>
    if target = fingerprint ∧ moment.cache.contains now target then some now else none
  | _ => none

/-- The operation takes out what is stored under a fingerprint for some tables: it
invalidates one of the tables, finds the entry expired, or clears the cache. -/
def withdraws (moment : Moment α) (fingerprint : Fingerprint) (tables : List String) : Bool :=
  match moment.operation with
  | .get now target =>
    target = fingerprint &&
      (moment.cache.entry? fingerprint).any fun entry => entry.isExpired moment.cache.config now
  | .invalidate named => named.any fun name => tables.contains (Text.lowercase name)
  | .purgeExpired now =>
    (moment.cache.entry? fingerprint).any fun entry => entry.isExpired moment.cache.config now
  | .clear => true
  | _ => false

/-- A hit withdraws nothing. -/
theorem withdraws_of_hit {moment : Moment α} {now : Nat} {target : Fingerprint}
    (isGet : moment.operation = .get now target)
    (contained : moment.cache.contains now target = true) (fingerprint : Fingerprint)
    (tables : List String) : moment.withdraws fingerprint tables = false := by
  obtain ⟨entry, found, fresh⟩ := contains_eq_true_iff.1 contained
  by_cases same : target = fingerprint
  · subst same
    simp [withdraws, isGet, found, fresh]
  · simp [withdraws, isGet, same]

end Moment

variable [Cacheable α]

namespace Moment

/-- The cache after the operation. -/
def after (moment : Moment α) : Cache α :=
  moment.cache.apply moment.operation

/-- What an accepted store stores, and under which fingerprint. -/
def stored? (moment : Moment α) : Option (Fingerprint × Entry α) :=
  match moment.operation with
  | .put now fingerprint value tables =>
    if (moment.cache.put now fingerprint value tables).1 then
      some (fingerprint, ⟨value, normalize tables, now⟩)
    else none
  | .putIfUnchanged now fingerprint value tables generation =>
    if (moment.cache.putIfUnchanged now fingerprint value tables generation).1 then
      some (fingerprint, ⟨value, normalize tables, now⟩)
    else none
  | _ => none

/-- The fingerprint that an operation uses: one that it stores, or hits before the entry
expired. -/
def used? (moment : Moment α) : Option Fingerprint :=
  match moment.operation with
  | .get now target => if moment.cache.contains now target then some target else none
  | _ => moment.stored?.map Prod.fst

/-- The fingerprints other than its own whose entries are lost to an accepted store. -/
def evicted (moment : Moment α) : List Fingerprint :=
  match moment.stored? with
  | none => []
  | some stored =>
    (moment.cache.entries.map Prod.fst).filter fun other =>
      other ≠ stored.1 && (Cache.entry? moment.after other).isNone

end Moment

/-- The moments of a run. -/
def history (cache : Cache α) : List (Operation α) → List (Moment α)
  | [] => []
  | operation :: rest => ⟨cache, operation⟩ :: (cache.apply operation).history rest

variable {cache : Cache α} {moment : Moment α} {fingerprint : Fingerprint}

/-- A run of operations in two parts. -/
theorem run_append (cache : Cache α) (first second : List (Operation α)) :
    cache.run (first ++ second) = (cache.run first).run second :=
  List.foldl_append

/-- The history of operations in two parts. -/
theorem history_append (cache : Cache α) (first second : List (Operation α)) :
    cache.history (first ++ second) =
      cache.history first ++ (cache.run first).history second := by
  induction first generalizing cache with
  | nil => rfl
  | cons operation rest inductionHypothesis =>
    exact congrArg (List.cons _) (inductionHypothesis _)

/-- The last operation meets the cache that the others leave. -/
theorem run_concat (cache : Cache α) (operations : List (Operation α))
    (operation : Operation α) :
    cache.run (operations ++ [operation]) = Moment.after ⟨cache.run operations, operation⟩ :=
  run_append _ _ _

/-- The last operation adds the last moment. -/
theorem history_concat (cache : Cache α) (operations : List (Operation α))
    (operation : Operation α) :
    cache.history (operations ++ [operation]) =
      cache.history operations ++ [⟨cache.run operations, operation⟩] :=
  history_append _ _ _

/-! ## What a moment does -/

/-- An accepted store is an insertion, and uses its fingerprint. -/
theorem Moment.after_of_stored {stored : Fingerprint × Entry α}
    (accepted : moment.stored? = some stored) :
    moment.after =
        moment.cache.insert stored.2.storedAt stored.1 stored.2.value stored.2.tables ∧
      moment.used? = some stored.1 := by
  obtain ⟨cache, operation⟩ := moment
  cases operation with
  | put now target value tables =>
    rcases cache.put_cases now target value tables with ⟨-, refused⟩ | ⟨-, isInserted⟩
    · simp [stored?, refused] at accepted
    · obtain rfl : (target, ⟨value, normalize tables, now⟩) = stored := by
        simpa [stored?, isInserted] using accepted
      exact ⟨congrArg Prod.snd isInserted, by simp [used?, accepted]⟩
  | putIfUnchanged now target value tables generation =>
    rcases cache.putIfUnchanged_eq now target value tables generation with refused | isInserted
    · simp [stored?, refused] at accepted
    · obtain rfl : (target, ⟨value, normalize tables, now⟩) = stored := by
        simpa [stored?, isInserted] using accepted
      exact ⟨congrArg Prod.snd isInserted, by simp [used?, accepted]⟩
  | _ => simp [stored?] at accepted

/-- An accepted store puts its entry in front of those that make room for it. -/
theorem Moment.entries_after_of_stored {stored : Fingerprint × Entry α}
    (accepted : moment.stored? = some stored) :
    moment.after.entries = stored :: (moment.cache.makeRoom stored.1).entries := by
  rw [(Moment.after_of_stored accepted).1, insert_eq]

/-- A store is no hit. -/
theorem Moment.hitTime?_of_stored {stored : Fingerprint × Entry α}
    (accepted : moment.stored? = some stored) : moment.hitTime? fingerprint = none := by
  obtain ⟨cache, operation⟩ := moment
  cases operation with
  | get => simp [stored?] at accepted
  | _ => rfl

/-- What is not used is not hit. -/
theorem Moment.hitTime?_of_unused (unused : moment.used? = none) :
    moment.hitTime? fingerprint = none := by
  obtain ⟨cache, operation⟩ := moment
  cases operation with
  | get now target =>
    have missing : cache.contains now target = false := by
      simpa [used?] using unused
    simp [hitTime?, missing]
  | _ => rfl

/-- A store withdraws nothing. -/
theorem Moment.withdraws_of_stored {stored : Fingerprint × Entry α}
    (accepted : moment.stored? = some stored) (fingerprint : Fingerprint)
    (tables : List String) : moment.withdraws fingerprint tables = false := by
  obtain ⟨cache, operation⟩ := moment
  cases operation with
  | put => rfl
  | putIfUnchanged => rfl
  | _ => simp [stored?] at accepted

/-- An operation that uses nothing stores nothing. -/
theorem Moment.stored?_of_unused (unused : moment.used? = none) : moment.stored? = none := by
  obtain ⟨cache, operation⟩ := moment
  cases operation with
  | put => exact Option.map_eq_none_iff.1 unused
  | putIfUnchanged => exact Option.map_eq_none_iff.1 unused
  | _ => rfl

/-- A refused store changes nothing. -/
theorem Moment.after_put_of_refused {now : Nat} {value : α} {tables : List String}
    (refused : Moment.stored? ⟨cache, .put now fingerprint value tables⟩ = none) :
    Moment.after ⟨cache, .put now fingerprint value tables⟩ = cache := by
  rcases cache.put_cases now fingerprint value tables with ⟨-, unchanged⟩ | ⟨-, accepted⟩
  · exact congrArg Prod.snd unchanged
  · simp [stored?, accepted] at refused

/-- A refused conditional store changes nothing. -/
theorem Moment.after_putIfUnchanged_of_refused {now : Nat} {value : α} {tables : List String}
    {generation : UInt64} (refused : Moment.stored?
      ⟨cache, .putIfUnchanged now fingerprint value tables generation⟩ = none) :
    Moment.after ⟨cache, .putIfUnchanged now fingerprint value tables generation⟩ = cache := by
  rcases cache.putIfUnchanged_eq now fingerprint value tables generation with
    unchanged | accepted
  · exact congrArg Prod.snd unchanged
  · simp [stored?, accepted] at refused

/-- An operation that uses no entry keeps those that it does not withdraw. -/
theorem WellFormed.entries_after_of_unused (wellFormed : moment.cache.WellFormed)
    (unused : moment.used? = none) :
    moment.after.entries =
      moment.cache.entries.filter fun stored => !moment.withdraws stored.1 stored.2.tables := by
  have refused := Moment.stored?_of_unused unused
  obtain ⟨cache, operation⟩ := moment
  have found : ∀ {stored}, stored ∈ cache.entries → cache.entry? stored.1 = some stored.2 :=
    fun listed => wellFormed.entry?_eq_some_iff.2 listed
  have kept : cache.entries = cache.entries.filter fun _ => !false := by simp
  cases operation with
  | get now target =>
    have missing : cache.contains now target = false := by
      simpa [Moment.used?] using unused
    refine (entries_get_of_not_contains missing).trans ?_
    refine List.filter_congr fun stored listed => ?_
    by_cases same : target = stored.1
    · rw [contains, same, found listed, Option.any_some, Bool.not_eq_false'] at missing
      simp [Moment.withdraws, same, found listed, missing]
    · simp [Moment.withdraws, same, Ne.symm same]
  | put => exact (congrArg entries (Moment.after_put_of_refused refused)).trans kept
  | putIfUnchanged =>
    exact (congrArg entries (Moment.after_putIfUnchanged_of_refused refused)).trans kept
  | invalidate named =>
    refine (wellFormed.entries_invalidate named).trans (List.filter_congr fun stored _ => ?_)
    rw [Entry.isClearOf, Moment.withdraws, List.not_any_eq_all_not]
  | purgeExpired now =>
    refine (wellFormed.entries_purgeExpired now).trans (List.filter_congr fun stored listed => ?_)
    simp [Moment.withdraws, found listed]
  | clear => exact (List.filter_eq_nil_iff.2 fun _ _ => by simp [Moment.withdraws]).symm
  | resetStats => exact kept

/-- In a well-formed cache a moment stores an entry in front of those that make room for it,
or hits an entry and moves it to the front, or uses none and keeps what it does not
withdraw. -/
theorem WellFormed.step_cases (wellFormed : moment.cache.WellFormed) :
    (∃ stored, moment.stored? = some stored ∧
      moment.after.entries = stored :: (moment.cache.makeRoom stored.1).entries) ∨
    (∃ now target entry, moment.operation = .get now target ∧
      moment.cache.contains now target = true ∧ (target, entry) ∈ moment.cache.entries ∧
      moment.after = moment.cache.refreshed now target entry) ∨
    (moment.used? = none ∧ moment.stored? = none ∧
      moment.after.entries =
        moment.cache.entries.filter fun stored => !moment.withdraws stored.1 stored.2.tables) := by
  cases accepted : moment.stored? with
  | some stored => exact Or.inl ⟨stored, rfl, Moment.entries_after_of_stored accepted⟩
  | none =>
    cases used : moment.used? with
    | none => exact Or.inr (Or.inr ⟨rfl, rfl, wellFormed.entries_after_of_unused used⟩)
    | some target =>
      obtain ⟨cache, operation⟩ := moment
      cases operation with
      | get now other =>
        have isUsed : cache.contains now other = true ∧ other = target := by
          simpa [Moment.used?] using used
        obtain ⟨contained, rfl⟩ := isUsed
        obtain ⟨entry, found, fresh⟩ := contains_eq_true_iff.1 contained
        refine Or.inr (Or.inl ⟨now, other, entry, rfl, contained,
          wellFormed.entry?_eq_some_iff.1 found, ?_⟩)
        exact congrArg Prod.snd (get_of_fresh found fresh)
      | _ => simp [Moment.used?, accepted] at used

/-- A store lets no entry give way while there is room for one more, and else the one among
the others that was not used for the longest time. -/
theorem WellFormed.evicted_eq (wellFormed : moment.cache.WellFormed)
    {stored : Fingerprint × Entry α} (accepted : moment.stored? = some stored) :
    moment.evicted =
      if (without stored.1 moment.cache.entries).length < moment.cache.capacity then []
      else (without stored.1 moment.cache.entries).getLast?.toList.map Prod.fst := by
  have distinct : ((without stored.1 moment.cache.entries).map Prod.fst).Nodup :=
    wellFormed.distinct.sublist (List.filter_sublist.map Prod.fst)
  have lost : ∀ other ≠ stored.1, (Cache.entry? moment.after other).isNone ↔
      other ∉ (moment.cache.makeRoom stored.1).entries.map Prod.fst := by
    intro other differs
    rw [Option.isNone_iff_eq_none, Cache.entry?, Moment.entries_after_of_stored accepted,
      lookup_eq_none_iff_not_mem, List.map_cons, List.mem_cons, not_or, and_iff_right differs]
  have evicted : moment.evicted = ((without stored.1 moment.cache.entries).filter fun other =>
      other.1 ∉ (moment.cache.makeRoom stored.1).entries.map Prod.fst).map Prod.fst := by
    rw [Moment.evicted, accepted]
    dsimp only
    rw [List.filter_map, without, List.filter_filter]
    refine congrArg (List.map Prod.fst) (List.filter_congr fun other _ => ?_)
    by_cases same : other.1 = stored.1
    · simp [same]
    · have isLost := lost other.1 same
      rw [Bool.eq_iff_iff]
      simpa [same] using isLost
  rw [evicted, wellFormed.entries_makeRoom]
  split
  · rw [List.filter_eq_nil_iff.2, List.map_nil]
    exact fun other listed remaining =>
      of_decide_eq_true remaining (List.mem_map_of_mem listed)
  · rw [filter_not_mem_dropLast distinct]

end NeutralSql.Cache
