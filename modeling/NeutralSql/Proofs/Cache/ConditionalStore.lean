import NeutralSql.Proofs.Cache.Generation
import NeutralSql.Proofs.Cache.Operation

/-!
# Conditional stores

A conditional store comes with a generation that was read some operations earlier. Each of
these operations advances the tables that it invalidates and no others, so the sum over a
set of tables has moved by the number of their invalidations: `generation_run`. As long as
that number is below the bound of 64 bits, the store is accepted exactly where it is zero.
-/

namespace NeutralSql.Cache

variable {α : Type}

/-- Two lists name the same tables, whatever their order, repetitions and letter case. -/
def SameTables (tables others : List String) : Prop :=
  ∀ name, name ∈ tables.map Text.lowercase ↔ name ∈ others.map Text.lowercase

/-- Lists that name the same tables have one normal form. -/
theorem SameTables.normalize_eq {tables others : List String}
    (same : SameTables tables others) : normalize tables = normalize others := by
  have members : ∀ name, name ∈ normalize tables ↔ name ∈ normalize others := by
    simpa [SameTables] using same
  have permuted : (normalize tables).Perm (normalize others) :=
    (List.perm_ext_iff_of_nodup (Text.nodup_nameSet _) (Text.nodup_nameSet _)).2 members
  refine permuted.eq_of_pairwise ?_ (Text.pairwise_nameSet _) (Text.pairwise_nameSet _)
  exact fun first second _ _ before behind => absurd before (lt_asymm behind)

/-- The tables that an operation invalidates, in lower case, each as often as it is named. -/
def Operation.invalidated : Operation α → List String
  | .invalidate tables => tables.map Text.lowercase
  | _ => []

/-- An operation invalidates a table exactly if it is an invalidation that names it. -/
theorem Operation.mem_invalidated {operation : Operation α} {table : String} :
    table ∈ operation.invalidated ↔
      ∃ named, operation = .invalidate named ∧ ∃ name ∈ named, Text.lowercase name = table := by
  cases operation <;> simp [invalidated]

variable [Cacheable α]

/-- An operation advances the tables that it invalidates. -/
theorem generations_apply (cache : Cache α) (operation : Operation α) :
    (cache.apply operation).generations =
      operation.invalidated.foldl (fun generations table => generations.advance table)
        cache.generations := by
  cases operation with
  | get now fingerprint => exact generations_get cache now fingerprint
  | put now fingerprint value tables => exact generations_put cache now fingerprint value tables
  | putIfUnchanged now fingerprint value tables generation =>
    exact generations_putIfUnchanged cache now fingerprint value tables generation
  | invalidate tables => exact generations_invalidate cache tables
  | purgeExpired now => exact generations_foldl_remove cache _
  | clear => rfl
  | resetStats => rfl

/-- A run advances the tables that its operations invalidate. -/
theorem generations_run (cache : Cache α) (operations : List (Operation α)) :
    (cache.run operations).generations =
      (operations.flatMap Operation.invalidated).foldl
        (fun generations table => generations.advance table) cache.generations := by
  induction operations generalizing cache with
  | nil => rfl
  | cons first rest inductionHypothesis =>
    rw [List.flatMap_cons, List.foldl_append, ← generations_apply]
    exact inductionHypothesis _

/-- A run moves the generation of some tables by the number of their invalidations. -/
theorem generation_run (cache : Cache α) (operations : List (Operation α))
    (tables : List String) :
    (cache.run operations).generation tables =
      cache.generation tables +
        UInt64.ofNat (strikes (operations.flatMap Operation.invalidated) tables) := by
  rw [generation, generations_run]
  exact Generations.total_advanceAll _ _ (Text.nodup_nameSet _)

/-- Below the bound of 64 bits a run leaves the generation of some tables exactly if it
invalidates none of them. -/
theorem generation_run_eq_iff (cache : Cache α) {operations : List (Operation α)}
    (few : (operations.flatMap Operation.invalidated).length < 2 ^ 64) (tables : List String) :
    (cache.run operations).generation tables = cache.generation tables ↔
      ∀ named, .invalidate named ∈ operations → ∀ name ∈ named, ∀ table ∈ tables,
        Text.lowercase name ≠ Text.lowercase table := by
  have bounded : strikes (operations.flatMap Operation.invalidated) tables < 2 ^ 64 :=
    Nat.lt_of_le_of_lt (strikes_le_length _ _) few
  have unmoved : (cache.run operations).generation tables = cache.generation tables ↔
      strikes (operations.flatMap Operation.invalidated) tables = 0 := by
    rw [generation_run, UInt64.add_eq_left, ← UInt64.toNat_inj,
      UInt64.toNat_ofNat_of_lt' bounded, UInt64.toNat_zero]
  rw [unmoved, strikes, List.countP_eq_zero]
  constructor
  · intro none named listed name isNamed table isTable same
    have struck : Text.lowercase name ∈ operations.flatMap Operation.invalidated :=
      List.mem_flatMap.2 ⟨_, listed, Operation.mem_invalidated.2 ⟨named, rfl, name, isNamed, rfl⟩⟩
    exact none _ struck (decide_eq_true (mem_normalize.2 ⟨table, isTable, same.symm⟩))
  · intro untouched table struck isListed
    obtain ⟨operation, listed, invalidated⟩ := List.mem_flatMap.1 struck
    obtain ⟨named, rfl, name, isNamed, rfl⟩ := Operation.mem_invalidated.1 invalidated
    obtain ⟨other, isTable, same⟩ := mem_normalize.1 (of_decide_eq_true isListed)
    exact untouched named listed name isNamed other isTable same.symm

/-- Whatever state a cache is in and whatever happens to it after the generation of some
tables is read, a conditional store of a result worth keeping is accepted with that
generation exactly if no invalidation in between names one of the tables in any letter case.
Accepted, it stores the result under its fingerprint and its tables; refused, it leaves the
whole cache as it is. Below the bound of 64 bits the sum cannot come round. -/
theorem putIfUnchanged_iff_untouched (cache : Cache α) {operations : List (Operation α)}
    (few : (operations.flatMap Operation.invalidated).length < 2 ^ 64)
    {tables again : List String} (same : SameTables tables again) {value : α}
    (worth : Cacheable.isCacheable value = true) (now : Nat) (fingerprint : Fingerprint) :
    let later := cache.run operations
    let attempt := later.putIfUnchanged now fingerprint value again (cache.generation tables)
    (attempt.1 = true ↔
      ∀ named, .invalidate named ∈ operations → ∀ name ∈ named, ∀ table ∈ tables,
        Text.lowercase name ≠ Text.lowercase table) ∧
      (attempt.1 = true →
        entry? attempt.2 fingerprint = some ⟨value, normalize tables, now⟩ ∧
          ∀ table ∈ tables, fingerprint ∈ attempt.2.fingerprintsFor table) ∧
      (attempt.1 = false → attempt.2 = later) := by
  intro later attempt
  have sameGeneration : later.generation again = later.generation tables := by
    rw [generation, generation, same.normalize_eq]
  rcases later.putIfUnchanged_cases now fingerprint value again (cache.generation tables) with
    ⟨moved, refused⟩ | ⟨unmoved, attempted⟩
  · rw [sameGeneration] at moved
    have isRefused : attempt = (false, later) := refused
    rw [isRefused, ← generation_run_eq_iff cache few]
    exact ⟨⟨fun accepted => absurd accepted (by simp), fun unmoved => absurd unmoved moved⟩,
      fun accepted => absurd accepted (by simp), fun _ => rfl⟩
  · rw [sameGeneration] at unmoved
    have isAccepted : attempt =
        (true, later.insert now fingerprint value (normalize tables)) := by
      rcases later.put_cases now fingerprint value again with ⟨worthless, -⟩ | ⟨-, accepted⟩
      · exact absurd (worth.symm.trans worthless) (by simp)
      · rw [same.normalize_eq]
        exact attempted.trans accepted
    rw [isAccepted, ← generation_run_eq_iff cache few]
    refine ⟨⟨fun _ => unmoved, fun _ => rfl⟩, fun _ => ⟨entry?_insert _ _ _ _ _, ?_⟩,
      fun refused => absurd refused (by simp)⟩
    exact fun table listed =>
      mem_under_insert _ _ _ _ (mem_normalize.2 ⟨table, listed, rfl⟩)

/-- A store past the invalidation of another table and a clearing, and one past an
invalidation of its table in other letters. -/
theorem putIfUnchanged_iff_untouched_sample :
    let cache : Cache Json :=
      (blank ⟨true, 2, 1, false, false⟩).run
        [.put 0 ⟨"a"⟩ (.bool true) ["users"], .invalidate ["Users"]]
    let quiet : List (Operation Json) := [.invalidate ["items"], .clear, .get 3 ⟨"a"⟩]
    let loud : List (Operation Json) := [.invalidate ["items", "uSERS"]]
    let tables := ["Users", "orders"]
    let again := ["ORDERS", "users", "Users"]
    ((quiet.flatMap Operation.invalidated).length < 2 ^ 64 ∧
      (loud.flatMap Operation.invalidated).length < 2 ^ 64 ∧ SameTables tables again ∧
      Cacheable.isCacheable (Json.bool true) = true) ∧
      ((cache.run quiet).putIfUnchanged 4 ⟨"b"⟩ (.bool true) again (cache.generation tables)).1 =
        true ∧
      ((cache.run loud).putIfUnchanged 4 ⟨"b"⟩ (.bool true) again (cache.generation tables)).2 =
        cache.run loud := by
  intro cache quiet loud tables again
  have few : (quiet.flatMap Operation.invalidated).length < 2 ^ 64 := by decide
  have fewLoud : (loud.flatMap Operation.invalidated).length < 2 ^ 64 := by decide
  have same : SameTables tables again := by
    have lower : tables.map Text.lowercase = ["users", "orders"] := by decide
    have lowerAgain : again.map Text.lowercase = ["orders", "users", "users"] := by decide
    intro name
    rw [lower, lowerAgain]
    simp [or_comm]
  have worth : Cacheable.isCacheable (Json.bool true) = true := rfl
  have kept := putIfUnchanged_iff_untouched cache few same worth 4 ⟨"b"⟩
  have refused := putIfUnchanged_iff_untouched cache fewLoud same worth 4 ⟨"b"⟩
  refine ⟨⟨few, fewLoud, same, worth⟩, kept.1.2 ?_, refused.2.2 ?_⟩
  · have untouched : ∀ name ∈ ["items"], ∀ table ∈ tables,
        Text.lowercase name ≠ Text.lowercase table := by decide
    intro named listed
    obtain rfl : named = ["items"] := by simpa [quiet] using listed
    exact untouched
  · refine Bool.eq_false_iff.2 fun accepted => ?_
    exact refused.1.1 accepted ["items", "uSERS"] (by simp [loud]) "uSERS" (by simp) "Users"
      (by simp [tables]) (by decide)

end NeutralSql.Cache
