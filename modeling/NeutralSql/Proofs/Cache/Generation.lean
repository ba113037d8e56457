import NeutralSql.Proofs.Cache.Invalidation
import NeutralSql.Proofs.Text.NameSet

/-!
# Generations count invalidations

The sum of the generations of some tables is the number of times that one of them was
invalidated, as far as 64 bits can tell. Up to that bound a sum that has not moved means
that none of the tables was invalidated in between, although it is only a sum.
-/

namespace NeutralSql.Cache

namespace Generations

/-- The first slot holds its table's generation; the rest hold the others. -/
theorem get_cons (slot : String × UInt64) (rest : Generations) (table : String) :
    get (slot :: rest) table = if table = slot.1 then slot.2 else get rest table := by
  rw [get, List.lookup_cons]
  by_cases isFirst : table = slot.1
  · rw [if_pos isFirst, beq_iff_eq.2 isFirst]
    rfl
  · rw [if_neg isFirst, beq_false_of_ne isFirst]
    rfl

/-- Advancing a table adds one to its generation and leaves the others. -/
theorem get_advance (generations : Generations) (advanced table : String) :
    (generations.advance advanced).get table =
      if table = advanced then generations.get table + 1 else generations.get table := by
  induction generations with
  | nil => exact get_cons (advanced, 1) [] table
  | cons slot rest inductionHypothesis =>
    rw [advance]
    by_cases isSlot : slot.1 = advanced
    · subst isSlot
      rw [if_pos rfl, get_cons, get_cons]
      by_cases isFirst : table = slot.1
      · simp [isFirst]
      · simp [isFirst]
    · rw [if_neg isSlot, get_cons, get_cons, inductionHypothesis]
      by_cases isFirst : table = slot.1
      · subst isFirst
        simp [isSlot]
      · simp [isFirst]

/-- A sum over tables begins with the generation of the first. -/
theorem total_cons (generations : Generations) (table : String) (rest : List String) :
    generations.total (table :: rest) = generations.get table + generations.total rest := by
  have offset : ∀ (tables : List String) (start : UInt64),
      tables.foldl (fun sum name => sum + generations.get name) start =
        start + generations.total tables := by
    intro tables
    induction tables with
    | nil => exact fun start => (UInt64.add_zero start).symm
    | cons first others inductionHypothesis =>
      intro start
      rw [total, List.foldl_cons, List.foldl_cons, inductionHypothesis, inductionHypothesis,
        UInt64.zero_add, UInt64.add_assoc]
  rw [total, List.foldl_cons, offset, UInt64.zero_add]

/-- Advancing a table adds one to the sum over a set of tables that holds it. -/
theorem total_advance (generations : Generations) (advanced : String) {tables : List String}
    (distinct : tables.Nodup) :
    (generations.advance advanced).total tables =
      generations.total tables + if advanced ∈ tables then 1 else 0 := by
  induction tables with
  | nil => rfl
  | cons first rest inductionHypothesis =>
    obtain ⟨isNew, restDistinct⟩ := List.nodup_cons.1 distinct
    rw [total_cons, total_cons, get_advance, inductionHypothesis restDistinct]
    by_cases isFirst : first = advanced
    · subst isFirst
      simp only [isNew, List.mem_cons, true_or, if_true, if_false, UInt64.add_zero]
      rw [UInt64.add_assoc, UInt64.add_assoc, UInt64.add_comm 1]
    · have notFirst : advanced ≠ first := Ne.symm isFirst
      simp only [isFirst, notFirst, List.mem_cons, false_or, if_false]
      rw [UInt64.add_assoc]

/-- Advancing tables in turn adds to the sum over a set of tables the number of times that
one of the set is named. -/
theorem total_advanceAll (generations : Generations) (advanced : List String)
    {tables : List String} (distinct : tables.Nodup) :
    (advanced.foldl (fun generations table => generations.advance table) generations).total
        tables =
      generations.total tables + UInt64.ofNat (advanced.countP (· ∈ tables)) := by
  induction advanced generalizing generations with
  | nil => exact (UInt64.add_zero _).symm
  | cons first rest inductionHypothesis =>
    rw [List.foldl_cons, inductionHypothesis, total_advance generations first distinct,
      List.countP_cons, UInt64.ofNat_add, UInt64.add_assoc]
    by_cases isListed : first ∈ tables
    · simp only [isListed, decide_true, if_true, UInt64.add_comm]
      rfl
    · simp [isListed]

/-- The generations that a history of invalidated tables leads to: each sum over a set of
tables is the number of their invalidations. -/
def Count (generations : Generations) (history : List String) : Prop :=
  ∀ tables : List String, tables.Nodup →
    generations.total tables = UInt64.ofNat (history.countP (· ∈ tables))

/-- Without invalidations all generations are zero. -/
theorem Count.nil : Count [] [] := by
  intro tables distinct
  clear distinct
  induction tables with
  | nil => rfl
  | cons first rest inductionHypothesis =>
    rw [total_cons, inductionHypothesis]
    rfl

/-- Advancing tables in turn counts an invalidation for each. -/
theorem Count.advanceAll {generations : Generations} {history : List String}
    (count : generations.Count history) (tables : List String) :
    (tables.foldl (fun generations table => generations.advance table) generations).Count
      (history ++ tables) := by
  intro names distinct
  rw [total_advanceAll generations tables distinct, count names distinct, List.countP_append,
    UInt64.ofNat_add]

end Generations

/-- How many of some invalidations, of tables in lower case, took one of these tables. -/
def strikes (history tables : List String) : Nat :=
  history.countP (· ∈ normalize tables)

/-- Later invalidations add to the number. -/
theorem strikes_append (history more tables : List String) :
    strikes (history ++ more) tables = strikes history tables + strikes more tables :=
  List.countP_append

/-- There are no more of them than invalidations. -/
theorem strikes_le_length (history tables : List String) :
    strikes history tables ≤ history.length :=
  List.countP_le_length

/-- An invalidation of one of the tables counts. -/
theorem strikes_pos {history tables : List String} {table : String} (struck : table ∈ history)
    (listed : table ∈ normalize tables) : 0 < strikes history tables :=
  List.countP_pos_iff.2 ⟨table, struck, decide_eq_true listed⟩

/-- The generation of some tables is the number of their invalidations, in 64 bits. -/
theorem generation_eq_strikes {α : Type} {cache : Cache α} {history : List String}
    (count : cache.generations.Count history) (tables : List String) :
    cache.generation tables = UInt64.ofNat (strikes history tables) :=
  count _ (Text.nodup_nameSet _)

/-- Below the bound of 64 bits equal generations count equally many invalidations. -/
theorem strikes_eq_of_generation_eq {history tables : List String} {earlier : Nat}
    (few : history.length < 2 ^ 64) (isEarlier : earlier ≤ strikes history tables)
    (same : UInt64.ofNat (strikes history tables) = UInt64.ofNat earlier) :
    strikes history tables = earlier := by
  have bounded : strikes history tables < 2 ^ 64 :=
    Nat.lt_of_le_of_lt (strikes_le_length history tables) few
  have sameNumber := congrArg UInt64.toNat same
  rw [UInt64.toNat_ofNat_of_lt' bounded,
    UInt64.toNat_ofNat_of_lt' (Nat.lt_of_le_of_lt isEarlier bounded)] at sameNumber
  exact sameNumber

end NeutralSql.Cache
