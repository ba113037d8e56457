import Mathlib.Data.List.Basic
import NeutralSql.Cache

/-!
# The table index as a relation

An index is read as the relation between fingerprints and the tables they stand under.
Each operation is described by its effect on that relation, and each keeps an index
proper: every table occurs once, with at least one fingerprint and none of them twice.
-/

namespace NeutralSql.Cache.Index

variable {index : Index} {fingerprint other : Fingerprint} {table name : String}

/-- No table and no fingerprint under a table occurs twice, and no table stands empty. -/
structure Proper (index : Index) : Prop where
  distinct : (index.map Prod.fst).Nodup
  nonempty : ∀ slot ∈ index, slot.2 ≠ []
  single : ∀ slot ∈ index, slot.2.Nodup

/-- The empty index is proper. -/
theorem Proper.nil : Proper [] :=
  ⟨List.nodup_nil, by simp, by simp⟩

/-- A proper index has a new table with fingerprints in front of a proper index. -/
theorem proper_cons {slot : String × List Fingerprint} :
    Proper (slot :: index) ↔
      (slot.1 ∉ index.map Prod.fst ∧ slot.2 ≠ [] ∧ slot.2.Nodup) ∧ Proper index := by
  constructor
  · rintro ⟨distinct, nonempty, single⟩
    rw [List.map_cons, List.nodup_cons] at distinct
    rw [List.forall_mem_cons] at nonempty single
    exact ⟨⟨distinct.1, nonempty.1, single.1⟩, distinct.2, nonempty.2, single.2⟩
  · rintro ⟨⟨isNew, someThere, once⟩, distinct, nonempty, single⟩
    refine ⟨List.nodup_cons.2 ⟨isNew, distinct⟩, ?_, ?_⟩
    · exact List.forall_mem_cons.2 ⟨someThere, nonempty⟩
    · exact List.forall_mem_cons.2 ⟨once, single⟩

/-- The fingerprints under a table stand in the first slot of that table. -/
theorem under_cons (slot : String × List Fingerprint) (rest : Index) (name : String) :
    under (slot :: rest) name = if name = slot.1 then slot.2 else under rest name := by
  rw [under, List.lookup_cons]
  by_cases same : name = slot.1
  · simp [same]
  · simp [same, under, beq_eq_false_iff_ne.2 same]

/-- A table without a slot has no fingerprints. -/
theorem under_of_absent (absent : name ∉ index.map Prod.fst) : index.under name = [] := by
  induction index with
  | nil => rfl
  | cons slot rest inductionHypothesis =>
    rw [List.map_cons, List.mem_cons, not_or] at absent
    rw [under_cons, if_neg absent.1, inductionHypothesis absent.2]

/-- Where no table occurs twice, a slot holds all fingerprints of its table. -/
theorem under_eq_of_distinct (distinct : (index.map Prod.fst).Nodup)
    {slot : String × List Fingerprint} (listed : slot ∈ index) : index.under slot.1 = slot.2 := by
  induction index with
  | nil => exact absurd listed List.not_mem_nil
  | cons first rest inductionHypothesis =>
    rw [List.map_cons, List.nodup_cons] at distinct
    rw [under_cons]
    rcases List.mem_cons.1 listed with rfl | isRest
    · exact if_pos rfl
    · have differs : slot.1 ≠ first.1 := fun same =>
        distinct.1 (same ▸ List.mem_map_of_mem isRest)
      rw [if_neg differs, inductionHypothesis distinct.2 isRest]

/-- In a proper index a slot holds all fingerprints of its table. -/
theorem Proper.under_eq (proper : index.Proper) {slot : String × List Fingerprint}
    (listed : slot ∈ index) : index.under slot.1 = slot.2 :=
  under_eq_of_distinct proper.distinct listed

/-- In a proper index a table has fingerprints exactly if it has a slot. -/
theorem Proper.under_ne_nil_iff (proper : index.Proper) :
    index.under name ≠ [] ↔ name ∈ index.map Prod.fst := by
  constructor
  · exact fun someThere => by_contra fun absent => someThere (under_of_absent absent)
  · rw [List.mem_map]
    rintro ⟨slot, listed, rfl⟩
    rw [proper.under_eq listed]
    exact proper.nonempty slot listed

/-- The fingerprints under a table of a proper index occur once each. -/
theorem Proper.nodup_under (proper : index.Proper) (name : String) : (index.under name).Nodup := by
  by_cases present : name ∈ index.map Prod.fst
  · obtain ⟨slot, listed, rfl⟩ := List.mem_map.1 present
    rw [proper.under_eq listed]
    exact proper.single slot listed
  · rw [under_of_absent present]
    exact List.nodup_nil

/-- Registering adds one pair to the relation. -/
theorem mem_under_add :
    other ∈ (index.add fingerprint table).under name ↔
      other ∈ index.under name ∨ other = fingerprint ∧ name = table := by
  induction index with
  | nil =>
    rw [add, under_cons]
    by_cases same : name = table <;> simp [same, under]
  | cons slot rest inductionHypothesis =>
    rw [add]
    by_cases here : slot.1 = table
    · rw [if_pos here, under_cons, under_cons, here]
      by_cases same : name = table
      · simp only [same, if_true, and_true]
        split
        · rename_i present
          have isListed : fingerprint ∈ slot.2 := List.contains_iff_mem.1 present
          exact ⟨Or.inl, fun either => either.elim id fun equal => equal ▸ isListed⟩
        · rw [List.mem_cons, or_comm]
      · simp [same]
    · rw [if_neg here, under_cons, under_cons]
      by_cases same : name = slot.1
      · simp [same, here]
      · simp only [same, if_false, inductionHypothesis]

/-- Registering adds its table to the tables of an index. -/
theorem mem_tables_add :
    name ∈ (index.add fingerprint table).map Prod.fst ↔
      name ∈ index.map Prod.fst ∨ name = table := by
  induction index with
  | nil => simp [add]
  | cons slot rest inductionHypothesis =>
    rw [add]
    split
    · rename_i here
      simp only [List.map_cons, List.mem_cons, here]
      tauto
    · simp only [List.map_cons, List.mem_cons, inductionHypothesis]
      tauto

/-- Registering keeps an index proper. -/
theorem Proper.add (proper : index.Proper) (fingerprint : Fingerprint) (table : String) :
    (index.add fingerprint table).Proper := by
  induction index with
  | nil => exact ⟨by simp [Index.add], by simp [Index.add], by simp [Index.add]⟩
  | cons slot rest inductionHypothesis =>
    obtain ⟨⟨isNew, someThere, once⟩, properRest⟩ := proper_cons.1 proper
    rw [Index.add]
    split
    · rename_i here
      rw [here] at isNew
      split
      · exact proper_cons.2 ⟨⟨isNew, someThere, once⟩, properRest⟩
      · rename_i absent
        have isAbsent : fingerprint ∉ slot.2 := fun present =>
          absent (List.contains_iff_mem.2 present)
        exact proper_cons.2
          ⟨⟨isNew, List.cons_ne_nil _ _, List.nodup_cons.2 ⟨isAbsent, once⟩⟩, properRest⟩
    · rename_i elsewhere
      have stillNew : slot.1 ∉ (Index.add fingerprint table rest).map Prod.fst := by
        rw [mem_tables_add]
        exact not_or.2 ⟨isNew, elsewhere⟩
      exact proper_cons.2 ⟨⟨stillNew, someThere, once⟩, inductionHypothesis properRest⟩

/-- Taking a fingerprint out changes the first slot of the table, or the index behind
another slot. -/
theorem remove_cons (slot : String × List Fingerprint) (rest : Index) :
    remove fingerprint table (slot :: rest) =
      if slot.1 = table then
        if (slot.2.filter (· ≠ fingerprint)).isEmpty then rest
        else (table, slot.2.filter (· ≠ fingerprint)) :: rest
      else slot :: remove fingerprint table rest :=
  rfl

/-- Taking a fingerprint out takes one pair out of the relation. -/
theorem Proper.mem_under_remove (proper : index.Proper) :
    other ∈ (index.remove fingerprint table).under name ↔
      other ∈ index.under name ∧ ¬(other = fingerprint ∧ name = table) := by
  induction index with
  | nil => simp [remove, under]
  | cons slot rest inductionHypothesis =>
    obtain ⟨⟨isNew, -, -⟩, properRest⟩ := proper_cons.1 proper
    rw [remove_cons, under_cons]
    by_cases here : slot.1 = table
    · rw [if_pos here]
      rw [here] at isNew ⊢
      by_cases same : name = table
      · rw [if_pos same, same]
        split
        · rename_i emptied
          have onlyOne := List.filter_eq_nil_iff.1 (List.isEmpty_iff.1 emptied)
          rw [under_of_absent isNew]
          simp only [List.not_mem_nil, and_true, false_iff, not_and, not_not]
          intro present
          simpa using onlyOne other present
        · simp [under_cons]
      · rw [if_neg same]
        split <;> simp [under_cons, same]
    · rw [if_neg here, under_cons]
      by_cases same : name = slot.1
      · simp [same, here]
      · simp only [same, if_false, inductionHypothesis properRest]

/-- Taking a fingerprint out adds no table. -/
theorem tables_remove_subset (remains : name ∈ (index.remove fingerprint table).map Prod.fst) :
    name ∈ index.map Prod.fst := by
  induction index with
  | nil => exact remains
  | cons slot rest inductionHypothesis =>
    rw [remove_cons] at remains
    rw [List.map_cons, List.mem_cons]
    split at remains
    · rename_i here
      split at remains
      · exact Or.inr remains
      · rw [List.map_cons, List.mem_cons, ← here] at remains
        exact remains
    · rw [List.map_cons, List.mem_cons] at remains
      exact remains.imp_right inductionHypothesis

/-- Taking a fingerprint out keeps an index proper. -/
theorem Proper.remove (proper : index.Proper) (fingerprint : Fingerprint) (table : String) :
    (index.remove fingerprint table).Proper := by
  induction index with
  | nil => exact proper
  | cons slot rest inductionHypothesis =>
    obtain ⟨⟨isNew, someThere, once⟩, properRest⟩ := proper_cons.1 proper
    rw [remove_cons]
    split
    · rename_i here
      split
      · exact properRest
      · rename_i someLeft
        rw [here] at isNew
        refine proper_cons.2 ⟨⟨isNew, ?_, once.filter _⟩, properRest⟩
        exact fun emptied => someLeft (List.isEmpty_iff.2 emptied)
    · have stillNew : slot.1 ∉ (Index.remove fingerprint table rest).map Prod.fst :=
        fun remains => isNew (tables_remove_subset remains)
      exact proper_cons.2 ⟨⟨stillNew, someThere, once⟩, inductionHypothesis properRest⟩

/-- Dropping a table skips its slots. -/
theorem dropTable_cons (slot : String × List Fingerprint) (rest : Index) :
    dropTable (slot :: rest) table =
      if slot.1 = table then dropTable rest table else slot :: dropTable rest table := by
  by_cases here : slot.1 = table <;> simp [dropTable, here]

/-- Dropping a table takes out all of its pairs. -/
theorem mem_under_dropTable :
    other ∈ (index.dropTable table).under name ↔ other ∈ index.under name ∧ name ≠ table := by
  induction index with
  | nil => simp [dropTable, under]
  | cons slot rest inductionHypothesis =>
    rw [dropTable_cons, under_cons]
    by_cases here : slot.1 = table
    · rw [if_pos here, inductionHypothesis, here]
      by_cases same : name = table <;> simp [same]
    · rw [if_neg here, under_cons]
      by_cases same : name = slot.1
      · simp [same, here]
      · simp only [same, if_false, inductionHypothesis]

/-- Dropping a table keeps an index proper. -/
theorem Proper.dropTable (proper : index.Proper) (table : String) :
    (index.dropTable table).Proper where
  distinct := proper.distinct.sublist (List.filter_sublist.map Prod.fst)
  nonempty slot listed := proper.nonempty slot (List.mem_of_mem_filter listed)
  single slot listed := proper.single slot (List.mem_of_mem_filter listed)

/-- Registering under several tables adds a pair for each of them. -/
theorem mem_under_addAll {tables : List String} :
    other ∈ (index.addAll fingerprint tables).under name ↔
      other ∈ index.under name ∨ other = fingerprint ∧ name ∈ tables := by
  induction tables generalizing index with
  | nil => simp [addAll]
  | cons table rest inductionHypothesis =>
    rw [addAll, List.foldl_cons, ← addAll, inductionHypothesis, mem_under_add, List.mem_cons]
    tauto

/-- Registering under several tables keeps an index proper. -/
theorem Proper.addAll (proper : index.Proper) (fingerprint : Fingerprint) (tables : List String) :
    (index.addAll fingerprint tables).Proper := by
  induction tables generalizing index with
  | nil => exact proper
  | cons table rest inductionHypothesis => exact inductionHypothesis (proper.add fingerprint table)

/-- Taking a fingerprint out from under several tables keeps an index proper. -/
theorem Proper.removeAll (proper : index.Proper) (fingerprint : Fingerprint)
    (tables : List String) : (index.removeAll fingerprint tables).Proper := by
  induction tables generalizing index with
  | nil => exact proper
  | cons table rest inductionHypothesis =>
    exact inductionHypothesis (proper.remove fingerprint table)

/-- Taking a fingerprint out from under several tables takes out a pair for each of
them. -/
theorem Proper.mem_under_removeAll (proper : index.Proper) {tables : List String} :
    other ∈ (index.removeAll fingerprint tables).under name ↔
      other ∈ index.under name ∧ ¬(other = fingerprint ∧ name ∈ tables) := by
  induction tables generalizing index with
  | nil => simp [Index.removeAll]
  | cons table rest inductionHypothesis =>
    rw [Index.removeAll, List.foldl_cons, ← Index.removeAll,
      inductionHypothesis (proper.remove fingerprint table), proper.mem_under_remove, List.mem_cons]
    tauto

end NeutralSql.Cache.Index
