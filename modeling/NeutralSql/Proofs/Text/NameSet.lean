import Mathlib.Data.String.Basic
import NeutralSql.Text.NameSet

/-!
# Name sets are strictly sorted

`mem_nameSet` says that a name set holds the names of its list and no others;
`pairwise_nameSet` says that it is strictly sorted, so that no name occurs twice.
-/

namespace NeutralSql.Text

/-- Inserting a name adds that name and no other. -/
@[simp] theorem mem_insertName {name other : String} {names : List String} :
    other ∈ insertName name names ↔ other = name ∨ other ∈ names := by
  induction names with
  | nil => simp [insertName]
  | cons first rest inductionHypothesis =>
    rw [insertName]
    split
    · simp
    · split
      · rename_i same
        simp [same]
      · simp only [List.mem_cons, inductionHypothesis]
        exact or_left_comm

/-- Inserting a name keeps a list strictly sorted. -/
theorem pairwise_insertName (name : String) {names : List String}
    (sorted : names.Pairwise (· < ·)) : (insertName name names).Pairwise (· < ·) := by
  induction sorted with
  | nil => exact List.pairwise_singleton _ name
  | @cons first rest least sortedRest inductionHypothesis =>
    rw [insertName]
    split
    · rename_i before
      refine .cons ?_ (.cons least sortedRest)
      intro other isOther
      rcases List.mem_cons.1 isOther with rfl | isRest
      · exact before
      · exact lt_trans before (least other isRest)
    · rename_i notBefore
      split
      · exact .cons least sortedRest
      · rename_i different
        have behind : first < name := lt_of_le_of_ne (not_lt.1 notBefore) (Ne.symm different)
        refine .cons ?_ inductionHypothesis
        intro other isOther
        rcases mem_insertName.1 isOther with rfl | isRest
        · exact behind
        · exact least other isRest

/-- A name set holds exactly the names of its list. -/
@[simp] theorem mem_nameSet {name : String} {names : List String} :
    name ∈ nameSet names ↔ name ∈ names := by
  induction names with
  | nil => exact Iff.rfl
  | cons first rest inductionHypothesis =>
    rw [nameSet, List.foldr_cons, mem_insertName, List.mem_cons]
    exact or_congr_right inductionHypothesis

/-- A name set is strictly sorted. -/
theorem pairwise_nameSet (names : List String) : (nameSet names).Pairwise (· < ·) := by
  induction names with
  | nil => exact .nil
  | cons first rest inductionHypothesis => exact pairwise_insertName first inductionHypothesis

/-- No name occurs twice in a name set. -/
theorem nodup_nameSet (names : List String) : (nameSet names).Nodup :=
  (pairwise_nameSet names).imp ne_of_lt

/-- A strictly sorted list is its own name set. -/
theorem nameSet_eq_self {names : List String} (sorted : names.Pairwise (· < ·)) :
    nameSet names = names := by
  induction sorted with
  | nil => rfl
  | @cons first rest least _ inductionHypothesis =>
    rw [nameSet, List.foldr_cons]
    change insertName first (nameSet rest) = first :: rest
    rw [inductionHypothesis]
    cases rest with
    | nil => rfl
    | cons second others => rw [insertName, if_pos (least second List.mem_cons_self)]

end NeutralSql.Text
