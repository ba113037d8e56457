/-!
# Association lists

A list of pairs whose first components are distinct is a finite map.
-/

namespace NeutralSql

variable {α β : Type} [DecidableEq α] {key : α} {value : β} {entries : List (α × β)}

/-- Where no key occurs twice, looking one up finds the value listed under it. -/
theorem lookup_eq_some_iff_mem (distinct : (entries.map Prod.fst).Nodup) :
    entries.lookup key = some value ↔ (key, value) ∈ entries := by
  induction entries with
  | nil => simp
  | cons first rest inductionHypothesis =>
    rw [List.map_cons, List.nodup_cons] at distinct
    rw [List.lookup_cons, List.mem_cons]
    by_cases same : key = first.1
    · have notBehind : (key, value) ∉ rest := fun isRest =>
        distinct.1 (same ▸ List.mem_map_of_mem isRest)
      simp only [same, beq_self_eq_true, Option.some.injEq] at notBehind ⊢
      simp [notBehind, Prod.ext_iff, eq_comm]
    · have notFirst : (key, value) ≠ first := fun equal => same (equal ▸ rfl)
      simp [beq_eq_false_iff_ne.2 same, notFirst, inductionHypothesis distinct.2]

/-- A lookup stops at the first entry if that has the key, and goes on behind it otherwise. -/
theorem lookup_cons_eq (first : α × β) :
    (first :: entries).lookup key = if key = first.1 then some first.2 else entries.lookup key := by
  rw [List.lookup_cons]
  by_cases same : key = first.1
  · rw [if_pos same, beq_iff_eq.2 same]
  · rw [if_neg same, beq_eq_false_iff_ne.2 same]

/-- What a lookup finds is listed. -/
theorem mem_of_lookup_eq_some (found : entries.lookup key = some value) :
    (key, value) ∈ entries := by
  obtain ⟨front, rest, rfl, -⟩ := List.lookup_eq_some_iff.1 found
  exact List.mem_append_right front List.mem_cons_self

/-- A lookup finds nothing where the key is not listed. -/
theorem lookup_eq_none_iff_not_mem :
    entries.lookup key = none ↔ key ∉ entries.map Prod.fst := by
  rw [List.lookup_eq_none_iff, List.mem_map]
  constructor
  · rintro differs ⟨listed, isListed, rfl⟩
    exact absurd (differs listed isListed) (by simp)
  · intro absent listed isListed
    exact bne_iff_ne.2 fun same => absent ⟨listed, isListed, same.symm⟩

end NeutralSql
