import Mathlib.Data.String.Basic
import NeutralSql.Json

/-!
# Canonical values

In a canonical value the members of every object are strictly sorted by key. Putting a value
into canonical form a second time changes nothing: `canonical_canonical`.
-/

namespace NeutralSql.Json

/-! ## Sorted members -/

/-- The keys of members are strictly sorted. -/
def KeysSorted (members : List (String × Json)) : Prop :=
  members.Pairwise fun first second => first.1 < second.1

section Members

variable {key : String} {value : Json} {members : List (String × Json)}

/-- Inserting a member adds no other one. -/
theorem mem_of_mem_insertMember {entry : String × Json}
    (listed : entry ∈ insertMember key value members) :
    entry = (key, value) ∨ entry ∈ members := by
  induction members with
  | nil => exact .inl (List.mem_singleton.1 listed)
  | cons first rest inductionHypothesis =>
    rw [insertMember] at listed
    split at listed
    · exact List.mem_cons.1 listed
    · split at listed
      · exact (List.mem_cons.1 listed).imp_right (List.mem_cons_of_mem first)
      · rcases List.mem_cons.1 listed with rfl | isRest
        · exact .inr List.mem_cons_self
        · exact (inductionHypothesis isRest).imp_right (List.mem_cons_of_mem first)

/-- Inserting a member keeps the keys sorted. -/
theorem KeysSorted.insertMember (sorted : KeysSorted members) (key : String) (value : Json) :
    KeysSorted (insertMember key value members) := by
  induction sorted with
  | nil => exact List.pairwise_singleton _ _
  | @cons first rest least sortedRest inductionHypothesis =>
    rw [Json.insertMember]
    split
    · rename_i before
      refine .cons (List.forall_mem_cons.2 ⟨before, fun entry listed => ?_⟩)
        (.cons least sortedRest)
      exact before.trans (least entry listed)
    · rename_i notBefore
      split
      · rename_i same
        exact .cons (same ▸ least) sortedRest
      · rename_i different
        refine .cons (fun entry listed => ?_) inductionHypothesis
        rcases mem_of_mem_insertMember listed with rfl | isRest
        · exact lt_of_le_of_ne (not_lt.1 notBefore) (Ne.symm different)
        · exact least entry isRest

/-- A member whose key comes last is appended. -/
theorem insertMember_eq_append (last : ∀ entry ∈ members, entry.1 < key) :
    insertMember key value members = members ++ [(key, value)] := by
  induction members with
  | nil => rfl
  | cons first rest inductionHypothesis =>
    obtain ⟨before, last⟩ := List.forall_mem_cons.1 last
    rw [insertMember, if_neg before.asymm, if_neg before.ne', inductionHypothesis last]
    rfl

/-- Sorting adds no member. -/
theorem mem_of_mem_sortMembers {entry : String × Json} (listed : entry ∈ sortMembers members) :
    entry ∈ members := by
  have folded : ∀ sorted, entry ∈ members.foldl
      (fun sorted entry => insertMember entry.1 entry.2 sorted) sorted →
        entry ∈ sorted ∨ entry ∈ members := by
    clear listed
    induction members with
    | nil => exact fun _ => .inl
    | cons first rest inductionHypothesis =>
      intro sorted listed
      rcases inductionHypothesis _ listed with isInserted | isRest
      · rcases mem_of_mem_insertMember isInserted with rfl | isSorted
        · exact .inr List.mem_cons_self
        · exact .inl isSorted
      · exact .inr (List.mem_cons_of_mem first isRest)
  exact (folded [] listed).resolve_left List.not_mem_nil

/-- Sorted members have sorted keys. -/
theorem keysSorted_sortMembers (members : List (String × Json)) :
    KeysSorted (sortMembers members) := by
  have folded : ∀ sorted, KeysSorted sorted →
      KeysSorted
        (members.foldl (fun sorted entry => insertMember entry.1 entry.2 sorted) sorted) := by
    induction members with
    | nil => exact fun _ => id
    | cons first rest inductionHypothesis =>
      exact fun _ sorted => inductionHypothesis _ (sorted.insertMember first.1 first.2)
  exact folded [] .nil

/-- Members with sorted keys stay as they are. -/
theorem sortMembers_eq_self (sorted : KeysSorted members) : sortMembers members = members := by
  have folded : ∀ front, KeysSorted (front ++ members) →
      members.foldl (fun sorted entry => insertMember entry.1 entry.2 sorted) front =
        front ++ members := by
    clear sorted
    induction members with
    | nil => exact fun front _ => (List.append_nil front).symm
    | cons first rest inductionHypothesis =>
      intro front sorted
      have last : ∀ entry ∈ front, entry.1 < first.1 := fun entry listed =>
        (List.pairwise_append.1 sorted).2.2 entry listed first List.mem_cons_self
      rw [List.append_cons] at sorted ⊢
      rw [List.foldl_cons, insertMember_eq_append last]
      exact inductionHypothesis _ sorted
  exact folded [] sorted

end Members

/-! ## Canonical form -/

/-- Members whose values are canonical stay as they are. -/
theorem canonicalMembers_eq_self {members : List (String × Json)}
    (fixed : ∀ entry ∈ members, entry.2.canonical = entry.2) :
    canonicalMembers members = members := by
  induction members with
  | nil => rfl
  | cons first rest inductionHypothesis =>
    obtain ⟨firstFixed, fixed⟩ := List.forall_mem_cons.1 fixed
    rw [canonicalMembers, firstFixed, inductionHypothesis fixed]

mutual

/-- A value in canonical form stays as it is. -/
theorem canonical_canonical : (value : Json) → value.canonical.canonical = value.canonical
  | .null => rfl
  | .bool _ => rfl
  | .number _ => rfl
  | .string _ => rfl
  | .array items => by
    rw [canonical, canonical, canonicalItems_canonicalItems items]
  | .object members => by
    have fixed : ∀ entry ∈ sortMembers (canonicalMembers members), entry.2.canonical = entry.2 :=
      fun entry listed => canonical_of_mem members entry (mem_of_mem_sortMembers listed)
    rw [canonical, canonical, canonicalMembers_eq_self fixed,
      sortMembers_eq_self (keysSorted_sortMembers _)]

/-- Items in canonical form stay as they are. -/
theorem canonicalItems_canonicalItems :
    (items : List Json) → canonicalItems (canonicalItems items) = canonicalItems items
  | [] => rfl
  | item :: rest => by
    rw [canonicalItems, canonicalItems, canonical_canonical item,
      canonicalItems_canonicalItems rest]

/-- The values of members in canonical form are canonical. -/
theorem canonical_of_mem : (members : List (String × Json)) →
    ∀ entry ∈ canonicalMembers members, entry.2.canonical = entry.2
  | [], _, listed => nomatch listed
  | (_, value) :: rest, entry, listed => by
    rw [canonicalMembers] at listed
    rcases List.mem_cons.1 listed with rfl | isRest
    · exact canonical_canonical value
    · exact canonical_of_mem rest entry isRest

end

/-- Canonical form keeps containers. -/
theorem isContainer_canonical (value : Json) : value.canonical.isContainer = value.isContainer := by
  cases value <;> rfl

end NeutralSql.Json
