import Mathlib.Data.Finset.Card
import Mathlib.Data.List.Forall2
import NeutralSql.Proofs.Compile.Insertion
import NeutralSql.Proofs.Json.Value

/-!
# Rows as ordered maps

What a sequence of assignments makes of a row can be read off the sequence: the columns stand
where they are named first and hold what they are given last. `Row.IsMapOf` says so, and only
one row is the map of a sequence. All ways to build a row lead there: assigning pair by pair,
collecting a list, assigning in an update, and reading the members of a JSON object.
-/

namespace NeutralSql

open Template (text slot separated)

namespace Row

/-! ## What assignments leave -/

/-- The columns that pairs name, each of them where it is named first. -/
def named (pairs : List (String × Value)) : List String :=
  (pairs.map Prod.fst).eraseDups

/-- What pairs give a column last. -/
def lastValue? (pairs : List (String × Value)) (column : String) : Option Value :=
  pairs.reverse.lookup column

/-- A row is the ordered map that pairs describe when they are assigned from left to right. -/
structure IsMapOf (row : Row) (pairs : List (String × Value)) : Prop where
  distinct : row.columns.Nodup
  columns : row.columns = named pairs
  get? : ∀ column, row.get? column = lastValue? pairs column
  /-- Going through the row meets each column with the value that it was given last. -/
  entries : (row.entries.map fun entry => (entry.1, some entry.2)) =
    (named pairs).map fun column => (column, lastValue? pairs column)
  size : row.size = (pairs.map Prod.fst).toFinset.card

section Set

variable (row : Row) (column : String) (value : Value)

/-- A column that is set keeps its place, and a new one comes last. -/
theorem columns_set :
    (row.set column value).columns =
      if column ∈ row.columns then row.columns else row.columns ++ [column] :=
  columns_setEntry column value row.entries

/-- Setting a column changes its own value and no other one. -/
theorem get?_set (other : String) :
    (row.set column value).get? other =
      if other = column then some value else row.get? other := by
  have lookup : ∀ entries : List (String × Value),
      (setEntry column value entries).lookup other =
        if other = column then some value else entries.lookup other := by
    intro entries
    induction entries with
    | nil => rw [setEntry, lookup_cons_eq]
    | cons entry rest inductionHypothesis =>
      by_cases first : entry.1 = column
      · rw [setEntry, if_pos first, lookup_cons_eq, lookup_cons_eq, first]
        split <;> rfl
      · rw [setEntry, if_neg first, lookup_cons_eq, lookup_cons_eq, inductionHypothesis]
        by_cases same : other = column
        · have notFirst : ¬other = entry.1 := fun equal => first (equal.symm.trans same)
          simp only [if_neg notFirst, if_pos same]
        · rw [if_neg same, if_neg same]
  exact lookup row.entries

/-- Going through a row meets its columns with their values. -/
theorem entries_eq :
    (row.entries.map fun entry => (entry.1, some entry.2)) =
      row.columns.map fun column => (column, row.get? column) := by
  rw [columns, List.map_map]
  refine List.map_congr_left fun entry listed => ?_
  have found : row.get? entry.1 = some entry.2 := (lookup_eq_some_iff_mem row.distinct).2 listed
  exact congrArg (Prod.mk entry.1) found.symm

end Set

/-! ## Sequences of assignments -/

section Sequences

variable (pairs : List (String × Value))

/-- A further pair is assigned after the others. -/
theorem ofList_concat (pair : String × Value) :
    ofList (pairs ++ [pair]) = (ofList pairs).set pair.1 pair.2 := by
  rw [ofList, List.foldl_concat, ← ofList]

/-- A further pair names its column at the end, unless the column has been named. -/
theorem named_concat (pair : String × Value) :
    named (pairs ++ [pair]) =
      if pair.1 ∈ named pairs then named pairs else named pairs ++ [pair.1] := by
  simp only [named, List.map_append, List.map_cons, List.map_nil, List.eraseDups_append,
    List.removeAll, List.mem_eraseDups]
  by_cases known : pair.1 ∈ pairs.map Prod.fst
  · simp [known]
  · simp [known, List.eraseDups_cons]

/-- Columns stand where they are named first. -/
theorem columns_ofList : (ofList pairs).columns = named pairs := by
  induction pairs using List.reverseRecOn with
  | nil => rfl
  | append_singleton pairs pair inductionHypothesis =>
    rw [ofList_concat, columns_set, inductionHypothesis, named_concat]

/-- Columns hold what they are given last. -/
theorem get?_ofList (column : String) :
    (ofList pairs).get? column = lastValue? pairs column := by
  induction pairs using List.reverseRecOn with
  | nil => rfl
  | append_singleton pairs pair inductionHypothesis =>
    rw [ofList_concat, get?_set, inductionHypothesis, lastValue?, lastValue?,
      List.reverse_concat, lookup_cons_eq]

/-- There are as many columns as different names. -/
theorem size_ofList : (ofList pairs).size = (pairs.map Prod.fst).toFinset.card := by
  have sameNames : (ofList pairs).columns.toFinset = (pairs.map Prod.fst).toFinset := by
    ext column
    rw [columns_ofList, named, List.mem_toFinset, List.mem_toFinset, List.mem_eraseDups]
  have count : (ofList pairs).columns.toFinset.card = (ofList pairs).columns.length :=
    List.toFinset_card_of_nodup (ofList pairs).distinct
  rw [← sameNames, count, size, columns, List.length_map]

/-- What assignments leave is their ordered map. -/
theorem isMapOf_ofList : (ofList pairs).IsMapOf pairs where
  distinct := (ofList pairs).distinct
  columns := columns_ofList pairs
  get? := get?_ofList pairs
  entries := by
    rw [entries_eq, columns_ofList]
    exact List.map_congr_left fun column _ => congrArg (Prod.mk column) (get?_ofList pairs column)
  size := size_ofList pairs

variable {pairs}

/-- A sequence has only one ordered map. -/
theorem IsMapOf.eq_ofList {row : Row} (isMap : row.IsMapOf pairs) : row = ofList pairs := by
  have sameEntries := isMap.entries.trans (isMapOf_ofList pairs).entries.symm
  have injective : Function.Injective fun entry : String × Value => (entry.1, some entry.2) := by
    rintro ⟨first, value⟩ ⟨second, other⟩ equal
    simpa using equal
  obtain ⟨entries, distinct⟩ := row
  obtain rfl : entries = (ofList pairs).entries := List.map_injective_iff.2 injective sameEntries
  rfl

/-- Assigning in an update builds its assignments in the same way. -/
theorem assignments_foldl (update : Update) (pairs : List (String × Value)) :
    (pairs.foldl (fun update pair => update.assign pair.1 pair.2) update).assignments =
      pairs.foldl (fun row pair => row.set pair.1 pair.2) update.assignments := by
  induction pairs generalizing update with
  | nil => rfl
  | cons pair rest inductionHypothesis => exact inductionHypothesis (update.assign pair.1 pair.2)

end Sequences

/-! ## Rows in JSON -/

/-- The members of a JSON object hold pairs: the same names, and documents that are read as the
values. -/
def Holds (members : List (String × Document)) (pairs : List (String × Value)) : Prop :=
  List.Forall₂ (fun member pair => member.1 = pair.1 ∧ Value.ofDocument? member.2 = some pair.2)
    members pairs

/-- Members are read one by one, and all of them have to be readable. -/
theorem mapM_eq_some_iff_holds {members : List (String × Document)}
    {pairs : List (String × Value)} :
    (members.mapM fun (member : String × Document) =>
        (Value.ofDocument? member.2).map fun value => (member.1, value)) = some pairs ↔
      Holds members pairs := by
  induction members generalizing pairs with
  | nil =>
    rw [Holds, List.forall₂_nil_left_iff]
    exact Option.some_inj.trans eq_comm
  | cons member rest inductionHypothesis =>
    rw [Holds, List.forall₂_cons_left_iff, List.mapM_cons]
    constructor
    · intro read
      obtain ⟨first, firstRead, read⟩ := Option.bind_eq_some_iff.1 read
      obtain ⟨value, valueRead, rfl⟩ := Option.map_eq_some_iff.1 firstRead
      obtain ⟨others, othersRead, read⟩ := Option.bind_eq_some_iff.1 read
      obtain rfl := Option.some.inj read
      exact ⟨_, others, ⟨rfl, valueRead⟩, inductionHypothesis.1 othersRead, rfl⟩
    · rintro ⟨⟨name, value⟩, others, ⟨rfl, valueRead⟩, othersHeld, rfl⟩
      rw [valueRead, inductionHypothesis.2 othersHeld]
      rfl

/-- A row is read from an object whose members hold pairs, duplicates included, and from
nothing else; it is what assigning the pairs in order leaves. -/
theorem ofDocument?_eq_some_iff {document : Document} {row : Row} :
    ofDocument? document = some row ↔
      ∃ members pairs, document = .object members ∧ Holds members pairs ∧ row = ofList pairs := by
  constructor
  · intro read
    cases document with
    | object members =>
      obtain ⟨pairs, pairsRead, rfl⟩ := Option.map_eq_some_iff.1 read
      exact ⟨members, pairs, rfl, mapM_eq_some_iff_holds.1 pairsRead, rfl⟩
    | null | bool | number | string | array | unreadable => contradiction
  · rintro ⟨members, pairs, rfl, held, rfl⟩
    rw [ofDocument?, mapM_eq_some_iff_holds.2 held]
    rfl

end Row

/-! ## Rows in statements -/

/-- The assignments of an update, each with its placeholder. -/
theorem Update.write_head (dialect : Dialect) (update : Update) :
    update.head.write dialect.capabilities.placeholder 0 =
      "UPDATE " ++ update.table ++ " SET " ++ String.intercalate ", "
        (update.assignments.columns.mapIdx fun index column =>
          column ++ " = " ++ dialect.placeholder (index + 1)) := by
  have single : ∀ template ∈ update.assignments.entries.map fun entry =>
      text (entry.1 ++ " = ") ++ slot entry.2, template.values.length = 1 :=
    List.forall_mem_map.2 fun _ _ => rfl
  have slots : (update.assignments.entries.map fun entry =>
        text (entry.1 ++ " = ") ++ slot entry.2).mapIdx (fun index template =>
          Template.write dialect.capabilities.placeholder (0 + index * 1) template) =
      update.assignments.columns.mapIdx fun index column =>
        column ++ " = " ++ dialect.placeholder (index + 1) := by
    refine List.ext_getElem (by simp [Row.columns]) fun index _ _ => ?_
    simp [Row.columns, text, slot, Template.write, Dialect.token_eq]
  rw [head, Template.write_append, Template.values_text, List.length_nil, Nat.add_zero,
    Template.write_separated dialect.capabilities.placeholder ", " single 0, slots, text,
    Template.write, Template.write, String.append_empty]

/-- An update that compiles names each column that it sets once, in front of its placeholder. -/
theorem Update.exists_assignments {dialect : Dialect} {update : Update} {compiled : List Compiled}
    (accepted : compile dialect (.update update) = .ok compiled) :
    ∃ finished rest, compiled = [finished] ∧
      finished.sql = "UPDATE " ++ update.table ++ " SET " ++ String.intercalate ", "
        (update.assignments.columns.mapIdx fun index column =>
          column ++ " = " ++ dialect.placeholder (index + 1)) ++ rest := by
  obtain ⟨plan, planned⟩ := plan_of_compile accepted
  obtain rfl := Update.plan_eq planned
  rw [compile_of_single planned] at accepted
  obtain rfl := Except.ok.inj accepted
  refine ⟨_, (Clause.conditions "WHERE" update.filters).write dialect.capabilities.placeholder
    (0 + update.head.values.length), rfl, ?_⟩
  rw [← Update.write_head, ← Template.write_append]

/-- An insertion that compiles lists the columns of its first row. -/
theorem Insert.exists_columns {dialect : Dialect} {insertion : Insert} {compiled : List Compiled}
    (accepted : compile dialect (.insert insertion) = .ok compiled) :
    ∃ first others finished rest, insertion.rows = first :: others ∧ compiled = [finished] ∧
      finished.sql = "INSERT INTO " ++ insertion.table ++ " (" ++
        String.intercalate ", " first.columns ++ ")" ++ rest := by
  obtain ⟨first, others, rows, -, -⟩ := Insert.compiles_iff.1 ⟨compiled, accepted⟩
  obtain ⟨finished, single, isLaidOut⟩ := Insert.exists_isLaidOut accepted
  have columns : insertion.columns = first.columns := by
    rw [Insert.columns, rows]
  obtain ⟨rest, sql⟩ : ∃ rest, finished.sql = "INSERT INTO " ++ insertion.table ++ " (" ++
      String.intercalate ", " first.columns ++ ")" ++ rest := by
    apply Exists.intro
    rw [isLaidOut.sql, columns]
    simp only [String.append_assoc]
    rfl
  exact ⟨first, others, finished, rest, rows, single, sql⟩

namespace Row

/-- Pairs make the same row however they are assigned: one by one to an empty row, collected
from a list, in an update without assignments, or as the members of a JSON object. It is the
one ordered map of the pairs. So no insertion lists a column twice, and no update sets one
twice. -/
theorem assigned_ordered_map :
    (∀ pairs : List (String × Value), ∃ row : Row, row.IsMapOf pairs ∧
      (∀ other : Row, other.IsMapOf pairs → other = row) ∧
      pairs.foldl (fun row pair => row.set pair.1 pair.2) empty = row ∧
      ofList pairs = row ∧
      (∀ update : Update, update.assignments = empty →
        (pairs.foldl (fun update pair => update.assign pair.1 pair.2) update).assignments = row) ∧
      ∀ text members, Document.parse? text = some (.object members) → Holds members pairs →
        (Document.parse? text).bind ofDocument? = some row) ∧
    (∀ dialect insertion compiled, compile dialect (.insert insertion) = .ok compiled →
      ∃ first others finished rest, insertion.rows = first :: others ∧ compiled = [finished] ∧
        first.columns.Nodup ∧
        finished.sql = "INSERT INTO " ++ insertion.table ++ " (" ++
          String.intercalate ", " first.columns ++ ")" ++ rest) ∧
    (∀ dialect update compiled, compile dialect (.update update) = .ok compiled →
      ∃ finished rest, compiled = [finished] ∧ update.assignments.columns.Nodup ∧
        finished.sql = "UPDATE " ++ update.table ++ " SET " ++ String.intercalate ", "
          (update.assignments.columns.mapIdx fun index column =>
            column ++ " = " ++ dialect.placeholder (index + 1)) ++ rest) := by
  refine ⟨fun pairs => ?_, fun dialect insertion compiled accepted => ?_,
    fun dialect update compiled accepted => ?_⟩
  · refine ⟨ofList pairs, isMapOf_ofList pairs, fun other isMap => isMap.eq_ofList, rfl, rfl,
      fun update unset => ?_, fun text members parsed held => ?_⟩
    · rw [assignments_foldl, unset, ofList]
    · rw [parsed]
      exact ofDocument?_eq_some_iff.2 ⟨members, pairs, rfl, held, rfl⟩
  · obtain ⟨first, others, finished, rest, rows, single, sql⟩ := Insert.exists_columns accepted
    exact ⟨first, others, finished, rest, rows, single, first.distinct, sql⟩
  · obtain ⟨finished, rest, single, sql⟩ := Update.exists_assignments accepted
    exact ⟨finished, rest, single, update.assignments.distinct, sql⟩

/-- An object that names its first column again. -/
def repeating : String :=
  "\x7b\"zeta\": 1, \"alpha\": \"x\", \"zeta\": null\x7d"

/-- The column keeps its place and gets the new value. -/
theorem assigned_ordered_map_repeating :
    ∃ members row, Document.parse? repeating = some (.object members) ∧
      Holds members [("zeta", .integer 1), ("alpha", .string "x"), ("zeta", .null)] ∧
      (Document.parse? repeating).bind ofDocument? = some row ∧
      row.entries = [("zeta", .null), ("alpha", .string "x")] := by
  have parsed : Document.parse? repeating =
      some (.object [("zeta", .number (.int 1)), ("alpha", .string "x"), ("zeta", .null)]) := by
    decide +kernel
  have held : Holds [("zeta", .number (.int 1)), ("alpha", .string "x"), ("zeta", .null)]
      [("zeta", .integer 1), ("alpha", .string "x"), ("zeta", .null)] :=
    .cons ⟨rfl, rfl⟩ (.cons ⟨rfl, rfl⟩ (.cons ⟨rfl, rfl⟩ .nil))
  obtain ⟨row, -, -, -, collected, -, read⟩ := assigned_ordered_map.1
    [("zeta", .integer 1), ("alpha", .string "x"), ("zeta", .null)]
  have entries : row.entries = [("zeta", .null), ("alpha", .string "x")] := by
    rw [← collected]
    rfl
  exact ⟨_, row, parsed, held, read repeating _ parsed held, entries⟩

end Row

end NeutralSql
