import Mathlib.Logic.Relation
import NeutralSql.Proofs.Json.Statement

/-!
# Where values come from

Every value that a statement carries was read from some part of its document, below the outermost
container: `Statement.isFrom_of_mem_carried`. What is true of the parts of a document, that their
numbers fit or that they are not nested too deep, is so of these values.
-/

namespace NeutralSql

namespace Document

/-- An item of an array, or the value of a member of an object. -/
inductive IsChild (child : Document) : Document → Prop where
  | item {items : List Document} (listed : child ∈ items) : IsChild child (.array items)
  | member {key : String} {members : List (String × Document)} (listed : (key, child) ∈ members) :
      IsChild child (.object members)

/-- A part of a document, however deep it stands, but not the document itself. -/
def IsPart : Document → Document → Prop :=
  Relation.TransGen IsChild

/-- Parts of documents that fit do so as well. -/
theorem IsPart.fits {part whole : Document} (isPart : IsPart part whole) (fits : whole.Fits) :
    part.Fits := by
  have ofChild {child whole : Document} (isChild : IsChild child whole) (fits : whole.Fits) :
      child.Fits := by
    cases isChild with
    | item listed => exact fits_array.1 fits child listed
    | member listed => exact fits_object.1 fits _ listed
  induction isPart with
  | single isChild => exact ofChild isChild fits
  | tail _ isChild inductionHypothesis => exact inductionHypothesis (ofChild isChild fits)

/-- What is held for a field of a record is a child of the record. -/
theorem isChild_of_mem_itemFields {names : List String} {items : List Document}
    {value : Document} (listed : .given value ∈ itemFields names items) : value ∈ items := by
  induction names generalizing items with
  | nil => contradiction
  | cons name names inductionHypothesis =>
    cases items with
    | nil =>
      rcases List.mem_cons.1 listed with isFirst | isRest
      · contradiction
      · exact absurd (inductionHypothesis isRest) List.not_mem_nil
    | cons item items =>
      rcases List.mem_cons.1 listed with isFirst | isRest
      · obtain rfl := Field.given.inj isFirst
        exact List.mem_cons_self
      · exact List.mem_cons_of_mem item (inductionHypothesis isRest)

theorem isChild_of_mem_fields {names : List String} {document value : Document}
    {fields : List Field} (read : fields? names document = some fields)
    (listed : .given value ∈ fields) : IsChild value document := by
  cases document with
  | object members =>
    rw [fields?] at read
    split at read
    · obtain rfl := Option.some.inj read
      obtain ⟨name, -, held⟩ := List.mem_map.1 listed
      rw [memberField] at held
      split at held
      · rename_i found
        obtain rfl := Field.given.inj held
        exact .member (mem_of_lookup_eq_some found)
      · contradiction
    · contradiction
  | array items =>
    rw [fields?] at read
    split at read
    · exact .item (isChild_of_mem_itemFields (Option.some.inj read ▸ listed))
    · contradiction
  | null | bool | number | string | unreadable => contradiction

/-- Each of several results is the result of an item. -/
theorem exists_mem_of_mapM {α β : Type} {read? : α → Option β} {items : List α} {values : List β}
    {value : β} (read : items.mapM read? = some values) (listed : value ∈ values) :
    ∃ item ∈ items, read? item = some value := by
  induction items generalizing values with
  | nil =>
    obtain rfl := Option.some.inj read
    contradiction
  | cons item items inductionHypothesis =>
    rw [List.mapM_cons] at read
    obtain ⟨first, firstRead, read⟩ := Option.bind_eq_some_iff.1 read
    obtain ⟨rest, restRead, read⟩ := Option.bind_eq_some_iff.1 read
    obtain rfl := Option.some.inj read
    rcases List.mem_cons.1 listed with rfl | isRest
    · exact ⟨item, List.mem_cons_self, firstRead⟩
    · obtain ⟨other, isItem, held⟩ := inductionHypothesis restRead isRest
      exact ⟨other, List.mem_cons_of_mem item isItem, held⟩

section Readers

variable {α : Type} {read? : Document → Option α} {field : Field} {value : α}

/-- An item of a list is read from an item. -/
theorem exists_item_of_listOf? {document : Document} {values : List α}
    (read : listOf? read? document = some values) (listed : value ∈ values) :
    ∃ item, IsChild item document ∧ read? item = some value := by
  cases document with
  | array items =>
    obtain ⟨item, isItem, held⟩ := exists_mem_of_mapM read listed
    exact ⟨item, .item isItem, held⟩
  | null | bool | number | string | object | unreadable => contradiction

/-- A field that has to be there is given. -/
theorem exists_given_of_required? (read : field.required? read? = some value) :
    ∃ held, field = .given held ∧ read? held = some value := by
  cases field with
  | given held => exact ⟨held, rfl, read⟩
  | omitted | cutOff => contradiction

/-- An item of a list that may be missing is read from an item of what is given. -/
theorem exists_item_of_withDefault? {values : List α}
    (read : field.withDefault? [] (listOf? read?) = some values) (listed : value ∈ values) :
    ∃ held item, field = .given held ∧ IsChild item held ∧ read? item = some value := by
  cases field with
  | given held =>
    obtain ⟨item, isChild, itemRead⟩ := exists_item_of_listOf? read listed
    exact ⟨held, item, rfl, isChild, itemRead⟩
  | omitted | cutOff =>
    obtain rfl := Option.some.inj read
    contradiction

/-- A value that may be missing or null is read from what is given. -/
theorem exists_given_of_optional? (read : field.optional? read? = some (some value)) :
    ∃ held, field = .given held ∧ read? held = some value := by
  cases field with
  | given held =>
    rw [Field.optional?_given, nullable?.eq_def] at read
    split at read
    · simp at read
    · obtain ⟨found, foundRead, same⟩ := Option.map_eq_some_iff.1 read
      exact ⟨held, rfl, Option.some.inj same ▸ foundRead⟩
  | omitted | cutOff => exact absurd (Option.some.inj read).symm (Option.some_ne_none value)

end Readers

end Document

open Document (IsChild IsPart)

namespace Value

/-- The value was read from some part of the document. -/
def IsFrom (document : Document) (value : Value) : Prop :=
  ∃ part, IsPart part document ∧ ofDocument? part = some value

/-- Values from a part of a document are values from the document. -/
theorem IsFrom.ofChild {child document : Document} {value : Value}
    (isFrom : value.IsFrom child) (isChild : IsChild child document) : value.IsFrom document := by
  obtain ⟨part, isPart, read⟩ := isFrom
  exact ⟨part, isPart.tail isChild, read⟩

end Value

/-! ## Records of a statement -/

section Records

variable {payload : Document.Payload} {document : Document} {value : Value}

theorem Predicate.isFrom_of_ofDocument? {predicate : Predicate}
    (read : ofDocument? payload document = some predicate) (held : predicate.value = some value) :
    value.IsFrom document := by
  rw [ofDocument?] at read
  simp only [Option.bind_eq_bind, Option.bind_eq_some_iff] at read
  obtain ⟨fields, fieldsRead, read⟩ := read
  split at read
  · simp only [Option.bind_eq_some_iff] at read
    obtain ⟨_, -, _, -, option, optionRead, _, -, equal⟩ := read
    obtain rfl := Option.some.inj equal
    obtain rfl : option = some value := held
    obtain ⟨part, rfl, partRead⟩ := Document.exists_given_of_optional? optionRead
    exact ⟨part, .single (Document.isChild_of_mem_fields fieldsRead (by simp)), partRead⟩
  · contradiction

/-- A value of a clause of conditions. -/
theorem Predicate.isFrom_of_listed {field : Document.Field} {predicates : List Predicate}
    (given : ∀ held, field = .given held → IsChild held document)
    (read : field.withDefault? [] (listOfDocument? payload) = some predicates)
    (carried : value ∈ predicates.filterMap Predicate.value) : value.IsFrom document := by
  obtain ⟨predicate, listed, held⟩ := List.mem_filterMap.1 carried
  obtain ⟨list, item, isGiven, isItem, itemRead⟩ := Document.exists_item_of_withDefault? read listed
  exact ((isFrom_of_ofDocument? itemRead held).ofChild isItem).ofChild (given list isGiven)

theorem Row.isFrom_of_ofDocument? {row : Row} (read : ofDocument? document = some row)
    (listed : value ∈ row.values) : value.IsFrom document := by
  obtain ⟨⟨column, _⟩, isEntry, rfl⟩ := List.mem_map.1 listed
  cases document with
  | object members =>
    obtain ⟨pairs, pairsRead, rfl⟩ := Option.map_eq_some_iff.1 read
    have isPair := mem_of_mem_ofList isEntry
    obtain ⟨member, isMember, held⟩ := Document.exists_mem_of_mapM pairsRead isPair
    obtain ⟨_, valueRead, same⟩ := Option.map_eq_some_iff.1 held
    obtain ⟨-, rfl⟩ := Prod.mk.inj same
    exact ⟨member.2, .single (.member isMember), valueRead⟩
  | null | bool | number | string | array | unreadable => contradiction

end Records

/-! ## Statements -/

namespace Statement

/-- The values that a statement on rows carries. -/
def carried : Statement → List Value
  | .select query => (query.filters ++ query.having).filterMap Predicate.value
  | .insert insertion => insertion.rows.flatMap Row.values
  | .update change => change.assignments.values ++ change.filters.filterMap Predicate.value
  | .delete deletion => deletion.filters.filterMap Predicate.value
  | .createTable _ | .alterTable _ | .dropTable _ => []

variable {payload : Document.Payload} {contents : Document} {value : Value}

theorem isFrom_of_select {query : Select} (read : Select.ofDocument? payload contents = some query)
    (listed : value ∈ (Statement.select query).carried) : value.IsFrom contents := by
  rw [Select.ofDocument?] at read
  simp only [Option.bind_eq_bind, Option.bind_eq_some_iff] at read
  obtain ⟨fields, fieldsRead, read⟩ := read
  split at read
  · simp only [Option.bind_eq_some_iff] at read
    obtain ⟨_, -, _, -, _, -, _, -, filters, filtersRead, _, -, having, havingRead, _, -, _, -, _,
      -, equal⟩ := read
    obtain rfl := Option.some.inj equal
    rw [carried, List.filterMap_append] at listed
    rcases List.mem_append.1 listed with isFilter | isHaving
    · exact Predicate.isFrom_of_listed (fun held given =>
        Document.isChild_of_mem_fields fieldsRead (by simp [given])) filtersRead isFilter
    · exact Predicate.isFrom_of_listed (fun held given =>
        Document.isChild_of_mem_fields fieldsRead (by simp [given])) havingRead isHaving
  · contradiction

theorem isFrom_of_insert {insertion : Insert} (read : Insert.ofDocument? contents = some insertion)
    (listed : value ∈ (Statement.insert insertion).carried) : value.IsFrom contents := by
  rw [Insert.ofDocument?] at read
  simp only [Option.bind_eq_bind, Option.bind_eq_some_iff] at read
  obtain ⟨fields, fieldsRead, read⟩ := read
  split at read
  · simp only [Option.bind_eq_some_iff] at read
    obtain ⟨_, -, rows, rowsRead, equal⟩ := read
    obtain rfl := Option.some.inj equal
    obtain ⟨row, isRow, isValue⟩ := List.mem_flatMap.1 listed
    obtain ⟨list, rfl, listRead⟩ := Document.exists_given_of_required? rowsRead
    obtain ⟨item, isItem, itemRead⟩ := Document.exists_item_of_listOf? listRead isRow
    exact ((Row.isFrom_of_ofDocument? itemRead isValue).ofChild isItem).ofChild
      (Document.isChild_of_mem_fields fieldsRead (by simp))
  · contradiction

theorem isFrom_of_update {change : Update} (read : Update.ofDocument? payload contents = some change)
    (listed : value ∈ (Statement.update change).carried) : value.IsFrom contents := by
  rw [Update.ofDocument?] at read
  simp only [Option.bind_eq_bind, Option.bind_eq_some_iff] at read
  obtain ⟨fields, fieldsRead, read⟩ := read
  split at read
  · simp only [Option.bind_eq_some_iff] at read
    obtain ⟨_, -, assignments, assignmentsRead, filters, filtersRead, equal⟩ := read
    obtain rfl := Option.some.inj equal
    rcases List.mem_append.1 listed with isAssigned | isFilter
    · obtain ⟨held, rfl, rowRead⟩ := Document.exists_given_of_required? assignmentsRead
      exact (Row.isFrom_of_ofDocument? rowRead isAssigned).ofChild
        (Document.isChild_of_mem_fields fieldsRead (by simp))
    · exact Predicate.isFrom_of_listed (fun held given =>
        Document.isChild_of_mem_fields fieldsRead (by simp [given])) filtersRead isFilter
  · contradiction

theorem isFrom_of_delete {deletion : Delete}
    (read : Delete.ofDocument? payload contents = some deletion)
    (listed : value ∈ (Statement.delete deletion).carried) : value.IsFrom contents := by
  rw [Delete.ofDocument?] at read
  simp only [Option.bind_eq_bind, Option.bind_eq_some_iff] at read
  obtain ⟨fields, fieldsRead, read⟩ := read
  split at read
  · simp only [Option.bind_eq_some_iff] at read
    obtain ⟨_, -, filters, filtersRead, equal⟩ := read
    obtain rfl := Option.some.inj equal
    exact Predicate.isFrom_of_listed (fun held given =>
      Document.isChild_of_mem_fields fieldsRead (by simp [given])) filtersRead listed
  · contradiction

/-- Taking out the kind leaves parts of the document. -/
theorem isChild_of_splitKind? {document child : Document} {kind : String}
    (split : splitKind? document = some (kind, contents)) (isChild : IsChild child contents) :
    IsChild child document := by
  cases document with
  | object members =>
    rw [splitKind?] at split
    split at split
    · split at split
      · obtain ⟨rfl, rfl⟩ := Prod.mk.inj (Option.some.inj split)
        cases isChild with
        | member listed => exact .member (List.mem_filter.1 listed).1
      · contradiction
    · contradiction
  | array items =>
    cases items with
    | nil => contradiction
    | cons first rest =>
      cases first with
      | string name =>
        obtain ⟨rfl, rfl⟩ := Prod.mk.inj (Option.some.inj split)
        cases isChild with
        | item listed => exact .item (List.mem_cons_of_mem _ listed)
      | null | bool | number | array | object | unreadable => contradiction
  | null | bool | number | string | unreadable => contradiction

/-- Every value that a statement carries was read from a part of its document. -/
theorem isFrom_of_mem_carried {document : Document} {statement : Statement}
    (read : ofDocument? document = some statement) (listed : value ∈ statement.carried) :
    value.IsFrom document := by
  rw [ofDocument?] at read
  split at read
  · obtain ⟨⟨kind, contents⟩, split, read⟩ := Option.bind_eq_some_iff.1 read
    have inside : value.IsFrom contents := by
      simp only [ofKind?.eq_def] at read
      split at read
      · obtain ⟨query, held, rfl⟩ := Option.map_eq_some_iff.1 read
        exact isFrom_of_select held listed
      · obtain ⟨insertion, held, rfl⟩ := Option.map_eq_some_iff.1 read
        exact isFrom_of_insert held listed
      · obtain ⟨change, held, rfl⟩ := Option.map_eq_some_iff.1 read
        exact isFrom_of_update held listed
      · obtain ⟨deletion, held, rfl⟩ := Option.map_eq_some_iff.1 read
        exact isFrom_of_delete held listed
      -- Statements on schemas carry no values.
      · obtain ⟨table, -, rfl⟩ := Option.map_eq_some_iff.1 read
        contradiction
      · obtain ⟨alteration, -, rfl⟩ := Option.map_eq_some_iff.1 read
        contradiction
      · obtain ⟨removal, -, rfl⟩ := Option.map_eq_some_iff.1 read
        contradiction
      · contradiction
    obtain ⟨part, isPart, valueRead⟩ := inside
    refine ⟨part, ?_, valueRead⟩
    obtain ⟨top, inTop, isTop⟩ := Relation.TransGen.tail'_iff.1 isPart
    exact .tail' inTop (isChild_of_splitKind? split isTop)
  · contradiction

end Statement

end NeutralSql
