import NeutralSql.Compile.Context
import NeutralSql.Proofs.Json.Definition

/-!
# Statements as JSON

Statements come back from their JSON as they were, and whatever is read as a statement is one
that does: `Statement.json_round_trip`. So writing what was read and reading it again adds
nothing and loses nothing.
-/

namespace NeutralSql

open Document (Yields)

/-! ## Names -/

section Names

variable (payload : Document.Payload)

/-- The name of a kind of join. -/
@[simp] theorem JoinKind.ofDocument?_jsonName (kind : JoinKind) :
    ofDocument? payload (.ofJson (.string kind.jsonName)) = some kind := by
  cases kind <;> rfl

/-- The keyword of a connective. -/
@[simp] theorem Connective.ofDocument?_sql (connective : Connective) :
    ofDocument? payload (.ofJson (.string connective.sql)) = some connective := by
  cases connective <;> rfl

/-- The spelling of an operator. -/
@[simp] theorem Operator.ofDocument?_sql (operator : Operator) :
    ofDocument? payload (.ofJson (.string operator.sql)) = some operator := by
  cases operator <;> rfl

/-- The name of a direction. -/
@[simp] theorem SortDirection.ofDocument?_jsonName (direction : SortDirection) :
    ofDocument? payload (.ofJson (.string direction.jsonName)) = some direction := by
  cases direction <;> rfl

end Names

/-! ## Clauses -/

variable {payload : Document.Payload}

namespace Predicate

/-- The value of a condition can be written, and is not null where there is one. -/
def IsWritable (predicate : Predicate) : Prop :=
  ∀ value ∈ predicate.value, value.IsWritable ∧ value.isNull = false

/-- A condition is read again. -/
theorem ofDocument?_toJson {predicate : Predicate} (isWritable : predicate.IsWritable) :
    ofDocument? payload (.ofJson predicate.toJson) = some predicate := by
  rw [ofDocument?, toJson, Document.fields?_ofJson]
  · simp [Value.nullable?_ofJson isWritable]
  · rfl
  · decide

/-- Conditions are read again. -/
theorem listOfDocument?_ofJson {predicates : List Predicate}
    (isWritable : ∀ predicate ∈ predicates, predicate.IsWritable) :
    listOfDocument? payload (.ofJson (.array (predicates.map toJson))) = some predicates :=
  Document.listOf?_ofJson fun predicate listed => ofDocument?_toJson (isWritable predicate listed)

/-- Every condition that is read can be written. -/
theorem yields_ofDocument? : Yields (ofDocument? payload) IsWritable := by
  refine .record fun fields predicate fieldsFit read => ?_
  split at read
  · simp only [Option.bind_eq_bind, Option.bind_eq_some_iff] at read
    obtain ⟨_, -, _, -, value, valueRead, _, -, equal⟩ := read
    obtain rfl := Option.some.inj equal
    exact Value.isWritable_of_optional? (fieldsFit _ (by simp)) valueRead
  · contradiction

/-- All conditions that are read can be written. -/
theorem yields_listOfDocument? :
    Yields (listOfDocument? payload) fun predicates =>
      ∀ predicate ∈ predicates, predicate.IsWritable :=
  yields_ofDocument?.listOf?

end Predicate

/-- A join is read again. -/
theorem Join.ofDocument?_toJson (join : Join) :
    ofDocument? payload (.ofJson join.toJson) = some join := by
  rw [ofDocument?, toJson, Document.fields?_ofJson]
  · simp
  · rfl
  · decide

/-- A sort key is read again. -/
theorem OrderTerm.ofDocument?_toJson (term : OrderTerm) :
    ofDocument? payload (.ofJson term.toJson) = some term := by
  rw [ofDocument?, toJson, Document.fields?_ofJson]
  · simp
  · rfl
  · decide

/-! ## Kinds of statement -/

namespace Select

/-- All conditions of the query can be written. -/
structure IsWritable (query : Select) : Prop where
  filters : ∀ predicate ∈ query.filters, predicate.IsWritable
  having : ∀ predicate ∈ query.having, predicate.IsWritable

/-- A SELECT is read again. -/
theorem ofDocument?_members {query : Select} (isWritable : query.IsWritable) :
    ofDocument? payload (.ofJson (.object query.members)) = some query := by
  have joins : Document.listOf? (Join.ofDocument? payload)
      (.ofJson (.array (query.joins.map Join.toJson))) = some query.joins :=
    Document.listOf?_ofJson fun join _ => join.ofDocument?_toJson
  have orderBy : Document.listOf? (OrderTerm.ofDocument? payload)
      (.ofJson (.array (query.orderBy.map OrderTerm.toJson))) = some query.orderBy :=
    Document.listOf?_ofJson fun term _ => term.ofDocument?_toJson
  rw [ofDocument?, members, Document.fields?_ofJson]
  · simp [joins, orderBy, Predicate.listOfDocument?_ofJson isWritable.filters,
      Predicate.listOfDocument?_ofJson isWritable.having]
  · rfl
  · decide

/-- Every SELECT that is read can be written. -/
theorem yields_ofDocument? : Yields (ofDocument? payload) IsWritable := by
  refine .record fun fields query fieldsFit read => ?_
  split at read
  · simp only [Option.bind_eq_bind, Option.bind_eq_some_iff] at read
    obtain ⟨_, -, _, -, _, -, _, -, filters, filtersRead, _, -, having, havingRead, _, -, _, -, _,
      -, equal⟩ := read
    obtain rfl := Option.some.inj equal
    exact
      { filters := Predicate.yields_listOfDocument?.withDefault? (List.forall_mem_nil _)
          (fieldsFit _ (by simp)) filtersRead
        having := Predicate.yields_listOfDocument?.withDefault? (List.forall_mem_nil _)
          (fieldsFit _ (by simp)) havingRead }
  · contradiction

end Select

namespace Insert

/-- All rows can be written. -/
def IsWritable (insertion : Insert) : Prop :=
  ∀ row ∈ insertion.rows, row.IsWritable

/-- An INSERT is read again. -/
theorem ofDocument?_members {insertion : Insert} (isWritable : insertion.IsWritable) :
    ofDocument? (.ofJson (.object insertion.members)) = some insertion := by
  have rows : Document.listOf? Row.ofDocument?
      (.ofJson (.array (insertion.rows.map Row.toJson))) = some insertion.rows :=
    Document.listOf?_ofJson fun row listed => Row.ofDocument?_toJson (isWritable row listed)
  rw [ofDocument?, members, Document.fields?_ofJson]
  · simp [rows]
  · rfl
  · decide

/-- Every INSERT that is read can be written. -/
theorem yields_ofDocument? : Yields ofDocument? IsWritable := by
  refine .record fun fields insertion fieldsFit read => ?_
  split at read
  · simp only [Option.bind_eq_bind, Option.bind_eq_some_iff] at read
    obtain ⟨_, -, rows, rowsRead, equal⟩ := read
    obtain rfl := Option.some.inj equal
    exact Row.yields_ofDocument?.listOf?.required? (fieldsFit _ (by simp)) rowsRead
  · contradiction

end Insert

namespace Update

/-- All assignments and conditions can be written. -/
structure IsWritable (change : Update) : Prop where
  assignments : change.assignments.IsWritable
  filters : ∀ predicate ∈ change.filters, predicate.IsWritable

/-- An UPDATE is read again. -/
theorem ofDocument?_members {change : Update} (isWritable : change.IsWritable) :
    ofDocument? payload (.ofJson (.object change.members)) = some change := by
  rw [ofDocument?, members, Document.fields?_ofJson]
  · simp [Row.ofDocument?_toJson isWritable.assignments,
      Predicate.listOfDocument?_ofJson isWritable.filters]
  · rfl
  · decide

/-- Every UPDATE that is read can be written. -/
theorem yields_ofDocument? : Yields (ofDocument? payload) IsWritable := by
  refine .record fun fields change fieldsFit read => ?_
  split at read
  · simp only [Option.bind_eq_bind, Option.bind_eq_some_iff] at read
    obtain ⟨_, -, assignments, assignmentsRead, filters, filtersRead, equal⟩ := read
    obtain rfl := Option.some.inj equal
    exact
      { assignments := Row.yields_ofDocument?.required? (fieldsFit _ (by simp)) assignmentsRead
        filters := Predicate.yields_listOfDocument?.withDefault? (List.forall_mem_nil _)
          (fieldsFit _ (by simp)) filtersRead }
  · contradiction

end Update

namespace Delete

/-- All conditions can be written. -/
def IsWritable (deletion : Delete) : Prop :=
  ∀ predicate ∈ deletion.filters, predicate.IsWritable

/-- A DELETE is read again. -/
theorem ofDocument?_members {deletion : Delete} (isWritable : deletion.IsWritable) :
    ofDocument? payload (.ofJson (.object deletion.members)) = some deletion := by
  rw [ofDocument?, members, Document.fields?_ofJson]
  · simp [Predicate.listOfDocument?_ofJson isWritable]
  · rfl
  · decide

/-- Every DELETE that is read can be written. -/
theorem yields_ofDocument? : Yields (ofDocument? payload) IsWritable := by
  refine .record fun fields deletion fieldsFit read => ?_
  split at read
  · simp only [Option.bind_eq_bind, Option.bind_eq_some_iff] at read
    obtain ⟨_, -, filters, filtersRead, equal⟩ := read
    obtain rfl := Option.some.inj equal
    exact Predicate.yields_listOfDocument?.withDefault? (List.forall_mem_nil _)
      (fieldsFit _ (by simp)) filtersRead
  · contradiction

end Delete

/-! ## Statements -/

namespace Statement

/-- A statement comes back from its JSON: all its values can be written, and none that may be
absent is null. -/
def IsWritable : Statement → Prop
  | .select query => query.IsWritable
  | .insert insertion => insertion.IsWritable
  | .update change => change.IsWritable
  | .delete deletion => deletion.IsWritable
  | .createTable table => table.IsWritable
  | .alterTable alteration => alteration.IsWritable
  | .dropTable _ => True

/-- No kind of statement has a member for the kind. -/
theorem kind_not_mem_keys (statement : Statement) :
    "kind" ∉ statement.kindAndMembers.2.map Prod.fst := by
  cases statement <;> simp [kindAndMembers, Select.members, Insert.members, Update.members,
    Delete.members, CreateTable.members, AlterTable.members, DropTable.members]

/-- The kind in front of other members is taken out. -/
theorem splitKind?_ofJson (kind : String) {members : List (String × Json)}
    (noKind : "kind" ∉ members.map Prod.fst) :
    splitKind? (.ofJson (.object (("kind", .string kind) :: members))) =
      some (kind, .ofJson (.object members)) := by
  have others : ∀ member ∈ Document.ofJsonMembers members, member.1 ≠ "kind" := by
    rw [Document.ofJsonMembers_eq_map]
    intro document listed isKind
    obtain ⟨member, isMember, rfl⟩ := List.mem_map.1 listed
    exact noKind (isKind ▸ List.mem_map_of_mem isMember)
  have none : Document.occurrences "kind" (Document.ofJsonMembers members) = 0 :=
    List.countP_eq_zero.2 fun member listed => by simpa using others member listed
  have once : Document.occurrences "kind"
      (("kind", Document.string kind) :: Document.ofJsonMembers members) = 1 :=
    (List.countP_cons_of_pos (by simp)).trans (congrArg (· + 1) none)
  have kept : (Document.ofJsonMembers members).filter (fun member => member.1 ≠ "kind") =
      Document.ofJsonMembers members :=
    List.filter_eq_self.2 fun member listed => decide_eq_true (others member listed)
  have removed : (("kind", Document.string kind) :: Document.ofJsonMembers members).filter
      (fun member => member.1 ≠ "kind") = Document.ofJsonMembers members :=
    (List.filter_cons_of_neg (by simp)).trans kept
  rw [Document.ofJson, Document.ofJsonMembers, Document.ofJson, splitKind?, if_pos once]
  exact congrArg (fun rest => some (kind, Document.object rest)) removed

/-- The members of a kind are read as the statement. -/
theorem ofKind?_members {payload : Document.Payload} {statement : Statement}
    (isWritable : statement.IsWritable) :
    ofKind? payload statement.kindAndMembers.1 (.ofJson (.object statement.kindAndMembers.2)) =
      some statement := by
  cases statement with
  | select query =>
    exact congrArg (Option.map Statement.select) (Select.ofDocument?_members isWritable)
  | insert insertion =>
    exact congrArg (Option.map Statement.insert) (Insert.ofDocument?_members isWritable)
  | update change =>
    exact congrArg (Option.map Statement.update) (Update.ofDocument?_members isWritable)
  | delete deletion =>
    exact congrArg (Option.map Statement.delete) (Delete.ofDocument?_members isWritable)
  | createTable table =>
    exact congrArg (Option.map Statement.createTable) (CreateTable.ofDocument?_members isWritable)
  | alterTable alteration =>
    exact congrArg (Option.map Statement.alterTable) (AlterTable.ofDocument?_members isWritable)
  | dropTable removal => exact congrArg (Option.map Statement.dropTable) removal.ofDocument?_members

/-- A statement is read again. -/
theorem ofDocument?_toJson {statement : Statement} (isWritable : statement.IsWritable) :
    ofDocument? (.ofJson statement.toJson) = some statement := by
  have isReadable : (Document.ofJson statement.toJson).isReadable = true := by
    rw [Document.isReadable, Document.json?_ofJson]
    rfl
  have split := splitKind?_ofJson statement.kindAndMembers.1 statement.kind_not_mem_keys
  rw [ofDocument?, if_pos isReadable, toJson]
  exact Option.bind_eq_some_iff.2 ⟨_, split, ofKind?_members isWritable⟩

/-- What is left when the kind is taken out fits. -/
theorem fits_of_splitKind? {document contents : Document} {kind : String}
    (fits : document.Fits) (split : splitKind? document = some (kind, contents)) :
    contents.Fits := by
  cases document with
  | object members =>
    rw [splitKind?] at split
    split at split
    · split at split
      · obtain ⟨rfl, rfl⟩ := Prod.mk.inj (Option.some.inj split)
        exact Document.fits_object.2 fun member listed =>
          Document.fits_object.1 fits member (List.mem_filter.1 listed).1
      · contradiction
    · contradiction
  | array items =>
    cases items with
    | nil => contradiction
    | cons first rest =>
      obtain ⟨-, restFits⟩ := List.forall_mem_cons.1 (Document.fits_array.1 fits)
      cases first with
      | string name =>
        obtain ⟨rfl, rfl⟩ := Prod.mk.inj (Option.some.inj split)
        exact Document.fits_array.2 restFits
      | null | bool | number | array | object | unreadable => contradiction
  | null | bool | number | string | unreadable => contradiction

/-- Every statement that is read can be written. -/
theorem yields_ofDocument? : Yields ofDocument? IsWritable := by
  intro document statement fits read
  rw [ofDocument?] at read
  split at read
  · obtain ⟨⟨kind, contents⟩, split, read⟩ := Option.bind_eq_some_iff.1 read
    have contentsFit := fits_of_splitKind? fits split
    simp only [ofKind?.eq_def] at read
    split at read
    · obtain ⟨query, held, rfl⟩ := Option.map_eq_some_iff.1 read
      exact Select.yields_ofDocument? contentsFit held
    · obtain ⟨insertion, held, rfl⟩ := Option.map_eq_some_iff.1 read
      exact Insert.yields_ofDocument? contentsFit held
    · obtain ⟨change, held, rfl⟩ := Option.map_eq_some_iff.1 read
      exact Update.yields_ofDocument? contentsFit held
    · obtain ⟨deletion, held, rfl⟩ := Option.map_eq_some_iff.1 read
      exact Delete.yields_ofDocument? contentsFit held
    · obtain ⟨table, held, rfl⟩ := Option.map_eq_some_iff.1 read
      exact CreateTable.yields_ofDocument? contentsFit held
    · obtain ⟨alteration, held, rfl⟩ := Option.map_eq_some_iff.1 read
      exact AlterTable.yields_ofDocument? contentsFit held
    · obtain ⟨removal, held, rfl⟩ := Option.map_eq_some_iff.1 read
      trivial
    · contradiction
  · contradiction

/-- A statement comes back from its JSON and from every text that carries it, equal to what it
was, with rows and assignments in order, so that it compiles to the same in every dialect. What
is read from any text, in whatever form it was written there, is a statement of this kind; so
writing it and reading that again adds nothing. -/
theorem json_round_trip :
    (∀ statement : Statement, statement.IsWritable →
      ofDocument? (.ofJson statement.toJson) = some statement ∧
        ∀ text, Document.parse? text = some (.ofJson statement.toJson) →
          ofText? text = some statement ∧
            ∀ dialect, (ofText? text).map (compile dialect) = some (compile dialect statement)) ∧
    (∀ text statement, ofText? text = some statement →
      statement.IsWritable ∧ ∀ again,
        Document.parse? again = some (.ofJson statement.toJson) → ofText? again = ofText? text) := by
  have restored {statement : Statement} (isWritable : statement.IsWritable) {text : String}
      (carries : Document.parse? text = some (.ofJson statement.toJson)) :
      ofText? text = some statement := by
    rw [ofText?, carries, Option.bind_some, ofDocument?_toJson isWritable]
  refine ⟨fun statement isWritable => ⟨ofDocument?_toJson isWritable, fun text carries => ?_⟩,
    fun text statement read => ?_⟩
  · have read := restored isWritable carries
    exact ⟨read, fun dialect => read ▸ rfl⟩
  · obtain ⟨document, parsed, held⟩ := Option.bind_eq_some_iff.1 read
    have isWritable := yields_ofDocument? (Document.fits_of_parse? parsed) held
    exact ⟨isWritable, fun again carries => (restored isWritable carries).trans read.symm⟩

/-- A user gets a score of one and a half, and a list of tags. -/
def scored : Statement :=
  .update ⟨"users",
    .ofList [("score", .float (.ofRatio false 3 2)), ("tags", .json (.array [.string "new"]))],
    [.compare "id" .equal (.integer 7)]⟩

/-- The compact text of an UPDATE carries it, so that it is read again. -/
theorem json_round_trip_scored :
    scored.IsWritable ∧
      Document.parse? scored.toJson.compact = some (.ofJson scored.toJson) ∧
      ofText? scored.toJson.compact = some scored := by
  have isFinite : (Binary64.ofRatio false 3 2).isFinite = true := by
    decide +kernel
  have score : (Value.float (.ofRatio false 3 2)).IsWritable := isFinite
  have tags : (Value.json (.array [.string "new"])).IsWritable := ⟨rfl, rfl⟩
  have isWritable : scored.IsWritable := by
    refine ⟨?_, ?_⟩
    · simp [Row.IsWritable, Row.ofList, Row.set, Row.setEntry, Row.empty, score, tags]
    · simp [Predicate.IsWritable, Predicate.compare, Value.IsWritable, Value.isNull]
  have carries : Document.parse? scored.toJson.compact = some (.ofJson scored.toJson) := by
    decide +kernel
  exact ⟨isWritable, carries, ((json_round_trip.1 scored isWritable).2 _ carries).1⟩

end Statement

end NeutralSql
