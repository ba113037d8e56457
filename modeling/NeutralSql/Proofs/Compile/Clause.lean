import Mathlib.Algebra.Group.Nat.Defs
import NeutralSql.Compile.Clause
import NeutralSql.Proofs.Compile.Placeholder

/-!
# The slots of clauses

Of each clause that statements share: which values it binds, that its text never runs on
behind a placeholder, and that it has a mark only where one of its names has it.
-/

namespace NeutralSql

open PlaceholderStyle (space_breaks)
open Template (text slot separated IsClause IsGuarded)

/-- A count as a signed integer; a count beyond the signed range becomes its largest one. -/
def saturated (count : UInt64) : Int64 :=
  if count.toNat < 2 ^ 63 then Int64.ofNat count.toNat else Int64.maxValue

/-- A count is bound saturated. -/
theorem Value.ofCount_eq (count : UInt64) : Value.ofCount count = .integer (saturated count) := by
  have largest : Int64.maxValue.toNatClampNeg = 2 ^ 63 - 1 := by decide
  rw [Value.ofCount, saturated, largest]
  split
  · rename_i small
    rw [Nat.min_eq_left (Nat.le_sub_one_of_lt small)]
  · rename_i large
    rw [Nat.min_eq_right (Nat.le_of_lt (by omega))]
    rfl

/-- The values that conditions bind: those that are present, unless their operator is IS or
IS NOT. -/
def Clause.bound (predicates : List Predicate) : List Value :=
  (predicates.filter fun predicate =>
    predicate.operator ≠ .is && predicate.operator ≠ .isNot).filterMap Predicate.value

/-- The counts that bound the rows of a query, in the order of their placeholders. -/
def Select.counts (dialect : Dialect) (query : Select) : List UInt64 :=
  match query.limit with
  | none => []
  | some limit =>
    if dialect = .mssql then query.offset.toList ++ [limit] else limit :: query.offset.toList

namespace Predicate

/-- A condition has a slot for the value that it binds. -/
theorem values_template (predicate : Predicate) :
    predicate.template.values = Clause.bound [predicate] := by
  have slotted : predicate.template.values = predicate.bound?.toList := by
    rw [template, Template.values_append, Template.values_text, List.nil_append]
    cases predicate.bound? <;> rfl
  rw [slotted]
  obtain ⟨column, operator, value, connective⟩ := predicate
  cases operator <;> cases value <;> rfl

/-- Nothing runs on behind the placeholder of a condition. -/
theorem isGuarded_template (predicate : Predicate) : predicate.template.IsGuarded := by
  rw [template]
  cases predicate.bound? with
  | none => exact trivial
  | some value => exact Template.isGuarded_slot value

/-- A condition may follow another one. -/
theorem isClause_continuation (predicate : Predicate) : predicate.continuation.IsClause :=
  .behind (by simp) space_breaks predicate.isGuarded_template

end Predicate

namespace Clause

/-- Conditions bind their values in order. -/
theorem bound_cons (first : Predicate) (rest : List Predicate) :
    bound (first :: rest) = bound [first] ++ bound rest := by
  rw [bound, bound, bound, ← List.filterMap_append, ← List.filter_append, List.singleton_append]

theorem values_continuations (predicates : List Predicate) :
    Template.values (predicates.flatMap Predicate.continuation) = bound predicates := by
  induction predicates with
  | nil => rfl
  | cons first rest inductionHypothesis =>
    rw [List.flatMap_cons, Template.values_append, inductionHypothesis, Predicate.continuation,
      Template.values_append, Predicate.values_template, bound_cons first rest]
    rfl

/-- A clause of conditions binds their values in order. -/
theorem values_conditions (keyword : String) (predicates : List Predicate) :
    (conditions keyword predicates).values = bound predicates := by
  cases predicates with
  | nil => rfl
  | cons first rest =>
    rw [conditions, Template.values_append, Template.values_append, values_continuations,
      Predicate.values_template, bound_cons first rest]
    rfl

/-- Names are not bound. -/
theorem values_listing (keyword : String) (names : List String) :
    (listing keyword names).values = [] := by
  rw [listing]
  split <;> rfl

/-- The clauses that bound the number of rows bind their counts. -/
theorem values_pagination (dialect : Dialect) (query : Select) :
    (pagination dialect.capabilities.limitStyle query).values =
      (query.counts dialect).map fun count => .integer (saturated count) := by
  cases limit : query.limit with
  | none => simp [pagination, Select.counts, limit]
  | some limitCount =>
    cases offset : query.offset with
    | none =>
      cases dialect <;> cases order : query.orderBy <;>
        simp [pagination, Select.counts, limit, offset, order, Dialect.capabilities,
          Value.ofCount_eq]
    | some offsetCount =>
      cases dialect <;> cases order : query.orderBy <;>
        simp [pagination, Select.counts, limit, offset, order, Dialect.capabilities,
          Value.ofCount_eq]

theorem isClause_conditions (keyword : String) (predicates : List Predicate) :
    (conditions keyword predicates).IsClause := by
  cases predicates with
  | nil => exact .nil
  | cons first rest =>
    refine IsClause.append ?_ (.flatMap rest fun predicate _ => predicate.isClause_continuation)
    exact .behind (by simp) space_breaks first.isGuarded_template

theorem isClause_listing (keyword : String) (names : List String) :
    (listing keyword names).IsClause := by
  rw [listing]
  split
  · exact .nil
  · exact Template.isClause_text (by simp) space_breaks

theorem isClause_pagination (style : LimitStyle) (query : Select) :
    (pagination style query).IsClause := by
  cases limit : query.limit with
  | none =>
    simp only [pagination, limit]
    exact .nil
  | some limitCount =>
    cases style with
    | limitOffset =>
      simp only [pagination, limit, List.append_assoc]
      refine .behind rfl space_breaks (IsClause.behindSlot ?_ _)
      cases query.offset with
      | none => exact .nil
      | some offsetCount => exact .behind rfl space_breaks (IsClause.nil.behindSlot _)
    | offsetFetch =>
      simp only [pagination, limit, List.append_assoc]
      refine .append ?_ (.append ?_ ?_)
      · split
        · exact Template.isClause_text rfl space_breaks
        · exact .nil
      · cases query.offset with
        | none => exact Template.isClause_text rfl space_breaks
        | some offsetCount =>
          exact .behind rfl space_breaks
            ((Template.isClause_text rfl space_breaks).behindSlot _)
      · exact .behind rfl space_breaks ((Template.isClause_text rfl space_breaks).behindSlot _)

end Clause

/-- The mark of a dialect does not occur in a text. -/
def Dialect.Spares (dialect : Dialect) (content : String) : Prop :=
  dialect.capabilities.placeholder.mark ∉ content.toList

section Spares

variable {dialect : Dialect}

theorem spares_append {first second : String} :
    dialect.Spares (first ++ second) ↔ dialect.Spares first ∧ dialect.Spares second := by
  simp [Dialect.Spares]

theorem spares_join {contents : List String} :
    dialect.Spares (String.join contents) ↔ ∀ content ∈ contents, dialect.Spares content := by
  simp [Dialect.Spares, String.toList_join]

/-- A text without any mark spares the mark of every dialect. -/
theorem spares_of_plain {content : String}
    (plain : content.toList.all fun c => c ∉ ['?', '$', '@']) : dialect.Spares content := by
  intro isMark
  have notMark := List.all_eq_true.1 plain _ isMark
  cases dialect <;> contradiction

/-- A text without the mark makes a template without it. -/
theorem spares_text {content : String} (spared : dialect.Spares content) :
    (text content).Spares dialect.capabilities.placeholder.mark :=
  Template.spares_text.2 spared

/-- So does a text without any mark. -/
theorem spares_literal {content : String}
    (plain : content.toList.all fun c => c ∉ ['?', '$', '@']) :
    (text content).Spares dialect.capabilities.placeholder.mark :=
  spares_text (spares_of_plain plain)

theorem spares_space : dialect.Spares " " :=
  spares_of_plain (by decide)

theorem spares_comma : dialect.Spares ", " :=
  spares_of_plain (by decide)

/-- Texts with a plain separator between them spare a mark if each of them does. -/
theorem spares_intercalate {separator : String} (spared : dialect.Spares separator)
    {contents : List String} (areSpared : ∀ content ∈ contents, dialect.Spares content) :
    dialect.Spares (String.intercalate separator contents) := by
  induction contents with
  | nil =>
    rw [String.intercalate_nil]
    exact spares_of_plain (by decide)
  | cons first rest inductionHypothesis =>
    rw [List.forall_mem_cons] at areSpared
    cases rest with
    | nil =>
      rw [String.intercalate_singleton]
      exact areSpared.1
    | cons second others =>
      rw [String.intercalate_cons_of_ne_nil (List.cons_ne_nil _ _), spares_append, spares_append]
      exact ⟨⟨areSpared.1, spared⟩, inductionHypothesis areSpared.2⟩

theorem spares_operator (operator : Operator) : dialect.Spares operator.sql := by
  cases operator <;> exact spares_of_plain (by decide)

theorem spares_connective (connective : Connective) : dialect.Spares connective.sql := by
  cases connective <;> exact spares_of_plain (by decide)

theorem spares_joinKind (kind : JoinKind) : dialect.Spares kind.sql := by
  cases kind <;> exact spares_of_plain (by decide)

theorem spares_direction (direction : SortDirection) : dialect.Spares direction.sql := by
  cases direction <;> exact spares_of_plain (by decide)

/-- The text of a condition has a mark only where its column has one. -/
theorem Predicate.spares_template {predicate : Predicate}
    (spared : dialect.Spares predicate.column) :
    predicate.template.Spares dialect.capabilities.placeholder.mark := by
  rw [template, Template.spares_append, Template.spares_text]
  constructor
  · exact spares_append.2 ⟨spares_append.2 ⟨spares_append.2 ⟨spared, spares_space⟩,
      spares_operator _⟩, spares_space⟩
  · cases predicate.bound? with
    | none => exact spares_literal (by decide)
    | some value => exact Template.spares_slot _ value

/-- The text of conditions has a mark only where a column has one. -/
theorem Clause.spares_conditions {keyword : String} (plain : dialect.Spares keyword)
    {predicates : List Predicate}
    (spared : ∀ predicate ∈ predicates, dialect.Spares predicate.column) :
    (conditions keyword predicates).Spares dialect.capabilities.placeholder.mark := by
  cases predicates with
  | nil => exact Template.spares_nil _
  | cons first rest =>
    rw [List.forall_mem_cons] at spared
    rw [conditions, Template.spares_append, Template.spares_append, Template.spares_text,
      Template.spares_flatMap]
    refine ⟨⟨?_, Predicate.spares_template spared.1⟩, fun predicate listed => ?_⟩
    · exact spares_append.2 ⟨spares_append.2 ⟨spares_space, plain⟩, spares_space⟩
    · rw [Predicate.continuation, Template.spares_append, Template.spares_text]
      refine ⟨?_, Predicate.spares_template (spared.2 predicate listed)⟩
      exact spares_append.2 ⟨spares_append.2 ⟨spares_space, spares_connective _⟩, spares_space⟩

/-- The text of a listing has a mark only where a name has one. -/
theorem Clause.spares_listing {keyword : String} (plain : dialect.Spares keyword)
    {names : List String} (spared : ∀ name ∈ names, dialect.Spares name) :
    (listing keyword names).Spares dialect.capabilities.placeholder.mark := by
  rw [listing]
  split
  · exact Template.spares_nil _
  · refine spares_text (spares_append.2 ⟨?_, ?_⟩)
    · exact spares_append.2 ⟨spares_append.2 ⟨spares_space, plain⟩, spares_space⟩
    · exact spares_intercalate spares_comma spared

/-- The text of a joined table has a mark only where a name of it has one. -/
theorem Clause.spares_join {joined : Join} (table : dialect.Spares joined.table)
    (left : dialect.Spares joined.left) (right : dialect.Spares joined.right) :
    dialect.Spares (Clause.join dialect joined) := by
  have on : dialect.Spares " ON " := spares_of_plain (by decide)
  simp only [Clause.join, spares_append]
  simp only [spares_space, on, table, left, right, spares_joinKind, spares_operator, and_self]

/-- The text of a sort key has a mark only where its column has one. -/
theorem Clause.spares_order {term : OrderTerm} (spared : dialect.Spares term.column) :
    dialect.Spares (Clause.order term) := by
  simp only [Clause.order, spares_append, spares_space, spared, spares_direction, and_self]

/-- The clauses that bound the number of rows have no marks. -/
theorem Clause.spares_pagination (style : LimitStyle) (query : Select) :
    (pagination style query).Spares dialect.capabilities.placeholder.mark := by
  cases limit : query.limit with
  | none =>
    simp only [pagination, limit]
    exact Template.spares_nil _
  | some limitCount =>
    cases style with
    | limitOffset =>
      simp only [pagination, limit, Template.spares_append]
      refine ⟨⟨spares_literal (by decide), Template.spares_slot _ _⟩, ?_⟩
      cases query.offset with
      | none => exact Template.spares_nil _
      | some offsetCount =>
        exact Template.spares_append.2 ⟨spares_literal (by decide), Template.spares_slot _ _⟩
    | offsetFetch =>
      simp only [pagination, limit, Template.spares_append]
      have closing : (text " ROWS ONLY").Spares dialect.capabilities.placeholder.mark :=
        spares_literal (by decide)
      refine ⟨⟨⟨⟨?_, ?_⟩, spares_literal (by decide)⟩, Template.spares_slot _ _⟩, closing⟩
      · split
        · exact spares_literal (by decide)
        · exact Template.spares_nil _
      · cases query.offset with
        | none => exact spares_literal (by decide)
        | some offsetCount =>
          refine Template.spares_append.2 ⟨Template.spares_append.2 ⟨?_, ?_⟩, ?_⟩
          · exact spares_literal (by decide)
          · exact Template.spares_slot _ _
          · exact spares_literal (by decide)

end Spares

end NeutralSql
