import NeutralSql.Compile.Context
import NeutralSql.Proofs.Compile.Context
import NeutralSql.Proofs.SqlText.Path

/-!
# Tables in the text of queries

The scan finds in the text of a query its table and every joined one, in every dialect:
`Select.mem_tables_template`. What stands in front of FROM and of each JOIN is quiet if the
expressions of the query are, and what stands behind a table closes its name.
-/

namespace NeutralSql

open SqlText (Denotes IsPath Quiet anchored? closesName occurrences)

/-! ## Texts that close a name -/

namespace SqlText

/-- What a text that closes a name goes on with does not matter. -/
theorem closesName_append {text : List Char} (closes : closesName text = true)
    (someText : text ≠ []) (rest : List Char) : closesName (text ++ rest) = true := by
  match text with
  | [] => contradiction
  | space :: c :: others => exact closes

end SqlText

/-- A template that is empty or begins with a text that closes a name. -/
def Template.Closes (template : Template) : Prop :=
  template = [] ∨ ∃ content rest, template = .text content :: rest ∧ content ≠ "" ∧
    closesName content.toList = true

namespace Template

variable {first second template : Template}

theorem Closes.append (firstCloses : first.Closes) (secondCloses : second.Closes) :
    (first ++ second).Closes := by
  rcases firstCloses with rfl | ⟨content, rest, rfl, someText, closes⟩
  · exact secondCloses
  · exact .inr ⟨content, rest ++ second, rfl, someText, closes⟩

/-- A text that closes a name, with anything behind it. -/
theorem Closes.behind {content : String} (closes : closesName content.toList = true)
    (someText : content ≠ "") (rest : Template) : (text content ++ rest).Closes :=
  .inr ⟨content, rest, rfl, someText, closes⟩

/-- What such a template is written as closes a name. -/
theorem Closes.write (closes : template.Closes) (style : PlaceholderStyle) (bound : Nat) :
    closesName (template.write style bound).toList = true := by
  rcases closes with rfl | ⟨content, rest, rfl, someText, closes⟩
  · rfl
  · rw [Template.write, String.toList_append]
    exact SqlText.closesName_append closes (mt String.toList_eq_nil_iff.1 someText) _

end Template

namespace Clause

/-- Conditions close a name if their keyword does. -/
theorem closes_conditions {keyword : String} (closes : closesName (" " ++ keyword ++ " ").toList = true)
    (predicates : List Predicate) : (conditions keyword predicates).Closes := by
  cases predicates with
  | nil => exact .inl rfl
  | cons first rest =>
    rw [conditions, List.append_assoc]
    exact .behind closes (by simp) _

/-- A listing closes a name if its keyword does. -/
theorem closes_listing {keyword : String} (closes : closesName (" " ++ keyword ++ " ").toList = true)
    (names : List String) : (listing keyword names).Closes := by
  rw [listing]
  split
  · exact .inl rfl
  · refine .inr ⟨_, [], rfl, by simp, ?_⟩
    rw [String.toList_append]
    exact SqlText.closesName_append closes (by simp) _

/-- The clauses that bound the number of rows close a name. -/
theorem closes_pagination (style : LimitStyle) (query : Select) :
    (pagination style query).Closes := by
  cases limit : query.limit with
  | none =>
    simp only [pagination, limit]
    exact .inl rfl
  | some limitCount =>
    cases style with
    | limitOffset =>
      simp only [pagination, limit, List.append_assoc]
      exact .behind (by decide) (by decide) _
    | offsetFetch =>
      simp only [pagination, limit, List.append_assoc]
      refine .append ?_ (.append ?_ (.behind (by decide) (by decide) _))
      · split
        · exact .behind (by decide) (by decide) []
        · exact .inl rfl
      · cases query.offset with
        | none => exact .behind (by decide) (by decide) []
        | some offsetCount => exact .behind (by decide) (by decide) _

end Clause

/-! ## Queries -/

namespace SqlText

/-- Behind quiet text and a space, the scan finds an anchored name and goes on where it is
closed. -/
theorem Quiet.occurrences_anchor {front last path stop : List Char} (quiet : Quiet front)
    (anchor condition : String) (listed : anchor ∈ anchors) (isCondition : condition ∈ conditions)
    (isPath : IsPath last path) (closes : closesName stop = true) (previous : Option Char) :
    ∃ next, occurrences anchored? 0 previous
        (front ++ ' ' :: (anchor.toList ++ ' ' :: (condition.toList ++ (path ++ stop)))) =
      last :: occurrences anchored? 0 next stop := by
  rw [quiet.skip (by decide)]
  exact SqlText.occurrences_anchor listed (by decide) isCondition isPath closes

/-- Quiet texts with commas between them are quiet. -/
theorem quiet_intercalate {contents : List String} (quiet : ∀ content ∈ contents, Quiet content.toList) :
    Quiet (String.intercalate ", " contents).toList := by
  induction contents with
  | nil => exact quiet_nil
  | cons first rest inductionHypothesis =>
    obtain ⟨firstQuiet, restQuiet⟩ := List.forall_mem_cons.1 quiet
    cases rest with
    | nil => rwa [String.intercalate_singleton]
    | cons second others =>
      rw [String.intercalate_cons_of_ne_nil (List.cons_ne_nil _ _), String.append_assoc,
        String.toList_append, String.toList_append]
      exact firstQuiet.join ((inductionHypothesis restQuiet).behind (by decide)) (by decide)

end SqlText

/-- An operator is quiet. -/
theorem Operator.quiet_sql (operator : Operator) : Quiet operator.sql.toList := by
  cases operator <;> exact SqlText.quiet_of_not_infix (by decide)

/-- The keywords of a join are a quiet word and JOIN. -/
theorem JoinKind.exists_sql (kind : JoinKind) :
    ∃ side, kind.sql.toList = side ++ ' ' :: "JOIN".toList ∧ Quiet side ∧
      closesName (' ' :: side) = true := by
  cases kind with
  | inner => exact ⟨"INNER".toList, rfl, SqlText.quiet_of_not_infix (by decide), by decide⟩
  | left => exact ⟨"LEFT".toList, rfl, SqlText.quiet_of_not_infix (by decide), by decide⟩
  | right => exact ⟨"RIGHT".toList, rfl, SqlText.quiet_of_not_infix (by decide), by decide⟩
  | full => exact ⟨"FULL".toList, rfl, SqlText.quiet_of_not_infix (by decide), by decide⟩

namespace Clause

/-- The condition of a join. -/
def joinCondition (join : Join) : String :=
  " ON " ++ join.left ++ " " ++ join.operator.sql ++ " " ++ join.right

/-- A join is a quiet word, JOIN, its table and its condition. -/
theorem exists_toList_join (dialect : Dialect) (join : Join) :
    ∃ side, Quiet side ∧ closesName (' ' :: side) = true ∧
      (Clause.join dialect join).toList = (' ' :: side) ++ ' ' :: ("JOIN".toList ++ ' ' ::
        (join.table.toList ++ (joinCondition join).toList)) := by
  obtain ⟨side, sql, quiet, closes⟩ := (writtenJoin dialect join.kind).exists_sql
  refine ⟨side, quiet, closes, ?_⟩
  simp [Clause.join, joinCondition, sql]

/-- The condition of a join is quiet if its operands are. -/
theorem quiet_joinCondition {join : Join} (left : Quiet join.left.toList)
    (right : Quiet join.right.toList) : Quiet (joinCondition join).toList := by
  have keyword : Quiet " ON".toList := SqlText.quiet_of_not_infix (by decide)
  have shape : (joinCondition join).toList = " ON".toList ++ ' ' ::
      (join.left.toList ++ ' ' :: (join.operator.sql.toList ++ ' ' :: join.right.toList)) := by
    simp [joinCondition]
  rw [shape]
  exact keyword.join (left.join (join.operator.quiet_sql.join right (by decide)) (by decide))
    (by decide)

/-- The condition of a join closes the name of its table. -/
theorem closes_joinCondition (join : Join) (rest : List Char) :
    closesName ((joinCondition join).toList ++ rest) = true := by
  have keyword : closesName " ON ".toList = true := by decide
  simp only [joinCondition, String.toList_append, List.append_assoc]
  exact SqlText.closesName_append keyword (by decide) _

/-- The scan finds the tables of joins one after the other, whatever closes the last one. -/
theorem mem_occurrences_joins (dialect : Dialect) {joins : List Join}
    (named : ∀ join ∈ joins, ∃ table, Denotes join.table table)
    (quiet : ∀ join ∈ joins, Quiet join.left.toList ∧ Quiet join.right.toList) {rest : List Char}
    (closes : closesName rest = true) :
    closesName ((String.join (joins.map (Clause.join dialect))).toList ++ rest) = true ∧
      ∀ previous, ∀ join ∈ joins, ∀ last, IsPath last join.table.toList →
        last ∈ occurrences anchored? 0 previous
          ((String.join (joins.map (Clause.join dialect))).toList ++ rest) := by
  induction joins with
  | nil => exact ⟨closes, fun _ join listed => absurd listed List.not_mem_nil⟩
  | cons first others inductionHypothesis =>
    obtain ⟨⟨table, firstLast, firstPath, -⟩, othersNamed⟩ := List.forall_mem_cons.1 named
    obtain ⟨⟨left, right⟩, othersQuiet⟩ := List.forall_mem_cons.1 quiet
    obtain ⟨othersClose, othersFound⟩ := inductionHypothesis othersNamed othersQuiet
    obtain ⟨side, sideQuiet, sideCloses, text⟩ := exists_toList_join dialect first
    rw [List.map_cons, String.join_cons, String.toList_append, text]
    refine ⟨?_, fun previous join listed last isPath => ?_⟩
    · rw [List.append_assoc, List.append_assoc]
      exact SqlText.closesName_append sideCloses (List.cons_ne_nil _ _) _
    · have frontQuiet : Quiet (' ' :: side) := sideQuiet.behind (by decide)
      have scanned (last : List Char) (isPath : IsPath last first.table.toList) :=
        frontQuiet.occurrences_anchor "JOIN" "" (by decide) (by decide) isPath
          (closes_joinCondition first
            ((String.join (others.map (Clause.join dialect))).toList ++ rest)) previous
      have shape : (' ' :: side) ++ ' ' :: ("JOIN".toList ++ ' ' ::
          (first.table.toList ++ (joinCondition first).toList)) ++
            (String.join (others.map (Clause.join dialect))).toList ++ rest =
          (' ' :: side) ++ ' ' :: ("JOIN".toList ++ ' ' :: ("".toList ++ (first.table.toList ++
            ((joinCondition first).toList ++
              ((String.join (others.map (Clause.join dialect))).toList ++ rest))))) := by
        simp
      rw [shape]
      rcases List.mem_cons.1 listed with rfl | isOther
      · obtain ⟨next, found⟩ := scanned last isPath
        rw [found]
        exact List.mem_cons_self
      · obtain ⟨next, found⟩ := scanned firstLast firstPath
        rw [found, (quiet_joinCondition left right).pass (SqlText.wordHasEnded_of_closes othersClose)]
        exact List.mem_cons_of_mem _ (othersFound _ join isOther last isPath)

end Clause

namespace Select

/-- The tables of a query: its own and the joined ones. -/
def tableNames (query : Select) : List String :=
  query.table :: query.joins.map Join.table

/-- The expressions of a query that are written in front of or between its tables: what it
selects and the operands of its joins. -/
def expressions (query : Select) : List String :=
  query.columns ++ query.joins.flatMap fun join => [join.left, join.right]

/-- What a query selects. -/
def columnText (query : Select) : String :=
  if query.columns.isEmpty then "*" else String.intercalate ", " query.columns

/-- What a query writes in front of FROM. -/
def selection (query : Select) : String :=
  "SELECT" ++ (if query.distinct then " DISTINCT " else " ") ++ query.columnText

/-- The text up to the joins is the selection, FROM, the table and the joins. -/
theorem toList_head (dialect : Dialect) (query : Select) :
    (query.head dialect).toList = query.selection.toList ++ ' ' :: ("FROM".toList ++ ' ' ::
      (query.table.toList ++ (String.join (query.joins.map (Clause.join dialect))).toList)) := by
  cases distinct : query.distinct <;> simp [head, selection, columnText, distinct]

/-- A selection of quiet columns is quiet. -/
theorem quiet_selection {query : Select} (quiet : ∀ column ∈ query.columns, Quiet column.toList) :
    Quiet query.selection.toList := by
  have select : Quiet "SELECT".toList := SqlText.quiet_of_not_infix (by decide)
  have selectDistinct : Quiet "SELECT DISTINCT".toList := SqlText.quiet_of_not_infix (by decide)
  have columns : Quiet query.columnText.toList := by
    rw [columnText]
    split
    · exact SqlText.quiet_of_not_infix (by decide)
    · exact SqlText.quiet_intercalate quiet
  cases distinct : query.distinct with
  | true =>
    have shape : query.selection.toList =
        "SELECT DISTINCT".toList ++ ' ' :: query.columnText.toList := by
      simp [selection, distinct]
    rw [shape]
    exact selectDistinct.join columns (by decide)
  | false =>
    have shape : query.selection.toList = "SELECT".toList ++ ' ' :: query.columnText.toList := by
      simp [selection, distinct]
    rw [shape]
    exact select.join columns (by decide)

/-- The clauses behind the joins. -/
def clauses (dialect : Dialect) (query : Select) : Template :=
  Clause.conditions "WHERE" query.filters ++ (Clause.listing "GROUP BY" query.groupBy ++
    (Clause.conditions "HAVING" query.having ++
      (Clause.listing "ORDER BY" (query.orderBy.map Clause.order) ++
        Clause.pagination dialect.capabilities.limitStyle query)))

/-- The clauses behind the joins close a name. -/
theorem closes_clauses (dialect : Dialect) (query : Select) : (query.clauses dialect).Closes :=
  .append (Clause.closes_conditions (by decide) _)
    (.append (Clause.closes_listing (by decide) _)
      (.append (Clause.closes_conditions (by decide) _)
        (.append (Clause.closes_listing (by decide) _) (Clause.closes_pagination _ query))))

/-- A query is its text up to the joins and the clauses behind them. -/
theorem write_template (dialect : Dialect) (query : Select) (style : PlaceholderStyle) :
    (query.template dialect).write style 0 =
      query.head dialect ++ (query.clauses dialect).write style 0 := by
  rw [template, clauses]
  simp only [List.append_assoc]
  rfl

/-- In the text of a query the scan finds the table of the query and all joined ones. -/
theorem mem_tables_template {dialect : Dialect} {query : Select} (style : PlaceholderStyle)
    (named : ∀ name ∈ query.tableNames, ∃ table, Denotes name table)
    (quiet : ∀ expression ∈ query.expressions, Quiet expression.toList) {name table : String}
    (listed : name ∈ query.tableNames) (denotes : Denotes name table) :
    table ∈ SqlText.tables ((query.template dialect).write style 0) := by
  have columnsQuiet : ∀ column ∈ query.columns, Quiet column.toList := fun column isColumn =>
    quiet column (List.mem_append_left _ isColumn)
  have joinsQuiet : ∀ join ∈ query.joins, Quiet join.left.toList ∧ Quiet join.right.toList := by
    intro join isJoin
    have operands := fun operand isOperand => quiet operand
      (List.mem_append_right _ (List.mem_flatMap.2 ⟨join, isJoin, isOperand⟩))
    exact ⟨operands join.left (by simp), operands join.right (by simp)⟩
  obtain ⟨⟨own, ownLast, ownPath, -⟩, joinsNamed⟩ := List.forall_mem_cons.1 named
  have closes := (query.closes_clauses dialect).write style 0
  obtain ⟨joinsClose, joinsFound⟩ := Clause.mem_occurrences_joins dialect
    (fun join isJoin => joinsNamed join.table (List.mem_map_of_mem isJoin)) joinsQuiet closes
  have scanned (last : List Char) (isPath : IsPath last query.table.toList) :=
    (quiet_selection columnsQuiet).occurrences_anchor "FROM" "" (by decide) (by decide) isPath
      joinsClose none
  have shape : ((query.template dialect).write style 0).toList =
      query.selection.toList ++ ' ' :: ("FROM".toList ++ ' ' :: ("".toList ++ (query.table.toList ++
        ((String.join (query.joins.map (Clause.join dialect))).toList ++
          ((query.clauses dialect).write style 0).toList)))) := by
    rw [write_template, String.toList_append, toList_head]
    simp
  refine SqlText.mem_tables_of_occurrence denotes fun last isPath => ?_
  rw [shape]
  rcases List.mem_cons.1 listed with rfl | isJoined
  · obtain ⟨next, found⟩ := scanned last isPath
    rw [found]
    exact List.mem_cons_self
  · obtain ⟨join, isJoin, rfl⟩ := List.mem_map.1 isJoined
    obtain ⟨next, found⟩ := scanned ownLast ownPath
    rw [found]
    exact List.mem_cons_of_mem _ (joinsFound next join isJoin last isPath)

end Select

end NeutralSql
