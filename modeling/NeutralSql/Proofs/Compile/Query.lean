import NeutralSql.Compile.Query
import NeutralSql.Proofs.Compile.Clause

/-!
# The slots of statements on rows

For SELECT, INSERT, UPDATE and DELETE: the values that the statement itself says it binds are
those of its template, nothing runs on behind their placeholders, and the template has a mark
only where one of the statement's names has it.
-/

namespace NeutralSql

open PlaceholderStyle (space_breaks)
open Template (text slot separated IsClause IsGuarded)

namespace Select

/-- The values that a query binds. -/
def bound (dialect : Dialect) (query : Select) : List Value :=
  Clause.bound query.filters ++ Clause.bound query.having ++
    (query.counts dialect).map fun count => .integer (saturated count)

/-- The names and expressions of a query. -/
def names (query : Select) : List String :=
  query.table :: query.columns ++
    query.joins.flatMap (fun join => [join.table, join.left, join.right]) ++
    query.filters.map Predicate.column ++ query.groupBy ++ query.having.map Predicate.column ++
    query.orderBy.map OrderTerm.column

theorem values_template (dialect : Dialect) (query : Select) :
    (query.template dialect).values = query.bound dialect := by
  simp [template, bound, Clause.values_conditions, Clause.values_listing,
    Clause.values_pagination]

theorem isGuarded_template (dialect : Dialect) (query : Select) :
    (query.template dialect).IsGuarded := by
  have clauses := (Clause.isClause_conditions "WHERE" query.filters).append
    ((Clause.isClause_listing "GROUP BY" query.groupBy).append
      ((Clause.isClause_conditions "HAVING" query.having).append
        ((Clause.isClause_listing "ORDER BY" (query.orderBy.map Clause.order)).append
          (Clause.isClause_pagination dialect.capabilities.limitStyle query))))
  rw [template]
  simp only [List.append_assoc]
  exact clauses.guarded

/-- The text of a query has a mark only where one of its names has one. -/
theorem spares_template {dialect : Dialect} {query : Select}
    (spared : ∀ name ∈ query.names, dialect.Spares name) :
    (query.template dialect).Spares dialect.capabilities.placeholder.mark := by
  simp only [names, List.cons_append, List.forall_mem_cons, List.forall_mem_append,
    List.forall_mem_map, List.forall_mem_flatMap] at spared
  obtain ⟨table, ⟨⟨⟨⟨columns, joins⟩, filters⟩, groupBy⟩, having⟩, orderBy⟩ := spared
  have head : dialect.Spares (query.head dialect) := by
    simp only [head, spares_append, spares_join, List.forall_mem_map]
    refine ⟨⟨⟨⟨⟨spares_of_plain (by decide), ?_⟩, ?_⟩, spares_of_plain (by decide)⟩, table⟩, ?_⟩
    · split <;> exact spares_of_plain (by decide)
    · split
      · exact spares_of_plain (by decide)
      · exact spares_intercalate spares_comma columns
    · intro join listed
      obtain ⟨joined, left, right, -⟩ := joins join listed
      exact Clause.spares_join joined left right
  have order : ∀ key ∈ query.orderBy.map Clause.order, dialect.Spares key :=
    List.forall_mem_map.2 fun term listed => Clause.spares_order (orderBy term listed)
  simp only [template, Template.spares_append]
  refine ⟨⟨⟨⟨⟨spares_text head, ?_⟩, ?_⟩, ?_⟩, ?_⟩, Clause.spares_pagination _ _⟩
  · exact Clause.spares_conditions (spares_of_plain (by decide)) filters
  · exact Clause.spares_listing (spares_of_plain (by decide)) groupBy
  · exact Clause.spares_conditions (spares_of_plain (by decide)) having
  · exact Clause.spares_listing (spares_of_plain (by decide)) order

/-- A plan of a query finishes its template. -/
theorem plan_eq {dialect : Dialect} {query : Select} {plan : Plan}
    (planned : query.plan dialect = .ok plan) :
    plan = .single (query.joinNotes dialect ++ Clause.paginationNotes query)
      (query.template dialect) := by
  rw [Select.plan] at planned
  split at planned
  · contradiction
  · contradiction
  · exact (Except.ok.inj planned).symm

end Select

namespace Insert

/-- The columns of the first row. -/
def columns (insertion : Insert) : List String :=
  match insertion.rows with
  | [] => []
  | first :: _ => first.columns

/-- The values that an insertion binds, row by row in the order of the first row's columns. -/
def bound (insertion : Insert) : List Value :=
  insertion.rows.flatMap fun row => insertion.columns.filterMap row.get?

/-- The names of an insertion. -/
def names (insertion : Insert) : List String :=
  insertion.table :: insertion.rows.flatMap Row.columns

/-- A row with a value for each column binds these values in the order of the columns. -/
theorem values_rowTemplate {columns : List String} {row : Row}
    (present : ∀ column ∈ columns, (row.get? column).isSome) :
    (rowTemplate columns row).values = columns.filterMap row.get? := by
  have slots : columns.flatMap (fun column => [Value.ofOption (row.get? column)]) =
      columns.filterMap row.get? := by
    induction columns with
    | nil => rfl
    | cons first rest inductionHypothesis =>
      rw [List.forall_mem_cons] at present
      obtain ⟨value, found⟩ := Option.isSome_iff_exists.1 present.1
      rw [List.flatMap_cons, inductionHypothesis present.2, List.filterMap_cons_some found, found]
      rfl
  rw [rowTemplate, Template.values_append, Template.values_append, Template.values_separated,
    List.flatMap_map]
  exact (List.append_nil _).trans slots

theorem isGuarded_rowTemplate (columns : List String) (row : Row) :
    (rowTemplate columns row).IsGuarded := by
  have slots : (separated ", " (columns.map fun column =>
      slot (.ofOption (row.get? column)))).IsGuarded := by
    refine Template.isGuarded_separated rfl (by decide) (List.forall_mem_map.2 fun column _ => ?_)
    exact Template.isGuarded_slot _
  have closing : (text ")").IsClause := Template.isClause_text rfl (by decide)
  rw [rowTemplate]
  exact IsGuarded.append slots closing.breaks closing.guarded

/-- The text of a row has no marks. -/
theorem spares_rowTemplate {dialect : Dialect} (columns : List String) (row : Row) :
    (rowTemplate columns row).Spares dialect.capabilities.placeholder.mark := by
  simp only [rowTemplate, Template.spares_append]
  refine ⟨⟨spares_literal (by decide), ?_⟩, spares_literal (by decide)⟩
  exact Template.spares_separated spares_comma
    (List.forall_mem_map.2 fun column _ => Template.spares_slot _ _)

/-- Nothing runs on behind the placeholders of an insertion. -/
theorem isGuarded_template (dialect : Dialect) (insertion : Insert) (columns : List String) :
    (insertion.template dialect columns).IsGuarded := by
  have rows : (separated ", " (insertion.rows.map (rowTemplate columns))).IsGuarded :=
    Template.isGuarded_separated rfl (by decide)
      (List.forall_mem_map.2 fun row _ => isGuarded_rowTemplate columns row)
  have closing : Template.IsClause
      (if dialect.capabilities.returning = .returning then text " RETURNING *" else []) := by
    split
    · exact Template.isClause_text rfl space_breaks
    · exact .nil
  exact IsGuarded.append rows closing.breaks closing.guarded

/-- An insertion binds the values of its rows. -/
theorem values_template (dialect : Dialect) {insertion : Insert}
    (present : ∀ row ∈ insertion.rows, ∀ column ∈ insertion.columns, (row.get? column).isSome) :
    (insertion.template dialect insertion.columns).values = insertion.bound := by
  have rows : (insertion.rows.flatMap fun row => (rowTemplate insertion.columns row).values) =
      insertion.bound := by
    rw [bound, List.flatMap_def, List.flatMap_def]
    exact congrArg List.flatten
      (List.map_congr_left fun row listed => values_rowTemplate (present row listed))
  have closing : Template.values
      (if dialect.capabilities.returning = .returning then text " RETURNING *" else []) = [] := by
    split <;> rfl
  rw [template, Template.values_append, Template.values_append, Template.values_separated,
    List.flatMap_map, rows, closing, List.append_nil]
  rfl

/-- The text of an insertion has a mark only where one of its names has one. -/
theorem spares_template {dialect : Dialect} {insertion : Insert}
    (spared : ∀ name ∈ insertion.names, dialect.Spares name) :
    (insertion.template dialect insertion.columns).Spares
      dialect.capabilities.placeholder.mark := by
  rw [names, List.forall_mem_cons, List.forall_mem_flatMap] at spared
  obtain ⟨table, rowColumns⟩ := spared
  have columns : ∀ column ∈ insertion.columns, dialect.Spares column := by
    intro column listed
    rw [Insert.columns] at listed
    split at listed
    · contradiction
    · rename_i first others rows
      exact rowColumns first (rows ▸ List.mem_cons_self) column listed
  simp only [template, Template.spares_append]
  refine ⟨⟨?_, ?_⟩, ?_⟩
  · refine spares_text ?_
    have lead : dialect.Spares ("INSERT INTO " ++ insertion.table ++ " (" ++
        String.intercalate ", " insertion.columns ++ ")") := by
      simp only [spares_append]
      exact ⟨⟨⟨⟨spares_of_plain (by decide), table⟩, spares_of_plain (by decide)⟩,
        spares_intercalate spares_comma columns⟩, spares_of_plain (by decide)⟩
    refine spares_append.2 ⟨spares_append.2 ⟨lead, ?_⟩, spares_of_plain (by decide)⟩
    split <;> exact spares_of_plain (by decide)
  · exact Template.spares_separated spares_comma
      (List.forall_mem_map.2 fun row _ => spares_rowTemplate _ row)
  · split
    · exact spares_literal (by decide)
    · exact Template.spares_nil _

/-- A plan of an insertion finishes its template, and every row has the columns of the
first. -/
theorem plan_eq {dialect : Dialect} {insertion : Insert} {plan : Plan}
    (planned : insertion.plan dialect = .ok plan) :
    plan = .single [] (insertion.template dialect insertion.columns) ∧
      ∀ row ∈ insertion.rows, ∀ column ∈ insertion.columns, (row.get? column).isSome := by
  rw [Insert.plan] at planned
  rw [columns]
  split at planned
  · contradiction
  · rename_i first others rows
    rw [rows]
    split at planned
    · contradiction
    · split at planned
      · contradiction
      · rename_i allFit
        refine ⟨(Except.ok.inj planned).symm, List.forall_mem_cons.2 ⟨?_, ?_⟩⟩
        · intro column listed
          obtain ⟨entry, isEntry, rfl⟩ := List.mem_map.1 listed
          exact List.lookup_isSome_iff.2 ⟨entry, isEntry, beq_self_eq_true _⟩
        · intro row isOther column listed
          have fits := List.findIdx?_eq_none_iff.1 allFit row isOther
          rw [Bool.not_eq_false', Insert.fits, Bool.and_eq_true, List.all_eq_true] at fits
          exact fits.2 column listed

end Insert

namespace Update

/-- The values that an update binds. -/
def bound (update : Update) : List Value :=
  update.assignments.values ++ Clause.bound update.filters

/-- The names of an update. -/
def names (update : Update) : List String :=
  update.table :: update.assignments.columns ++ update.filters.map Predicate.column

theorem values_head (update : Update) : update.head.values = update.assignments.values := by
  rw [head, Template.values_append, Template.values_separated, List.flatMap_map]
  exact List.map_eq_flatMap.symm

theorem isGuarded_head (update : Update) : update.head.IsGuarded := by
  refine Template.isGuarded_separated rfl (by decide) (List.forall_mem_map.2 fun entry _ => ?_)
  exact Template.isGuarded_slot entry.2

/-- The text of an update has a mark only where one of its names has one. -/
theorem spares_template {dialect : Dialect} {update : Update}
    (spared : ∀ name ∈ update.names, dialect.Spares name) :
    Template.Spares dialect.capabilities.placeholder.mark
      (update.head ++ Clause.conditions "WHERE" update.filters) := by
  simp only [names, List.cons_append, List.forall_mem_cons, List.forall_mem_append,
    List.forall_mem_map] at spared
  obtain ⟨table, columns, filters⟩ := spared
  rw [head, Template.spares_append, Template.spares_append]
  refine ⟨⟨?_, ?_⟩, Clause.spares_conditions (spares_of_plain (by decide)) filters⟩
  · refine spares_text (spares_append.2 ⟨spares_append.2 ⟨?_, table⟩, ?_⟩)
    · exact spares_of_plain (by decide)
    · exact spares_of_plain (by decide)
  · refine Template.spares_separated spares_comma (List.forall_mem_map.2 fun entry listed => ?_)
    have column := columns entry.1 (List.mem_map_of_mem listed)
    refine Template.spares_append.2 ⟨spares_text ?_, Template.spares_slot _ _⟩
    exact spares_append.2 ⟨column, spares_of_plain (by decide)⟩

/-- A plan of an update finishes its assignments and conditions. -/
theorem plan_eq {update : Update} {plan : Plan} (planned : update.plan = .ok plan) :
    plan = .single [] (update.head ++ Clause.conditions "WHERE" update.filters) := by
  rw [Update.plan] at planned
  split at planned
  · contradiction
  · split at planned
    · contradiction
    · exact (Except.ok.inj planned).symm

end Update

namespace Delete

/-- The names of a deletion. -/
def names (deletion : Delete) : List String :=
  deletion.table :: deletion.filters.map Predicate.column

/-- The text of a deletion has a mark only where one of its names has one. -/
theorem spares_template {dialect : Dialect} {deletion : Delete}
    (spared : ∀ name ∈ deletion.names, dialect.Spares name) :
    Template.Spares dialect.capabilities.placeholder.mark
      (text ("DELETE FROM " ++ deletion.table) ++
        Clause.conditions "WHERE" deletion.filters) := by
  rw [names, List.forall_mem_cons, List.forall_mem_map] at spared
  obtain ⟨table, filters⟩ := spared
  refine Template.spares_append.2
    ⟨?_, Clause.spares_conditions (spares_of_plain (by decide)) filters⟩
  exact spares_text (spares_append.2 ⟨spares_of_plain (by decide), table⟩)

/-- A plan of a deletion finishes its conditions. -/
theorem plan_eq {deletion : Delete} {plan : Plan} (planned : deletion.plan = .ok plan) :
    plan = .single []
      (text ("DELETE FROM " ++ deletion.table) ++
        Clause.conditions "WHERE" deletion.filters) := by
  rw [Delete.plan] at planned
  split at planned
  · contradiction
  · exact (Except.ok.inj planned).symm

end Delete

end NeutralSql
