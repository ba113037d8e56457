import NeutralSql.Proofs.Compile.Definition
import NeutralSql.Proofs.Compile.Query

/-!
# Downgrades as a rewriting of statements

Everything that a dialect cannot express can be taken out of a statement before it is
compiled. `Statement.downgraded` does so without looking at any text, and
`Statement.differences` lists what has changed, one diagnostic for each place.
`compile_downgraded` says that nothing else is lost on the way and nothing else is reported:
the rewritten statement compiles to the same texts and values in silence, and the diagnostics
of the original are exactly the differences.
-/

namespace NeutralSql

/-- A dialect has a kind of join. -/
def Dialect.hasJoin (dialect : Dialect) : JoinKind → Bool
  | .right => dialect.supports .rightJoin
  | .full => dialect.supports .fullJoin
  | _ => true

/-- A join as a dialect can express it: a left join in place of one that it lacks. -/
def Join.downgraded (dialect : Dialect) (join : Join) : Join :=
  { join with kind := if dialect.hasJoin join.kind then join.kind else .left }

/-- A query as a dialect can express it. An offset means nothing without a limit. -/
def Select.downgraded (dialect : Dialect) (query : Select) : Select :=
  { query with
    joins := query.joins.map (Join.downgraded dialect)
    offset := if query.limit.isNone then none else query.offset }

/-- A column that does not number its rows. -/
def ColumnDefinition.unnumbered (column : ColumnDefinition) : ColumnDefinition :=
  { column with autoIncrement := false }

/-- A column of a new table as a dialect can express it: SQLite numbers the rows of the column
that declares the primary key, and of no other. -/
def CreateTable.downgradedColumn (dialect : Dialect) (table : CreateTable)
    (column : ColumnDefinition) : ColumnDefinition :=
  if dialect = .sqlite ∧ table.inlineKey? ≠ some column.name then column.unnumbered else column

/-- A new table as a dialect can express it. -/
def CreateTable.downgraded (dialect : Dialect) (table : CreateTable) : CreateTable :=
  { table with columns := table.columns.map (table.downgradedColumn dialect) }

/-- A column added to an existing table as a dialect can express it. -/
def AlterTable.downgradedColumn (dialect : Dialect) (column : ColumnDefinition) :
    ColumnDefinition :=
  { column with
    autoIncrement := column.autoIncrement && dialect.supports .alterAddConstraint
    nullable := column.nullable ||
      column.default.isNone && !dialect.supports .addNotNullWithoutDefault }

/-- Constraints added to an existing table as a dialect can express them. No dialect changes
the primary key. -/
def AlterTable.downgradedConstraints (dialect : Dialect) (constraints : Constraints) :
    Constraints :=
  { constraints with
    primaryKey := none
    unique := if dialect.supports .alterAddConstraint then constraints.unique else []
    foreignKeys := if dialect.supports .alterAddConstraint then constraints.foreignKeys else [] }

/-- A change of a table as a dialect can express it. -/
def AlterTable.downgraded (dialect : Dialect) (alteration : AlterTable) : AlterTable :=
  { alteration with
    addColumns := alteration.addColumns.map (downgradedColumn dialect)
    addConstraints := downgradedConstraints dialect alteration.addConstraints }

/-- A statement as a dialect can express it. -/
def Statement.downgraded (dialect : Dialect) : Statement → Statement
  | .select query => .select (query.downgraded dialect)
  | .createTable table => .createTable (table.downgraded dialect)
  | .alterTable alteration => .alterTable (alteration.downgraded dialect)
  | statement => statement

/-- The diagnostics for what a written query lacks of a requested one. -/
def Select.differences (dialect : Dialect) (requested written : Select) : List Diagnostic :=
  ((requested.joins.zip written.joins).flatMap fun joins =>
    if joins.2.kind = joins.1.kind then [] else [.joinDowngraded dialect joins.1.kind]) ++
  if written.offset = requested.offset then [] else [.offsetIgnored]

/-- The diagnostics for what a written table lacks of a requested one. -/
def CreateTable.differences (dialect : Dialect) (requested written : CreateTable) :
    List Diagnostic :=
  (requested.columns.zip written.columns).flatMap fun columns =>
    if columns.2.autoIncrement = columns.1.autoIncrement then []
    else [.autoIncrementOffKey dialect columns.1.name]

/-- The diagnostics for what a written change of a table lacks of a requested one: first for
its columns, then for its constraints. -/
def AlterTable.differences (dialect : Dialect) (requested written : AlterTable) :
    List Diagnostic :=
  ((requested.addColumns.zip written.addColumns).flatMap fun columns =>
    (if columns.2.autoIncrement = columns.1.autoIncrement then []
      else [.autoIncrementOnExisting dialect columns.1.name]) ++
    if columns.2.nullable = columns.1.nullable then []
    else [.nullabilityDowngraded dialect columns.1.name]) ++
  (if written.addConstraints.primaryKey = requested.addConstraints.primaryKey then []
    else requested.addConstraints.primaryKey.toList.map fun columns =>
      .primaryKeySkipped (primaryKeyClause columns)) ++
  ((requested.addConstraints.unique.filter (· ∉ written.addConstraints.unique)).map fun columns =>
    .constraintSkipped dialect (uniqueClause columns)) ++
  (requested.addConstraints.foreignKeys.filter (· ∉ written.addConstraints.foreignKeys)).map
    fun foreignKey => .constraintSkipped dialect foreignKey.clause

/-- The diagnostics for what a written statement lacks of a requested one. -/
def Statement.differences (dialect : Dialect) (requested written : Statement) : List Diagnostic :=
  match requested, written with
  | .select query, .select other => query.differences dialect other
  | .createTable table, .createTable other => table.differences dialect other
  | .alterTable alteration, .alterTable other => alteration.differences dialect other
  | _, _ => []

/-- Comparing the items of a list with what a change makes of them is a matter of each item. -/
theorem flatMap_zip_map {α β γ : Type} (items : List α) (change : α → β)
    (compare : α × β → List γ) :
    (items.zip (items.map change)).flatMap compare =
      items.flatMap fun item => compare (item, change item) := by
  induction items with
  | nil => rfl
  | cons item rest inductionHypothesis =>
    rw [List.map_cons, List.zip_cons_cons, List.flatMap_cons, inductionHypothesis,
      List.flatMap_cons]

section Queries

variable (dialect : Dialect)

/-- The kind of join that is written is the one of the downgraded join. -/
theorem Join.kind_downgraded (join : Join) :
    (join.downgraded dialect).kind = Clause.writtenJoin dialect join.kind := by
  obtain ⟨kind, table, left, operator, right⟩ := join
  cases kind <;> rfl

/-- A kind of join that is written for another one is written for itself. -/
theorem Clause.writtenJoin_writtenJoin (kind : JoinKind) :
    writtenJoin dialect (writtenJoin dialect kind) = writtenJoin dialect kind := by
  cases dialect <;> cases kind <;> rfl

/-- A downgraded join is the same text. -/
theorem Clause.join_downgraded (joined : Join) :
    Clause.join dialect (joined.downgraded dialect) = Clause.join dialect joined := by
  rw [Clause.join, Clause.join, joined.kind_downgraded, writtenJoin_writtenJoin]
  rfl

/-- The diagnostics of a join are the difference to the downgraded one. -/
theorem Clause.joinNotes_eq (join : Join) :
    joinNotes dialect join.kind =
      if (join.downgraded dialect).kind = join.kind then []
      else [.joinDowngraded dialect join.kind] := by
  rw [joinNotes, join.kind_downgraded]

theorem Clause.joinNotes_downgraded (join : Join) :
    joinNotes dialect (join.downgraded dialect).kind = [] := by
  rw [joinNotes, join.kind_downgraded, writtenJoin_writtenJoin, if_pos rfl]

theorem Join.downgraded_downgraded (join : Join) :
    (join.downgraded dialect).downgraded dialect = join.downgraded dialect := by
  have kind : ((join.downgraded dialect).downgraded dialect).kind =
      (join.downgraded dialect).kind := by
    rw [kind_downgraded, kind_downgraded, Clause.writtenJoin_writtenJoin]
  exact congrArg (fun kind => { join with kind }) kind

/-- Downgraded joins are not downgraded again. -/
theorem Join.map_downgraded_downgraded (joins : List Join) :
    (joins.map (downgraded dialect)).map (downgraded dialect) = joins.map (downgraded dialect) := by
  rw [List.map_map]
  exact List.map_congr_left fun join _ => join.downgraded_downgraded dialect

/-- Downgraded joins are the same texts. -/
theorem Clause.map_join_downgraded (joins : List Join) :
    (joins.map (Join.downgraded dialect)).map (join dialect) = joins.map (join dialect) := by
  rw [List.map_map]
  exact List.map_congr_left fun joined _ => join_downgraded dialect joined

namespace Select

variable (query : Select)

theorem downgraded_downgraded :
    (query.downgraded dialect).downgraded dialect = query.downgraded dialect := by
  simp only [downgraded, Join.map_downgraded_downgraded]
  split <;> rfl

/-- A downgraded query is the same text with the same slots. -/
theorem template_downgraded :
    (query.downgraded dialect).template dialect = query.template dialect := by
  have head : (query.downgraded dialect).head dialect = query.head dialect := by
    have joins : (query.downgraded dialect).joins.map (Clause.join dialect) =
        query.joins.map (Clause.join dialect) :=
      Clause.map_join_downgraded dialect query.joins
    rw [Select.head, Select.head, joins]
    rfl
  have pagination (style : LimitStyle) :
      Clause.pagination style (query.downgraded dialect) = Clause.pagination style query := by
    obtain ⟨table, columns, distinct, joins, filters, groupBy, having, orderBy, limit, offset⟩ :=
      query
    cases limit <;> rfl
  rw [template, template, head, pagination]
  rfl

/-- The diagnostics of a query are the differences to the downgraded one. -/
theorem differences_downgraded :
    query.differences dialect (query.downgraded dialect) =
      query.joinNotes dialect ++ Clause.paginationNotes query := by
  have offset : (if (query.downgraded dialect).offset = query.offset then []
      else [Diagnostic.offsetIgnored]) = Clause.paginationNotes query := by
    obtain ⟨table, columns, distinct, joins, filters, groupBy, having, orderBy, limit, offset⟩ :=
      query
    cases limit with
    | none => cases offset <;> rfl
    | some limit => exact if_pos rfl
  rw [differences, offset, downgraded, flatMap_zip_map, joinNotes]
  simp only [Clause.joinNotes_eq]

variable {dialect query}

/-- A downgraded query makes the same statement in silence. -/
theorem plan_downgraded {plan : Plan} (planned : query.plan dialect = .ok plan) :
    (query.downgraded dialect).plan dialect = .ok plan.silent ∧
      plan.notes = query.differences dialect (query.downgraded dialect) := by
  have joins : (query.downgraded dialect).joinNotes dialect = [] := by
    rw [joinNotes, downgraded, List.flatMap_map]
    exact List.flatMap_eq_nil_iff.2 fun join _ => Clause.joinNotes_downgraded dialect join
  have pagination : Clause.paginationNotes (query.downgraded dialect) = [] := by
    rw [Clause.paginationNotes, downgraded]
    cases query.limit <;> rfl
  rw [Select.plan] at planned
  split at planned
  · contradiction
  · contradiction
  · rename_i filters having
    obtain rfl := Except.ok.inj planned
    have sameFilters : Clause.check (query.downgraded dialect).filters = .ok () := filters
    have sameHaving : Clause.check (query.downgraded dialect).having = .ok () := having
    rw [Plan.notes_single, differences_downgraded, Select.plan, sameFilters, sameHaving, joins,
      pagination, template_downgraded, Plan.silent, Plan.templates_single]
    exact ⟨rfl, rfl⟩

end Select

end Queries

namespace CreateTable

variable (dialect : Dialect) (table : CreateTable) (column : ColumnDefinition)

theorem name_downgradedColumn : (table.downgradedColumn dialect column).name = column.name := by
  rw [downgradedColumn]
  split <;> rfl

theorem type_downgradedColumn : (table.downgradedColumn dialect column).type = column.type := by
  rw [downgradedColumn]
  split <;> rfl

theorem logicalType?_downgradedColumn :
    (table.downgradedColumn dialect column).logicalType? = column.logicalType? := by
  rw [downgradedColumn]
  split <;> rfl

/-- A column may declare the key that constraints ask for: it numbers its rows, and it is the
only column of the key, or there is no key. -/
def mayDeclare (constraints : Constraints) (column : ColumnDefinition) : Bool :=
  column.autoIncrement &&
    match constraints.primaryKey with
    | none => true
    | some [only] => column.name = only
    | some _ => false

/-- Where no key is asked for, any column that numbers its rows may declare it. -/
theorem mayDeclare_of_absent {constraints : Constraints} (absent : constraints.primaryKey = none) :
    mayDeclare constraints = ColumnDefinition.autoIncrement := by
  funext column
  rw [mayDeclare, absent, Bool.and_true]

/-- The key of a table is the first column that may declare it. -/
theorem inlineKey?_eq :
    table.inlineKey? =
      (table.columns.find? (mayDeclare table.constraints)).map ColumnDefinition.name := by
  rw [inlineKey?]
  refine congrArg (Option.map ColumnDefinition.name) ?_
  split
  · rename_i absent
    rw [mayDeclare_of_absent absent]
  · rename_i only single
    have same : mayDeclare table.constraints =
        fun column => column.name = only && column.autoIncrement := by
      funext column
      simp only [mayDeclare, single, Bool.and_comm]
    rw [same]
  · rename_i columns several present
    symm
    rw [List.find?_eq_none]
    intro column _
    simp only [mayDeclare, present, Bool.and_false, Bool.false_eq_true, not_false_eq_true]

/-- Taking the numbering from columns of other names does not move the key. Those in front of
it are no candidates before or after, and it keeps its own numbering. -/
theorem find?_downgradedColumn {candidate : ColumnDefinition → Bool}
    (numbers : ∀ column : ColumnDefinition, candidate column.unnumbered = false)
    {columns : List ColumnDefinition}
    (found : (columns.find? candidate).map ColumnDefinition.name = table.inlineKey?) :
    ((columns.map (table.downgradedColumn dialect)).find? candidate).map ColumnDefinition.name =
      table.inlineKey? := by
  induction columns with
  | nil => exact found
  | cons first rest inductionHypothesis =>
    rw [List.map_cons, List.find?_cons]
    rw [List.find?_cons] at found
    cases isCandidate : candidate first with
    | true =>
      -- The first candidate is the key itself, which a downgrade leaves alone.
      rw [isCandidate] at found
      have kept : table.downgradedColumn dialect first = first :=
        if_neg fun changed => changed.2 found.symm
      rw [kept, isCandidate]
      exact found
    | false =>
      rw [isCandidate] at found
      have noCandidate : candidate (table.downgradedColumn dialect first) = false := by
        rw [downgradedColumn]
        split
        · exact numbers first
        · exact isCandidate
      rw [noCandidate]
      exact inductionHypothesis found

/-- A downgraded table has the same key. -/
theorem inlineKey?_downgraded : (table.downgraded dialect).inlineKey? = table.inlineKey? := by
  rw [inlineKey?_eq (table.downgraded dialect)]
  exact find?_downgradedColumn dialect table (fun _ => rfl) table.inlineKey?_eq.symm

theorem isKey_downgraded : (table.downgraded dialect).isKey column = table.isKey column := by
  rw [isKey, isKey, inlineKey?_downgraded]

theorem isKey_downgradedColumn :
    table.isKey (table.downgradedColumn dialect column) = table.isKey column := by
  rw [isKey, isKey, name_downgradedColumn]

/-- Either a column of SQLite is not the key and loses its numbering, or it stays as it is. -/
theorem downgradedColumn_cases :
    dialect = .sqlite ∧ table.isKey column = false ∧
        table.downgradedColumn dialect column = column.unnumbered ∨
      (dialect = .sqlite → table.isKey column = true) ∧
        table.downgradedColumn dialect column = column := by
  by_cases changed : dialect = .sqlite ∧ table.inlineKey? ≠ some column.name
  · refine .inl ⟨changed.1, ?_, if_pos changed⟩
    rw [isKey]
    exact decide_eq_false changed.2
  · refine .inr ⟨fun isSqlite => ?_, if_neg changed⟩
    rw [isKey, decide_eq_true_iff]
    exact Decidable.of_not_not fun notKey => changed ⟨isSqlite, notKey⟩

end CreateTable

namespace ColumnDefinition

variable {dialect : Dialect} {isKey : Bool}

/-- Only a column of SQLite that is not the key is declared with a diagnostic. -/
theorem definitionNotes_eq_nil (kept : dialect = .sqlite → isKey = true)
    (column : ColumnDefinition) : column.definitionNotes dialect isKey = [] := by
  rw [definitionNotes]
  cases dialect with
  | sqlite =>
    rw [kept rfl, Bool.not_true, Bool.and_false, Bool.false_and]
    rfl
  | postgresql | mysql | mssql => exact if_neg (by simp [Dialect.capabilities])

/-- A column without numbering is declared in silence. -/
theorem definitionNotes_unnumbered (column : ColumnDefinition) :
    column.unnumbered.definitionNotes dialect isKey = [] :=
  if_neg Bool.false_ne_true

/-- Where SQLite does not number the rows of a column, taking the numbering out of it does not
change how it is declared. -/
theorem definition_unnumbered (column : ColumnDefinition) (type : LogicalType) :
    column.unnumbered.definition .sqlite type false = column.definition .sqlite type false := by
  have plain (column : ColumnDefinition) : column.numberedForm? .sqlite type false = none := by
    rw [numberedForm?]
    split <;> rfl
  rw [definition, definition, plain, plain]
  rfl

end ColumnDefinition

namespace CreateTable

variable (dialect : Dialect) (table : CreateTable) (column : ColumnDefinition)

/-- A column is declared with a diagnostic exactly where it loses its numbering. -/
theorem definitionNotes_eq :
    column.definitionNotes dialect (table.isKey column) =
      if (table.downgradedColumn dialect column).autoIncrement = column.autoIncrement then []
      else [.autoIncrementOffKey dialect column.name] := by
  rcases table.downgradedColumn_cases dialect column with ⟨rfl, notKey, changed⟩ | ⟨kept, same⟩
  · rw [changed, notKey, ColumnDefinition.definitionNotes, ColumnDefinition.unnumbered]
    cases column.autoIncrement <;> rfl
  · rw [same, if_pos rfl, ColumnDefinition.definitionNotes_eq_nil kept]

/-- A downgraded column is declared in silence. -/
theorem definitionNotes_downgradedColumn :
    (table.downgradedColumn dialect column).definitionNotes dialect (table.isKey column) = [] := by
  rcases table.downgradedColumn_cases dialect column with ⟨_, _, changed⟩ | ⟨kept, same⟩
  · rw [changed, ColumnDefinition.definitionNotes_unnumbered]
  · rw [same, ColumnDefinition.definitionNotes_eq_nil kept]

/-- A downgraded column is declared by the same text. -/
theorem definition_downgradedColumn (type : LogicalType) :
    (table.downgradedColumn dialect column).definition dialect type (table.isKey column) =
      column.definition dialect type (table.isKey column) := by
  rcases table.downgradedColumn_cases dialect column with ⟨rfl, notKey, changed⟩ | ⟨_, same⟩
  · rw [changed, notKey, ColumnDefinition.definition_unnumbered]
  · rw [same]

theorem downgradedColumn_downgraded :
    (table.downgraded dialect).downgradedColumn dialect = table.downgradedColumn dialect := by
  funext column
  rw [downgradedColumn, downgradedColumn, inlineKey?_downgraded]

theorem downgradedColumn_downgradedColumn :
    table.downgradedColumn dialect (table.downgradedColumn dialect column) =
      table.downgradedColumn dialect column := by
  rw [downgradedColumn, name_downgradedColumn]
  split
  · rename_i changed
    rw [downgradedColumn, if_pos changed]
    rfl
  · rfl

theorem downgraded_downgraded :
    (table.downgraded dialect).downgraded dialect = table.downgraded dialect := by
  have columns : (table.downgraded dialect).columns.map (table.downgradedColumn dialect) =
      (table.downgraded dialect).columns := by
    rw [downgraded, List.map_map]
    exact List.map_congr_left fun column _ =>
      table.downgradedColumn_downgradedColumn dialect column
  rw [downgraded, downgradedColumn_downgraded, columns]

/-- A downgraded table has the same parts. -/
theorem body_downgraded (typed : List (ColumnDefinition × LogicalType)) :
    (table.downgraded dialect).body dialect
        (typed.map fun column => (table.downgradedColumn dialect column.1, column.2)) =
      table.body dialect typed := by
  have key : (table.downgraded dialect).keyClauses = table.keyClauses := by
    rw [keyClauses, keyClauses, inlineKey?_downgraded]
    rfl
  rw [body, body, key, List.map_map]
  simp only [Function.comp_def, isKey_downgraded, isKey_downgradedColumn,
    definition_downgradedColumn]
  rfl

/-- The diagnostics of a table are the differences to the downgraded one. -/
theorem differences_downgraded :
    table.differences dialect (table.downgraded dialect) =
      table.columns.flatMap fun column =>
        column.definitionNotes dialect (table.isKey column) := by
  rw [differences, downgraded, flatMap_zip_map]
  simp only [definitionNotes_eq]

variable {dialect table}

/-- A downgraded table makes the same statements in silence. -/
theorem plan_downgraded {plan : Plan} (planned : table.plan dialect = .ok plan) :
    (table.downgraded dialect).plan dialect = .ok plan.silent ∧
      plan.notes = table.differences dialect (table.downgraded dialect) := by
  obtain ⟨typed, someColumn, resolved, rfl⟩ := plan_eq planned
  have notEmpty : ¬(table.downgraded dialect).columns.isEmpty = true := by
    rwa [downgraded, List.isEmpty_iff, List.map_eq_nil_iff]
  have retyped : ColumnDefinition.resolveAll (table.downgraded dialect).columns =
      .ok (typed.map fun column => (table.downgradedColumn dialect column.1, column.2)) := by
    rw [downgraded, ColumnDefinition.resolveAll_map _ (table.name_downgradedColumn dialect)
      (table.type_downgradedColumn dialect) (table.logicalType?_downgradedColumn dialect), resolved]
    rfl
  have silent : (table.downgraded dialect).columns.flatMap (fun column =>
      column.definitionNotes dialect ((table.downgraded dialect).isKey column)) = [] := by
    rw [downgraded, List.flatMap_map, List.flatMap_eq_nil_iff]
    intro column _
    rw [← downgraded, isKey_downgraded, isKey_downgradedColumn, definitionNotes_downgradedColumn]
  constructor
  · rw [CreateTable.plan, if_neg notEmpty, retyped]
    simp only [silent, body_downgraded]
    rw [Plan.silent, Plan.templates_append, Plan.templates_single, Plan.templates_map_finish,
      List.map_append, List.map_map]
    rfl
  · rw [Plan.notes_append, Plan.notes_single, Plan.notes_map_finish, List.append_nil,
      differences_downgraded]

end CreateTable

namespace AlterTable

section Columns

variable (dialect : Dialect) (column : ColumnDefinition)

/-- The column that is added is the downgraded one. -/
theorem addedColumn_eq : addedColumn dialect column = downgradedColumn dialect column := by
  have numbering : (column.autoIncrement && !losesAutoIncrement dialect column) =
      (column.autoIncrement && dialect.supports .alterAddConstraint) := by
    rw [losesAutoIncrement]
    cases column.autoIncrement <;> cases dialect.supports .alterAddConstraint <;> rfl
  have nullability : (column.nullable || losesNotNull dialect column) =
      (column.nullable ||
        column.default.isNone && !dialect.supports .addNotNullWithoutDefault) := by
    rw [losesNotNull]
    cases column.nullable <;> rfl
  rw [addedColumn, downgradedColumn, numbering, nullability]

theorem downgradedColumn_downgradedColumn :
    downgradedColumn dialect (downgradedColumn dialect column) =
      downgradedColumn dialect column := by
  simp only [downgradedColumn, Bool.and_assoc, Bool.and_self, Bool.or_assoc, Bool.or_self]

/-- A downgraded column is declared in silence. -/
theorem definitionNotes_downgradedColumn :
    (downgradedColumn dialect column).definitionNotes dialect false = [] := by
  cases dialect with
  | sqlite =>
    have unnumbered : (downgradedColumn .sqlite column).autoIncrement = false := Bool.and_false _
    rw [ColumnDefinition.definitionNotes, unnumbered]
    rfl
  | postgresql | mysql | mssql =>
    apply ColumnDefinition.definitionNotes_eq_nil
    nofun

/-- Adding a column is reported exactly where it loses its numbering or its refusal of null. -/
theorem columnNotes_eq :
    columnNotes dialect column =
      (if (downgradedColumn dialect column).autoIncrement = column.autoIncrement then []
        else [.autoIncrementOnExisting dialect column.name]) ++
      if (downgradedColumn dialect column).nullable = column.nullable then []
      else [.nullabilityDowngraded dialect column.name] := by
  rw [columnNotes, addedColumn_eq, definitionNotes_downgradedColumn, List.append_nil]
  congr 1
  · rw [losesAutoIncrement, downgradedColumn]
    cases column.autoIncrement <;> cases dialect.supports .alterAddConstraint <;> rfl
  · rw [losesNotNull, downgradedColumn]
    cases column.nullable <;> cases column.default <;>
      cases dialect.supports .addNotNullWithoutDefault <;> rfl

/-- A downgraded column is added in silence. -/
theorem columnNotes_downgradedColumn :
    columnNotes dialect (downgradedColumn dialect column) = [] := by
  rw [columnNotes_eq, downgradedColumn_downgradedColumn, if_pos rfl, if_pos rfl]
  rfl

end Columns

/-- Where the items of a list are either all kept or all left out, those that are missing are
none or all of them. -/
theorem map_missing {α β : Type} [BEq α] [LawfulBEq α] (kept : Bool) (items : List α)
    (describe : α → β) :
    (items.filter (· ∉ if kept then items else [])).map describe =
      if kept then [] else items.map describe := by
  cases kept <;> simp [List.filter_eq_self.2]

variable (dialect : Dialect) (alteration : AlterTable)

theorem downgraded_downgraded :
    (alteration.downgraded dialect).downgraded dialect = alteration.downgraded dialect := by
  have columns : ((alteration.addColumns.map (downgradedColumn dialect)).map
      (downgradedColumn dialect)) = alteration.addColumns.map (downgradedColumn dialect) := by
    rw [List.map_map]
    exact List.map_congr_left fun column _ => downgradedColumn_downgradedColumn dialect column
  have constraints : downgradedConstraints dialect
      (downgradedConstraints dialect alteration.addConstraints) =
        downgradedConstraints dialect alteration.addConstraints := by
    simp only [downgradedConstraints]
    split <;> rfl
  simp only [downgraded, columns, constraints]

/-- The diagnostics of a change are the differences to the downgraded one. -/
theorem differences_downgraded :
    alteration.differences dialect (alteration.downgraded dialect) =
      alteration.addColumns.flatMap (columnNotes dialect) ++
        (constraintSteps dialect alteration.table alteration.addConstraints).notes := by
  have primaryKey : (if (alteration.downgraded dialect).addConstraints.primaryKey =
      alteration.addConstraints.primaryKey then []
      else alteration.addConstraints.primaryKey.toList.map fun columns =>
        Diagnostic.primaryKeySkipped (primaryKeyClause columns)) =
      alteration.addConstraints.primaryKey.toList.map fun columns =>
        .primaryKeySkipped (primaryKeyClause columns) := by
    split
    · rename_i unchanged
      rw [← unchanged]
      rfl
    · rfl
  have unique : (alteration.addConstraints.unique.filter
      (· ∉ (alteration.downgraded dialect).addConstraints.unique)).map (fun columns =>
        Diagnostic.constraintSkipped dialect (uniqueClause columns)) =
      if dialect.supports .alterAddConstraint then []
      else alteration.addConstraints.unique.map fun columns =>
        .constraintSkipped dialect (uniqueClause columns) :=
    map_missing _ _ _
  have foreignKeys : (alteration.addConstraints.foreignKeys.filter
      (· ∉ (alteration.downgraded dialect).addConstraints.foreignKeys)).map (fun foreignKey =>
        Diagnostic.constraintSkipped dialect foreignKey.clause) =
      if dialect.supports .alterAddConstraint then []
      else alteration.addConstraints.foreignKeys.map fun foreignKey =>
        .constraintSkipped dialect foreignKey.clause :=
    map_missing _ _ _
  rw [differences, primaryKey, unique, foreignKeys, notes_constraintSteps, downgraded,
    flatMap_zip_map]
  simp only [← columnNotes_eq, List.append_assoc]

/-- Downgraded constraints are added in silence. -/
theorem notes_constraintSteps_downgraded (table : String) (constraints : Constraints) :
    (constraintSteps dialect table (downgradedConstraints dialect constraints)).notes = [] := by
  rw [notes_constraintSteps, downgradedConstraints]
  split <;> rfl

/-- Downgraded constraints make the same statements. -/
theorem templates_constraintSteps_downgraded (table : String) (constraints : Constraints) :
    (constraintSteps dialect table (downgradedConstraints dialect constraints)).templates =
      (constraintSteps dialect table constraints).templates := by
  rw [templates_constraintSteps, templates_constraintSteps, downgradedConstraints]
  split <;> rfl

variable {dialect alteration}

/-- A downgraded change makes the same statements in silence. -/
theorem plan_downgraded {plan : Plan} (planned : alteration.plan dialect = .ok plan) :
    (alteration.downgraded dialect).plan dialect = .ok plan.silent ∧
      plan.notes = alteration.differences dialect (alteration.downgraded dialect) := by
  obtain ⟨typed, resolved, rfl⟩ := plan_eq planned
  have retyped : ColumnDefinition.resolveAll (alteration.downgraded dialect).addColumns =
      (ColumnDefinition.resolveAll alteration.addColumns).map
        (·.map fun column => (downgradedColumn dialect column.1, column.2)) :=
    ColumnDefinition.resolveAll_map (downgradedColumn dialect) (fun _ => rfl) (fun _ => rfl)
      (fun _ => rfl) _
  rw [AlterTable.plan, retyped, resolved]
  refine ⟨congrArg Except.ok (Plan.eq_silent ?_ ?_), ?_⟩
  · have columns : (typed.map fun column =>
        (downgradedColumn dialect column.1, column.2)).flatMap (fun column =>
          (columnSteps dialect alteration.table column).notes) = [] := by
      rw [List.flatMap_map, List.flatMap_eq_nil_iff]
      intro column _
      rw [notes_columnSteps, columnNotes_downgradedColumn]
    rw [Plan.notes_append, Plan.notes_flatMap]
    refine List.append_eq_nil_iff.2 ⟨columns, ?_⟩
    exact notes_constraintSteps_downgraded dialect alteration.table alteration.addConstraints
  · rw [Plan.templates_append, Plan.templates_append, Plan.templates_flatMap,
      Plan.templates_flatMap]
    simp only [List.flatMap_map, templates_columnSteps, addedColumn_eq,
      downgradedColumn_downgradedColumn]
    congr 1
    exact templates_constraintSteps_downgraded dialect alteration.table alteration.addConstraints
  · rw [Plan.notes_append, Plan.notes_flatMap, differences_downgraded,
      ← ColumnDefinition.columns_of_resolveAll resolved, List.flatMap_map]
    simp only [notes_columnSteps]

end AlterTable

namespace Statement

theorem downgraded_downgraded (dialect : Dialect) (statement : Statement) :
    (statement.downgraded dialect).downgraded dialect = statement.downgraded dialect := by
  cases statement with
  | select query => exact congrArg select (query.downgraded_downgraded dialect)
  | createTable table => exact congrArg createTable (table.downgraded_downgraded dialect)
  | alterTable alteration =>
    exact congrArg alterTable (alteration.downgraded_downgraded dialect)
  | insert _ | update _ | delete _ | dropTable _ => rfl

/-- A downgraded statement makes the same statements in silence. -/
theorem plan_downgraded {dialect : Dialect} {statement : Statement} {plan : Plan}
    (planned : statement.plan dialect = .ok plan) :
    (statement.downgraded dialect).plan dialect = .ok plan.silent ∧
      plan.notes = statement.differences dialect (statement.downgraded dialect) := by
  cases statement with
  | select query => exact Select.plan_downgraded planned
  | createTable table => exact CreateTable.plan_downgraded planned
  | alterTable alteration => exact AlterTable.plan_downgraded planned
  | insert insertion =>
    obtain ⟨rfl, -⟩ := Insert.plan_eq planned
    exact ⟨planned, rfl⟩
  | update change =>
    obtain rfl := Update.plan_eq planned
    exact ⟨planned, rfl⟩
  | delete deletion =>
    obtain rfl := Delete.plan_eq planned
    exact ⟨planned, rfl⟩
  | dropTable removal =>
    obtain rfl := Except.ok.inj planned
    exact ⟨planned, rfl⟩

end Statement

/-- Downgrading a statement twice changes nothing more. A statement that compiles in a new
context compiles to the same texts and values when it has been downgraded, and then it records
nothing. All that it records otherwise are the differences to the downgraded statement. -/
theorem compile_downgraded {dialect : Dialect} {statement : Statement}
    {compiled : List Compiled} {after : Context}
    (accepted : (Context.empty dialect).compile statement = (.ok compiled, after)) :
    (statement.downgraded dialect).downgraded dialect = statement.downgraded dialect ∧
      (Context.empty dialect).compile (statement.downgraded dialect) =
        (.ok (compiled.map Compiled.bare), Context.empty dialect) ∧
      compiled.flatMap Compiled.diagnostics ++ after.pending =
        statement.differences dialect (statement.downgraded dialect) := by
  obtain ⟨plan, planned, ran⟩ := Context.run_of_compile accepted
  obtain ⟨silent, notes⟩ := Statement.plan_downgraded planned
  refine ⟨statement.downgraded_downgraded dialect, ?_, ?_⟩
  · have compiles := Context.compile_eq_run silent
    rw [Context.run_silent, ran] at compiles
    exact compiles
  · have reported := (Context.empty dialect).diagnostics_run plan
    rw [ran, notes] at reported
    exact reported

/-- A table with two columns that should number their rows. -/
def CreateTable.twiceNumbered : CreateTable :=
  { CreateTable.named "orders" with
    columns := [(ColumnDefinition.plain "id" "integer").numbered,
      (ColumnDefinition.plain "seq" "integer").numbered] }

/-- On SQLite the first one declares the key, and the second one loses its numbering. -/
theorem compile_downgraded_twice_numbered :
    ∃ compiled after,
      (Context.empty .sqlite).compile (.createTable CreateTable.twiceNumbered) =
          (.ok compiled, after) ∧
        (Statement.createTable CreateTable.twiceNumbered).differences .sqlite
            ((Statement.createTable CreateTable.twiceNumbered).downgraded .sqlite) =
          [.autoIncrementOffKey .sqlite "seq"] ∧
        ((Statement.createTable CreateTable.twiceNumbered).downgraded .sqlite).downgraded .sqlite =
          (Statement.createTable CreateTable.twiceNumbered).downgraded .sqlite ∧
        (Context.empty .sqlite).compile
            ((Statement.createTable CreateTable.twiceNumbered).downgraded .sqlite) =
          (.ok (compiled.map Compiled.bare), Context.empty .sqlite) ∧
        compiled.flatMap Compiled.diagnostics ++ after.pending =
          (Statement.createTable CreateTable.twiceNumbered).differences .sqlite
            ((Statement.createTable CreateTable.twiceNumbered).downgraded .sqlite) := by
  have compiles : ∃ compiled after,
      (Context.empty .sqlite).compile (.createTable CreateTable.twiceNumbered) =
        (.ok compiled, after) := ⟨_, _, rfl⟩
  obtain ⟨compiled, after, accepted⟩ := compiles
  exact ⟨compiled, after, accepted, rfl, compile_downgraded accepted⟩

end NeutralSql
