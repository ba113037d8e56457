import NeutralSql.Proofs.Compile.Context
import NeutralSql.Proofs.Compile.Template

/-!
# Values have no part in the text

Two statements that only differ in the values they bind become the same text, with the same
names of placeholders and the same diagnostics. Erasing the values of a statement is what
makes "only differ in" precise; `compile_erased` says that the erased statement compiles to
the outline of the original, and two statements with one erasure share that outline.
-/

namespace NeutralSql

open Template (text slot separated)

namespace Template

/-- A template with null in every slot. -/
def erased (template : Template) : Template :=
  template.map fun piece =>
    match piece with
    | .text content => .text content
    | .slot _ => .slot .null

@[simp] theorem erased_nil : erased [] = [] :=
  rfl

@[simp] theorem erased_text (content : String) : (text content).erased = text content :=
  rfl

@[simp] theorem erased_slot (value : Value) : (slot value).erased = slot .null :=
  rfl

@[simp] theorem erased_append (first second : Template) :
    erased (first ++ second) = first.erased ++ second.erased :=
  List.map_append

/-- Erasing templates made from the items of a list erases each of them. -/
@[simp] theorem erased_flatMap {α : Type} (items : List α) (template : α → Template) :
    erased (items.flatMap template) = items.flatMap fun item => (template item).erased :=
  List.map_flatMap

/-- Erasing leaves the separators. -/
@[simp] theorem erased_separated (separator : String) (templates : List Template) :
    (separated separator templates).erased = separated separator (templates.map erased) := by
  cases templates with
  | nil => rfl
  | cons first rest => simp [separated, List.flatMap_map]

/-- The text of a template does not depend on the values of its slots. -/
theorem write_erased (style : PlaceholderStyle) (bound : Nat) (template : Template) :
    template.erased.write style bound = template.write style bound := by
  induction template generalizing bound with
  | nil => rfl
  | cons piece rest inductionHypothesis =>
    cases piece with
    | text content => exact congrArg (content ++ ·) (inductionHypothesis bound)
    | slot value => exact congrArg (style.token (bound + 1) ++ ·) (inductionHypothesis (bound + 1))

/-- Erasing changes the values of a template, but not their number. -/
theorem length_values_erased (template : Template) :
    template.erased.values.length = template.values.length := by
  induction template with
  | nil => rfl
  | cons piece rest inductionHypothesis =>
    cases piece with
    | text content => exact inductionHypothesis
    | slot value => exact congrArg (· + 1) inductionHypothesis

end Template

/-- A predicate without its value: what matters of it is whether it is there. Operators that
compare with null alone have none at all. -/
def Predicate.erased (predicate : Predicate) : Predicate :=
  { predicate with
    value := if predicate.operator.testsNull then none else predicate.value.map fun _ => .null }

/-- Conditions without their values, and without the first connective, which joins nothing. -/
def Clause.erased : List Predicate → List Predicate
  | [] => []
  | first :: rest => { first.erased with connective := .and } :: rest.map Predicate.erased

/-- A row that is null in all of its columns. -/
def Row.erased (row : Row) : Row where
  entries := row.entries.map fun entry => (entry.1, .null)
  distinct := by
    rw [List.map_map]
    exact row.distinct

/-- A query without its values and counts. -/
def Select.erased (query : Select) : Select :=
  { query with
    filters := Clause.erased query.filters
    having := Clause.erased query.having
    limit := query.limit.map fun _ => 0
    offset := query.offset.map fun _ => 0 }

/-- An insertion without its values. -/
def Insert.erased (insertion : Insert) : Insert :=
  { insertion with rows := insertion.rows.map Row.erased }

/-- An update without its values. -/
def Update.erased (update : Update) : Update :=
  { update with
    assignments := update.assignments.erased
    filters := Clause.erased update.filters }

/-- A deletion without its values. -/
def Delete.erased (deletion : Delete) : Delete :=
  { deletion with filters := Clause.erased deletion.filters }

/-- A statement without the values it binds. Statements on schemas bind none. -/
def Statement.erased : Statement → Statement
  | .select query => .select query.erased
  | .insert insertion => .insert insertion.erased
  | .update change => .update change.erased
  | .delete deletion => .delete deletion.erased
  | .createTable table => .createTable table
  | .alterTable alteration => .alterTable alteration
  | .dropTable removal => .dropTable removal

/-- What a finished statement shows without its values. -/
structure Outline where
  sql : String
  names : List String
  diagnostics : List Diagnostic
  /-- The number of values. -/
  count : Nat
  deriving DecidableEq

/-- The outline of a finished statement. -/
def Compiled.outline (compiled : Compiled) : Outline :=
  ⟨compiled.sql, compiled.names, compiled.diagnostics, compiled.params.length⟩

namespace Clause

/-- Whether a condition has a slot does not depend on its value. -/
theorem erased_template (predicate : Predicate) :
    predicate.erased.template.erased = predicate.template.erased := by
  obtain ⟨column, operator, value, connective⟩ := predicate
  cases operator <;> cases value <;> rfl

/-- Conditions have their slots wherever their erasures have them. -/
theorem erased_conditions (keyword : String) (predicates : List Predicate) :
    (conditions keyword (erased predicates)).erased = (conditions keyword predicates).erased := by
  cases predicates with
  | nil => rfl
  | cons first rest =>
    have first_eq : Template.erased { first.erased with connective := .and }.template =
        first.template.erased :=
      erased_template first
    simp only [erased, conditions, Template.erased_append, Template.erased_flatMap,
      List.flatMap_map, first_eq, Predicate.continuation, erased_template]
    rfl

/-- Erased conditions are well-formed. -/
theorem check_erased (predicates : List Predicate) : check (erased predicates) = .ok () := by
  have valid (predicate : Predicate) : predicate.erased.isInvalid = false := by
    obtain ⟨column, operator, value, connective⟩ := predicate
    cases operator <;> rfl
  have noneInvalid : (erased predicates).find? Predicate.isInvalid = none := by
    rw [List.find?_eq_none]
    cases predicates with
    | nil => exact fun _ => nofun
    | cons first rest =>
      rw [erased, List.forall_mem_cons, List.forall_mem_map]
      exact ⟨Bool.eq_false_iff.1 (valid first), fun predicate _ => Bool.eq_false_iff.1 (valid predicate)⟩
  rw [check, noneInvalid]

/-- The clauses that bound the number of rows do not depend on the counts. -/
theorem erased_pagination (style : LimitStyle) (query : Select) :
    (pagination style query.erased).erased = (pagination style query).erased := by
  obtain ⟨table, columns, distinct, joins, filters, groupBy, having, orderBy, limit, offset⟩ := query
  cases style <;> cases limit <;> cases offset <;> cases orderBy <;> rfl

end Clause

/-- A query has its slots wherever its erasure has them. -/
theorem Select.erased_template (dialect : Dialect) (query : Select) :
    (query.erased.template dialect).erased = (query.template dialect).erased := by
  have head : query.erased.head dialect = query.head dialect := rfl
  have filters := Clause.erased_conditions "WHERE" query.filters
  have having := Clause.erased_conditions "HAVING" query.having
  have pagination := Clause.erased_pagination dialect.capabilities.limitStyle query
  simp only [template, Template.erased_append, head, pagination]
  simp only [erased, filters, having]

/-- A query loses its offset exactly where its erasure does. -/
theorem Select.paginationNotes_erased (query : Select) :
    Clause.paginationNotes query.erased = Clause.paginationNotes query := by
  rw [Clause.paginationNotes, Clause.paginationNotes, erased, Option.isNone_map, Option.isSome_map]

namespace Row

@[simp] theorem columns_erased (row : Row) : row.erased.columns = row.columns :=
  List.map_map

@[simp] theorem isEmpty_erased (row : Row) : row.erased.isEmpty = row.isEmpty :=
  List.isEmpty_map

/-- A row has a value for each of its columns. -/
theorem isSome_get?_iff {row : Row} {column : String} :
    (row.get? column).isSome ↔ column ∈ row.columns := by
  rw [get?, List.lookup_isSome_iff, columns, List.mem_map]
  simp only [beq_iff_eq, @eq_comm _ column]

/-- An erased row has a value wherever the row has one. -/
theorem isSome_get?_erased (row : Row) (column : String) :
    (row.erased.get? column).isSome = (row.get? column).isSome := by
  rw [Bool.eq_iff_iff, isSome_get?_iff, isSome_get?_iff, columns_erased]

/-- An erased row fits where the row does. -/
theorem fits_erased (columns : List String) (row : Row) :
    Insert.fits columns row.erased = Insert.fits columns row := by
  have size : row.erased.size = row.size := List.length_map _
  simp only [Insert.fits, size, isSome_get?_erased]

/-- The slots of a row only depend on the columns. -/
theorem erased_rowTemplate (columns : List String) (row : Row) :
    (Insert.rowTemplate columns row.erased).erased = (Insert.rowTemplate columns row).erased := by
  simp [Insert.rowTemplate, Function.comp_def]

end Row

/-- An insertion has its slots wherever its erasure has them. -/
theorem Insert.erased_template (dialect : Dialect) (insertion : Insert) (columns : List String) :
    (insertion.erased.template dialect columns).erased =
      (insertion.template dialect columns).erased := by
  have rows : (insertion.erased.rows.map (rowTemplate columns)).map Template.erased =
      (insertion.rows.map (rowTemplate columns)).map Template.erased := by
    simp [erased, Row.erased_rowTemplate]
  have table : insertion.erased.table = insertion.table := rfl
  simp only [template, Template.erased_append, Template.erased_separated, rows, table,
    Template.erased_text]

/-- An update has its slots wherever its erasure has them. -/
theorem Update.erased_head (update : Update) : update.erased.head.erased = update.head.erased := by
  simp [head, erased, Row.erased, Function.comp_def]

/-- Two plans finish one template each, with the same slots and the same text around them,
after the same diagnostics. -/
def Plan.Resembles (plan other : Plan) : Prop :=
  ∃ notes template otherTemplate, plan = .single notes template ∧
    other = .single notes otherTemplate ∧ template.erased = Template.erased otherTemplate

section Plans

variable {dialect : Dialect} {plan : Plan}

/-- A query that has a plan keeps it when it is erased, up to the values. -/
theorem Select.plan_erased {query : Select} (planned : query.plan dialect = .ok plan) :
    ∃ erasedPlan, query.erased.plan dialect = .ok erasedPlan ∧ erasedPlan.Resembles plan := by
  rw [Select.plan] at planned
  split at planned
  · contradiction
  · contradiction
  · obtain rfl := Except.ok.inj planned
    refine ⟨_, ?_, _, _, _, rfl, rfl, query.erased_template dialect⟩
    have filters : Clause.check query.erased.filters = .ok () := Clause.check_erased query.filters
    have having : Clause.check query.erased.having = .ok () := Clause.check_erased query.having
    rw [Select.plan, filters, having, query.paginationNotes_erased]
    rfl

/-- So does an insertion. -/
theorem Insert.plan_erased {insertion : Insert} (planned : insertion.plan dialect = .ok plan) :
    ∃ erasedPlan, insertion.erased.plan dialect = .ok erasedPlan ∧ erasedPlan.Resembles plan := by
  rw [Insert.plan] at planned
  split at planned
  · contradiction
  · rename_i first others rows
    split at planned
    · contradiction
    · rename_i someColumn
      split at planned
      · contradiction
      · rename_i allFit
        obtain rfl := Except.ok.inj planned
        have erasedFit : (others.map Row.erased).findIdx?
            (fun row => !Insert.fits first.columns row) = none := by
          rw [List.findIdx?_map, ← allFit]
          simp only [Function.comp_def, Row.fits_erased]
        refine ⟨_, ?_, _, _, _, rfl, rfl, insertion.erased_template dialect first.columns⟩
        rw [Insert.plan]
        simp only [Insert.erased, rows, List.map_cons, Row.isEmpty_erased, Row.columns_erased,
          if_neg someColumn, erasedFit]

/-- So does an update. -/
theorem Update.plan_erased {update : Update} (planned : update.plan = .ok plan) :
    ∃ erasedPlan, update.erased.plan = .ok erasedPlan ∧ erasedPlan.Resembles plan := by
  rw [Update.plan] at planned
  split at planned
  · contradiction
  · rename_i someColumn
    split at planned
    · contradiction
    · obtain rfl := Except.ok.inj planned
      have filters : Clause.check update.erased.filters = .ok () :=
        Clause.check_erased update.filters
      have assignments : ¬update.erased.assignments.isEmpty := by
        rwa [Update.erased, Row.isEmpty_erased]
      refine ⟨_, ?_, _, update.erased.head ++ Clause.conditions "WHERE" update.erased.filters, _,
        rfl, rfl, ?_⟩
      · rw [Update.plan, if_neg assignments, filters]
      · rw [Template.erased_append, Template.erased_append, Update.erased_head]
        exact congrArg (update.head.erased ++ ·) (Clause.erased_conditions "WHERE" update.filters)

/-- So does a deletion. -/
theorem Delete.plan_erased {deletion : Delete} (planned : deletion.plan = .ok plan) :
    ∃ erasedPlan, deletion.erased.plan = .ok erasedPlan ∧ erasedPlan.Resembles plan := by
  rw [Delete.plan] at planned
  split at planned
  · contradiction
  · obtain rfl := Except.ok.inj planned
    have filters : Clause.check deletion.erased.filters = .ok () :=
      Clause.check_erased deletion.filters
    refine ⟨_, ?_, _, text ("DELETE FROM " ++ deletion.table) ++
      Clause.conditions "WHERE" deletion.erased.filters, _, rfl, rfl, ?_⟩
    · rw [Delete.plan, filters]
      rfl
    · rw [Template.erased_append, Template.erased_append]
      exact congrArg (_ ++ ·) (Clause.erased_conditions "WHERE" deletion.filters)

end Plans

/-- Statements with plans that resemble one another compile to the same outlines. -/
theorem Plan.Resembles.outlines {dialect : Dialect} {first second : Statement}
    {firstPlan secondPlan : Plan} (resembles : firstPlan.Resembles secondPlan)
    (firstPlanned : first.plan dialect = .ok firstPlan)
    (secondPlanned : second.plan dialect = .ok secondPlan) :
    (compile dialect first).map (·.map Compiled.outline) =
      (compile dialect second).map (·.map Compiled.outline) := by
  obtain ⟨notes, template, other, rfl, rfl, same⟩ := resembles
  have count : template.values.length = other.values.length := by
    rw [← template.length_values_erased, same, other.length_values_erased]
  have names : ((Context.empty dialect).bindAll template.values).names =
      ((Context.empty dialect).bindAll other.values).names := by
    rw [Context.names_eq, Context.names_eq]
    simp only [Context.bindAll, Context.empty, List.nil_append, count]
    rfl
  have sql : template.write dialect.capabilities.placeholder 0 =
      other.write dialect.capabilities.placeholder 0 := by
    rw [← template.write_erased, same, other.write_erased]
  rw [compile_of_single firstPlanned, compile_of_single secondPlanned]
  simp only [Except.map, List.map_cons, List.map_nil, Compiled.outline, sql, names, count]

/-- A statement that compiles also does without its values, and becomes the same text, with
the same names, diagnostics and number of values. -/
theorem compile_erased {dialect : Dialect} {statement : Statement} {compiled : List Compiled}
    (accepted : compile dialect statement = .ok compiled) :
    (compile dialect statement.erased).map (·.map Compiled.outline) =
      .ok (compiled.map Compiled.outline) := by
  have same {erasedPlan plan : Plan} (planned : statement.plan dialect = .ok plan)
      (erasedPlanned : statement.erased.plan dialect = .ok erasedPlan)
      (resembles : erasedPlan.Resembles plan) :
      (compile dialect statement.erased).map (·.map Compiled.outline) =
        .ok (compiled.map Compiled.outline) := by
    rw [resembles.outlines erasedPlanned planned, accepted]
    rfl
  obtain ⟨plan, planned⟩ := plan_of_compile accepted
  cases statement with
  | select query =>
    obtain ⟨erasedPlan, erasedPlanned, resembles⟩ := Select.plan_erased planned
    exact same planned erasedPlanned resembles
  | insert insertion =>
    obtain ⟨erasedPlan, erasedPlanned, resembles⟩ := Insert.plan_erased planned
    exact same planned erasedPlanned resembles
  | update change =>
    obtain ⟨erasedPlan, erasedPlanned, resembles⟩ := Update.plan_erased planned
    exact same planned erasedPlanned resembles
  | delete deletion =>
    obtain ⟨erasedPlan, erasedPlanned, resembles⟩ := Delete.plan_erased planned
    exact same planned erasedPlanned resembles
  | createTable _ | alterTable _ | dropTable _ =>
    rw [Statement.erased, accepted]
    rfl

/-- Two statements that compile and are equal once their values are erased become the same
text, with the same names of placeholders, the same diagnostics and equally many values. -/
theorem outlines_eq_of_erased_eq {dialect : Dialect} {first second : Statement}
    {firstCompiled secondCompiled : List Compiled} (same : first.erased = second.erased)
    (firstAccepted : compile dialect first = .ok firstCompiled)
    (secondAccepted : compile dialect second = .ok secondCompiled) :
    firstCompiled.map Compiled.outline = secondCompiled.map Compiled.outline := by
  have firstOutlines := compile_erased firstAccepted
  rw [same, compile_erased secondAccepted] at firstOutlines
  exact (Except.ok.inj firstOutlines).symm

/-- A query with a null that is absent, and one that differs from it in every value: in a
null that is present, in the connective in front, and in a string full of marks. -/
def Select.twins : Select × Select :=
  ({ Select.allOf "users" with
      filters := [.isNull "email", .compare "name" .equal (.string "Ann")]
      having := [.compare "total" .less (.integer 7)]
      limit := some 10
      offset := some 20 },
    { Select.allOf "users" with
      filters :=
        [⟨"email", .is, some .null, .or⟩, .compare "name" .equal (.string "'; DROP TABLE @p1 --")]
      having := [.joinedBy (.compare "total" .less .null) .or]
      limit := some 18446744073709551615
      offset := some 0 })

/-- The two queries on SQL Server. -/
theorem outlines_eq_of_erased_eq_twins :
    ∃ first second,
      (Statement.select Select.twins.1).erased = (Statement.select Select.twins.2).erased ∧
      compile .mssql (.select Select.twins.1) = .ok [first] ∧
      compile .mssql (.select Select.twins.2) = .ok [second] ∧
      first.params.length = 4 ∧
      [first].map Compiled.outline = [second].map Compiled.outline := by
  have firstPlanned : (Statement.select Select.twins.1).plan .mssql =
      .ok (.single [] (Select.twins.1.template .mssql)) := rfl
  have secondPlanned : (Statement.select Select.twins.2).plan .mssql =
      .ok (.single [] (Select.twins.2.template .mssql)) := rfl
  have same : (Statement.select Select.twins.1).erased = (Statement.select Select.twins.2).erased :=
    rfl
  have firstCompiled := compile_of_single firstPlanned
  have secondCompiled := compile_of_single secondPlanned
  exact ⟨_, _, same, firstCompiled, secondCompiled, rfl,
    outlines_eq_of_erased_eq same firstCompiled secondCompiled⟩

end NeutralSql
