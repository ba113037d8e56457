import NeutralSql.Proofs.Compile.Alignment
import NeutralSql.Proofs.Compile.Downgrade
import NeutralSql.Proofs.Compile.Template
import NeutralSql.Proofs.Compile.Verdict
import NeutralSql.Samples

/-!
# One text for all dialects

A statement on rows is one text with holes. A dialect fills the holes with its placeholders
and has no other part in the text, once joins that it lacks are left joins:
`compile_uniform`. SQL Server alone words insertions and bounded queries in its own way, and
counts the offset before the limit; PostgreSQL alone puts a clause behind an insertion.
-/

namespace NeutralSql

open Template (text)

/-- Text with holes: what stands in front of the first hole, and what stands behind each. -/
structure Skeleton where
  lead : String
  gaps : List String

/-- The text with the placeholders of a dialect in its holes, numbered from left to right. -/
def Skeleton.fill (skeleton : Skeleton) (dialect : Dialect) : String :=
  skeleton.lead ++ String.join
    (skeleton.gaps.mapIdx fun index gap => dialect.placeholder (index + 1) ++ gap)

/-- A query with a left join in place of each join that a dialect lacks. -/
def Select.leftJoined (dialect : Dialect) (query : Select) : Select :=
  { query with joins := query.joins.map (Join.downgraded dialect) }

namespace Statement

/-- Statements on rows, as opposed to those on schemas. -/
def IsOnRows : Statement → Prop
  | .select _ | .insert _ | .update _ | .delete _ => True
  | .createTable _ | .alterTable _ | .dropTable _ => False

/-- A statement with a left join in place of each join that a dialect lacks. -/
def leftJoined (dialect : Dialect) : Statement → Statement
  | .select query => .select (query.leftJoined dialect)
  | statement => statement

/-- The limit of a statement. -/
def limitValues : Statement → List Value
  | .select query => query.limit.toList.map .ofCount
  | _ => []

/-- The offset of a statement, which means nothing without a limit. -/
def offsetValues : Statement → List Value
  | .select query => if query.limit.isNone then [] else query.offset.toList.map .ofCount
  | _ => []

/-- A dialect words a statement as the others do. SQL Server does not for insertions and for
queries with a limit. -/
def IsWordedAlike (dialect : Dialect) : Statement → Prop
  | .select query => dialect = .mssql → query.limit = none
  | .insert _ => dialect ≠ .mssql
  | _ => True

/-- What a dialect puts behind a statement: PostgreSQL asks for the rows of an insertion. -/
def trailer (dialect : Dialect) : Statement → String
  | .insert _ => if dialect = .postgresql then " RETURNING *" else ""
  | _ => ""

end Statement

/-! ## The common template -/

/-- A template is written by filling the holes behind its lead and its gaps. -/
theorem Template.write_eq_fill (dialect : Dialect) (template : Template) :
    template.write dialect.capabilities.placeholder 0 =
      Skeleton.fill ⟨template.lead, template.gaps⟩ dialect := by
  have written := template.write_eq dialect.capabilities.placeholder 0
  simp only [Nat.zero_add, Dialect.token_eq] at written
  exact written

/-- The text of a statement on rows as all dialects word it. -/
def Statement.body : Statement → Template
  | .select query => query.template .postgresql
  | .insert insertion => insertion.template .mysql insertion.columns
  | .update change => change.head ++ Clause.conditions "WHERE" change.filters
  | .delete deletion =>
    text ("DELETE FROM " ++ deletion.table) ++ Clause.conditions "WHERE" deletion.filters
  | _ => []

/-- The values that the clauses of a statement on rows bind, other than limit and offset. -/
def Statement.clauseValues : Statement → List Value
  | .select query => Clause.bound query.filters ++ Clause.bound query.having
  | .insert insertion => insertion.bound
  | .update change => change.bound
  | .delete deletion => Clause.bound deletion.filters
  | _ => []

/-- The values of limit and offset in the order of a dialect. -/
def Statement.countValues (dialect : Dialect) (statement : Statement) : List Value :=
  if dialect = .mssql then statement.offsetValues ++ statement.limitValues
  else statement.limitValues ++ statement.offsetValues

namespace Select

/-- Joins that were replaced by left joins are not replaced again. -/
theorem leftJoined_leftJoined (dialect : Dialect) (query : Select) :
    (query.leftJoined dialect).leftJoined dialect = query.leftJoined dialect := by
  rw [leftJoined, leftJoined, Join.map_downgraded_downgraded]

/-- Left joins in place of those that a dialect lacks are the same text. -/
theorem template_leftJoined (dialect : Dialect) (query : Select) :
    (query.leftJoined dialect).template dialect = query.template dialect := by
  have joins : (query.leftJoined dialect).joins.map (Clause.join dialect) =
      query.joins.map (Clause.join dialect) :=
    Clause.map_join_downgraded dialect query.joins
  have head : (query.leftJoined dialect).head dialect = query.head dialect := by
    rw [Select.head, Select.head, joins]
    rfl
  rw [template, template, head]
  rfl

variable {dialect : Dialect} {query : Select}

/-- A dialect words a query as the others do if it has all joins and, for SQL Server, if there
is no limit. -/
theorem template_eq (has : query.leftJoined dialect = query)
    (alike : dialect = .mssql → query.limit = none) :
    query.template dialect = query.template .postgresql := by
  have joins : query.joins.map (Clause.join dialect) =
      query.joins.map (Clause.join .postgresql) := by
    refine List.map_congr_left fun join listed => ?_
    have kept : join.downgraded dialect = join :=
      List.map_inj_left.1 ((congrArg joins has).trans (List.map_id _).symm) join listed
    have written : Clause.writtenJoin dialect join.kind = join.kind := by
      rw [← Join.kind_downgraded, kept]
    have reference : Clause.writtenJoin .postgresql join.kind = join.kind := by
      cases join.kind <;> rfl
    rw [Clause.join, Clause.join, written, reference]
  have pagination : Clause.pagination dialect.capabilities.limitStyle query =
      Clause.pagination Dialect.postgresql.capabilities.limitStyle query := by
    cases dialect with
    | mssql => simp only [Clause.pagination, alike rfl]
    | postgresql | mysql | sqlite => rfl
  rw [template, template, head, head, joins, pagination]

/-- The values of a query are those of its clauses, and limit and offset. -/
theorem bound_eq (dialect : Dialect) (query : Select) :
    query.bound dialect =
      (Statement.select query).clauseValues ++ (Statement.select query).countValues dialect := by
  have counts : (query.counts dialect).map (fun count => Value.integer (saturated count)) =
      (Statement.select query).countValues dialect := by
    simp only [← Value.ofCount_eq, Statement.countValues, Statement.limitValues,
      Statement.offsetValues]
    cases limit : query.limit with
    | none => simp [Select.counts, limit]
    | some count =>
      simp only [Select.counts, limit]
      split <;> simp
  rw [bound, counts, Statement.clauseValues]

end Select

/-- A dialect other than SQL Server words an insertion as the others do, and PostgreSQL asks
for the rows behind it. -/
theorem Insert.write_template {dialect : Dialect} {insertion : Insert} (style : PlaceholderStyle)
    (alike : dialect ≠ .mssql) :
    (insertion.template dialect insertion.columns).write style 0 =
      (insertion.template .mysql insertion.columns).write style 0 ++
        (Statement.insert insertion).trailer dialect := by
  cases dialect with
  | postgresql =>
    have behind : insertion.template .postgresql insertion.columns =
        insertion.template .mysql insertion.columns ++ text " RETURNING *" := by
      simp [Insert.template, Dialect.capabilities]
    rw [behind, Template.write_append_text]
    rfl
  | mysql | sqlite => exact String.append_empty.symm
  | mssql => contradiction

namespace Statement

variable {dialect : Dialect} {request common : Statement}

/-- Left joins in place of others are no reason to fail, and no remedy. -/
theorem fails_leftJoined_iff {error : CompileError} :
    (request.leftJoined dialect).Fails error ↔ request.Fails error := by
  cases request with
  | select query =>
    constructor <;> intro fails <;> cases fails with
    | filter isFirst => exact .filter isFirst
    | having filters isFirst => exact .having filters isFirst
  | insert _ | update _ | delete _ | createTable _ | alterTable _ | dropTable _ => exact Iff.rfl

/-- The common text has a hole for each value of an accepted statement on rows. -/
theorem length_gaps_body (onRows : common.IsOnRows) (same : request.leftJoined dialect = common)
    {plan : Plan} (planned : request.plan dialect = .ok plan) :
    common.body.gaps.length =
      (common.clauseValues ++ common.limitValues ++ common.offsetValues).length := by
  suffices values :
      common.body.values = common.clauseValues ++ (common.limitValues ++ common.offsetValues) by
    rw [Template.length_gaps, values, List.append_assoc]
  subst same
  cases request with
  | select query =>
    exact ((query.leftJoined dialect).values_template .postgresql).trans
      (Select.bound_eq .postgresql _)
  | insert insertion =>
    obtain ⟨-, present⟩ := Insert.plan_eq planned
    exact (Insert.values_template .mysql present).trans (List.append_nil _).symm
  | update change =>
    refine (Template.values_append _ _).trans ?_
    rw [Update.values_head, Clause.values_conditions]
    exact (List.append_nil _).symm
  | delete deletion =>
    exact (Clause.values_conditions "WHERE" deletion.filters).trans (List.append_nil _).symm
  | createTable _ | alterTable _ | dropTable _ => exact onRows.elim

/-- A statement on rows that does not fail becomes one template: the common text, with the
values in the order of the dialect. -/
theorem plan_leftJoined (onRows : common.IsOnRows) (same : request.leftJoined dialect = common)
    {plan : Plan} (planned : request.plan dialect = .ok plan) :
    ∃ notes template, plan = .single notes template ∧
      template.values = common.clauseValues ++ common.countValues dialect ∧
      (common.IsWordedAlike dialect →
        template.write dialect.capabilities.placeholder 0 =
          Skeleton.fill ⟨common.body.lead, common.body.gaps⟩ dialect ++ common.trailer dialect) := by
  subst same
  have uncounted {values : List Value} :
      values ++ (if dialect = .mssql then [] ++ [] else [] ++ []) = values := by
    rw [List.append_nil, ite_self, List.append_nil]
  cases request with
  | select query =>
    refine ⟨_, _, Select.plan_eq planned, ?_, fun alike => ?_⟩
    · rw [← query.template_leftJoined, Select.values_template, Select.bound_eq]
      rfl
    · rw [← query.template_leftJoined,
        Select.template_eq (query.leftJoined_leftJoined dialect) alike, Template.write_eq_fill]
      exact String.append_empty.symm
  | insert insertion =>
    obtain ⟨rfl, present⟩ := Insert.plan_eq planned
    refine ⟨_, _, rfl, ?_, fun alike => ?_⟩
    · exact (Insert.values_template dialect present).trans uncounted.symm
    · rw [Insert.write_template _ alike, Template.write_eq_fill]
      rfl
  | update change =>
    refine ⟨_, _, Update.plan_eq planned, ?_, fun alike => ?_⟩
    · rw [Template.values_append, Update.values_head, Clause.values_conditions]
      exact uncounted.symm
    · rw [Template.write_eq_fill]
      exact String.append_empty.symm
  | delete deletion =>
    refine ⟨_, _, Delete.plan_eq planned, ?_, fun alike => ?_⟩
    · exact (Clause.values_conditions "WHERE" deletion.filters).trans uncounted.symm
    · rw [Template.write_eq_fill]
      exact String.append_empty.symm
  | createTable _ | alterTable _ | dropTable _ => exact onRows.elim

end Statement

/-- Let each dialect be asked for a statement on rows, and let these become one and the same
once the joins that each dialect lacks are left joins. Either all of them are rejected with
one error, or they are one text with holes, filled by each dialect with its placeholders. The
values are the same, apart from an offset that SQL Server counts before the limit. -/
theorem compile_uniform {requests : Dialect → Statement} {common : Statement}
    (onRows : common.IsOnRows) (same : ∀ dialect, (requests dialect).leftJoined dialect = common) :
    (∃ error, ∀ dialect, compile dialect (requests dialect) = .error error) ∨
      ∃ (skeleton : Skeleton) (clauseValues : List Value),
        skeleton.gaps.length =
            (clauseValues ++ common.limitValues ++ common.offsetValues).length ∧
          ∀ dialect, ∃ finished, compile dialect (requests dialect) = .ok [finished] ∧
            (common.IsWordedAlike dialect →
              finished.sql = skeleton.fill dialect ++ common.trailer dialect) ∧
            finished.params = clauseValues ++
              if dialect = .mssql then common.offsetValues ++ common.limitValues
              else common.limitValues ++ common.offsetValues := by
  have fails {error : CompileError} (dialect : Dialect) :
      compile dialect (requests dialect) = .error error ↔ common.Fails error := by
    rw [compile_eq_error_iff, Statement.failsWith_plan_iff, ← same dialect,
      Statement.fails_leftJoined_iff]
  by_cases rejected : ∃ error, common.Fails error
  · obtain ⟨error, failed⟩ := rejected
    exact .inl ⟨error, fun dialect => (fails dialect).2 failed⟩
  · have planned (dialect : Dialect) : ∃ plan, (requests dialect).plan dialect = .ok plan := by
      cases compiled : compile dialect (requests dialect) with
      | error error => exact absurd ⟨error, (fails dialect).1 compiled⟩ rejected
      | ok finished => exact plan_of_compile compiled
    refine .inr ⟨⟨common.body.lead, common.body.gaps⟩, common.clauseValues, ?_, fun dialect => ?_⟩
    · obtain ⟨plan, planned⟩ := planned .postgresql
      exact Statement.length_gaps_body onRows (same .postgresql) planned
    · obtain ⟨plan, planned⟩ := planned dialect
      obtain ⟨notes, template, rfl, values, written⟩ :=
        Statement.plan_leftJoined onRows (same dialect) planned
      exact ⟨_, compile_of_single planned, written, values⟩

/-- A page of orders, by a full join in the dialects that lack it and a left join in the
others. -/
def Samples.pageOfOrders (dialect : Dialect) : Statement :=
  .select
    { ordersWithCustomers (if dialect.hasJoin .full then .left else .full) with
      limit := some 10
      offset := some 20 }

/-- The page of orders is one text with three holes, and SQL Server counts its offset first. -/
theorem compile_uniform_page :
    ∃ skeleton : Skeleton, skeleton.gaps.length = 3 ∧
      ∀ dialect, ∃ finished,
        compile dialect (Samples.pageOfOrders dialect) = .ok [finished] ∧
        (dialect ≠ .mssql → finished.sql = skeleton.fill dialect) ∧
        finished.params = if dialect = .mssql then [.string "paid", .integer 20, .integer 10]
          else [.string "paid", .integer 10, .integer 20] := by
  have planned : (Samples.pageOfOrders .mssql).plan .mssql = .ok (.single [] _) := rfl
  have compiled := compile_of_single planned
  obtain ⟨error, rejected⟩ | ⟨skeleton, clauseValues, holes, filled⟩ :=
    @compile_uniform Samples.pageOfOrders (Samples.pageOfOrders .mssql) trivial
      (fun dialect => by cases dialect <;> rfl)
  · exact nomatch compiled.symm.trans (rejected .mssql)
  · obtain rfl : clauseValues = [.string "paid"] := by
      obtain ⟨finished, again, -, params⟩ := filled .mssql
      obtain rfl := (List.cons.inj (Except.ok.inj (compiled.symm.trans again))).1
      exact (List.append_cancel_right params).symm
    refine ⟨skeleton, holes, fun dialect => ?_⟩
    obtain ⟨finished, compiled, written, params⟩ := filled dialect
    refine ⟨finished, compiled, fun other => ?_, params.trans ?_⟩
    · exact (written fun isServer => absurd isServer other).trans String.append_empty
    · cases dialect <;> rfl

end NeutralSql
