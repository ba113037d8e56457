import NeutralSql.Proofs.Compile.Context
import NeutralSql.Proofs.Compile.Query

/-!
# Placeholders and values agree

For every statement on rows that compiles, the bound values and their order are given by
the statement, and the text has one placeholder for each, numbered from left to right. A
reader who only sees the text finds exactly these, as long as no text of the statement
contains the mark that begins them.
-/

namespace NeutralSql

namespace Statement

/-- The values that a statement on rows binds, in the order of their placeholders. -/
def bound? (dialect : Dialect) : Statement → Option (List Value)
  | .select query => some (query.bound dialect)
  | .insert insertion => some insertion.bound
  | .update change => some change.bound
  | .delete deletion => some (Clause.bound deletion.filters)
  | _ => none

/-- The names and expressions of a statement on rows, which become part of its text. -/
def names : Statement → List String
  | .select query => query.names
  | .insert insertion => insertion.names
  | .update change => change.names
  | .delete deletion => deletion.names
  | _ => []

/-- A plan for a statement on rows finishes one template. It has the statement's values,
nothing runs on behind their placeholders, and its text has a mark only where one of the
statement's names has one. -/
theorem plan_of_bound {dialect : Dialect} {statement : Statement} {values : List Value}
    {plan : Plan} (bound : statement.bound? dialect = some values)
    (planned : statement.plan dialect = .ok plan) :
    ∃ notes template, plan = .single notes template ∧ template.values = values ∧
      template.IsGuarded ∧
      ((∀ name ∈ statement.names, dialect.Spares name) →
        template.Spares dialect.capabilities.placeholder.mark) := by
  cases statement with
  | select query =>
    obtain rfl := Option.some.inj bound
    exact ⟨_, _, Select.plan_eq planned, query.values_template dialect,
      query.isGuarded_template dialect, Select.spares_template⟩
  | insert insertion =>
    obtain rfl := Option.some.inj bound
    obtain ⟨rfl, present⟩ := Insert.plan_eq planned
    exact ⟨_, _, rfl, Insert.values_template dialect present,
      insertion.isGuarded_template dialect _, Insert.spares_template⟩
  | update change =>
    obtain rfl := Option.some.inj bound
    have conditions := Clause.isClause_conditions "WHERE" change.filters
    refine ⟨_, _, Update.plan_eq planned, ?_, ?_, Update.spares_template⟩
    · rw [Template.values_append, Update.values_head, Clause.values_conditions, Update.bound]
    · exact change.isGuarded_head.append conditions.breaks conditions.guarded
  | delete deletion =>
    obtain rfl := Option.some.inj bound
    have conditions := Clause.isClause_conditions "WHERE" deletion.filters
    exact ⟨_, _, Delete.plan_eq planned, Clause.values_conditions "WHERE" _, conditions.guarded,
      Delete.spares_template⟩
  | createTable table => contradiction
  | alterTable alteration => contradiction
  | dropTable removal => contradiction

end Statement

/-- The placeholder with a number in a dialect. -/
def Dialect.placeholder (dialect : Dialect) (number : Nat) : String :=
  match dialect with
  | .postgresql => "$" ++ toString number
  | .mysql => "?"
  | .sqlite => "?"
  | .mssql => "@p" ++ toString number

theorem Dialect.token_eq (dialect : Dialect) (number : Nat) :
    dialect.capabilities.placeholder.token number = dialect.placeholder number := by
  cases dialect with
  | mssql =>
    have prefixed : String.singleton '@' ++ "p" = "@p" := by decide
    exact congrArg (· ++ toString number) prefixed
  | postgresql => rfl
  | mysql => rfl
  | sqlite => rfl

/-- The marks of the dialects do not run on. -/
theorem Dialect.isProper_placeholder (dialect : Dialect) :
    dialect.capabilities.placeholder.IsProper := by
  cases dialect <;> rfl

/-- A finished statement agrees with the values that it is to bind. Other texts have become
part of its text. -/
structure Compiled.IsAligned (finished : Compiled) (dialect : Dialect) (others : List String)
    (values : List Value) : Prop where
  /-- It binds the values in their order. -/
  params : finished.params = values
  /-- Its text has a placeholder for each value, and their numbers count from left to right. -/
  sql : ∃ (lead : String) (gaps : List String), gaps.length = values.length ∧
    finished.sql = lead ++ String.join
      (gaps.mapIdx fun index gap => dialect.placeholder (index + 1) ++ gap)
  /-- The placeholders have names on SQL Server alone. -/
  names : finished.names =
    if dialect = .mssql then
      (List.range values.length).map fun index => "p" ++ toString (index + 1)
    else []
  /-- The text shows no other placeholders, unless one of the others has the mark. -/
  shown : (∀ other ∈ others, dialect.Spares other) →
    dialect.capabilities.placeholder.shown finished.sql =
      (List.range values.length).map fun index => dialect.placeholder (index + 1)
  /-- Counting finds as many placeholders, unless one of the others has the mark. -/
  count : (∀ other ∈ others, dialect.Spares other) →
    dialect.capabilities.placeholder.count finished.sql = values.length

/-- Every statement on rows that compiles becomes one finished statement, which agrees with
the values that the statement binds. -/
theorem compile_aligned {dialect : Dialect} {statement : Statement} {values : List Value}
    {compiled : List Compiled} (bound : statement.bound? dialect = some values)
    (accepted : compile dialect statement = .ok compiled) :
    ∃ finished, compiled = [finished] ∧ finished.IsAligned dialect statement.names values := by
  obtain ⟨plan, planned⟩ := plan_of_compile accepted
  obtain ⟨notes, template, rfl, rfl, guarded, spares⟩ := Statement.plan_of_bound bound planned
  rw [compile_of_single planned] at accepted
  obtain rfl := Except.ok.inj accepted
  have proper := dialect.isProper_placeholder
  refine ⟨_, rfl, rfl, ⟨template.lead, template.gaps, template.length_gaps, ?_⟩,
    Context.names_eq _, fun spared => ?_, fun spared => ?_⟩
  · have written := template.write_eq dialect.capabilities.placeholder 0
    simp only [Nat.zero_add, Dialect.token_eq] at written
    exact written
  · rw [Template.shown_write proper (spares spared) guarded]
    exact List.map_congr_left fun index _ => dialect.token_eq (index + 1)
  · exact Template.count_write proper (spares spared) guarded 0

/-- A query with conditions on rows and groups, one of them without a value, and a page. -/
def Select.sample : Select :=
  { Select.allOf "users" with
    filters := [.compare "age" .greater (.integer 30), .isNull "email"]
    groupBy := ["city"]
    having := [.compare "total" .less (.integer 7)]
    limit := some 10
    offset := some 20 }

/-- The sample query on SQL Server, where the offset comes before the limit. -/
def Compiled.sample : Compiled :=
  ⟨"SELECT * FROM users WHERE age > @p1 AND email IS NULL GROUP BY city HAVING total < @p2" ++
      " ORDER BY (SELECT NULL) OFFSET @p3 ROWS FETCH NEXT @p4 ROWS ONLY",
    [.integer 30, .integer 7, .integer 20, .integer 10], ["p1", "p2", "p3", "p4"], []⟩

/-- The sample query compiles to the sample statement. -/
theorem compile_sample : compile .mssql (.select Select.sample) = .ok [Compiled.sample] := by
  have planned : (Statement.select Select.sample).plan .mssql =
      .ok (.single [] (Select.sample.template .mssql)) := rfl
  have sql : (Select.sample.template .mssql).write Dialect.mssql.capabilities.placeholder 0 =
      Compiled.sample.sql := by
    decide +kernel
  have names : ((Context.empty .mssql).bindAll (Select.sample.template .mssql).values).names =
      Compiled.sample.names := by
    decide +kernel
  rw [compile_of_single planned, sql, names]
  rfl

/-- The sample query agrees with its values, and a reader of its text finds them all. -/
theorem compile_aligned_sample :
    (Statement.select Select.sample).bound? .mssql = some Compiled.sample.params ∧
      compile .mssql (.select Select.sample) = .ok [Compiled.sample] ∧
      (∀ name ∈ (Statement.select Select.sample).names, Dialect.mssql.Spares name) ∧
      ∃ finished, [Compiled.sample] = [finished] ∧
        finished.IsAligned .mssql (Statement.select Select.sample).names
          Compiled.sample.params := by
  refine ⟨rfl, compile_sample, ?_, compile_aligned rfl compile_sample⟩
  simp only [Dialect.Spares]
  decide

end NeutralSql
