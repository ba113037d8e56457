import NeutralSql.Proofs.Compile.Context
import NeutralSql.Proofs.Compile.Query

/-!
# What a rejected statement leaves behind

Conditions are checked when their clause is reached, so a statement may be rejected after
clauses in front have bound values or recorded diagnostics. `Context.compile_rejected` says
exactly what then remains in the context, and which statements are rejected without a trace.
What remains goes to the next statement that is finished there.
-/

namespace NeutralSql

namespace Clause

variable {predicates : List Predicate}

/-- Conditions that fail their check have an ill-formed one among them. -/
theorem any_isInvalid_of_check {error : CompileError} (failed : check predicates = .error error) :
    predicates.any Predicate.isInvalid = true := by
  rw [check] at failed
  split at failed
  · rename_i predicate found
    exact List.any_eq_true.2 ⟨predicate, List.mem_of_find?_eq_some found, List.find?_some found⟩
  · contradiction

/-- Conditions that pass their check have none. -/
theorem not_any_isInvalid_of_check {checked : Unit} (passed : check predicates = .ok checked) :
    ¬predicates.any Predicate.isInvalid = true := by
  rw [check] at passed
  split at passed
  · contradiction
  · rename_i absent
    rw [Bool.not_eq_true, List.any_eq_false]
    exact List.find?_eq_none.1 absent

end Clause

namespace Statement

/-- The values that a statement has bound by the time it is rejected: the conditions on rows
of a query, if they are well-formed, and the assignments of an update. -/
def leftBound : Statement → List Value
  | .select query =>
    if query.filters.any Predicate.isInvalid then [] else Clause.bound query.filters
  | .update change => change.assignments.values
  | _ => []

/-- The diagnostics that a statement has recorded by the time it is rejected: those of the
joins of a query. -/
def leftNotes (dialect : Dialect) : Statement → List Diagnostic
  | .select query => query.joinNotes dialect
  | _ => []

/-- A statement that leaves no trace where it is rejected. A query has no join that becomes
another one, and its conditions on rows are at fault themselves or bind nothing. An update
assigns nothing. All other statements are checked as a whole before anything is written. -/
def LeavesNoTrace (dialect : Dialect) : Statement → Prop
  | .select query =>
    (∀ join ∈ query.joins, Clause.writtenJoin dialect join.kind = join.kind) ∧
      ((∃ predicate ∈ query.filters, predicate.isInvalid = true) ∨
        Clause.bound query.filters = [])
  | .update change => change.assignments.isEmpty = true
  | _ => True

variable {dialect : Dialect} {statement : Statement} {fault : Fault}

/-- A fault comes with the values and diagnostics that had been written before it. -/
theorem fault_eq (rejected : statement.plan dialect = .error fault) :
    fault.bound = statement.leftBound ∧ fault.notes = statement.leftNotes dialect := by
  cases statement with
  | select query =>
    rw [plan, Select.plan] at rejected
    split at rejected
    · rename_i error failed
      obtain rfl := Except.error.inj rejected
      refine ⟨?_, rfl⟩
      rw [leftBound, if_pos (Clause.any_isInvalid_of_check failed)]
    · rename_i passed failed
      obtain rfl := Except.error.inj rejected
      refine ⟨?_, rfl⟩
      rw [leftBound, if_neg (Clause.not_any_isInvalid_of_check passed), Clause.values_conditions]
    · contradiction
  | insert insertion =>
    rw [plan, Insert.plan] at rejected
    split at rejected
    · obtain rfl := Except.error.inj rejected
      exact ⟨rfl, rfl⟩
    · split at rejected
      · obtain rfl := Except.error.inj rejected
        exact ⟨rfl, rfl⟩
      · split at rejected
        · obtain rfl := Except.error.inj rejected
          exact ⟨rfl, rfl⟩
        · contradiction
  | update change =>
    rw [plan, Update.plan] at rejected
    split at rejected
    · rename_i assignsNothing
      obtain rfl := Except.error.inj rejected
      refine ⟨?_, rfl⟩
      rw [leftBound, Row.values, List.isEmpty_iff.1 assignsNothing]
      rfl
    · split at rejected
      · obtain rfl := Except.error.inj rejected
        exact ⟨change.values_head, rfl⟩
      · contradiction
  | delete deletion =>
    rw [plan, Delete.plan] at rejected
    split at rejected
    · obtain rfl := Except.error.inj rejected
      exact ⟨rfl, rfl⟩
    · contradiction
  | createTable table =>
    rw [plan, CreateTable.plan] at rejected
    split at rejected
    · obtain rfl := Except.error.inj rejected
      exact ⟨rfl, rfl⟩
    · split at rejected
      · obtain rfl := Except.error.inj rejected
        exact ⟨rfl, rfl⟩
      · contradiction
  | alterTable alteration =>
    rw [plan, AlterTable.plan] at rejected
    split at rejected
    · obtain rfl := Except.error.inj rejected
      exact ⟨rfl, rfl⟩
    · contradiction
  | dropTable removal => contradiction

/-- A statement leaves no trace exactly if it leaves no values and no diagnostics. -/
theorem leavesNoTrace_iff (dialect : Dialect) (statement : Statement) :
    statement.LeavesNoTrace dialect ↔
      statement.leftBound = [] ∧ statement.leftNotes dialect = [] := by
  cases statement with
  | select query =>
    have notes : query.joinNotes dialect = [] ↔
        ∀ join ∈ query.joins, Clause.writtenJoin dialect join.kind = join.kind := by
      rw [Select.joinNotes, List.flatMap_eq_nil_iff]
      refine forall₂_congr fun join _ => ?_
      rw [Clause.joinNotes]
      split
      · exact iff_of_true rfl ‹_›
      · exact iff_of_false (List.cons_ne_nil _ _) ‹_›
    rw [LeavesNoTrace, leftNotes, notes, leftBound, ← List.any_eq_true, and_comm]
    refine and_congr_left fun _ => ?_
    split
    · exact iff_of_true (.inl ‹_›) rfl
    · exact or_iff_right ‹_›
  | update change =>
    have unnoted : (update change).leftNotes dialect = [] := rfl
    rw [LeavesNoTrace, leftBound, unnoted, Row.isEmpty, Row.values, List.isEmpty_iff,
      List.map_eq_nil_iff]
    exact (and_iff_left rfl).symm
  | insert _ | delete _ | createTable _ | alterTable _ | dropTable _ =>
    exact iff_of_true trivial ⟨rfl, rfl⟩

end Statement

/-- A query with a full join whose condition on groups is ill-formed, and whose condition on
rows binds a value. -/
def Select.faulty : Select :=
  { Select.allOf "users" with
    joins := [.on .full "orders" "users.id" "orders.user_id"]
    filters := [.compare "age" .greater (.integer 30)]
    having := [.compare "total" .is (.integer 7)] }

/-- A deletion with one value. -/
def Delete.sample : Delete :=
  ⟨"users", [.compare "id" .equal (.integer 8)]⟩

namespace Context

/-- Diagnostics recorded one after the other wait behind those that waited before. -/
theorem foldl_note (context : Context) (notes : List Diagnostic) :
    notes.foldl note context = { context with pending := context.pending ++ notes } := by
  induction notes generalizing context with
  | nil => rw [List.append_nil]; rfl
  | cons first others inductionHypothesis =>
    rw [List.foldl_cons, inductionHypothesis, note]
    simp only [List.append_assoc, List.singleton_append]

/-- A fault leaves its values and diagnostics behind those that were there. -/
theorem abandon_eq (context : Context) (fault : Fault) :
    context.abandon fault =
      { context with
        params := context.params ++ fault.bound
        pending := context.pending ++ fault.notes } := by
  rw [abandon, foldl_note]
  rfl

/-- A rejected statement leaves in a context what it had written, behind what was there, and
changes nothing else. The context is as it was before exactly if the statement leaves no
trace. -/
theorem compile_rejected {context after : Context} {statement : Statement}
    {error : CompileError} (rejected : context.compile statement = (.error error, after)) :
    after =
        { context with
          params := context.params ++ statement.leftBound
          pending := context.pending ++ statement.leftNotes context.dialect } ∧
      (after = context ↔ statement.LeavesNoTrace context.dialect) := by
  rw [compile] at rejected
  cases planned : statement.plan context.dialect with
  | ok plan =>
    rw [planned] at rejected
    obtain ⟨failed, -⟩ := Prod.mk.inj rejected
    contradiction
  | error fault =>
    rw [planned] at rejected
    obtain ⟨bound, notes⟩ := Statement.fault_eq planned
    obtain rfl := (Prod.mk.inj rejected).2
    rw [abandon_eq, bound, notes, Statement.leavesNoTrace_iff]
    refine ⟨rfl, ?_⟩
    obtain ⟨dialect, params, pending, emitted⟩ := context
    simp

/-- The query leaves the diagnostic of its join and the value of its first condition. -/
theorem compile_rejected_full_join :
    ∃ after, ((empty .sqlite).bindAll [.null]).compile (.select Select.faulty) =
        (.error (.invalidPredicate "total" .is), after) ∧
      after =
        { (empty .sqlite).bindAll [.null] with
          params := [.null] ++ (Statement.select Select.faulty).leftBound
          pending := [] ++ (Statement.select Select.faulty).leftNotes .sqlite } ∧
      (after = (empty .sqlite).bindAll [.null] ↔
        (Statement.select Select.faulty).LeavesNoTrace .sqlite) :=
  ⟨_, rfl, compile_rejected rfl⟩

/-- Whatever a rejected statement has bound shifts the placeholders of the next statement:
the one value of a deletion becomes the second one. -/
theorem compile_behind_rejected :
    ∃ after, (empty .postgresql).compile (.select Select.faulty) =
        (.error (.invalidPredicate "total" .is), after) ∧
      after.params = [.integer 30] ∧ after ≠ empty .postgresql ∧
      ((empty .postgresql).compile (.delete Delete.sample)).1 =
        .ok [⟨"DELETE FROM users WHERE id = $1", [.integer 8], [], []⟩] ∧
      (after.compile (.delete Delete.sample)).1 =
        .ok [⟨"DELETE FROM users WHERE id = $2", [.integer 30, .integer 8], [], []⟩] := by
  refine ⟨_, rfl, rfl, ?_, rfl, rfl⟩
  intro same
  exact nomatch congrArg params same

end Context

end NeutralSql
