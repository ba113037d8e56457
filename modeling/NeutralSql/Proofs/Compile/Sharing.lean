import Mathlib.Data.List.Forall2
import NeutralSql.Proofs.Compile.Definition

/-!
# Sharing a context

Several statements may be compiled in one context, and questions about the schema may be
asked in between. `callAll_shared` says that no call notices the ones before it: it makes the
same texts and binds the same values as in a context of its own. What does move from one call
to another are diagnostics that no statement has taken, and none of them is lost or repeated.
-/

namespace NeutralSql

open Template (text)

namespace Context

/-- A call on a context that several calls may share. -/
inductive Call
  | compile (statement : Statement)
  | hasTable (table : String)
  | hasColumn (table column : String)

/-- Make a call. A question about the schema finishes one statement and does not fail. -/
def call (context : Context) : Call → Except CompileError (List Compiled) × Context
  | .compile statement => context.compile statement
  | .hasTable table =>
    let (question, next) := context.finishTemplate (context.dialect.hasTable table)
    (.ok [question], next)
  | .hasColumn table column =>
    let (question, next) := context.finishTemplate (context.dialect.hasColumn table column)
    (.ok [question], next)

/-- Make calls one after the other until one of them fails. -/
def callAll (context : Context) :
    List Call → Except CompileError (List (List Compiled) × Context)
  | [] => .ok ([], context)
  | first :: others =>
    match context.call first with
    | (.ok made, next) =>
      (next.callAll others).map fun rest => (made :: rest.1, rest.2)
    | (.error error, _) => .error error

namespace Call

/-- A call that compiles a statement on a schema. -/
def isDefinition : Call → Bool
  | .compile (.createTable _) | .compile (.alterTable _) | .compile (.dropTable _) => true
  | _ => false

/-- The plan that a call carries out. -/
def plan (dialect : Dialect) : Call → Except Fault Plan
  | .compile statement => statement.plan dialect
  | .hasTable table => .ok (.single [] (dialect.hasTable table))
  | .hasColumn table column => .ok (.single [] (dialect.hasColumn table column))

/-- The diagnostics that a call records in a context of its own: those that it hands out, and
those that wait afterwards. -/
def recorded (dialect : Dialect) (call : Call) : List Diagnostic :=
  match (empty dialect).call call with
  | (.ok made, after) => made.flatMap Compiled.diagnostics ++ after.pending
  | (.error _, after) => after.pending

/-- The statements that a call makes are those of a context of its own, whatever diagnostics
they carry, and a definition binds no values. -/
structure Answers (dialect : Dialect) (call : Call) (made : List Compiled) : Prop where
  own : ∃ alone after, (empty dialect).call call = (.ok alone, after) ∧
    made.map Compiled.bare = alone.map Compiled.bare
  unbound : call.isDefinition = true → ∀ compiled ∈ made, compiled.params = []

end Call

section Calls

variable {context next : Context} {made : List Compiled} {call : Call}

/-- A call with a plan makes what its plan makes. -/
theorem call_eq_run {plan : Plan} (planned : call.plan context.dialect = .ok plan) :
    context.call call = (.ok (context.run plan).1, (context.run plan).2) := by
  cases call with
  | compile statement => exact compile_eq_run planned
  | hasTable _ | hasColumn _ _ =>
    obtain rfl := Except.ok.inj planned
    rfl

/-- A call that succeeds has a plan, and carrying it out makes what the call makes. -/
theorem run_of_call (answered : context.call call = (.ok made, next)) :
    ∃ plan, call.plan context.dialect = .ok plan ∧ context.run plan = (made, next) := by
  cases call with
  | compile statement => exact run_of_compile answered
  | hasTable _ | hasColumn _ _ =>
    obtain ⟨question, rfl⟩ := Prod.mk.inj answered
    obtain rfl := Except.ok.inj question
    exact ⟨_, rfl, rfl⟩

/-- The templates of a definition have no slots. -/
theorem Call.values_of_isDefinition {dialect : Dialect} {plan : Plan}
    (definition : call.isDefinition = true) (planned : call.plan dialect = .ok plan) :
    ∀ template ∈ plan.templates, template.values = [] := by
  cases call with
  | hasTable _ | hasColumn _ _ => contradiction
  | compile statement =>
    cases statement with
    | select _ | insert _ | update _ | delete _ => contradiction
    | createTable table =>
      obtain ⟨typed, -, -, rfl⟩ := CreateTable.plan_eq planned
      rw [Plan.templates_append, Plan.templates_single, Plan.templates_map_finish]
      exact List.forall_mem_cons.2 ⟨rfl, List.forall_mem_map.2 fun _ _ => rfl⟩
    | alterTable alteration =>
      obtain ⟨typed, -, rfl⟩ := AlterTable.plan_eq planned
      rw [Plan.templates_append, Plan.templates_flatMap, List.forall_mem_append]
      constructor
      · intro template isFinished
        obtain ⟨column, -, isStatement⟩ := List.mem_flatMap.1 isFinished
        rw [AlterTable.templates_columnSteps, List.mem_singleton] at isStatement
        rw [isStatement]
        rfl
      · exact AlterTable.values_constraintSteps dialect alteration.table
          alteration.addConstraints
    | dropTable removal =>
      obtain rfl := Except.ok.inj planned
      exact List.forall_mem_singleton.2 rfl

/-- A call in its own context records the diagnostics of its plan. -/
theorem Call.recorded_eq {dialect : Dialect} {plan : Plan}
    (planned : call.plan dialect = .ok plan) : call.recorded dialect = plan.notes := by
  have answered : (empty dialect).call call =
      (.ok ((empty dialect).run plan).1, ((empty dialect).run plan).2) := call_eq_run planned
  rw [recorded, answered]
  exact (empty dialect).diagnostics_run plan

/-- A call leaves the dialect as it is. -/
theorem dialect_call (answered : context.call call = (.ok made, next)) :
    next.dialect = context.dialect := by
  obtain ⟨plan, -, ran⟩ := run_of_call answered
  have kept := context.dialect_run plan
  rwa [ran] at kept

/-- A call that begins with nothing bound also ends so. -/
theorem params_call (unbound : context.params = [])
    (answered : context.call call = (.ok made, next)) : next.params = [] := by
  obtain ⟨plan, -, ran⟩ := run_of_call answered
  have still := params_run plan unbound
  rwa [ran] at still

/-- A call hands out what waited before it and what it records, or leaves it waiting. -/
theorem diagnostics_call (answered : context.call call = (.ok made, next)) :
    made.flatMap Compiled.diagnostics ++ next.pending =
      context.pending ++ call.recorded context.dialect := by
  obtain ⟨plan, planned, ran⟩ := run_of_call answered
  have conserved := context.diagnostics_run plan
  rwa [ran, ← Call.recorded_eq planned] at conserved

/-- A call raises the number of diagnostics by those that it records. -/
theorem totalDiagnostics_call (answered : context.call call = (.ok made, next)) :
    next.totalDiagnostics =
      context.totalDiagnostics + (call.recorded context.dialect).length := by
  obtain ⟨plan, planned, ran⟩ := run_of_call answered
  have raised := context.totalDiagnostics_run plan
  rwa [ran, ← Call.recorded_eq planned] at raised

/-- Where nothing was bound beforehand, a call makes the statements of a context of its own. -/
theorem answers_call (unbound : context.params = [])
    (answered : context.call call = (.ok made, next)) : call.Answers context.dialect made := by
  obtain ⟨plan, planned, ran⟩ := run_of_call answered
  have written := bare_run plan unbound
  rw [ran] at written
  refine ⟨⟨_, _, call_eq_run planned, ?_⟩, ?_⟩
  · rw [written, bare_run plan rfl]
    rfl
  · -- Each statement is a template written on its own, and those of a definition have no slots.
    intro definition compiled isMade
    have bare : compiled.bare ∈ plan.templates.map (Template.written context.dialect) := by
      rw [← written]
      exact List.mem_map_of_mem isMade
    obtain ⟨template, isFinished, same⟩ := List.mem_map.1 bare
    have values := Call.values_of_isDefinition definition planned template isFinished
    have params := congrArg Compiled.params same
    exact params.symm.trans values

/-- Whether a call succeeds is a matter of its plan, and so of the dialect alone. -/
theorem isOk_call (context : Context) (call : Call) :
    (context.call call).1.isOk = (call.plan context.dialect).isOk := by
  cases call with
  | compile statement =>
    cases planned : statement.plan context.dialect <;>
      rw [Context.call, Context.compile, Call.plan, planned] <;> rfl
  | hasTable _ | hasColumn _ _ => rfl

end Calls

section Sequences

variable {context final : Context} {calls : List Call} {answers : List (List Compiled)}

/-- A sequence of calls succeeds with its first call and with the others behind it. -/
theorem callAll_cons_eq_ok {first : Call}
    (succeeded : context.callAll (first :: calls) = .ok (answers, final)) :
    ∃ made next rest, context.call first = (.ok made, next) ∧
      next.callAll calls = .ok (rest, final) ∧ answers = made :: rest := by
  rw [callAll] at succeeded
  split at succeeded
  · rename_i made next answered
    cases others : next.callAll calls with
    | error error =>
      rw [others] at succeeded
      exact nomatch succeeded
    | ok rest =>
      rw [others] at succeeded
      obtain ⟨rfl, rfl⟩ := Prod.mk.inj (Except.ok.inj succeeded)
      exact ⟨made, next, rest.1, answered, others, rfl⟩
  · exact nomatch succeeded

/-- Where nothing was bound beforehand, each call of a sequence makes the statements of a
context of its own. -/
theorem answers_callAll (unbound : context.params = [])
    (succeeded : context.callAll calls = .ok (answers, final)) :
    List.Forall₂ (Call.Answers context.dialect) calls answers := by
  induction calls generalizing context answers with
  | nil =>
    obtain ⟨rfl, -⟩ := Prod.mk.inj (Except.ok.inj succeeded)
    exact .nil
  | cons first others inductionHypothesis =>
    obtain ⟨made, next, rest, answered, continued, rfl⟩ := callAll_cons_eq_ok succeeded
    -- The hypothesis speaks of the context behind the first call, which binds nothing either.
    have later := inductionHypothesis (params_call unbound answered) continued
    rw [dialect_call answered] at later
    exact .cons (answers_call unbound answered) later

/-- A sequence of calls hands out what waited before it and what each of the calls records,
in order, up to what waits at its end. -/
theorem diagnostics_callAll (succeeded : context.callAll calls = .ok (answers, final)) :
    answers.flatten.flatMap Compiled.diagnostics ++ final.pending =
      context.pending ++ calls.flatMap (Call.recorded context.dialect) := by
  induction calls generalizing context answers with
  | nil =>
    obtain ⟨rfl, rfl⟩ := Prod.mk.inj (Except.ok.inj succeeded)
    exact (List.append_nil _).symm
  | cons first others inductionHypothesis =>
    obtain ⟨made, next, rest, answered, continued, rfl⟩ := callAll_cons_eq_ok succeeded
    have later := inductionHypothesis continued
    rw [dialect_call answered] at later
    rw [List.flatten_cons, List.flatMap_append, List.append_assoc, later, ← List.append_assoc,
      diagnostics_call answered, List.append_assoc, List.flatMap_cons]

/-- A sequence of calls raises the number of diagnostics by those that its calls record. -/
theorem totalDiagnostics_callAll (succeeded : context.callAll calls = .ok (answers, final)) :
    final.totalDiagnostics =
      context.totalDiagnostics + (calls.flatMap (Call.recorded context.dialect)).length := by
  induction calls generalizing context answers with
  | nil =>
    obtain ⟨-, rfl⟩ := Prod.mk.inj (Except.ok.inj succeeded)
    rfl
  | cons first others inductionHypothesis =>
    obtain ⟨made, next, rest, answered, continued, rfl⟩ := callAll_cons_eq_ok succeeded
    have later := inductionHypothesis continued
    rw [dialect_call answered] at later
    rw [later, totalDiagnostics_call answered, List.flatMap_cons, List.length_append,
      Nat.add_assoc]

/-- A sequence of calls succeeds exactly if each of them succeeds in a context of its own. -/
theorem isOk_callAll (context : Context) (calls : List Call) :
    (context.callAll calls).isOk = true ↔
      ∀ call ∈ calls, ((empty context.dialect).call call).1.isOk = true := by
  induction calls generalizing context with
  | nil => exact iff_of_true rfl (List.forall_mem_nil _)
  | cons first others inductionHypothesis =>
    have alone : ((empty context.dialect).call first).1.isOk = (context.call first).1.isOk := by
      rw [isOk_call, isOk_call]
      rfl
    rw [List.forall_mem_cons, alone, callAll]
    split
    · rename_i made next answered
      rw [answered, ← dialect_call answered, ← inductionHypothesis next]
      cases next.callAll others with
      | error error => exact iff_of_false nofun nofun
      | ok rest => exact iff_of_true rfl ⟨rfl, rfl⟩
    · rename_i error after failed
      rw [failed]
      exact iff_of_false nofun nofun

end Sequences

/-- Calls that share a new context and succeed make the statements that each of them makes in
a context of its own, and definitions bind no values. The diagnostics that are handed out, with
those that wait at the end, are the diagnostics that the calls record on their own, in order;
the context counts them, and none is handed out twice. -/
theorem callAll_shared {dialect : Dialect} {calls : List Call}
    {answers : List (List Compiled)} {final : Context}
    (succeeded : (empty dialect).callAll calls = .ok (answers, final)) :
    List.Forall₂ (Call.Answers dialect) calls answers ∧
      answers.flatten.flatMap Compiled.diagnostics ++ final.pending =
        calls.flatMap (Call.recorded dialect) ∧
      final.totalDiagnostics = (calls.flatMap (Call.recorded dialect)).length ∧
      ∀ diagnostic, (answers.flatten.flatMap Compiled.diagnostics).count diagnostic +
        final.pending.count diagnostic =
          (calls.flatMap (Call.recorded dialect)).count diagnostic := by
  have conserved : answers.flatten.flatMap Compiled.diagnostics ++ final.pending =
      calls.flatMap (Call.recorded dialect) := diagnostics_callAll succeeded
  refine ⟨answers_callAll rfl succeeded, conserved, ?_, ?_⟩
  · rw [totalDiagnostics_callAll succeeded]
    exact Nat.zero_add _
  · intro diagnostic
    rw [← conserved, List.count_append]

/-- A constraint that cannot be added to a table, a question, and a table that is dropped. -/
def Call.sample : List Call :=
  [.compile (.alterTable ((AlterTable.of "orders").constrain (·.addUnique ["reference"]))),
    .hasColumn "users" "age", .compile (.dropTable ⟨"users", false⟩)]

/-- On SQLite the constraint finishes nothing, and the question carries its diagnostic. -/
theorem callAll_shared_sample :
    ∃ answers final, (empty .sqlite).callAll Call.sample = .ok (answers, final) ∧
      answers =
        [[], [⟨"SELECT 1 FROM pragma_table_info(?) WHERE name = ?",
          [.string "users", .string "age"], [],
          [.constraintSkipped .sqlite "UNIQUE (reference)"]⟩],
        [⟨"DROP TABLE users", [], [], []⟩]] ∧
      List.Forall₂ (Call.Answers .sqlite) Call.sample answers ∧
      answers.flatten.flatMap Compiled.diagnostics ++ final.pending =
        Call.sample.flatMap (Call.recorded .sqlite) ∧
      final.totalDiagnostics = (Call.sample.flatMap (Call.recorded .sqlite)).length ∧
      ∀ diagnostic, (answers.flatten.flatMap Compiled.diagnostics).count diagnostic +
        final.pending.count diagnostic =
          (Call.sample.flatMap (Call.recorded .sqlite)).count diagnostic :=
  ⟨_, _, rfl, rfl, callAll_shared rfl⟩

end Context

end NeutralSql
