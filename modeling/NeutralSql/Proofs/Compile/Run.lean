import NeutralSql.Proofs.Compile.Context

/-!
# Carrying out plans

A plan has two sides, the templates that it finishes and the diagnostics that it records.
Carrying it out neither loses nor repeats a diagnostic: each one is handed out with a
statement or goes on waiting. Where no value is bound beforehand, every template is written
as it is on its own, and no value is bound afterwards.
-/

namespace NeutralSql

namespace Plan

/-- The diagnostics that a plan records, in order. -/
def notes : Plan → List Diagnostic
  | [] => []
  | .note diagnostic :: rest => diagnostic :: notes rest
  | .finish _ :: rest => notes rest

/-- The templates that a plan finishes, in order. -/
def templates : Plan → List Template
  | [] => []
  | .note _ :: rest => templates rest
  | .finish template :: rest => template :: templates rest

/-- A plan without its diagnostics. -/
def silent (plan : Plan) : Plan :=
  plan.templates.map .finish

/-- A plan after another one records its diagnostics behind those of the other. -/
@[simp] theorem notes_append (first second : Plan) :
    notes (first ++ second) = first.notes ++ second.notes := by
  induction first with
  | nil => rfl
  | cons step rest inductionHypothesis =>
    cases step with
    | note diagnostic => exact congrArg (diagnostic :: ·) inductionHypothesis
    | finish template => exact inductionHypothesis

@[simp] theorem templates_append (first second : Plan) :
    templates (first ++ second) = first.templates ++ second.templates := by
  induction first with
  | nil => rfl
  | cons step rest inductionHypothesis =>
    cases step with
    | note diagnostic => exact inductionHypothesis
    | finish template => exact congrArg (template :: ·) inductionHypothesis

@[simp] theorem notes_flatMap {α : Type} (items : List α) (plan : α → Plan) :
    notes (items.flatMap plan) = items.flatMap fun item => (plan item).notes := by
  induction items with
  | nil => rfl
  | cons item rest inductionHypothesis =>
    rw [List.flatMap_cons, notes_append, inductionHypothesis, List.flatMap_cons]

@[simp] theorem templates_flatMap {α : Type} (items : List α) (plan : α → Plan) :
    templates (items.flatMap plan) = items.flatMap fun item => (plan item).templates := by
  induction items with
  | nil => rfl
  | cons item rest inductionHypothesis =>
    rw [List.flatMap_cons, templates_append, inductionHypothesis, List.flatMap_cons]

/-- Diagnostics alone finish nothing. -/
@[simp] theorem notes_map_note (diagnostics : List Diagnostic) :
    notes (diagnostics.map .note) = diagnostics := by
  induction diagnostics with
  | nil => rfl
  | cons first rest inductionHypothesis => exact congrArg (first :: ·) inductionHypothesis

@[simp] theorem templates_map_note (diagnostics : List Diagnostic) :
    templates (diagnostics.map .note) = [] := by
  induction diagnostics with
  | nil => rfl
  | cons first rest inductionHypothesis => exact inductionHypothesis

/-- Statements alone record nothing. -/
@[simp] theorem notes_map_finish {α : Type} (items : List α) (template : α → Template) :
    notes (items.map fun item => .finish (template item)) = [] := by
  induction items with
  | nil => rfl
  | cons first rest inductionHypothesis => exact inductionHypothesis

@[simp] theorem templates_map_finish {α : Type} (items : List α) (template : α → Template) :
    templates (items.map fun item => .finish (template item)) = items.map template := by
  induction items with
  | nil => rfl
  | cons first rest inductionHypothesis => exact congrArg (_ :: ·) inductionHypothesis

@[simp] theorem notes_single (diagnostics : List Diagnostic) (template : Template) :
    (single diagnostics template).notes = diagnostics := by
  rw [single, notes_append, notes_map_note]
  exact List.append_nil _

@[simp] theorem templates_single (diagnostics : List Diagnostic) (template : Template) :
    (single diagnostics template).templates = [template] := by
  rw [single, templates_append, templates_map_note]
  rfl

/-- A plan that finishes the same templates and records nothing is the plan in silence. -/
theorem eq_silent {plan other : Plan} (unnoted : other.notes = [])
    (same : other.templates = plan.templates) : other = plan.silent := by
  have own : ∀ steps : Plan, steps.notes = [] → steps = steps.silent := by
    intro steps unnoted
    induction steps with
    | nil => rfl
    | cons step rest inductionHypothesis =>
      cases step with
      | note diagnostic => exact nomatch unnoted
      | finish template => exact congrArg (.finish template :: ·) (inductionHypothesis unnoted)
  rw [own other unnoted, silent, same, silent]

end Plan

/-- A finished statement without its diagnostics. -/
def Compiled.bare (compiled : Compiled) : Compiled :=
  { compiled with diagnostics := [] }

/-- A template written on its own in a dialect. -/
def Template.written (dialect : Dialect) (template : Template) : Compiled :=
  ((Context.empty dialect).finishTemplate template).1

/-- A text without slots is written as it is. -/
theorem Template.written_text (dialect : Dialect) (sql : String) :
    (text sql).written dialect = .ofParts sql [] := by
  have same : Template.write dialect.capabilities.placeholder 0 (text sql) = sql :=
    String.append_empty
  exact congrArg (fun sql => Compiled.ofParts sql []) same

namespace Context

/-- Finishing a template comes before the rest of a plan. -/
theorem run_finish (context : Context) (template : Template) (rest : Plan) :
    context.run (.finish template :: rest) =
      ((context.finishTemplate template).1 :: ((context.finishTemplate template).2.run rest).1,
        ((context.finishTemplate template).2.run rest).2) :=
  rfl

/-- A finished template takes all diagnostics that were waiting. -/
theorem diagnostics_finishTemplate (context : Context) (template : Template) :
    (context.finishTemplate template).1.diagnostics = context.pending :=
  rfl

theorem pending_finishTemplate (context : Context) (template : Template) :
    (context.finishTemplate template).2.pending = [] :=
  rfl

/-- Taking diagnostics does not change how many there are. -/
theorem totalDiagnostics_finishTemplate (context : Context) (template : Template) :
    (context.finishTemplate template).2.totalDiagnostics = context.totalDiagnostics :=
  rfl

theorem totalDiagnostics_note (context : Context) (diagnostic : Diagnostic) :
    (context.note diagnostic).totalDiagnostics = context.totalDiagnostics + 1 := by
  rw [totalDiagnostics, note, List.length_append, ← Nat.add_assoc]
  rfl

/-- Where nothing was bound beforehand, a template is written as it is on its own. -/
theorem bare_finishTemplate {context : Context} (unbound : context.params = [])
    (template : Template) :
    (context.finishTemplate template).1.bare = template.written context.dialect := by
  obtain ⟨dialect, params, pending, emitted⟩ := context
  obtain rfl : params = [] := unbound
  rfl

variable (context : Context) (plan : Plan)

/-- What a plan hands out and what waits afterwards are the diagnostics that waited before
and those that the plan records, each of them once and in order. -/
theorem diagnostics_run :
    (context.run plan).1.flatMap Compiled.diagnostics ++ (context.run plan).2.pending =
      context.pending ++ plan.notes := by
  induction plan generalizing context with
  | nil => rw [run, Plan.notes, List.flatMap_nil, List.nil_append, List.append_nil]
  | cons step rest inductionHypothesis =>
    cases step with
    | note diagnostic =>
      rw [run, inductionHypothesis, Plan.notes, note, List.append_assoc, List.singleton_append]
    | finish template =>
      rw [run_finish, List.flatMap_cons, List.append_assoc, inductionHypothesis,
        diagnostics_finishTemplate, pending_finishTemplate, Plan.notes, List.nil_append]

/-- Where nothing is recorded behind a statement, no diagnostic is left waiting. -/
theorem pending_run_single (notes : List Diagnostic) (template : Template) {rest : Plan}
    (unnoted : rest.notes = []) :
    (context.run (Plan.single notes template ++ rest)).2.pending = [] := by
  induction notes generalizing context with
  | nil =>
    have delivered := diagnostics_run (context.finishTemplate template).2 rest
    rw [pending_finishTemplate, unnoted] at delivered
    exact (List.append_eq_nil_iff.1 delivered).2
  | cons first others inductionHypothesis => exact inductionHypothesis (context.note first)

/-- A plan raises the number of diagnostics by those that it records. -/
theorem totalDiagnostics_run :
    (context.run plan).2.totalDiagnostics = context.totalDiagnostics + plan.notes.length := by
  induction plan generalizing context with
  | nil => rfl
  | cons step rest inductionHypothesis =>
    cases step with
    | note diagnostic =>
      rw [run, inductionHypothesis, totalDiagnostics_note, Plan.notes, List.length_cons,
        Nat.add_assoc, Nat.add_comm 1]
    | finish template =>
      rw [run_finish, inductionHypothesis, totalDiagnostics_finishTemplate, Plan.notes]

theorem dialect_run : (context.run plan).2.dialect = context.dialect := by
  induction plan generalizing context with
  | nil => rfl
  | cons step rest inductionHypothesis =>
    cases step with
    | note diagnostic => exact inductionHypothesis _
    | finish template => exact inductionHypothesis _

variable {context}

/-- A plan that begins with nothing bound also ends so. -/
theorem params_run (unbound : context.params = []) : (context.run plan).2.params = [] := by
  induction plan generalizing context with
  | nil => exact unbound
  | cons step rest inductionHypothesis =>
    cases step with
    | note diagnostic => exact inductionHypothesis unbound
    | finish template => exact inductionHypothesis rfl

/-- Where nothing was bound beforehand, the templates of a plan are written as each of them
is on its own. -/
theorem bare_run (unbound : context.params = []) :
    (context.run plan).1.map Compiled.bare =
      plan.templates.map (Template.written context.dialect) := by
  induction plan generalizing context with
  | nil => rfl
  | cons step rest inductionHypothesis =>
    cases step with
    | note diagnostic => exact inductionHypothesis unbound
    | finish template =>
      rw [run_finish, List.map_cons, bare_finishTemplate unbound, inductionHypothesis rfl]
      rfl

/-- A plan of texts without slots that records something in front of the first one makes the
texts, and delivers with them what it records. -/
theorem run_texts {dialect : Dialect} {plan : Plan} {notes : List Diagnostic} {first : String}
    {others : List String} {compiled : List Compiled} {after : Context}
    (layout : plan = Plan.single notes (Template.text first) ++
      others.map fun sql => .finish (Template.text sql))
    (ran : (empty dialect).run plan = (compiled, after)) :
    compiled.map Compiled.bare = (first :: others).map (fun sql => .ofParts sql []) ∧
      compiled.flatMap Compiled.diagnostics = notes := by
  have unnoted := Plan.notes_map_finish others Template.text
  constructor
  · have templates : plan.templates = (first :: others).map Template.text := by
      rw [layout, Plan.templates_append, Plan.templates_single, Plan.templates_map_finish]
      rfl
    have unbound : (empty dialect).params = [] := rfl
    have made := bare_run plan unbound
    rw [ran, templates, List.map_map] at made
    rw [made]
    exact List.map_congr_left fun sql _ => Template.written_text dialect sql
  · have recorded : plan.notes = notes := by
      rw [layout, Plan.notes_append, Plan.notes_single, unnoted, List.append_nil]
    have pending := (empty dialect).pending_run_single notes (Template.text first) unnoted
    have reported := (empty dialect).diagnostics_run plan
    rw [← layout, ran] at pending
    rwa [ran, pending, recorded, List.append_nil] at reported

/-- Without its diagnostics, a plan makes the same statements and leaves no trace. -/
theorem run_silent (dialect : Dialect) :
    (empty dialect).run plan.silent =
      (((empty dialect).run plan).1.map Compiled.bare, empty dialect) := by
  have finishAll (templates : List Template) :
      (empty dialect).run (templates.map .finish) =
        (templates.map (Template.written dialect), empty dialect) := by
    induction templates with
    | nil => rfl
    | cons first rest inductionHypothesis =>
      have next : ((empty dialect).finishTemplate first).2 = empty dialect := rfl
      rw [List.map_cons, run_finish, next, inductionHypothesis]
      rfl
  rw [Plan.silent, finishAll, bare_run plan rfl]
  rfl

/-- A statement with a plan compiles to what its plan makes. -/
theorem compile_eq_run {context : Context} {statement : Statement} {plan : Plan}
    (planned : statement.plan context.dialect = .ok plan) :
    context.compile statement = (.ok (context.run plan).1, (context.run plan).2) := by
  rw [compile, planned]

/-- A statement that compiles has a plan, and carrying it out makes what the statement compiles
to. -/
theorem run_of_compile {context after : Context} {statement : Statement}
    {compiled : List Compiled} (accepted : context.compile statement = (.ok compiled, after)) :
    ∃ plan, statement.plan context.dialect = .ok plan ∧ context.run plan = (compiled, after) := by
  cases planned : statement.plan context.dialect with
  | ok plan =>
    rw [compile_eq_run planned] at accepted
    obtain ⟨made, left⟩ := Prod.mk.inj accepted
    exact ⟨plan, rfl, Prod.ext (Except.ok.inj made) left⟩
  | error fault =>
    rw [compile, planned] at accepted
    obtain ⟨succeeded, -⟩ := Prod.mk.inj accepted
    contradiction

end Context

/-- On its own, a statement with a plan compiles to what its plan makes, and the last
statement takes the diagnostics that wait at the end. -/
theorem compile_eq_attach {dialect : Dialect} {statement : Statement} {plan : Plan}
    (planned : statement.plan dialect = .ok plan) :
    compile dialect statement =
      .ok (Compiled.attach ((Context.empty dialect).run plan).2.pending
        ((Context.empty dialect).run plan).1) := by
  have ran : (Context.empty dialect).compile statement =
      (.ok ((Context.empty dialect).run plan).1, ((Context.empty dialect).run plan).2) :=
    Context.compile_eq_run planned
  rw [compile, ran]

/-- The last statement takes diagnostics and nothing else. -/
theorem Compiled.map_bare_attach (diagnostics : List Diagnostic) (compiled : List Compiled) :
    (attach diagnostics compiled).map bare = compiled.map bare := by
  induction compiled with
  | nil => rfl
  | cons first rest inductionHypothesis =>
    cases rest with
    | nil => rfl
    | cons second others => exact congrArg (first.bare :: ·) inductionHypothesis

/-- Up to diagnostics, a statement compiles to the templates of its plan, each of them written
on its own. -/
theorem map_bare_of_compile {dialect : Dialect} {statement : Statement} {plan : Plan}
    {compiled : List Compiled} (planned : statement.plan dialect = .ok plan)
    (accepted : compile dialect statement = .ok compiled) :
    compiled.map Compiled.bare = plan.templates.map (Template.written dialect) := by
  rw [compile_eq_attach planned] at accepted
  obtain rfl := Except.ok.inj accepted
  rw [Compiled.map_bare_attach, Context.bare_run plan rfl]
  rfl

end NeutralSql
