import NeutralSql.Compile.Context

/-!
# Plans of one statement

What compiling comes to for a plan that finishes a single template: one statement with the
text and the values of that template, the names of its placeholders, and the diagnostics
recorded before it.
-/

namespace NeutralSql

/-- Diagnostics at the front of a plan wait for the next statement. -/
theorem Context.run_notes (context : Context) (notes : List Diagnostic) (rest : Plan) :
    context.run (notes.map .note ++ rest) =
      Context.run { context with pending := context.pending ++ notes } rest := by
  induction notes generalizing context with
  | nil => rw [List.append_nil]; rfl
  | cons first others inductionHypothesis =>
    rw [List.map_cons, List.cons_append, Context.run, inductionHypothesis, Context.note]
    simp only [List.append_assoc, List.singleton_append]

/-- Named placeholders are the letter `p` and their numbers; others have no names. -/
theorem Context.names_eq (context : Context) :
    context.names =
      if context.dialect = .mssql then
        (List.range context.params.length).map fun index => "p" ++ toString (index + 1)
      else [] := by
  have style : context.style = context.dialect.capabilities.placeholder := rfl
  rw [Context.names, style]
  cases context.dialect with
  | mssql =>
    rw [if_pos rfl]
    exact congrFun List.filterMap_eq_map _
  | postgresql => exact List.filterMap_eq_nil_iff.2 fun _ _ => rfl
  | mysql => exact List.filterMap_eq_nil_iff.2 fun _ _ => rfl
  | sqlite => exact List.filterMap_eq_nil_iff.2 fun _ _ => rfl

/-- A statement that compiles has a plan. -/
theorem plan_of_compile {dialect : Dialect} {statement : Statement} {compiled : List Compiled}
    (accepted : compile dialect statement = .ok compiled) :
    ∃ plan, statement.plan dialect = .ok plan := by
  cases planned : statement.plan dialect with
  | ok plan => exact ⟨plan, rfl⟩
  | error fault =>
    rw [compile, Context.compile] at accepted
    simp only [Context.empty, planned] at accepted
    contradiction

/-- A plan that finishes a single template makes one statement. -/
theorem compile_of_single {dialect : Dialect} {statement : Statement} {notes : List Diagnostic}
    {template : Template} (planned : statement.plan dialect = .ok (.single notes template)) :
    compile dialect statement =
      .ok [⟨template.write dialect.capabilities.placeholder 0, template.values,
        ((Context.empty dialect).bindAll template.values).names, notes⟩] := by
  have carriedOut := (Context.empty dialect).run_notes notes [.finish template]
  rw [compile, Context.compile]
  simp only [Context.empty, planned, Plan.single] at carriedOut ⊢
  rw [carriedOut]
  simp only [Context.run, Context.finishTemplate, Context.finish, Context.style, Context.names,
    Context.bindAll, Compiled.attach, List.nil_append, List.append_nil, List.length_nil]

end NeutralSql
