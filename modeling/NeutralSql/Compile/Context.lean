import NeutralSql.Compile.Definition
import NeutralSql.Compile.Introspection
import NeutralSql.Compile.Query

/-!
# Compile contexts

A context collects what the statement under way has bound and the diagnostics that no
statement has taken yet. Finishing a statement hands both over, and the numbering of
placeholders starts again. Several statements may be compiled in one context.
-/

namespace NeutralSql

/-- A finished statement: its text, the values in the order of their placeholders, the
names of the placeholders where the dialect has names, and the diagnostics. -/
structure Compiled where
  sql : String
  params : List Value
  names : List String
  diagnostics : List Diagnostic

namespace Compiled

/-- A text with values that are not named. -/
def ofParts (sql : String) (params : List Value) : Compiled :=
  ⟨sql, params, [], []⟩

/-- The values with the names of their placeholders. -/
def namedParams (compiled : Compiled) : List (String × Value) :=
  compiled.names.zip compiled.params

/-- A finished statement as JSON; names and diagnostics only where there are some. -/
def toJson (compiled : Compiled) : Json :=
  .object
    ([("sql", .string compiled.sql), ("params", .array (compiled.params.map Value.toJson))] ++
      (if compiled.names.isEmpty then [] else [("named_params", .strings compiled.names)]) ++
      if compiled.diagnostics.isEmpty then []
      else [("diagnostics", .array (compiled.diagnostics.map Diagnostic.toJson))])

/-- Diagnostics that no statement has taken go to the last one. -/
def attach (diagnostics : List Diagnostic) : List Compiled → List Compiled
  | [] => []
  | [last] => [{ last with diagnostics := last.diagnostics ++ diagnostics }]
  | first :: rest => first :: attach diagnostics rest

end Compiled

/-- The state shared by statements that are compiled one after the other. -/
structure Context where
  dialect : Dialect
  /-- The values bound to the statement under way. -/
  params : List Value
  /-- The diagnostics that no statement has taken. -/
  pending : List Diagnostic
  /-- The number of diagnostics handed out so far. -/
  emitted : Nat

namespace Context

/-- A context in which nothing has been bound. -/
def empty (dialect : Dialect) : Context :=
  ⟨dialect, [], [], 0⟩

/-- How the dialect writes placeholders. -/
def style (context : Context) : PlaceholderStyle :=
  context.dialect.capabilities.placeholder

/-- The names of the placeholders of the statement under way. -/
def names (context : Context) : List String :=
  (List.range context.params.length).filterMap fun index => context.style.name? (index + 1)

/-- The number of diagnostics recorded so far. -/
def totalDiagnostics (context : Context) : Nat :=
  context.emitted + context.pending.length

/-- Bind values without writing them. -/
def bindAll (context : Context) (values : List Value) : Context :=
  { context with params := context.params ++ values }

/-- Bind a value; its placeholder is the answer. -/
def bind (context : Context) (value : Value) : String × Context :=
  (context.style.token (context.params.length + 1), context.bindAll [value])

/-- Record a diagnostic. -/
def note (context : Context) (diagnostic : Diagnostic) : Context :=
  { context with pending := context.pending ++ [diagnostic] }

/-- Hand out the diagnostics that no statement has taken. -/
def takeDiagnostics (context : Context) : List Diagnostic × Context :=
  (context.pending, { context with pending := [], emitted := context.totalDiagnostics })

/-- Finish a text with everything that was bound and recorded. -/
def finish (context : Context) (sql : String) : Compiled × Context :=
  (⟨sql, context.params, context.names, context.pending⟩,
    { context with params := [], pending := [], emitted := context.totalDiagnostics })

/-- Write a template behind what was bound already, and finish it. -/
def finishTemplate (context : Context) (template : Template) : Compiled × Context :=
  (context.bindAll template.values).finish (template.write context.style context.params.length)

/-- Carry out the effects of a plan. -/
def run (context : Context) : Plan → List Compiled × Context
  | [] => ([], context)
  | .note diagnostic :: rest => (context.note diagnostic).run rest
  | .finish template :: rest =>
    let (compiled, next) := context.finishTemplate template
    let (others, final) := next.run rest
    (compiled :: others, final)

/-- What a rejected statement leaves behind: the values and diagnostics that had been
written by the time it was rejected. -/
def abandon (context : Context) (fault : Fault) : Context :=
  (fault.notes.foldl note context).bindAll fault.bound

/-- The kind of join that is written for a requested one, with a diagnostic if it is
another one. -/
def resolveJoin (context : Context) (kind : JoinKind) : JoinKind × Context :=
  (Clause.writtenJoin context.dialect kind,
    (Clause.joinNotes context.dialect kind).foldl note context)

end Context

/-- The plan of a statement in a dialect. -/
def Statement.plan (dialect : Dialect) : Statement → Except Fault Plan
  | .select query => query.plan dialect
  | .insert insertion => insertion.plan dialect
  | .update change => change.plan
  | .delete deletion => deletion.plan
  | .createTable table => table.plan dialect
  | .alterTable alteration => alteration.plan dialect
  | .dropTable removal => .ok removal.plan

/-- Compile a statement in a context. A rejected statement leaves behind what it had
written. -/
def Context.compile (context : Context) (statement : Statement) :
    Except CompileError (List Compiled) × Context :=
  match statement.plan context.dialect with
  | .ok plan =>
    let (compiled, next) := context.run plan
    (.ok compiled, next)
  | .error fault => (.error fault.error, context.abandon fault)

/-- Compile a statement on its own. Diagnostics that come after its last statement go to
that one. -/
def compile (dialect : Dialect) (statement : Statement) :
    Except CompileError (List Compiled) :=
  match (Context.empty dialect).compile statement with
  | (.ok compiled, context) => .ok (Compiled.attach context.pending compiled)
  | (.error error, _) => .error error

end NeutralSql
