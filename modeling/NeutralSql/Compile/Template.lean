import NeutralSql.Compile.Diagnostic
import NeutralSql.Compile.Error

/-!
# Templates and plans

A template is the text of a statement with slots for its values. It knows neither how
placeholders look nor how many values were bound before it; both enter when it is
written. A plan is what a statement turns into in one dialect: the templates to finish
and the diagnostics to record, in order.
-/

namespace NeutralSql

/-- A piece of a template. -/
inductive Piece where
  /-- Text that is written as it is. -/
  | text (content : String)
  /-- A slot for a value, written as a placeholder. -/
  | slot (value : Value)

/-- Text with slots for values. -/
abbrev Template := List Piece

namespace Template

/-- A template without slots. -/
def text (content : String) : Template :=
  [.text content]

/-- A template that is one slot. -/
def slot (value : Value) : Template :=
  [.slot value]

/-- Templates one after the other with a text between each two. -/
def separated (separator : String) : List Template → Template
  | [] => []
  | first :: rest => first ++ rest.flatMap fun template => text separator ++ template

/-- The values of the slots from left to right. -/
def values : Template → List Value
  | [] => []
  | .text _ :: rest => values rest
  | .slot value :: rest => value :: values rest

/-- The text of a template whose slots continue the numbering after `bound` values. -/
def write (style : PlaceholderStyle) (bound : Nat) : Template → String
  | [] => ""
  | .text content :: rest => content ++ write style bound rest
  | .slot _ :: rest => style.token (bound + 1) ++ write style (bound + 1) rest

end Template

/-- One effect of compiling a statement. -/
inductive Step where
  /-- A diagnostic is recorded. -/
  | note (diagnostic : Diagnostic)
  /-- A statement is complete. -/
  | finish (template : Template)

/-- The effects of compiling a statement, in order. -/
abbrev Plan := List Step

/-- The plan that finishes one template after recording diagnostics. -/
def Plan.single (notes : List Diagnostic) (template : Template) : Plan :=
  notes.map .note ++ [.finish template]

/-- A rejected statement, with the values and diagnostics that had been written by the
time it was rejected. -/
structure Fault where
  error : CompileError
  bound : List Value
  notes : List Diagnostic

/-- A statement that is rejected before anything is written. -/
def Fault.early (error : CompileError) : Fault :=
  ⟨error, [], []⟩

end NeutralSql
