import NeutralSql.Proofs.Compile.Definition
import NeutralSql.Proofs.Compile.Query
import NeutralSql.Proofs.SqlText.Preamble

/-!
# The first word decides

Every text that a statement compiles to begins with a keyword that the compiler writes, with
a blank behind it, so that no name can take its place. A text that
begins with a word of a kind is of that kind (`SqlText.Opens.classify_eq`), and here each
plan is shown to begin so. The guards of SQL Server begin with IF, although a SELECT follows
in them.
-/

namespace NeutralSql

namespace SqlText

open Text (asciiLower)

/-- The words with which compiled statements of a kind begin. -/
def openings : Kind → List String
  | .read => ["SELECT"]
  | .write => ["INSERT", "UPDATE", "DELETE", "CREATE", "ALTER", "DROP", "IF"]

/-- A text begins with a word of a kind, and a blank closes the word. -/
def Opens (kind : Kind) (text : String) : Prop :=
  ∃ opening ∈ openings kind, ∃ rest, text = opening ++ " " ++ rest

/-- What follows the first word does not matter. -/
theorem Opens.append {kind : Kind} {text : String} (opens : Opens kind text) (rest : String) :
    Opens kind (text ++ rest) := by
  obtain ⟨opening, listed, behind, rfl⟩ := opens
  exact ⟨opening, listed, behind ++ rest, String.append_assoc⟩

/-- The first word of a text ends in front of a blank. -/
theorem firstWord_append {word : List Char} (letters : ∀ c ∈ word, c.isAlpha = true)
    (rest : List Char) : firstWord (word ++ ' ' :: rest) = String.ofList (asciiLower word) := by
  rw [firstWord, List.takeWhile_append_of_pos letters,
    List.takeWhile_cons_of_neg (by decide), List.append_nil]

/-- A text that begins with a word of a kind is of that kind. -/
theorem Opens.classify_eq {kind : Kind} {text : String} (opens : Opens kind text) :
    classify text = kind := by
  obtain ⟨opening, listed, rest, rfl⟩ := opens
  have words : ∀ opening ∈ openings kind, opening.toList ≠ [] ∧
      opening.toList.all Char.isAlpha = true ∧
      asciiLower opening.toList ≠ "with".toList ∧
      (asciiLower opening.toList = "select".toList ↔ kind = .read) := by
    cases kind with
    | read => decide
    | write => decide
  obtain ⟨someLetter, areLetters, isNotWith, selects⟩ := words opening listed
  have letters := List.all_eq_true.1 areLetters
  have split : (opening ++ " " ++ rest).toList = opening.toList ++ ' ' :: rest.toList := by
    simp
  have body : skipPreamble (opening ++ " " ++ rest).toList =
      opening.toList ++ ' ' :: rest.toList := by
    obtain ⟨first, others, spelled⟩ := List.exists_cons_of_ne_nil someLetter
    have letter := letters first (spelled ▸ List.mem_cons_self)
    rw [split, spelled, List.cons_append, (isBody_cons_of_isAlpha letter _).skipPreamble_eq]
  rw [classify, body]
  simp only [firstWord_append letters, String.ofList_eq, selects, isNotWith, decide_false,
    Bool.false_and, Bool.false_eq_true, if_false]
  cases kind with
  | read => rfl
  | write => rfl

/-- Whether a fixed text begins so can be read off it. -/
theorem opens_of_isPrefixOf {kind : Kind} {front : String}
    (begins : ((openings kind).any fun opening =>
      (opening.toList ++ [' ']).isPrefixOf front.toList) = true) (rest : String) :
    Opens kind (front ++ rest) := by
  obtain ⟨opening, listed, isFront⟩ := List.any_eq_true.1 begins
  obtain ⟨behind, spelled⟩ := List.isPrefixOf_iff_prefix.1 isFront
  refine ⟨opening, listed, String.ofList behind ++ rest, ?_⟩
  rw [← String.toList_inj, String.toList_append, ← spelled]
  simp

end SqlText

open SqlText (Kind)
open Template (text)

namespace Template

/-- A template begins with a text that begins with a word of a kind. -/
def Opens (kind : Kind) (template : Template) : Prop :=
  ∃ content rest, template = text content ++ rest ∧ SqlText.Opens kind content

/-- What follows the first text does not matter. -/
theorem Opens.append {kind : Kind} {template : Template} (opens : template.Opens kind)
    (rest : Template) : Opens kind (template ++ rest) := by
  obtain ⟨content, behind, rfl, begins⟩ := opens
  exact ⟨content, behind ++ rest, List.append_assoc _ _ _, begins⟩

/-- A text that begins with a word of a kind makes such a template. -/
theorem opens_text {kind : Kind} {content : String} (begins : SqlText.Opens kind content) :
    (text content).Opens kind :=
  ⟨content, [], (List.append_nil _).symm, begins⟩

/-- The template is written with that word in front. -/
theorem Opens.write {kind : Kind} {template : Template} (opens : template.Opens kind)
    (style : PlaceholderStyle) (bound : Nat) :
    SqlText.Opens kind (template.write style bound) := by
  obtain ⟨content, rest, rfl, begins⟩ := opens
  exact begins.append (Template.write style bound rest)

end Template

open SqlText (opens_of_isPrefixOf)
open Template (opens_text)

section Plans

variable {dialect : Dialect} {plan : Plan}

/-- A query begins with SELECT. -/
theorem Select.opens_template (dialect : Dialect) (query : Select) :
    (query.template dialect).Opens .read := by
  have head : SqlText.Opens .read (query.head dialect) := by
    simp only [Select.head, String.append_assoc]
    exact opens_of_isPrefixOf (by decide) _
  rw [Select.template]
  exact (((((opens_text head).append _).append _).append _).append _).append _

/-- An insertion begins with INSERT. -/
theorem Insert.opens_template (dialect : Dialect) (insertion : Insert) (columns : List String) :
    (insertion.template dialect columns).Opens .write := by
  simp only [Insert.template, String.append_assoc]
  exact ((opens_text (opens_of_isPrefixOf (by decide) _)).append _).append _

/-- An update begins with UPDATE. -/
theorem Update.opens_head (update : Update) : update.head.Opens .write := by
  simp only [Update.head, String.append_assoc]
  exact (opens_text (opens_of_isPrefixOf (by decide) _)).append _

/-- A deletion begins with DELETE. -/
theorem Delete.opens_template (deletion : Delete) :
    (text ("DELETE FROM " ++ deletion.table) ++
      Clause.conditions "WHERE" deletion.filters).Opens .write :=
  (opens_text (opens_of_isPrefixOf (by decide) _)).append _

/-- A table begins with CREATE, or with the guard of SQL Server. -/
theorem Dialect.opens_createTableHead (dialect : Dialect) (table : String) (ifNotExists : Bool) :
    SqlText.Opens .write (dialect.createTableHead table ifNotExists) := by
  cases ifNotExists with
  | false => exact opens_of_isPrefixOf (by decide) _
  | true =>
    cases dialect with
    | mssql =>
      simp only [createTableHead, String.append_assoc]
      exact opens_of_isPrefixOf (by decide) _
    | _ => exact opens_of_isPrefixOf (by decide) _

/-- So does an index. -/
theorem Dialect.opens_createIndex (dialect : Dialect) (table : String) (index : IndexDefinition)
    (ifNotExists : Bool) : SqlText.Opens .write (dialect.createIndex table index ifNotExists) := by
  simp only [createIndex, String.append_assoc]
  cases ifNotExists with
  | false => exact opens_of_isPrefixOf (by decide) _
  | true => cases dialect <;> exact opens_of_isPrefixOf (by decide) _

/-- All statements of a CREATE TABLE write. -/
theorem CreateTable.plan_opens {table : CreateTable} (planned : table.plan dialect = .ok plan) :
    ∀ template ∈ plan.templates, template.Opens .write := by
  obtain ⟨typed, -, -, rfl⟩ := CreateTable.plan_eq planned
  rw [Plan.templates_append, Plan.templates_single, Plan.templates_map_finish,
    List.singleton_append, List.forall_mem_cons, List.forall_mem_map, indexStatements]
  refine ⟨?_, ?_⟩
  · simp only [String.append_assoc]
    exact opens_text ((dialect.opens_createTableHead _ _).append _)
  · split
    · exact fun _ listed => absurd listed List.not_mem_nil
    · exact List.forall_mem_map.2 fun index _ => opens_text (dialect.opens_createIndex _ _ _)

/-- All statements of an ALTER TABLE write. -/
theorem AlterTable.plan_opens {alteration : AlterTable}
    (planned : alteration.plan dialect = .ok plan) :
    ∀ template ∈ plan.templates, template.Opens .write := by
  obtain ⟨typed, -, rfl⟩ := AlterTable.plan_eq planned
  simp only [Plan.templates_append, Plan.templates_flatMap, AlterTable.templates_columnSteps,
    AlterTable.templates_constraintSteps, List.forall_mem_append, List.forall_mem_flatMap,
    List.forall_mem_singleton, String.append_assoc]
  have alters (rest : String) : Template.Opens .write (text ("ALTER TABLE " ++ rest)) :=
    opens_text (opens_of_isPrefixOf (by decide) rest)
  have constraints {α : Type} (supported : Bool) (items : List α) (rest : α → String) :
      ∀ template ∈ if supported then items.map fun item => text ("ALTER TABLE " ++ rest item)
        else [], Template.Opens .write template := by
    cases supported with
    | true => exact List.forall_mem_map.2 fun item _ => alters (rest item)
    | false => exact fun _ listed => absurd listed List.not_mem_nil
  refine ⟨fun _ _ => alters _, ⟨constraints _ _ _, constraints _ _ _⟩, ?_⟩
  exact List.forall_mem_map.2 fun index _ => opens_text (dialect.opens_createIndex _ _ _)

/-- A DROP TABLE writes. -/
theorem DropTable.plan_opens (removal : DropTable) :
    ∀ template ∈ removal.plan.templates, template.Opens .write := by
  rw [DropTable.plan, Plan.templates_single, List.forall_mem_singleton, String.append_assoc]
  exact opens_text (opens_of_isPrefixOf (by decide) _)

end Plans

end NeutralSql
