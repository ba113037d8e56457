import NeutralSql.Proofs.Compile.Definition
import NeutralSql.Proofs.Compile.Query
import NeutralSql.Proofs.SqlText.Query

/-!
# Tables in the text of statements that write

A statement that writes may compile to several texts. The scan finds its table in the first
of them, in every dialect: `Statement.exists_first_of_writes`. SQL Server asks for the
absence of a table in a guard, which holds the name once more, between quotes.
-/

namespace NeutralSql

open SqlText (Denotes Quiet closesName)
open Template (text)

/-- Diagnostics that come late leave the texts. -/
theorem Compiled.exists_attach_cons (diagnostics : List Diagnostic) (first : Compiled)
    (rest : List Compiled) :
    ∃ head others, attach diagnostics (first :: rest) = head :: others ∧ head.sql = first.sql := by
  cases rest with
  | nil => exact ⟨_, _, rfl, rfl⟩
  | cons second others => exact ⟨_, _, rfl, rfl⟩

/-- The first text of a plan is that of the first template it finishes. -/
theorem exists_first_of_plan {dialect : Dialect} {statement : Statement}
    {notes : List Diagnostic} {template : Template} {rest : Plan} {compiled : List Compiled}
    (planned : statement.plan dialect = .ok (Plan.single notes template ++ rest))
    (accepted : compile dialect statement = .ok compiled) :
    ∃ first others, compiled = first :: others ∧
      first.sql = template.write dialect.capabilities.placeholder 0 := by
  have carriedOut := (Context.empty dialect).run_notes notes (.finish template :: rest)
  rw [compile, Context.compile] at accepted
  simp only [Context.empty, planned, Plan.single, List.append_assoc, List.singleton_append]
    at accepted carriedOut
  rw [carriedOut] at accepted
  obtain rfl := Except.ok.inj accepted
  exact Compiled.exists_attach_cons _ _ _

namespace SqlText

/-- A text that leads up to the name of a table: an anchor, and perhaps a condition, with
nothing or quiet text in front. -/
def Leads (lead : String) : Prop :=
  ∃ anchor ∈ anchors, ∃ condition ∈ conditions, lead = anchor ++ " " ++ condition ∨
    ∃ front, Quiet front.toList ∧ lead = front ++ " " ++ anchor ++ " " ++ condition

/-- A text that leads up to a name refers to the table that the name denotes. -/
theorem Leads.mem_tables {lead name table stop : String} (leads : Leads lead)
    (denotes : Denotes name table) (closes : closesName stop.toList = true) :
    table ∈ tables (lead ++ name ++ stop) := by
  refine mem_tables_of_occurrence denotes fun last isPath => ?_
  obtain ⟨anchor, listed, condition, isCondition, rfl | ⟨front, quiet, rfl⟩⟩ := leads
  · have begins : Text.wordCanBegin none = true := rfl
    obtain ⟨next, found⟩ := occurrences_anchor listed begins isCondition isPath closes
    have characters : (anchor ++ " " ++ condition ++ name ++ stop).toList =
        anchor.toList ++ ' ' :: (condition.toList ++ (name.toList ++ stop.toList)) := by
      simp
    rw [characters, found]
    exact List.mem_cons_self
  · obtain ⟨next, found⟩ :=
      quiet.occurrences_anchor anchor condition listed isCondition isPath closes none
    have characters : (front ++ " " ++ anchor ++ " " ++ condition ++ name ++ stop).toList =
        front.toList ++ ' ' :: (anchor.toList ++ ' ' :: (condition.toList ++
          (name.toList ++ stop.toList))) := by
      simp
    rw [characters, found]
    exact List.mem_cons_self

/-- A word in front of an anchor leads up to a name, unless the word is an anchor itself. -/
theorem leads_of_word (word anchor condition : String)
    (apart : ∀ other ∈ anchors, ¬Text.asciiLower other.toList <:+: Text.asciiLower word.toList)
    (listed : anchor ∈ anchors) (isCondition : condition ∈ conditions) :
    Leads (word ++ " " ++ anchor ++ " " ++ condition) :=
  ⟨anchor, listed, condition, isCondition, .inr ⟨word, quiet_of_not_infix apart, rfl⟩⟩

/-- A text that begins with one that closes a name closes a name. -/
theorem closesName_of_opening {opening : String} (closes : closesName opening.toList = true)
    (someText : opening ≠ "") (rest : String) : closesName (opening ++ rest).toList = true := by
  rw [String.toList_append]
  exact closesName_append closes (mt String.toList_eq_nil_iff.1 someText) _

end SqlText

open SqlText (Leads)

/-- A statement that writes; an ALTER TABLE does if it adds a column. -/
def Statement.writes : Statement → Bool
  | .select _ => false
  | .alterTable alteration => !alteration.addColumns.isEmpty
  | _ => true

/-- A statement that writes is none that reads. -/
theorem Statement.isRead_of_writes {statement : Statement} (writes : statement.writes = true) :
    statement.isRead = false := by
  cases statement with
  | select query => contradiction
  | _ => rfl

section Writes

variable {dialect : Dialect} {table : String} {plan : Plan}

/-- A plan begins with a template whose text refers to a table. -/
def Plan.RefersTo (plan : Plan) (style : PlaceholderStyle) (table : String) : Prop :=
  ∃ notes template rest, plan = Plan.single notes template ++ rest ∧
    table ∈ SqlText.tables (template.write style 0)

/-- A plan refers to a table if its first template is written as a text that leads up to
the table's name. -/
theorem SqlText.Leads.refersTo {lead name stop : String} (leads : Leads lead)
    (denotes : Denotes name table) (closes : closesName stop.toList = true)
    {template : Template} {style : PlaceholderStyle}
    (written : template.write style 0 = lead ++ name ++ stop) (notes : List Diagnostic)
    (rest : Plan) : (Plan.single notes template ++ rest).RefersTo style table :=
  ⟨notes, template, rest, rfl, written ▸ leads.mem_tables denotes closes⟩

/-- So does a plan that is that template. -/
theorem SqlText.Leads.refersTo_single {lead name stop : String} (leads : Leads lead)
    (denotes : Denotes name table) (closes : closesName stop.toList = true)
    {template : Template} {style : PlaceholderStyle}
    (written : template.write style 0 = lead ++ name ++ stop) (notes : List Diagnostic) :
    (Plan.single notes template).RefersTo style table := by
  rw [← List.append_nil (Plan.single notes template)]
  exact leads.refersTo denotes closes written notes []

/-- An insertion refers to its table. -/
theorem Insert.plan_refersTo {insertion : Insert} (denotes : Denotes insertion.table table)
    (planned : insertion.plan dialect = .ok plan) (style : PlaceholderStyle) :
    plan.RefersTo style table := by
  have leads : Leads "INSERT INTO " :=
    SqlText.leads_of_word "INSERT" "INTO" "" (by decide) (by decide) (by decide)
  have opens : closesName " (".toList = true := by decide
  obtain ⟨rfl, -⟩ := Insert.plan_eq planned
  obtain ⟨stop, written⟩ : ∃ stop, (insertion.template dialect insertion.columns).write style 0 =
      "INSERT INTO " ++ insertion.table ++ (" (" ++ stop) := by
    apply Exists.intro
    simp only [template, text, List.append_assoc, List.cons_append, Template.write,
      String.append_assoc]
    rfl
  exact leads.refersTo_single denotes (SqlText.closesName_of_opening opens (by decide) stop) written []

/-- So does an update. -/
theorem Update.plan_refersTo {update : Update} (denotes : Denotes update.table table)
    (planned : update.plan = .ok plan) (style : PlaceholderStyle) :
    plan.RefersTo style table := by
  have leads : Leads "UPDATE " := ⟨"UPDATE", by decide, "", by decide, .inl rfl⟩
  have opens : closesName " SET ".toList = true := by decide
  obtain rfl := Update.plan_eq planned
  obtain ⟨stop, written⟩ : ∃ stop,
      (update.head ++ Clause.conditions "WHERE" update.filters).write style 0 =
        "UPDATE " ++ update.table ++ (" SET " ++ stop) := by
    apply Exists.intro
    simp only [head, text, List.append_assoc, List.cons_append, Template.write,
      String.append_assoc]
    rfl
  exact leads.refersTo_single denotes (SqlText.closesName_of_opening opens (by decide) stop)
    written []

/-- So does a deletion. -/
theorem Delete.plan_refersTo {deletion : Delete} (denotes : Denotes deletion.table table)
    (planned : deletion.plan = .ok plan) (style : PlaceholderStyle) :
    plan.RefersTo style table := by
  have leads : Leads "DELETE FROM " :=
    SqlText.leads_of_word "DELETE" "FROM" "" (by decide) (by decide) (by decide)
  have closes : (Clause.conditions "WHERE" deletion.filters).Closes :=
    Clause.closes_conditions (by decide) _
  obtain rfl := Delete.plan_eq planned
  exact leads.refersTo_single denotes (closes.write style 0) rfl []

/-- So does a DROP TABLE. -/
theorem DropTable.plan_refersTo {removal : DropTable} (denotes : Denotes removal.table table)
    (style : PlaceholderStyle) : removal.plan.RefersTo style table := by
  have leads : Leads ("DROP TABLE " ++ if removal.ifExists then "IF EXISTS " else "") := by
    split
    · exact SqlText.leads_of_word "DROP" "TABLE" "IF EXISTS " (by decide) (by decide) (by decide)
    · exact SqlText.leads_of_word "DROP" "TABLE" "" (by decide) (by decide) (by decide)
  have closes : closesName "".toList = true := rfl
  exact leads.refersTo_single denotes closes rfl []

/-- Between quotes a name has no blanks either. -/
theorem noBlank_quotedContent {name : String} (denotes : Denotes name table) :
    ∀ c ∈ (Literal.quotedContent name).toList, Text.isBlank c = false := by
  obtain ⟨last, isPath, -⟩ := denotes
  intro c isInside
  rw [Literal.quotedContent, String.toList_ofList, Literal.doubleQuotes, List.mem_flatMap]
    at isInside
  obtain ⟨d, isName, isCopy⟩ := isInside
  split at isCopy
  · rename_i isQuote
    have equal : c = '\'' := by simpa using isCopy
    rw [equal]
    decide
  · rw [List.mem_singleton.1 isCopy]
    exact isPath.noBlank d isName

/-- The guard in front of a created table is quiet, although it holds the name: no blank
follows a word of the name between its quotes. -/
theorem quiet_guard {name : String} (denotes : Denotes name table) :
    Quiet ("IF OBJECT_ID(N'" ++ Literal.quotedContent name ++
      "', N'U') IS NULL CREATE").toList := by
  have opening : Quiet "IF OBJECT_ID(N".toList := SqlText.quiet_of_not_infix (by decide)
  have closing : Quiet " N'U') IS NULL CREATE".toList := SqlText.quiet_of_not_infix (by decide)
  have quoted : Quiet ((Literal.quotedContent name).toList ++ ['\'']) :=
    SqlText.quiet_of_no_blank (noBlank_quotedContent denotes) (by decide) (by decide)
  have guard := opening.join (quoted.join closing (c := ',') (by decide)) (c := '\'') (by decide)
  have shape : ("IF OBJECT_ID(N'" ++ Literal.quotedContent name ++
      "', N'U') IS NULL CREATE").toList = "IF OBJECT_ID(N".toList ++ '\'' ::
        ((Literal.quotedContent name).toList ++ ['\''] ++ ',' ::
          " N'U') IS NULL CREATE".toList) := by
    simp
  rw [shape]
  exact guard

/-- What stands in front of the name of a created table leads up to it. -/
theorem Dialect.exists_createTableHead (dialect : Dialect) {name : String}
    (denotes : Denotes name table) (ifNotExists : Bool) :
    ∃ lead, Leads lead ∧ dialect.createTableHead name ifNotExists = lead ++ name := by
  have plain : Leads "CREATE TABLE " :=
    SqlText.leads_of_word "CREATE" "TABLE" "" (by decide) (by decide) (by decide)
  have conditional : Leads "CREATE TABLE IF NOT EXISTS " :=
    SqlText.leads_of_word "CREATE" "TABLE" "IF NOT EXISTS " (by decide) (by decide) (by decide)
  have guarded : Leads ("IF OBJECT_ID(N'" ++ Literal.quotedContent name ++
      "', N'U') IS NULL CREATE TABLE ") := by
    refine ⟨"TABLE", by decide, "", by decide, .inr ⟨_, quiet_guard denotes, ?_⟩⟩
    simp only [String.append_assoc]
    rfl
  cases ifNotExists with
  | false => exact ⟨_, plain, rfl⟩
  | true =>
    cases dialect with
    | mssql => exact ⟨_, guarded, rfl⟩
    | postgresql => exact ⟨_, conditional, rfl⟩
    | mysql => exact ⟨_, conditional, rfl⟩
    | sqlite => exact ⟨_, conditional, rfl⟩

/-- So does a CREATE TABLE, guarded or not. -/
theorem CreateTable.plan_refersTo {creation : CreateTable} (denotes : Denotes creation.name table)
    (planned : creation.plan dialect = .ok plan) (style : PlaceholderStyle) :
    plan.RefersTo style table := by
  have opens : closesName " (".toList = true := by decide
  obtain ⟨lead, leads, head⟩ := dialect.exists_createTableHead denotes creation.ifNotExists
  obtain ⟨typed, -, -, rfl⟩ := CreateTable.plan_eq planned
  obtain ⟨stop, written⟩ : ∃ stop,
      (text (dialect.createTableHead creation.name creation.ifNotExists ++ " " ++
        columnList (creation.body dialect typed))).write style 0 =
          lead ++ creation.name ++ (" (" ++ stop) := by
    apply Exists.intro
    simp only [text, head, Template.write, columnList, String.append_assoc]
    rfl
  exact leads.refersTo denotes (SqlText.closesName_of_opening opens (by decide) stop) written _ _

/-- The clause that adds a column begins with the same word in every dialect. -/
theorem Dialect.exists_addColumnClause (dialect : Dialect) :
    ∃ spelling, dialect.addColumnClause = "ADD" ++ spelling := by
  cases dialect with
  | mssql => exact ⟨"", rfl⟩
  | postgresql => exact ⟨" COLUMN", rfl⟩
  | mysql => exact ⟨" COLUMN", rfl⟩
  | sqlite => exact ⟨" COLUMN", rfl⟩

/-- The plan of an ALTER TABLE begins with its first added column. -/
theorem AlterTable.exists_of_plan {alteration : AlterTable} {column : ColumnDefinition}
    {rest : List ColumnDefinition} (columns : alteration.addColumns = column :: rest)
    (planned : alteration.plan dialect = .ok plan) :
    ∃ logical others, plan = columnSteps dialect alteration.table (column, logical) ++ others := by
  obtain ⟨typed, resolved, rfl⟩ := AlterTable.plan_eq planned
  have kept := ColumnDefinition.columns_of_resolveAll resolved
  rw [columns, List.map_eq_cons_iff] at kept
  obtain ⟨⟨first, logical⟩, others, rfl, rfl, -⟩ := kept
  rw [List.flatMap_cons, List.append_assoc]
  exact ⟨logical, _, rfl⟩

/-- So does an ALTER TABLE that adds a column. -/
theorem AlterTable.plan_refersTo {alteration : AlterTable}
    (denotes : Denotes alteration.table table) (adds : alteration.addColumns ≠ [])
    (planned : alteration.plan dialect = .ok plan) (style : PlaceholderStyle) :
    plan.RefersTo style table := by
  have leads : Leads "ALTER TABLE " :=
    SqlText.leads_of_word "ALTER" "TABLE" "" (by decide) (by decide) (by decide)
  have opens : closesName " ADD".toList = true := by decide
  obtain ⟨spelling, clause⟩ := dialect.exists_addColumnClause
  obtain ⟨column, rest, columns⟩ := List.exists_cons_of_ne_nil adds
  obtain ⟨logical, others, rfl⟩ := AlterTable.exists_of_plan columns planned
  obtain ⟨stop, written⟩ : ∃ stop,
      (text ("ALTER TABLE " ++ alteration.table ++ " " ++ dialect.addColumnClause ++ " " ++
        (addedColumn dialect column).definition dialect logical false)).write style 0 =
          "ALTER TABLE " ++ alteration.table ++ (" ADD" ++ stop) := by
    apply Exists.intro
    simp only [text, clause, Template.write, String.append_assoc]
    rfl
  exact leads.refersTo denotes (SqlText.closesName_of_opening opens (by decide) stop) written _ _

end Writes

/-- A statement that writes and compiles begins with a text that refers to its table. -/
theorem Statement.exists_first_of_writes {dialect : Dialect} {statement : Statement} {table : String}
    {compiled : List Compiled} (writes : statement.writes = true)
    (denotes : Denotes statement.table table) (accepted : compile dialect statement = .ok compiled) :
    ∃ first others, compiled = first :: others ∧ table ∈ SqlText.tables first.sql := by
  obtain ⟨plan, planned⟩ := plan_of_compile accepted
  have refersTo : plan.RefersTo dialect.capabilities.placeholder table := by
    cases statement with
    | select query => contradiction
    | insert insertion => exact Insert.plan_refersTo denotes planned _
    | update change => exact Update.plan_refersTo denotes planned _
    | delete deletion => exact Delete.plan_refersTo denotes planned _
    | createTable creation => exact CreateTable.plan_refersTo denotes planned _
    | alterTable alteration =>
      refine AlterTable.plan_refersTo denotes ?_ planned _
      rintro noColumns
      simp [Statement.writes, noColumns] at writes
    | dropTable removal =>
      obtain rfl := Except.ok.inj planned
      exact DropTable.plan_refersTo denotes _
  obtain ⟨notes, template, rest, rfl, refers⟩ := refersTo
  obtain ⟨first, others, rfl, text⟩ := exists_first_of_plan planned accepted
  exact ⟨first, others, rfl, text ▸ refers⟩

end NeutralSql
