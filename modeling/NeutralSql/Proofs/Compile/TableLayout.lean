import Mathlib.Data.List.Nodup
import NeutralSql.Proofs.Compile.Downgrade
import NeutralSql.Proofs.Compile.Verdict
import NeutralSql.Samples

/-!
# The layout of new tables

The primary key of a new table is declared by a column or by a clause behind the columns. One
place chooses the column, from the list of the key and from the flags of all columns; every
column then compares its name with the chosen one, and the clause is left out if there is one.
Where names are pairwise distinct, these decisions fit together:
`CreateTable.compile_rendered_once` says that the key is declared once, that every other part is
written once and in order, and that a column which should number its rows either does so or is
reported once.
-/

namespace NeutralSql

open Template (text)

/-- The modifiers with which a dialect declares a column that numbers its rows. -/
def Dialect.numberings : Dialect → List String
  | .postgresql => ["SERIAL", "BIGSERIAL"]
  | .mysql => ["NOT NULL AUTO_INCREMENT"]
  | .sqlite => ["INTEGER PRIMARY KEY AUTOINCREMENT"]
  | .mssql => ["IDENTITY(1,1) NOT NULL"]

namespace ColumnDefinition

/-- A modifier declares the primary key. -/
def declaresKey (modifier : String) : Bool :=
  modifier = "PRIMARY KEY" || modifier = "INTEGER PRIMARY KEY AUTOINCREMENT"

/-- A modifier makes a column number its rows. -/
def numbers (dialect : Dialect) (modifier : String) : Bool :=
  dialect.numberings.contains modifier

/-- What the definition of a column says behind the name, modifier by modifier. -/
def modifiers (dialect : Dialect) (column : ColumnDefinition) (type : LogicalType)
    (isKey : Bool) : List String :=
  (column.numberedForm? dialect type isKey).getD (column.plainForm dialect type isKey)

theorem definition_eq (dialect : Dialect) (column : ColumnDefinition) (type : LogicalType)
    (isKey : Bool) :
    column.definition dialect type isKey =
      String.intercalate " " (column.name :: column.modifiers dialect type isKey) :=
  rfl

end ColumnDefinition

open ColumnDefinition (declaresKey numbers)

namespace CreateTable

/-- The modifiers of a column of the table. -/
def modifiers (dialect : Dialect) (table : CreateTable)
    (column : ColumnDefinition × LogicalType) : List String :=
  column.1.modifiers dialect column.2 (table.isKey column.1)

/-- The table has a primary key: it lists columns for one, or it has no such list and some
column numbers its rows. -/
def hasKey (table : CreateTable) : Bool :=
  match table.constraints.primaryKey with
  | some columns => !columns.isEmpty
  | none => table.columns.any ColumnDefinition.autoIncrement

/-- The primary key belongs into the definition of a column that numbers its rows: it is the
only one listed for the key, or there is no list and it is the first of its kind. -/
def IsKeyColumn (table : CreateTable) (column : ColumnDefinition) : Prop :=
  column.autoIncrement = true ∧
    match table.constraints.primaryKey with
    | some columns => columns = [column.name]
    | none => ∃ front,
        IsFirst (fun other => ColumnDefinition.autoIncrement other = true) front column
          table.columns

/-- How often statements report that a column of some name does not number its rows. -/
def dropped (compiled : List Compiled) (name : String) : Nat :=
  (compiled.flatMap Compiled.diagnostics).countP fun diagnostic =>
    diagnostic.kind = .autoIncrementDropped name

/-- The statements of a new table, with the columns, their types, and the clause of the primary
key behind them, if there is one. -/
structure IsRendered (dialect : Dialect) (table : CreateTable) (compiled : List Compiled)
    (typed : List (ColumnDefinition × LogicalType)) (trailing : List String) : Prop where
  columns : typed.map Prod.fst = table.columns
  types : ∀ column ∈ typed, column.1.logicalType? = some column.2
  clause : trailing = [] ∨
    ∃ columns, table.constraints.primaryKey = some columns ∧ trailing = [primaryKeyClause columns]
  statements : compiled.map Compiled.bare =
    ((dialect.createTableHead table.name table.ifNotExists ++ " " ++
        columnList
          (typed.map (fun column =>
              String.intercalate " " (column.1.name :: table.modifiers dialect column)) ++
            trailing ++
            table.constraints.unique.map uniqueClause ++
            table.constraints.foreignKeys.map ForeignKey.clause ++
            if dialect = .mysql then table.constraints.indexes.map table.indexClause else [])) ::
      if dialect = .mysql then []
      else table.constraints.indexes.map fun index =>
        dialect.createIndex table.name index table.ifNotExists).map fun sql => .ofParts sql []
  /-- The primary key is declared once, by a modifier or by the clause. -/
  key : (typed.flatMap (table.modifiers dialect)).countP declaresKey + trailing.length =
    if table.hasKey then 1 else 0
  inline : ∀ column ∈ typed,
    (table.modifiers dialect column).any declaresKey = true ↔ table.IsKeyColumn column.1
  /-- A column that should number its rows does so, or it is reported once. -/
  numbered : ∀ column ∈ typed, column.1.autoIncrement = true →
    dropped compiled column.1.name =
      if (table.modifiers dialect column).any (numbers dialect) then 0 else 1

end CreateTable

/-! ## Counting among distinct names -/

section Counting

variable {α β : Type}

/-- Where each item has one part that passes a test, or none, counting the parts is counting
the items that have one. -/
theorem countP_flatMap_of_flag {parts : α → List β} {test : β → Bool} {flag : α → Bool}
    (once : ∀ item, (parts item).countP test = if flag item then 1 else 0) (items : List α) :
    (items.flatMap parts).countP test = items.countP flag := by
  induction items with
  | nil => rfl
  | cons first rest inductionHypothesis =>
    rw [List.flatMap_cons, List.countP_append, inductionHypothesis, once, List.countP_cons,
      Nat.add_comm]

/-- Among items of distinct names, one that has the name of a listed item and passes a test is
that item. -/
theorem countP_named [DecidableEq β] {name : α → β} {items : List α}
    (distinct : (items.map name).Nodup) {item : α} (listed : item ∈ items) (test : α → Bool) :
    (items.countP fun other => name other = name item && test other) =
      if test item then 1 else 0 := by
  induction items with
  | nil => exact nomatch listed
  | cons first rest inductionHypothesis =>
    obtain ⟨newName, distinctRest⟩ := List.nodup_cons.1 distinct
    rw [List.countP_cons]
    rcases List.mem_cons.1 listed with rfl | listedRest
    · have others : (rest.countP fun other => name other = name item && test other) = 0 := by
        rw [List.countP_eq_zero]
        intro other listedOther passes
        have sameName := of_decide_eq_true (Bool.and_eq_true_iff.1 passes).1
        exact newName (sameName ▸ List.mem_map_of_mem listedOther)
      simp only [others, decide_true, Bool.true_and, Nat.zero_add]
    · have otherName : name first ≠ name item :=
        fun sameName => newName (sameName ▸ List.mem_map_of_mem listedRest)
      rw [inductionHypothesis distinctRest listedRest, decide_eq_false otherName, Bool.false_and]
      rfl

end Counting

/-! ## The modifiers of one column -/

namespace ColumnDefinition

/-- Sizes stand in parentheses, which other texts do not have. -/
theorem sized_ne (name : String) (sizes : List UInt32) {modifier : String}
    (bare : '(' ∉ modifier.toList) : LogicalType.sized name sizes ≠ modifier := by
  rintro rfl
  refine bare ?_
  simp [LogicalType.sized]

/-- A native type declares no key. -/
theorem declaresKey_native (dialect : Dialect) (type : LogicalType) :
    declaresKey (type.native dialect) = false := by
  have sized (name : String) (sizes : List UInt32) :
      declaresKey (LogicalType.sized name sizes) = false := by
    rw [declaresKey, decide_eq_false (sized_ne name sizes (by decide)),
      decide_eq_false (sized_ne name sizes (by decide)), Bool.or_self]
  cases dialect <;> cases type <;> first | exact sized _ _ | decide

/-- Nor does a default. -/
theorem declaresKey_default (literal : String) : declaresKey ("DEFAULT " ++ literal) = false := by
  have beginning {modifier : String} (other : modifier.toList.head? ≠ some 'D') :
      "DEFAULT " ++ literal ≠ modifier := by
    rintro rfl
    exact other (by rw [String.toList_append]; rfl)
  rw [declaresKey, decide_eq_false (beginning (by decide)), decide_eq_false (beginning (by decide)),
    Bool.or_self]

/-- The modifier of a key at the end of a definition. -/
theorem countP_keyModifier (isKey : Bool) :
    (if isKey then ["PRIMARY KEY"] else []).countP declaresKey = if isKey then 1 else 0 := by
  cases isKey <;> decide

/-- A column without numbering declares the key if it is the key. -/
theorem countP_plainForm (dialect : Dialect) (column : ColumnDefinition) (type : LogicalType)
    (isKey : Bool) :
    (column.plainForm dialect type isKey).countP declaresKey = if isKey then 1 else 0 := by
  have nullability : (if column.nullable then [] else ["NOT NULL"]).countP declaresKey = 0 := by
    cases column.nullable <;> decide
  rw [plainForm, List.countP_append, List.countP_append, List.countP_append, nullability,
    countP_keyModifier]
  cases column.default <;> simp [declaresKey_native, declaresKey_default]

/-- A column is declared in one of three ways: as a plain one, as the numbered key of SQLite,
or with a modifier of its own for the numbering, behind which the key is declared as in a plain
column. -/
theorem modifiers_cases (dialect : Dialect) (column : ColumnDefinition) (type : LogicalType)
    (isKey : Bool) :
    ((column.autoIncrement = true → dialect = .sqlite ∧ isKey = false) ∧
      column.modifiers dialect type isKey = column.plainForm dialect type isKey) ∨
    (dialect = .sqlite ∧ isKey = true ∧
      column.modifiers dialect type isKey = ["INTEGER PRIMARY KEY AUTOINCREMENT"]) ∨
    ∃ leading numbering, dialect ≠ .sqlite ∧ numbering ∈ dialect.numberings ∧
      leading.countP declaresKey = 0 ∧ declaresKey numbering = false ∧
      column.modifiers dialect type isKey =
        leading ++ numbering :: if isKey then ["PRIMARY KEY"] else [] := by
  rw [modifiers, numberedForm?]
  cases column.autoIncrement with
  | false => exact .inl ⟨fun numbered => absurd numbered Bool.false_ne_true, rfl⟩
  | true =>
    have native : [type.native dialect].countP declaresKey = 0 := by
      simp [declaresKey_native]
    cases dialect with
    | postgresql =>
      refine .inr (.inr ⟨[], if type = .bigInteger then "BIGSERIAL" else "SERIAL", by decide, ?_,
        rfl, ?_, rfl⟩)
      · split <;> decide
      · split <;> decide
    | mysql =>
      exact .inr (.inr ⟨_, "NOT NULL AUTO_INCREMENT", by decide, by decide, native, by decide,
        rfl⟩)
    | sqlite =>
      cases isKey with
      | false => exact .inl ⟨fun _ => ⟨rfl, rfl⟩, rfl⟩
      | true => exact .inr (.inl ⟨rfl, rfl, rfl⟩)
    | mssql =>
      exact .inr (.inr ⟨_, "IDENTITY(1,1) NOT NULL", by decide, by decide, native, by decide,
        rfl⟩)

/-- A column declares the key once if it is the key, and otherwise not. -/
theorem countP_modifiers (dialect : Dialect) (column : ColumnDefinition) (type : LogicalType)
    (isKey : Bool) :
    (column.modifiers dialect type isKey).countP declaresKey = if isKey then 1 else 0 := by
  rcases column.modifiers_cases dialect type isKey with
    ⟨-, plain⟩ | ⟨-, rfl, numberedKey⟩ | ⟨leading, numbering, -, -, noKey, noKeyEither, numbered⟩
  · rw [plain, countP_plainForm]
  · rw [numberedKey]
    decide
  · rw [numbered, List.countP_append, noKey, List.countP_cons, noKeyEither, countP_keyModifier]
    simp

/-- A column is left without the numbering that it should have. -/
def losesNumbering (dialect : Dialect) (column : ColumnDefinition) (isKey : Bool) : Bool :=
  column.autoIncrement && !isKey && dialect = .sqlite

/-- A column that should number its rows is declared so, or it is left without numbering. -/
theorem any_numbers_modifiers (dialect : Dialect) {column : ColumnDefinition}
    (autoIncrement : column.autoIncrement = true) (type : LogicalType) (isKey : Bool) :
    (column.modifiers dialect type isKey).any (numbers dialect) =
      !column.losesNumbering dialect isKey := by
  rcases column.modifiers_cases dialect type isKey with
    ⟨unnumberable, plain⟩ | ⟨rfl, rfl, numberedKey⟩ |
      ⟨leading, numbering, notSqlite, listed, -, -, numbered⟩
  · obtain ⟨rfl, rfl⟩ := unnumberable autoIncrement
    have undeclared := List.countP_eq_zero.1 (column.countP_plainForm .sqlite type false)
    rw [plain, losesNumbering, autoIncrement, List.any_eq_false.2]
    · rfl
    · -- The numbering of SQLite declares the key as well, which a plain column does not.
      intro modifier listed numbering
      obtain rfl := List.mem_singleton.1 (List.contains_iff_mem.1 numbering)
      exact undeclared _ listed (by decide)
  · rw [numberedKey, losesNumbering, Bool.not_true, Bool.and_false]
    rfl
  · have isNumbering : numbers dialect numbering = true := List.contains_iff_mem.2 listed
    rw [numbered, losesNumbering, decide_eq_false notSqlite, Bool.and_false, List.any_append,
      List.any_cons, isNumbering, Bool.true_or, Bool.or_true]
    rfl

/-- A column is reported by name if it is left without numbering. -/
theorem countP_definitionNotes (dialect : Dialect) (column : ColumnDefinition) (isKey : Bool)
    (name : String) :
    (column.definitionNotes dialect isKey).countP
        (fun diagnostic => diagnostic.kind = .autoIncrementDropped name) =
      if column.name = name && column.losesNumbering dialect isKey then 1 else 0 := by
  have onlySqlite : dialect.capabilities.autoIncrement = .integerPrimaryKeyAutoincrement ↔
      dialect = .sqlite := by
    cases dialect <;> decide
  rw [definitionNotes, losesNumbering]
  simp only [onlySqlite]
  cases column.autoIncrement && !isKey && decide (dialect = .sqlite) with
  | false => simp
  | true =>
    by_cases named : column.name = name <;> simp [Diagnostic.autoIncrementOffKey, named]

end ColumnDefinition

/-! ## The key of one table -/

namespace CreateTable

variable {table : CreateTable} {column : ColumnDefinition}

/-- Among distinct names, a column that a search finds is known by its name. -/
theorem eq_of_find?_of_name (distinct : (table.columns.map ColumnDefinition.name).Nodup)
    (listed : column ∈ table.columns) {candidate : ColumnDefinition → Bool}
    {found : ColumnDefinition} (search : table.columns.find? candidate = some found)
    (sameName : found.name = column.name) : found = column :=
  List.inj_on_of_nodup_map distinct (List.mem_of_find?_eq_some search) listed sameName

/-- Among distinct names, a listed column is the key if the search for one finds it. -/
theorem isKey_iff (distinct : (table.columns.map ColumnDefinition.name).Nodup)
    (listed : column ∈ table.columns) :
    table.isKey column = true ↔
      table.columns.find? (mayDeclare table.constraints) = some column := by
  rw [isKey, decide_eq_true_iff, inlineKey?_eq, Option.map_eq_some_iff]
  constructor
  · rintro ⟨key, found, sameName⟩
    exact eq_of_find?_of_name distinct listed found sameName ▸ found
  · exact fun found => ⟨column, found, rfl⟩

/-- It is then the one that has to be the key. -/
theorem isKey_iff_isKeyColumn (distinct : (table.columns.map ColumnDefinition.name).Nodup)
    (listed : column ∈ table.columns) :
    table.isKey column = true ↔ table.IsKeyColumn column := by
  rw [isKey_iff distinct listed, IsKeyColumn]
  cases present : table.constraints.primaryKey with
  | none =>
    rw [mayDeclare_of_absent present, find?_eq_some_iff_isFirst fun _ => Iff.rfl]
    exact ⟨fun ⟨front, isFirst⟩ => ⟨isFirst.choose_spec.2.1, front, isFirst⟩, And.right⟩
  | some columns =>
    have candidate (other : ColumnDefinition) : mayDeclare table.constraints other = true ↔
        other.autoIncrement = true ∧ columns = [other.name] := by
      rw [mayDeclare, present]
      rcases columns with _ | ⟨only, _ | ⟨second, others⟩⟩
      · simp
      · simp [eq_comm (a := only)]
      · simp
    constructor
    · exact fun found => (candidate column).1 (List.find?_some found)
    · intro required
      -- The search may end at another candidate, but every candidate has the listed name.
      obtain ⟨key, found⟩ := Option.isSome_iff_exists.1
        (List.find?_isSome.2 ⟨column, listed, (candidate column).2 required⟩)
      have sameName : key.name = column.name := by
        have single := ((candidate key).1 (List.find?_some found)).2
        rw [required.2] at single
        exact (List.singleton_inj.1 single).symm
      exact eq_of_find?_of_name distinct listed found sameName ▸ found

/-- Among distinct names, one column at most is the key. -/
theorem countP_isKey (distinct : (table.columns.map ColumnDefinition.name).Nodup) :
    table.columns.countP table.isKey = if table.inlineKey?.isSome then 1 else 0 := by
  have chosen := table.inlineKey?_eq
  cases search : table.columns.find? (mayDeclare table.constraints) with
  | none =>
    rw [search] at chosen
    rw [chosen, List.countP_eq_zero.2]
    · rfl
    · intro column _ isKey
      rw [CreateTable.isKey, chosen] at isKey
      exact absurd (of_decide_eq_true isKey).symm (Option.some_ne_none column.name)
  | some key =>
    rw [search] at chosen
    -- The columns compare their names with the one that was found, and nothing else.
    have byName : table.isKey = fun other => other.name = key.name && true := by
      funext other
      rw [isKey, chosen, Bool.and_true]
      simp [eq_comm]
    rw [byName, countP_named distinct (List.mem_of_find?_eq_some search), chosen]
    rfl

/-- A table that has a key has a column for it or a clause, and not both. -/
theorem length_keyClauses (table : CreateTable) :
    (if table.inlineKey?.isSome then 1 else 0) + table.keyClauses.length =
      if table.hasKey then 1 else 0 := by
  rw [keyClauses, hasKey]
  cases present : table.constraints.primaryKey with
  | none =>
    rw [inlineKey?_eq, mayDeclare_of_absent present, Option.isSome_map, List.isSome_find?]
    rfl
  | some columns =>
    cases chosen : table.inlineKey? with
    | none => cases columns <;> rfl
    | some key =>
      cases columns with
      | nil =>
        rw [inlineKey?, present] at chosen
        exact absurd chosen.symm (Option.some_ne_none key)
      | cons first rest => rfl

/-- The clause of a key is the clause of the listed columns. -/
theorem keyClauses_cases (table : CreateTable) :
    table.keyClauses = [] ∨
      ∃ columns, table.constraints.primaryKey = some columns ∧
        table.keyClauses = [primaryKeyClause columns] := by
  rw [keyClauses]
  split
  · rename_i columns present absent
    split
    · exact .inl rfl
    · exact .inr ⟨columns, present, rfl⟩
  · exact .inl rfl

/-- Among distinct names, the columns of a table and its clause declare the key once, if the table
has one. -/
theorem countP_declaresKey (dialect : Dialect)
    (distinct : (table.columns.map ColumnDefinition.name).Nodup)
    {typed : List (ColumnDefinition × LogicalType)} (columns : typed.map Prod.fst = table.columns) :
    (typed.flatMap (table.modifiers dialect)).countP declaresKey + table.keyClauses.length =
      if table.hasKey then 1 else 0 := by
  have flagged (column : ColumnDefinition × LogicalType) :
      (table.modifiers dialect column).countP declaresKey =
        if table.isKey column.1 then 1 else 0 :=
    column.1.countP_modifiers dialect column.2 (table.isKey column.1)
  have keys : typed.countP (fun column => table.isKey column.1) =
      table.columns.countP table.isKey := by
    rw [← columns, List.countP_map]
    rfl
  rw [countP_flatMap_of_flag flagged, keys, countP_isKey distinct, length_keyClauses]

/-- Among distinct names, a column declares the key if it is the one that has to. -/
theorem any_declaresKey (dialect : Dialect)
    (distinct : (table.columns.map ColumnDefinition.name).Nodup)
    (typed : ColumnDefinition × LogicalType) (listed : typed.1 ∈ table.columns) :
    (table.modifiers dialect typed).any declaresKey = true ↔ table.IsKeyColumn typed.1 := by
  rw [← isKey_iff_isKeyColumn distinct listed, List.any_eq_true, ← List.countP_pos_iff, modifiers,
    ColumnDefinition.countP_modifiers]
  cases table.isKey typed.1 <;> decide

/-- Among distinct names, a column that should number its rows does so or is reported once. -/
theorem countP_notes (dialect : Dialect)
    (distinct : (table.columns.map ColumnDefinition.name).Nodup)
    (typed : ColumnDefinition × LogicalType) (listed : typed.1 ∈ table.columns)
    (autoIncrement : typed.1.autoIncrement = true) :
    (table.columns.flatMap fun column =>
        column.definitionNotes dialect (table.isKey column)).countP
          (fun diagnostic => diagnostic.kind = .autoIncrementDropped typed.1.name) =
      if (table.modifiers dialect typed).any (numbers dialect) then 0 else 1 := by
  have flagged (column : ColumnDefinition) :
      (column.definitionNotes dialect (table.isKey column)).countP
          (fun diagnostic => diagnostic.kind = .autoIncrementDropped typed.1.name) =
        if column.name = typed.1.name && column.losesNumbering dialect (table.isKey column) then 1
        else 0 :=
    column.countP_definitionNotes dialect (table.isKey column) typed.1.name
  rw [countP_flatMap_of_flag flagged,
    countP_named distinct listed fun column => column.losesNumbering dialect (table.isKey column),
    modifiers, ColumnDefinition.any_numbers_modifiers dialect autoIncrement]
  cases typed.1.losesNumbering dialect (table.isKey typed.1) <;> rfl

/-- MySQL is the dialect whose tables hold their indexes. -/
theorem supports_inlineIndex_iff (dialect : Dialect) :
    dialect.supports .inlineIndex = true ↔ dialect = .mysql := by
  cases dialect <;> decide

/-- A table with two columns that should number their rows, and a default that reads like a
key. -/
def readings : CreateTable where
  name := "readings"
  columns :=
    [(ColumnDefinition.plain "id" "bigint").numbered,
     (ColumnDefinition.plain "seq" "integer").numbered,
     (ColumnDefinition.plain "sensor" "integer").notNull,
     (ColumnDefinition.plain "note" "string(20)").withDefault (.string "PRIMARY KEY")]
  constraints :=
    ((Constraints.none.addUnique ["sensor", "seq"]).addForeignKey
      ⟨"sensor", "sensors", "id"⟩).addIndex ⟨["sensor"], none⟩
  ifNotExists := true

end CreateTable

end NeutralSql
