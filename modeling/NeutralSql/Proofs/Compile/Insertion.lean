import Mathlib.Data.List.Forall2
import NeutralSql.Proofs.Association
import NeutralSql.Proofs.Compile.Alignment
import NeutralSql.Proofs.Compile.Template
import NeutralSql.Proofs.Compile.Uniformity
import NeutralSql.Proofs.Compile.Verdict
import NeutralSql.Samples

/-!
# The layout of insertions

The first row of an insertion decides on the columns. What compiles has rows with exactly
these columns, so that the renderer finds a value wherever it looks for one: row by row, the
values stand in the order of the first row's columns, and the text has one group of
placeholders for each row. The order in which another row names its columns is nowhere
looked at: `Insert.compile_permuted`.
-/

namespace NeutralSql

open Template (text slot separated)

section Uniform

variable {α β : Type} {items : List α} {parts : α → List β} {width : Nat}

/-- Parts of one length come to as many elements as there are places for them. -/
theorem length_flatMap_uniform (uniform : ∀ item ∈ items, (parts item).length = width) :
    (items.flatMap parts).length = items.length * width := by
  rw [List.length_flatMap, List.map_congr_left uniform, List.map_const',
    List.sum_replicate_nat]

/-- Behind parts of one length, an element of a part stands where its row and its place in the
row put it. -/
theorem getElem?_flatMap_uniform (uniform : ∀ item ∈ items, (parts item).length = width)
    {row : Nat} {item : α} (isItem : items[row]? = some item) {place : Nat}
    (inside : place < width) :
    (items.flatMap parts)[row * width + place]? = (parts item)[place]? := by
  induction items generalizing row with
  | nil => contradiction
  | cons first rest inductionHypothesis =>
    rw [List.forall_mem_cons] at uniform
    rw [List.flatMap_cons]
    cases row with
    | zero =>
      obtain rfl : first = item := Option.some.inj isItem
      rw [Nat.zero_mul, Nat.zero_add, List.getElem?_append_left (uniform.1 ▸ inside)]
    | succ row =>
      have behind : (row + 1) * width + place = (parts first).length + (row * width + place) := by
        rw [uniform.1, Nat.succ_mul]
        omega
      rw [behind, List.getElem?_append_right (Nat.le_add_right _ _), Nat.add_sub_cancel_left]
      exact inductionHypothesis uniform.2 isItem

end Uniform

namespace Insert

/-- The placeholders of a row in parentheses, their numbers behind those of the rows in
front. -/
def group (dialect : Dialect) (width row : Nat) : String :=
  "(" ++ String.intercalate ", "
    ((List.range width).map fun place => dialect.placeholder (row * width + place + 1)) ++ ")"

/-- The layout of a finished insertion: the values stand row by row in the order of the first
row's columns, no row lacks one, and the text has a group of placeholders for each row. -/
structure IsLaidOut (dialect : Dialect) (insertion : Insert) (finished : Compiled) : Prop where
  length : finished.params.length = insertion.rows.length * insertion.columns.length
  param : ∀ {row place : Nat} {values : Row} {column : String},
    insertion.rows[row]? = some values → insertion.columns[place]? = some column →
      ∃ value, values.get? column = some value ∧
        finished.params[row * insertion.columns.length + place]? = some value
  /-- Whatever stands in for a missing value is not used. -/
  fallback : ∀ other, finished.params = insertion.rows.flatMap fun row =>
    insertion.columns.map fun column => (row.get? column).getD other
  sql : finished.sql = "INSERT INTO " ++ insertion.table ++ " (" ++
    String.intercalate ", " insertion.columns ++ ")" ++
    (if dialect = .mssql then " OUTPUT INSERTED.*" else "") ++ " VALUES " ++
    String.intercalate ", "
      ((List.range insertion.rows.length).map (group dialect insertion.columns.length)) ++
    (if dialect = .postgresql then " RETURNING *" else "")

section Layout

variable {dialect : Dialect} {insertion : Insert} {columns : List String} {row : Row}

/-- A row that has all columns binds a value for each, and what stands in for a missing one
does not matter. -/
theorem filterMap_get? (present : ∀ column ∈ columns, (row.get? column).isSome) (other : Value) :
    columns.filterMap row.get? = columns.map fun column => (row.get? column).getD other := by
  induction columns with
  | nil => rfl
  | cons first rest inductionHypothesis =>
    rw [List.forall_mem_cons] at present
    obtain ⟨value, found⟩ := Option.isSome_iff_exists.1 present.1
    rw [List.filterMap_cons_some found, inductionHypothesis present.2, List.map_cons, found,
      Option.getD_some]

/-- A row is written as a group of placeholders. -/
theorem write_rowTemplate (dialect : Dialect) (columns : List String) (row : Row) (bound : Nat) :
    (rowTemplate columns row).write dialect.capabilities.placeholder bound =
      "(" ++ String.intercalate ", "
        ((List.range columns.length).map fun place =>
          dialect.placeholder (bound + place + 1)) ++ ")" := by
  have single : ∀ template ∈ columns.map fun column => slot (.ofOption (row.get? column)),
      template.values.length = 1 :=
    List.forall_mem_map.2 fun _ _ => rfl
  have slots := Template.write_separated dialect.capabilities.placeholder ", " single bound
  have tokens : (columns.map fun column => slot (.ofOption (row.get? column))).mapIdx
        (fun place template => Template.write dialect.capabilities.placeholder
          (bound + place * 1) template) =
      (List.range columns.length).map fun place => dialect.placeholder (bound + place + 1) := by
    refine List.ext_getElem (by simp) fun place _ _ => ?_
    simp [slot, Template.write, Dialect.token_eq]
  rw [tokens] at slots
  rw [rowTemplate, Template.write_append_text, Template.write_append, Template.values_text,
    List.length_nil, Nat.add_zero, slots, text, Template.write, Template.write,
    String.append_empty]

/-- A row has a slot for each column. -/
theorem length_values_rowTemplate (columns : List String) (row : Row) :
    (rowTemplate columns row).values.length = columns.length := by
  simp [rowTemplate, Function.comp_def]

/-- An insertion is written with a group of placeholders for each row. -/
theorem write_template_eq (dialect : Dialect) (insertion : Insert) (columns : List String) :
    (insertion.template dialect columns).write dialect.capabilities.placeholder 0 =
      "INSERT INTO " ++ insertion.table ++ " (" ++ String.intercalate ", " columns ++ ")" ++
        (if dialect = .mssql then " OUTPUT INSERTED.*" else "") ++ " VALUES " ++
        String.intercalate ", "
          ((List.range insertion.rows.length).map (group dialect columns.length)) ++
        (if dialect = .postgresql then " RETURNING *" else "") := by
  have uniform : ∀ template ∈ insertion.rows.map (rowTemplate columns),
      template.values.length = columns.length :=
    List.forall_mem_map.2 fun row _ => length_values_rowTemplate columns row
  have groups : (insertion.rows.map (rowTemplate columns)).mapIdx
        (fun index template => Template.write dialect.capabilities.placeholder
          (0 + index * columns.length) template) =
      (List.range insertion.rows.length).map (group dialect columns.length) := by
    refine List.ext_getElem (by simp) fun index _ _ => ?_
    simp [write_rowTemplate, group]
  have slots := Template.write_separated dialect.capabilities.placeholder ", " uniform 0
  rw [groups] at slots
  have output : dialect.capabilities.returning = .output ↔ dialect = .mssql := by
    cases dialect <;> decide
  have returning : dialect.capabilities.returning = .returning ↔ dialect = .postgresql := by
    cases dialect <;> decide
  have closing (bound : Nat) : Template.write dialect.capabilities.placeholder bound
        (if dialect = .postgresql then text " RETURNING *" else []) =
      if dialect = .postgresql then " RETURNING *" else "" := by
    split
    · exact String.append_empty
    · rfl
  simp only [template, output, returning]
  rw [Template.write_append, Template.write_append, Template.values_text, List.length_nil,
    Nat.add_zero, slots, closing, text, Template.write, Template.write, String.append_empty]

/-- What an insertion compiles to is laid out. -/
theorem exists_isLaidOut {compiled : List Compiled}
    (accepted : compile dialect (.insert insertion) = .ok compiled) :
    ∃ finished, compiled = [finished] ∧ insertion.IsLaidOut dialect finished := by
  obtain ⟨plan, planned⟩ := plan_of_compile accepted
  obtain ⟨rfl, present⟩ := Insert.plan_eq planned
  rw [compile_of_single planned] at accepted
  obtain rfl := Except.ok.inj accepted
  have values := insertion.values_template dialect present
  have fallback (other : Value) : insertion.bound = insertion.rows.flatMap fun row =>
      insertion.columns.map fun column => (row.get? column).getD other :=
    congrArg List.flatten
      (List.map_congr_left fun row listed => filterMap_get? (present row listed) other)
  have width : ∀ row ∈ insertion.rows,
      (insertion.columns.map fun column => (row.get? column).getD .null).length =
        insertion.columns.length :=
    fun _ _ => List.length_map _
  refine ⟨_, rfl, ?_, fun {row place chosen column} isRow isColumn => ?_, fun other => ?_, ?_⟩
  · rw [values, fallback .null, length_flatMap_uniform width]
  · have listed := List.mem_of_getElem? isColumn
    obtain ⟨value, found⟩ :=
      Option.isSome_iff_exists.1 (present chosen (List.mem_of_getElem? isRow) column listed)
    refine ⟨value, found, ?_⟩
    obtain ⟨inside, -⟩ := List.getElem?_eq_some_iff.1 isColumn
    rw [values, fallback .null, getElem?_flatMap_uniform width isRow inside, List.getElem?_map,
      isColumn, Option.map_some, found, Option.getD_some]
  · rw [values]
    exact fallback other
  · exact insertion.write_template_eq dialect insertion.columns

/-- An insertion compiles exactly if there is a first row with columns and every other row has
the same set of them. -/
theorem compiles_iff :
    (∃ compiled, compile dialect (.insert insertion) = .ok compiled) ↔
      ∃ first others, insertion.rows = first :: others ∧ first.columns ≠ [] ∧
        ∀ row ∈ others, ∀ column, column ∈ row.columns ↔ column ∈ first.columns := by
  have rejected : (∃ error, compile dialect (.insert insertion) = .error error) ↔
      (Statement.insert insertion).IsMalformed := by
    simp only [compile_eq_error_iff, Statement.failsWith_plan_iff, Statement.exists_fails_iff]
  have accepted : (∃ compiled, compile dialect (.insert insertion) = .ok compiled) ↔
      ¬(Statement.insert insertion).IsMalformed := by
    rw [← rejected]
    cases compile dialect (.insert insertion) <;> simp
  rw [accepted, Statement.IsMalformed]
  cases insertion.rows with
  | nil => simp
  | cons first others =>
    simp only [List.cons.injEq, not_or, not_exists, not_and, Row.Differs, not_not]
    constructor
    · rintro ⟨someColumn, same⟩
      exact ⟨first, others, ⟨rfl, rfl⟩, someColumn, same⟩
    · rintro ⟨_, _, ⟨rfl, rfl⟩, someColumn, same⟩
      exact ⟨someColumn, same⟩

/-- The order in which a row names its columns has no part in the values of the columns. -/
theorem get?_of_perm {other : Row} (permuted : row.entries.Perm other.entries) (column : String) :
    row.get? column = other.get? column := by
  refine Option.ext fun value => ?_
  rw [Row.get?, Row.get?, lookup_eq_some_iff_mem row.distinct,
    lookup_eq_some_iff_mem other.distinct]
  exact permuted.mem_iff

/-- Nor in whether the row fits, or in its template. -/
theorem fits_and_template_of_perm {other : Row} (permuted : row.entries.Perm other.entries)
    (columns : List String) :
    fits columns row = fits columns other ∧
      rowTemplate columns row = rowTemplate columns other := by
  have size : row.size = other.size := permuted.length_eq
  constructor
  · simp only [fits, size, get?_of_perm permuted]
  · simp only [rowTemplate, get?_of_perm permuted]

/-- The order in which rows behind the first one name their columns changes nothing, be it the
text, the values or the error. -/
theorem compile_permuted (dialect : Dialect) {first : Row} {others permuted : List Row}
    (rows : insertion.rows = first :: others)
    (reordered : List.Forall₂ (fun row other => row.entries.Perm other.entries) others permuted) :
    compile dialect (.insert { insertion with rows := first :: permuted }) =
      compile dialect (.insert insertion) := by
  have mapped {α : Type} (view : Row → α)
      (same : ∀ row other : Row, row.entries.Perm other.entries → view row = view other) :
      others.map view = permuted.map view := by
    rw [← List.forall₂_eq_eq_eq, List.forall₂_map_left_iff, List.forall₂_map_right_iff]
    exact reordered.imp same
  have fitted := mapped (fits first.columns) fun _ _ permutes =>
    (fits_and_template_of_perm permutes first.columns).1
  have written := mapped (rowTemplate first.columns) fun _ _ permutes =>
    (fits_and_template_of_perm permutes first.columns).2
  have search : others.findIdx? (fun row => !fits first.columns row) =
      permuted.findIdx? fun row => !fits first.columns row := by
    have lists := congrArg (List.findIdx? fun fit => !fit) fitted
    rw [List.findIdx?_map, List.findIdx?_map] at lists
    exact lists
  have sameTemplate : Insert.template dialect { insertion with rows := first :: permuted }
      first.columns = insertion.template dialect first.columns := by
    simp only [template, rows, List.map_cons, written]
  have samePlan : Insert.plan dialect { insertion with rows := first :: permuted } =
      insertion.plan dialect := by
    simp only [plan, rows, search, sameTemplate]
  simp only [compile, Context.compile, Context.empty, Statement.plan, samePlan]

end Layout

/-- In every dialect, an insertion compiles exactly if there is a first row with columns and
every other row has the same set of them. It then comes to one statement, laid out row by row
in the order of the first row's columns, and no row lacks a value. In which order another row
names its columns does not matter, not even for the error. -/
theorem compile_laid_out (dialect : Dialect) (insertion : Insert) :
    ((∃ compiled, compile dialect (.insert insertion) = .ok compiled) ↔
      ∃ first others, insertion.rows = first :: others ∧ first.columns ≠ [] ∧
        ∀ row ∈ others, ∀ column, column ∈ row.columns ↔ column ∈ first.columns) ∧
    (∀ compiled, compile dialect (.insert insertion) = .ok compiled →
      ∃ finished, compiled = [finished] ∧ insertion.IsLaidOut dialect finished) ∧
    ∀ first others permuted, insertion.rows = first :: others →
      List.Forall₂ (fun row other => row.entries.Perm other.entries) others permuted →
      compile dialect (.insert { insertion with rows := first :: permuted }) =
        compile dialect (.insert insertion) :=
  ⟨compiles_iff, fun _ accepted => exists_isLaidOut accepted,
    fun _ _ _ rows reordered => compile_permuted dialect rows reordered⟩

/-- The second of the sample users. -/
def sampleUser : Row :=
  .ofList [("email", .string "alan@example.com"), ("name", .string "Alan")]

/-- The same user with the columns the other way round. -/
def sampleUserReversed : Row :=
  .ofList [("name", .string "Alan"), ("email", .string "alan@example.com")]

/-- The sample insertion, and what becomes of it when its second row is reversed. -/
theorem compile_laid_out_users :
    ∃ first finished, Samples.insertUsers.rows = [first, sampleUser] ∧
      compile .mssql (.insert Samples.insertUsers) = .ok [finished] ∧
      Samples.insertUsers.IsLaidOut .mssql finished ∧
      finished.sql =
        "INSERT INTO users (email, name) OUTPUT INSERTED.* VALUES (@p1, @p2), (@p3, @p4)" ∧
      finished.params[3]? = some (.string "Alan") ∧
      compile .mssql (.insert { Samples.insertUsers with rows := [first, sampleUserReversed] }) =
        .ok [finished] := by
  obtain ⟨compiles, laidOut, permutes⟩ := compile_laid_out .mssql Samples.insertUsers
  have sameColumns : ∀ row ∈ [sampleUser], ∀ column, column ∈ row.columns ↔
      column ∈ Samples.insertUsers.columns :=
    List.forall_mem_singleton.2 fun column => Iff.rfl
  obtain ⟨compiled, accepted⟩ := compiles.2 ⟨_, [sampleUser], rfl, by decide, sameColumns⟩
  obtain ⟨finished, rfl, isLaidOut⟩ := laidOut compiled accepted
  have second : Samples.insertUsers.rows[1]? = some sampleUser := rfl
  have name : Samples.insertUsers.columns[1]? = some "name" := rfl
  obtain ⟨value, isValue, placed⟩ := isLaidOut.param second name
  obtain rfl : .string "Alan" = value := Option.some.inj isValue
  have reversed : sampleUser.entries.Perm sampleUserReversed.entries := .swap _ _ _
  refine ⟨_, finished, rfl, accepted, isLaidOut, isLaidOut.sql.trans (by decide +kernel),
    placed, ?_⟩
  exact (permutes _ [sampleUser] [sampleUserReversed] rfl (.cons reversed .nil)).trans accepted

end Insert

end NeutralSql
