import Mathlib.Data.List.Nodup
import NeutralSql.Proofs.Compile.Definition

/-!
# Names of added constraints

ALTER TABLE adds groups of unique columns and references under names that it makes up, and so it
does for an index without a name of its own. A made-up name begins with the kind of what is added
and the table, and ends with a stem: the columns of the group or of the index, joined with
underscores, or the column of the reference. Names of two kinds are never the same. Names of one
kind are the same exactly if the stems are, and this can be so for different constraints: joined
names of columns may have underscores of their own, and a reference is not named for what it
refers to. `AlterTable.compile_names_distinct_iff` says what is left.
-/

namespace NeutralSql

open Template (text)

namespace Constraints

/-- The indexes without a name of their own. -/
def unnamedIndexes (constraints : Constraints) : List IndexDefinition :=
  constraints.indexes.filter fun index => index.name.isNone

/-- The columns of the groups and indexes that a name is made up for. -/
def columnGroups (constraints : Constraints) : List (List String) :=
  constraints.unique ++ constraints.unnamedIndexes.map IndexDefinition.columns

/-- A group of columns whose names can be told from their stem. -/
structure IsPlainGroup (columns : List String) : Prop where
  someColumn : columns ≠ []
  noUnderscore : ∀ column ∈ columns, '_' ∉ column.toList

/-- No two constraints of one kind have the same stem. -/
structure HasDistinctStems (constraints : Constraints) : Prop where
  unique : (constraints.unique.map (String.intercalate "_")).Nodup
  foreignKeys : (constraints.foreignKeys.map ForeignKey.column).Nodup
  indexes : (constraints.unnamedIndexes.map fun index =>
    String.intercalate "_" index.columns).Nodup

/-- No two constraints of one kind are over the same columns. -/
structure HasDistinctColumns (constraints : Constraints) : Prop where
  unique : constraints.unique.Nodup
  foreignKeys : (constraints.foreignKeys.map ForeignKey.column).Nodup
  indexes : (constraints.unnamedIndexes.map IndexDefinition.columns).Nodup

end Constraints

namespace AlterTable

/-- Something added under a name, with its statement around the name. -/
structure Addition where
  front : String
  name : String
  isMadeUp : Bool
  behind : String

/-- The statement of an addition. -/
def Addition.sql (addition : Addition) : String :=
  addition.front ++ addition.name ++ addition.behind

/-- What is added under a name to a table, where the dialect can add constraints. -/
def additions (alteration : AlterTable) : List Addition :=
  let table := alteration.table
  let constraint (name clause : String) : Addition :=
    ⟨"ALTER TABLE " ++ table ++ " ADD CONSTRAINT ", name, true, " " ++ clause⟩
  alteration.addConstraints.unique.map (fun columns =>
      constraint (uniqueName table columns) (uniqueClause columns)) ++
    alteration.addConstraints.foreignKeys.map (fun foreignKey =>
      constraint (foreignKeyName table foreignKey) foreignKey.clause) ++
    alteration.addConstraints.indexes.map fun index =>
      ⟨"CREATE INDEX ", index.nameFor table, index.name.isNone,
        " ON " ++ table ++ " " ++ columnList index.columns⟩

/-- The names that are made up. -/
def madeUpNames (alteration : AlterTable) : List String :=
  (alteration.additions.filter Addition.isMadeUp).map Addition.name

/-! ## Stems -/

section Names

variable (table : String)

/-- Every made-up name is the kind, the table and the stem. -/
theorem nameFor_of_unnamed {index : IndexDefinition} (unnamed : index.name = none) :
    index.nameFor table = "idx_" ++ table ++ "_" ++ String.intercalate "_" index.columns := by
  rw [IndexDefinition.nameFor, unnamed]
  rfl

/-- Names of two kinds are different, as neither kind is the beginning of the other. -/
theorem named_ne_named {kind other : String} (apart : ¬ kind.toList <+: other.toList)
    (otherApart : ¬ other.toList <+: kind.toList) (stem otherStem : String) :
    kind ++ table ++ "_" ++ stem ≠ other ++ table ++ "_" ++ otherStem := by
  intro same
  have letters := congrArg String.toList same
  simp only [String.toList_append, List.append_assoc] at letters
  rcases List.prefix_or_prefix_of_prefix (List.prefix_append kind.toList _)
    (letters ▸ List.prefix_append other.toList _) with begins | begins
  · exact apart begins
  · exact otherApart begins

/-- Names of one kind are as distinct as their stems. -/
theorem nodup_map_named {α : Type} (kind : String) (stem : α → String) (items : List α) :
    (items.map fun item => kind ++ table ++ "_" ++ stem item).Nodup ↔ (items.map stem).Nodup := by
  have injective : Function.Injective fun stem : String => kind ++ table ++ "_" ++ stem :=
    fun _ _ same => (String.append_right_inj _).1 same
  have named : (items.map fun item => kind ++ table ++ "_" ++ stem item) =
      (items.map stem).map (kind ++ table ++ "_" ++ ·) := by
    rw [List.map_map]
    rfl
  rw [named]
  exact List.nodup_map_iff injective

end Names

/-- Columns can be told from their stem if there are some and none has an underscore. -/
theorem eq_of_stem_eq {left right : List String} (leftPlain : Constraints.IsPlainGroup left)
    (rightPlain : Constraints.IsPlainGroup right)
    (same : String.intercalate "_" left = String.intercalate "_" right) : left = right := by
  have parts {columns : List String} (plain : Constraints.IsPlainGroup columns) :
      (String.intercalate "_" columns).toList.splitOn '_' = columns.map String.toList := by
    rw [String.toList_intercalate]
    refine List.splitOn_intercalate '_' ?_ (by simpa using plain.someColumn)
    exact List.forall_mem_map.2 plain.noUnderscore
  have letters : left.map String.toList = right.map String.toList := by
    rw [← parts leftPlain, ← parts rightPlain, same]
  exact List.map_injective_iff.2 (fun _ _ => String.toList_inj.1) letters

/-- Stems of such groups are as distinct as the groups. -/
theorem nodup_map_stem {groups : List (List String)}
    (plain : ∀ columns ∈ groups, Constraints.IsPlainGroup columns) :
    (groups.map (String.intercalate "_")).Nodup ↔ groups.Nodup := by
  constructor
  · exact List.Nodup.of_map _
  · intro distinct
    refine distinct.map_on fun left isLeft right isRight same => ?_
    exact eq_of_stem_eq (plain left isLeft) (plain right isRight) same

/-- Where every group is plain, distinct columns are enough. -/
theorem hasDistinctStems_iff_of_plain {constraints : Constraints}
    (plain : ∀ columns ∈ constraints.columnGroups, Constraints.IsPlainGroup columns) :
    constraints.HasDistinctStems ↔ constraints.HasDistinctColumns := by
  obtain ⟨uniquePlain, indexesPlain⟩ := List.forall_mem_append.1 plain
  have unique := nodup_map_stem uniquePlain
  have indexes := nodup_map_stem indexesPlain
  rw [List.map_map] at indexes
  constructor
  · rintro ⟨uniqueStems, columns, indexStems⟩
    exact ⟨unique.1 uniqueStems, columns, indexes.1 indexStems⟩
  · rintro ⟨uniqueColumns, columns, indexColumns⟩
    exact ⟨unique.2 uniqueColumns, columns, indexes.2 indexColumns⟩

/-! ## Whole changes -/

/-- The made-up names, kind by kind. -/
theorem madeUpNames_eq (alteration : AlterTable) :
    alteration.madeUpNames =
      alteration.addConstraints.unique.map (uniqueName alteration.table) ++
        alteration.addConstraints.foreignKeys.map (foreignKeyName alteration.table) ++
        alteration.addConstraints.unnamedIndexes.map fun index =>
          index.nameFor alteration.table := by
  have always {α : Type} (items : List α) : items.filter (fun _ => true) = items :=
    List.filter_eq_self.2 fun _ _ => rfl
  simp only [madeUpNames, additions, List.filter_append, List.map_append, List.filter_map,
    List.map_map, Function.comp_def, always]
  rfl

/-- The made-up names are distinct exactly if the stems of each kind are. -/
theorem nodup_madeUpNames_iff (alteration : AlterTable) :
    alteration.madeUpNames.Nodup ↔ alteration.addConstraints.HasDistinctStems := by
  have unnamed {index : IndexDefinition}
      (listed : index ∈ alteration.addConstraints.unnamedIndexes) : index.name = none :=
    Option.isNone_iff_eq_none.1 (List.mem_filter.1 listed).2
  have unique := nodup_map_named alteration.table "uq_" (String.intercalate "_")
    alteration.addConstraints.unique
  have foreignKeys := nodup_map_named alteration.table "fk_" ForeignKey.column
    alteration.addConstraints.foreignKeys
  have indexes := nodup_map_named alteration.table "idx_"
    (fun index : IndexDefinition => String.intercalate "_" index.columns)
    alteration.addConstraints.unnamedIndexes
  have names : (alteration.addConstraints.unnamedIndexes.map fun index =>
        index.nameFor alteration.table) =
      alteration.addConstraints.unnamedIndexes.map fun index =>
        "idx_" ++ alteration.table ++ "_" ++ String.intercalate "_" index.columns :=
    List.map_congr_left fun index listed => nameFor_of_unnamed _ (unnamed listed)
  rw [madeUpNames_eq]
  constructor
  · intro distinct
    obtain ⟨constraintNames, indexNames, -⟩ := List.nodup_append.1 distinct
    obtain ⟨uniqueNames, foreignKeyNames, -⟩ := List.nodup_append.1 constraintNames
    exact ⟨unique.1 uniqueNames, foreignKeys.1 foreignKeyNames, indexes.1 (names ▸ indexNames)⟩
  · rintro ⟨uniqueStems, columns, indexStems⟩
    refine List.nodup_append.2 ⟨List.nodup_append.2 ⟨unique.2 uniqueStems,
      foreignKeys.2 columns, ?_⟩, names ▸ indexes.2 indexStems, ?_⟩
    · simp only [List.forall_mem_map]
      exact fun group _ foreignKey _ => named_ne_named _ (by decide) (by decide) _ _
    · rw [names]
      simp only [List.forall_mem_append, List.forall_mem_map]
      constructor
      · exact fun group _ index _ => named_ne_named _ (by decide) (by decide) _ _
      · exact fun foreignKey _ index _ => named_ne_named _ (by decide) (by decide) _ _

/-- Where constraints can be added, the statements behind those of the columns are the ones of
the additions. -/
theorem statements_of_compile {dialect : Dialect} {alteration : AlterTable}
    {compiled : List Compiled} (supported : dialect.supports .alterAddConstraint = true)
    (accepted : compile dialect (.alterTable alteration) = .ok compiled) :
    (compiled.drop alteration.addColumns.length).map Compiled.sql =
      alteration.additions.map Addition.sql := by
  obtain ⟨plan, planned⟩ := plan_of_compile accepted
  obtain ⟨typed, resolved, rfl⟩ := AlterTable.plan_eq planned
  have texts : compiled.map Compiled.sql =
      (Plan.templates (typed.flatMap (columnSteps dialect alteration.table)) ++
        (constraintSteps dialect alteration.table alteration.addConstraints).templates).map
          fun template => (Template.written dialect template).sql := by
    have bare : compiled.map Compiled.sql = (compiled.map Compiled.bare).map Compiled.sql := by
      rw [List.map_map]
      rfl
    rw [bare, map_bare_of_compile planned accepted, Plan.templates_append, List.map_map]
    rfl
  have columns : (Plan.templates (typed.flatMap (columnSteps dialect alteration.table))).length =
      alteration.addColumns.length := by
    rw [← ColumnDefinition.columns_of_resolveAll resolved]
    simp
  have written (sql : String) : (Template.written dialect (text sql)).sql = sql :=
    congrArg Compiled.sql (Template.written_text dialect sql)
  rw [List.map_drop, texts, List.map_append, List.drop_left' (by simpa using columns),
    templates_constraintSteps, if_pos supported, if_pos supported, additions]
  simp [Function.comp_def, written, Addition.sql, Dialect.createIndex, String.append_assoc]

/-- An ALTER TABLE that compiles, in a dialect that can add constraints, gives each of its
constraints and indexes a statement with a name. The names that it makes up are distinct exactly
if the stems of each kind are: the joined columns of the unique groups, the columns of the
references, and the joined columns of the indexes without a name of their own. If every group has
columns and none of them has an underscore, this is so exactly if no two constraints of one kind
are over the same columns. -/
theorem compile_names_distinct_iff {dialect : Dialect} {alteration : AlterTable}
    {compiled : List Compiled} (supported : dialect.supports .alterAddConstraint = true)
    (accepted : compile dialect (.alterTable alteration) = .ok compiled) :
    (compiled.drop alteration.addColumns.length).map Compiled.sql =
        alteration.additions.map Addition.sql ∧
      (alteration.madeUpNames.Nodup ↔ alteration.addConstraints.HasDistinctStems) ∧
      ((∀ columns ∈ alteration.addConstraints.columnGroups,
          Constraints.IsPlainGroup columns) →
        (alteration.madeUpNames.Nodup ↔ alteration.addConstraints.HasDistinctColumns)) := by
  refine ⟨statements_of_compile supported accepted, alteration.nodup_madeUpNames_iff, ?_⟩
  intro plain
  exact alteration.nodup_madeUpNames_iff.trans (hasDistinctStems_iff_of_plain plain)

/-- A column, two unique groups, two references and two indexes, one of them with a name. -/
def parcels : AlterTable where
  table := "parcels"
  addColumns := [ColumnDefinition.plain "owner" "bigint"]
  addConstraints :=
    ⟨none, [["street", "number"], ["code"]],
      [⟨"owner", "users", "id"⟩, ⟨"depot", "depots", "id"⟩],
      [⟨["owner"], none⟩, ⟨["code"], some "uq_parcels_code"⟩]⟩

/-- Its made-up names are distinct. -/
theorem compile_names_distinct_parcels :
    ∃ compiled, compile .mysql (.alterTable parcels) = .ok compiled ∧
      (compiled.drop 1).map Compiled.sql = parcels.additions.map Addition.sql ∧
      parcels.madeUpNames =
        ["uq_parcels_street_number", "uq_parcels_code", "fk_parcels_owner", "fk_parcels_depot",
          "idx_parcels_owner"] ∧
      parcels.madeUpNames.Nodup := by
  have accepted : compile .mysql (.alterTable parcels) = .ok _ := rfl
  obtain ⟨statements, -, ofPlain⟩ := compile_names_distinct_iff rfl accepted
  have plain : ∀ columns ∈ parcels.addConstraints.columnGroups,
      Constraints.IsPlainGroup columns := by
    intro columns listed
    have checked : ∀ columns ∈ parcels.addConstraints.columnGroups,
        columns ≠ [] ∧ ∀ column ∈ columns, '_' ∉ column.toList := by decide
    exact ⟨(checked columns listed).1, (checked columns listed).2⟩
  exact ⟨_, accepted, statements, by decide, (ofPlain plain).2 ⟨by decide, by decide, by decide⟩⟩

/-- Two unique groups and two references from one column, all of them different. -/
def orders : AlterTable where
  table := "orders"
  addColumns := []
  addConstraints :=
    ⟨none, [["user", "id"], ["user_id"]], [⟨"owner", "users", "id"⟩, ⟨"owner", "people", "id"⟩],
      []⟩

/-- Distinct groups and distinct references may be added under the same name. -/
theorem madeUpNames_orders_collide :
    Dialect.postgresql.supports .alterAddConstraint = true ∧
      orders.addConstraints.unique.Nodup ∧ orders.addConstraints.foreignKeys.Nodup ∧
      (orders.addConstraints.unnamedIndexes.map IndexDefinition.columns).Nodup ∧
      ((compile .postgresql (.alterTable orders)).map fun compiled => compiled.map Compiled.sql) =
        .ok ["ALTER TABLE orders ADD CONSTRAINT uq_orders_user_id UNIQUE (user, id)",
          "ALTER TABLE orders ADD CONSTRAINT uq_orders_user_id UNIQUE (user_id)",
          "ALTER TABLE orders ADD CONSTRAINT fk_orders_owner " ++
            "FOREIGN KEY (owner) REFERENCES users (id)",
          "ALTER TABLE orders ADD CONSTRAINT fk_orders_owner " ++
            "FOREIGN KEY (owner) REFERENCES people (id)"] ∧
      orders.madeUpNames =
        ["uq_orders_user_id", "uq_orders_user_id", "fk_orders_owner", "fk_orders_owner"] ∧
      ¬ orders.madeUpNames.Nodup := by
  refine ⟨rfl, by decide, by decide, by decide, ?_, by decide, by decide⟩
  rfl

end AlterTable

end NeutralSql
