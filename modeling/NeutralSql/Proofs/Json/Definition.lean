import NeutralSql.Proofs.Json.Value

/-!
# Schema definitions as JSON

Definitions come back from their JSON as they were, if the defaults of their columns do.
Whatever is read as a definition has such defaults.
-/

namespace NeutralSql

open Document (Yields)

namespace ColumnDefinition

/-- The default of a column can be written, and is not null where there is one. -/
def IsWritable (column : ColumnDefinition) : Prop :=
  ∀ value ∈ column.default, value.IsWritable ∧ value.isNull = false

/-- A column is read again. -/
theorem ofDocument?_toJson {column : ColumnDefinition} (isWritable : column.IsWritable) :
    ofDocument? (.ofJson column.toJson) = some column := by
  rw [ofDocument?, toJson, Document.fields?_ofJson]
  · simp [Value.nullable?_ofJson isWritable]
  · rfl
  · decide

/-- Every column that is read can be written. -/
theorem yields_ofDocument? : Yields ofDocument? IsWritable := by
  refine .record fun fields column fieldsFit read => ?_
  split at read
  · simp only [Option.bind_eq_bind, Option.bind_eq_some_iff] at read
    obtain ⟨_, -, _, -, _, -, default, defaultRead, _, -, _, -, _, -, _, -, equal⟩ := read
    obtain rfl := Option.some.inj equal
    exact Value.isWritable_of_optional? (fieldsFit _ (by simp)) defaultRead
  · contradiction

end ColumnDefinition

namespace ForeignKey

/-- A reference is read again. -/
theorem ofDocument?_toJson (foreignKey : ForeignKey) :
    ofDocument? (.ofJson foreignKey.toJson) = some foreignKey := by
  rw [ofDocument?, toJson, Document.fields?_ofJson]
  · simp
  · rfl
  · decide

end ForeignKey

namespace IndexDefinition

/-- An index is read again. -/
theorem ofDocument?_toJson (index : IndexDefinition) :
    ofDocument? (.ofJson index.toJson) = some index := by
  rw [ofDocument?, toJson, Document.fields?_ofJson]
  · simp
  · rfl
  · decide

end IndexDefinition

namespace Constraints

/-- Constraints are read again. -/
theorem ofDocument?_toJson (constraints : Constraints) :
    ofDocument? (.ofJson constraints.toJson) = some constraints := by
  have unique : Document.listOf? Document.asStrings?
      (.ofJson (.array (constraints.unique.map .strings))) = some constraints.unique :=
    Document.listOf?_ofJson fun texts _ => Document.asStrings?_ofJson texts
  have foreignKeys : Document.listOf? ForeignKey.ofDocument?
      (.ofJson (.array (constraints.foreignKeys.map ForeignKey.toJson))) =
        some constraints.foreignKeys :=
    Document.listOf?_ofJson fun foreignKey _ => foreignKey.ofDocument?_toJson
  have indexes : Document.listOf? IndexDefinition.ofDocument?
      (.ofJson (.array (constraints.indexes.map IndexDefinition.toJson))) =
        some constraints.indexes :=
    Document.listOf?_ofJson fun index _ => index.ofDocument?_toJson
  rw [ofDocument?, toJson, Document.fields?_ofJson]
  · simp [unique, foreignKeys, indexes]
  · rfl
  · decide

end Constraints

/-- Columns are read again. -/
theorem ColumnDefinition.listOf?_ofJson {columns : List ColumnDefinition}
    (isWritable : ∀ column ∈ columns, column.IsWritable) :
    Document.listOf? ofDocument? (.ofJson (.array (columns.map toJson))) = some columns :=
  Document.listOf?_ofJson fun column listed => ofDocument?_toJson (isWritable column listed)

namespace CreateTable

/-- All columns of the table can be written. -/
def IsWritable (table : CreateTable) : Prop :=
  ∀ column ∈ table.columns, column.IsWritable

/-- A CREATE TABLE is read again. -/
theorem ofDocument?_members {table : CreateTable} (isWritable : table.IsWritable) :
    ofDocument? (.ofJson (.object table.members)) = some table := by
  rw [ofDocument?, members, Document.fields?_ofJson]
  · simp [ColumnDefinition.listOf?_ofJson isWritable, table.constraints.ofDocument?_toJson]
  · rfl
  · decide

/-- Every CREATE TABLE that is read can be written. -/
theorem yields_ofDocument? : Yields ofDocument? IsWritable := by
  refine .record fun fields table fieldsFit read => ?_
  split at read
  · simp only [Option.bind_eq_bind, Option.bind_eq_some_iff] at read
    obtain ⟨_, -, columns, columnsRead, _, -, _, -, equal⟩ := read
    obtain rfl := Option.some.inj equal
    exact ColumnDefinition.yields_ofDocument?.listOf?.required? (fieldsFit _ (by simp)) columnsRead
  · contradiction

end CreateTable

namespace AlterTable

/-- All columns that are added can be written. -/
def IsWritable (alteration : AlterTable) : Prop :=
  ∀ column ∈ alteration.addColumns, column.IsWritable

/-- An ALTER TABLE is read again. -/
theorem ofDocument?_members {alteration : AlterTable} (isWritable : alteration.IsWritable) :
    ofDocument? (.ofJson (.object alteration.members)) = some alteration := by
  rw [ofDocument?, members, Document.fields?_ofJson]
  · simp [ColumnDefinition.listOf?_ofJson isWritable, alteration.addConstraints.ofDocument?_toJson]
  · rfl
  · decide

/-- Every ALTER TABLE that is read can be written. -/
theorem yields_ofDocument? : Yields ofDocument? IsWritable := by
  refine .record fun fields alteration fieldsFit read => ?_
  split at read
  · simp only [Option.bind_eq_bind, Option.bind_eq_some_iff] at read
    obtain ⟨_, -, columns, columnsRead, _, -, equal⟩ := read
    obtain rfl := Option.some.inj equal
    exact ColumnDefinition.yields_ofDocument?.listOf?.withDefault? (List.forall_mem_nil _)
      (fieldsFit _ (by simp)) columnsRead
  · contradiction

end AlterTable

/-- A DROP TABLE is read again. -/
theorem DropTable.ofDocument?_members (removal : DropTable) :
    ofDocument? (.ofJson (.object removal.members)) = some removal := by
  rw [ofDocument?, members, Document.fields?_ofJson]
  · simp
  · rfl
  · decide

end NeutralSql
