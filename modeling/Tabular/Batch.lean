import Tabular.Column
import Tabular.Schema

/-!
# Batches

A stretch of rows, stored by columns of one length. Two operations put columns together: columns
for a schema, which must fit it in number and type, and columns of given names.
-/

namespace Tabular

/-- A column with its name. -/
structure NamedColumn where
  name : String
  column : Column
  deriving DecidableEq

/-- Rows stored by columns. The number of rows is kept apart because there may be no column. -/
structure Batch where
  columns : List NamedColumn
  rowCount : Nat
  aligned : ∀ c ∈ columns, c.column.length = rowCount

/-- Why columns make no batch. -/
inductive BatchFault where
  /-- The number of columns differs from that of the schema. -/
  | arity (columns fields : Nat)
  /-- Without columns the number of rows is unknown. -/
  | noRowCount
  /-- A column has another type than the schema. -/
  | columnType (expected found : ColumnType) (index : Nat)
  /-- The columns differ in length. -/
  | ragged
  deriving DecidableEq

/-- The wording of a batch fault. -/
def BatchFault.message : BatchFault → String
  | arity columns fields =>
    s!"number of columns({columns}) must match number of fields({fields}) in schema"
  | noRowCount => "must either specify a row count or at least one column"
  | columnType expected found index =>
    "column types must match schema types, expected " ++ expected.text ++ " but found " ++
      found.text ++ s!" at column index {index}"
  | ragged => "all columns in a record batch must have the specified row count"

namespace Batch

instance : DecidableEq Batch := fun a b =>
  match a, b with
  | ⟨c, n, _⟩, ⟨d, m, _⟩ =>
    if h : c = d ∧ n = m then .isTrue (by obtain ⟨rfl, rfl⟩ := h; rfl)
    else .isFalse fun e => h ⟨congrArg Batch.columns e, congrArg Batch.rowCount e⟩

/-- The names and types of the columns. -/
def schema (b : Batch) : Schema := ⟨b.columns.map fun c => ⟨c.name, c.column.type⟩⟩

/-- The column at a position, without its name. -/
def column? (b : Batch) (index : Nat) : Option Column := b.columns[index]?.map (·.column)

/-- The batch without rows that fits a schema. -/
def empty (schema : Schema) : Batch where
  columns := schema.fields.map fun f => ⟨f.name, .empty f.type⟩
  rowCount := 0
  aligned := by simp [Column.length, Column.empty]

/-- Puts named columns of a given length together. -/
def ofColumns (columns : List NamedColumn) (rowCount : Nat) : Except BatchFault Batch :=
  if h : ∀ c ∈ columns, c.column.length = rowCount then .ok ⟨columns, rowCount, h⟩
  else .error .ragged

/-- The first column whose type is not that of its field, columns counted from `index`. -/
def typeFault? : Nat → List Field → List NamedColumn → Option BatchFault
  | index, f :: fields, c :: columns =>
    if f.type = c.column.type then typeFault? (index + 1) fields columns
    else some (.columnType f.type c.column.type index)
  | _, _, _ => none

/-- The columns of a batch under the names of a schema. -/
def renamed (fields : List Field) (columns : List NamedColumn) : List NamedColumn :=
  fields.zipWith (fun f c => ⟨f.name, c.column⟩) columns

/-- The same rows under the names of a schema, which must have the batch's column types. -/
def relabel (schema : Schema) (b : Batch) : Except BatchFault Batch :=
  if schema.fields.length = b.columns.length then
    match typeFault? 0 schema.fields b.columns with
    | some fault => .error fault
    | none => .ok
        { columns := renamed schema.fields b.columns
          rowCount := b.rowCount
          aligned := by
            intro c hc
            obtain ⟨f, d, hd, rfl⟩ : ∃ f d, d ∈ b.columns ∧ NamedColumn.mk f d.column = c := by
              simp only [renamed, List.mem_iff_getElem] at hc
              obtain ⟨i, hi, rfl⟩ := hc
              simp only [List.length_zipWith] at hi
              have hf : i < schema.fields.length := by omega
              have hb : i < b.columns.length := by omega
              exact ⟨schema.fields[i].name, b.columns[i], List.getElem_mem hb, by simp⟩
            exact b.aligned d hd }
  else .error (.arity b.columns.length schema.fields.length)

/-- The rows that are marked. -/
def select (b : Batch) (marks : List Bool) (h : marks.length = b.rowCount) : Batch where
  columns := b.columns.map fun c => ⟨c.name, c.column.select marks⟩
  rowCount := marks.count true
  aligned := by
    intro c hc
    obtain ⟨d, hd, rfl⟩ := List.mem_map.1 hc
    exact Column.length_selected marks d.column.cells (h.trans (b.aligned d hd).symm)

theorem schema_select (b : Batch) (marks : List Bool) (h : marks.length = b.rowCount) :
    (b.select marks h).schema = b.schema := by
  simp [schema, select, Column.select]

/-- If every row is marked, the marked rows are the batch. -/
theorem select_of_count {b : Batch} {marks : List Bool} (h : marks.length = b.rowCount)
    (all : marks.count true = b.rowCount) : b.select marks h = b := by
  obtain ⟨columns, rowCount, aligned⟩ := b
  have same : columns.map (fun c => NamedColumn.mk c.name (c.column.select marks)) = columns := by
    refine (List.map_congr_left fun c listed => ?_).trans (List.map_id columns)
    have length : c.column.cells.length = rowCount := aligned c listed
    rw [Column.select, Column.selected_of_count (h.trans length.symm) (all.trans length.symm), id]
  simp only [select, all, same]

end Batch

end Tabular
