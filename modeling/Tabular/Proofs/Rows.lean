import Mathlib.Data.List.Basic
import Tabular.Catalog
import Tabular.Pipeline

/-!
# Rows

A batch read row by row. Columns are stored whole, but what the rows are decides what a query
means: masks select rows (`rows_select`), and new names leave them as they are (`rows_relabel`).
-/

namespace Tabular

/-- A value with the type of its column. -/
structure Datum where
  type : ColumnType
  value : type.Carrier

/-- The cells of a row, in the order of the columns; a null cell is `none`. -/
abbrev Row := List (Option Datum)

/-- The cell of a row at a position; past its end there are only nulls. -/
def Row.cell (row : Row) (index : Nat) : Option Datum := row[index]?.join

/-- Whether a cell is true, neither false nor null. -/
def Row.isTrue : Option Datum → Bool
  | some ⟨.sql .bool, b⟩ => b
  | _ => false

namespace Column

/-- The cells of a column, each value with its type. -/
def data (c : Column) : List (Option Datum) := c.cells.map (Option.map (Datum.mk c.type))

@[simp] theorem length_data (c : Column) : c.data.length = c.length := by simp [data, length]

@[simp] theorem data_mk (type : ColumnType) (cells : List (Option type.Carrier)) :
    data ⟨type, cells⟩ = cells.map (Option.map (Datum.mk type)) := rfl

theorem data_replicate (rows : Nat) (s : Scalar) :
    (replicate rows s).data = List.replicate rows (s.value.map (Datum.mk (.sql s.type))) := by
  simp [replicate]

theorem type_of_mem_data {c : Column} {d : Datum} (listed : some d ∈ c.data) : d.type = c.type := by
  obtain ⟨cell, _, same⟩ := List.mem_map.mp listed
  cases cell with
  | none => cases same
  | some v => cases same; rfl

/-- Columns of one type with the same cells are one. -/
theorem ext_data {c d : Column} (sameType : c.type = d.type) (sameData : c.data = d.data) : c = d := by
  obtain ⟨type, cells⟩ := c
  obtain ⟨other, others⟩ := d
  obtain rfl : type = other := sameType
  have apart : Function.Injective (Option.map (Datum.mk type)) :=
    Option.map_injective fun v w same => by cases same; rfl
  have same : cells = others := List.map_injective_iff.mpr apart sameData
  rw [same]

theorem map_selected {α β : Type} (f : α → β) (marks : List Bool) (xs : List α) :
    (selected marks xs).map f = selected marks (xs.map f) := by
  induction marks generalizing xs with
  | nil => simp [selected]
  | cons m marks ih => cases xs <;> cases m <;> simp [selected, ih]

/-- The elements that marks select are those at the positions they select. -/
theorem selected_eq_map {α : Type} (marks : List Bool) (xs : List α) (f : Nat → α)
    (each : ∀ i (h : i < xs.length), xs[i] = f i) :
    selected marks xs = (selected marks (List.range xs.length)).map f := by
  induction xs generalizing marks f with
  | nil => cases marks <;> simp [selected]
  | cons x xs ih =>
    have tail (marks : List Bool) := ih marks (fun i => f (i + 1)) fun i h => each (i + 1) (by simpa using h)
    have shifted (marks : List Bool) : selected marks xs =
        (selected marks ((List.range xs.length).map Nat.succ)).map f := by
      rw [← map_selected, List.map_map]
      exact tail marks
    rw [List.length_cons, List.range_succ_eq_map]
    cases marks with
    | nil => simp [selected]
    | cons mark marks =>
      cases mark with
      | true =>
        simp only [selected, List.map_cons, ← each 0 (by simp), List.getElem_cons_zero]
        rw [shifted marks]
      | false =>
        simp only [selected]
        exact shifted marks

theorem data_select (marks : List Bool) (c : Column) : (c.select marks).data = selected marks c.data :=
  map_selected _ marks c.cells

end Column

namespace Batch

/-- The row at a position. -/
def row (b : Batch) (index : Nat) : Row := b.columns.map fun c => Row.cell c.column.data index

/-- The rows of a batch, from the first to the last. -/
def rows (b : Batch) : List Row := (List.range b.rowCount).map b.row

/-- A batch whose columns have the declared types of a table, in order. Their names do not matter. -/
def Fits (t : TableDef) (b : Batch) : Prop :=
  b.columns.map (·.column.type) = t.columns.map fun c => .sql c.type

@[simp] theorem length_rows (b : Batch) : b.rows.length = b.rowCount := by simp [rows]

/-- Down a position of the rows stands the column of the position. -/
theorem map_cell_rows {b : Batch} {index : Nat} {c : Column} (there : b.column? index = some c) :
    b.rows.map (Row.cell · index) = c.data := by
  obtain ⟨named, found, rfl⟩ := Option.map_eq_some_iff.mp there
  have count : named.column.data.length = b.rowCount := by
    rw [Column.length_data, b.aligned named (List.mem_of_getElem? found)]
  apply List.ext_getElem
  · simp [rows, count]
  · intro i h _
    have inside : i < named.column.data.length := by simpa [rows, count] using h
    simp [rows, row, Row.cell, found, List.getElem?_eq_getElem inside]

/-- Rows and types determine the columns. -/
theorem columns_of_rows {b c : Batch} (rows : b.rows = c.rows)
    (types : b.columns.map (·.column.type) = c.columns.map (·.column.type)) :
    b.columns.map (·.column) = c.columns.map (·.column) := by
  have count : b.columns.length = c.columns.length := by simpa using congrArg List.length types
  apply List.ext_getElem
  · simp [count]
  · intro i atLeft atRight
    have inLeft : i < b.columns.length := by simpa using atLeft
    have inRight : i < c.columns.length := by simpa using atRight
    have left : b.column? i = some b.columns[i].column := by
      simp [column?, List.getElem?_eq_getElem inLeft]
    have right : c.column? i = some c.columns[i].column := by
      simp [column?, List.getElem?_eq_getElem inRight]
    rw [List.getElem_map, List.getElem_map]
    refine Column.ext_data ?_ ?_
    · have both := congrArg (·[i]?) types
      simpa [List.getElem?_eq_getElem inLeft, List.getElem?_eq_getElem inRight] using both
    · rw [← map_cell_rows left, ← map_cell_rows right, rows]

/-- A mask keeps the rows that are marked. -/
theorem rows_select (b : Batch) (marks : List Bool) (h : marks.length = b.rowCount) :
    (b.select marks h).rows = Column.selected marks b.rows := by
  have picked := Column.selected_eq_map marks b.rows b.row (by simp [rows])
  rw [length_rows] at picked
  have count : (Column.selected marks (List.range b.rowCount)).length = marks.count true :=
    Column.length_selected marks _ (by simp [h])
  rw [picked]
  apply List.ext_getElem
  · simp [rows, select, count]
  · intro i hi _
    have inside : i < (Column.selected marks (List.range b.rowCount)).length := by
      simpa [rows, select, count] using hi
    simp only [rows, List.getElem_map, List.getElem_range, row, select, List.map_map]
    refine List.map_congr_left fun c listed => ?_
    have cells := Column.selected_eq_map marks c.column.data (Row.cell c.column.data) (by
      intro j hj
      simp [Row.cell, List.getElem?_eq_getElem hj])
    rw [Column.length_data, b.aligned c listed] at cells
    simp only [Function.comp, Column.data_select, cells, Row.cell, List.getElem?_map,
      List.getElem?_eq_getElem inside, Option.map_some, Option.join_some]

/-! ## New names -/

theorem typeFault?_eq_none {fields : List Field} {columns : List NamedColumn} (index : Nat)
    (same : columns.map (·.column.type) = fields.map (·.type)) :
    typeFault? index fields columns = none := by
  induction fields generalizing index columns with
  | nil => simp [typeFault?]
  | cons f fields ih =>
    cases columns with
    | nil => simp [typeFault?]
    | cons c columns =>
      simp only [List.map_cons, List.cons.injEq] at same
      simp [typeFault?, same.1, ih _ same.2]

theorem eq_of_columns {b d : Batch} (columns : b.columns = d.columns) (rows : b.rowCount = d.rowCount) : b = d := by
  obtain ⟨_, _, _⟩ := b
  obtain ⟨_, _, _⟩ := d
  cases columns
  cases rows
  rfl

/-- Columns of the types of a schema take its names, and nothing else changes. -/
theorem relabel_ok {b : Batch} {schema : Schema}
    (same : b.columns.map (·.column.type) = schema.fields.map (·.type)) :
    ∃ out, b.relabel schema = .ok out ∧ out.columns = renamed schema.fields b.columns ∧
      out.rowCount = b.rowCount := by
  have count : schema.fields.length = b.columns.length := by
    simpa using (congrArg List.length same).symm
  rw [relabel, if_pos count]
  split
  · rename_i fault found
    rw [typeFault?_eq_none 0 same] at found
    cases found
  · exact ⟨_, rfl, rfl, rfl⟩

theorem map_column_renamed {fields : List Field} {columns : List NamedColumn}
    (count : fields.length = columns.length) :
    (renamed fields columns).map (·.column) = columns.map (·.column) := by
  rw [renamed, List.map_zipWith]
  apply List.ext_getElem
  · simp [count]
  · intro i _ _
    simp

/-- A batch under new names has the rows that it had. -/
theorem rows_relabel {b out : Batch} {fields : List Field} (count : fields.length = b.columns.length)
    (columns : out.columns = renamed fields b.columns) (rowCount : out.rowCount = b.rowCount) :
    out.rows = b.rows := by
  have same : out.columns.map (·.column) = b.columns.map (·.column) := by
    rw [columns, map_column_renamed count]
  rw [rows, rows, rowCount]
  refine List.map_congr_left fun i _ => ?_
  have both := congrArg (List.map fun c : Column => Row.cell c.data i) same
  simpa [row, Function.comp_def] using both

/-- A batch under the names of a schema has the schema. -/
theorem schema_relabel {b out : Batch} {schema : Schema}
    (same : b.columns.map (·.column.type) = schema.fields.map (·.type))
    (columns : out.columns = renamed schema.fields b.columns) : out.schema = schema := by
  have count : schema.fields.length = b.columns.length := by
    simpa using (congrArg List.length same).symm
  have fields : out.columns.map (fun c => Field.mk c.name c.column.type) = schema.fields := by
    rw [columns, renamed, List.map_zipWith]
    apply List.ext_getElem
    · simp [count]
    · intro i _ inside
      have at_i : i < b.columns.length := count ▸ inside
      have types := congrArg (·[i]?) same
      simp [List.getElem?_eq_getElem at_i, List.getElem?_eq_getElem inside] at types
      simp [types]
  rw [Batch.schema, fields]

end Batch

end Tabular
