import Tabular.Proofs.Evaluation

/-!
# Columns instead of rows

An expression is computed a column at a time, and that comes to the same as row by row
(`Bound.eval_rowwise`): it has a column exactly if it has a value on every row, and the column holds these
values. So it does not matter whether rows are left out, or batches put together, before or after.
-/

namespace Tabular

/-! ## One batch after another -/

namespace Column

/-- The cells of a column, then those of another, which must have its type. -/
def append (c d : Column) : Column :=
  if same : d.type = c.type then ⟨c.type, c.cells ++ same ▸ d.cells⟩ else c

theorem type_append (c d : Column) : (c.append d).type = c.type := by
  unfold append
  split <;> rfl

theorem data_append {c d : Column} (same : d.type = c.type) : (c.append d).data = c.data ++ d.data := by
  obtain ⟨type, cells⟩ := c
  obtain ⟨other, others⟩ := d
  obtain rfl : other = type := same
  simp [append]

theorem length_append {c d : Column} (same : d.type = c.type) : (c.append d).length = c.length + d.length := by
  rw [← length_data, data_append same, List.length_append, length_data, length_data]

end Column

namespace Batch

/-- Batches whose columns have the same types in the same order. -/
def Alike (b d : Batch) : Prop := d.columns.map (·.column.type) = b.columns.map (·.column.type)

theorem Alike.length_eq {b d : Batch} (alike : b.Alike d) : d.columns.length = b.columns.length := by
  simpa using congrArg List.length alike

theorem Alike.type_eq {b d : Batch} (alike : b.Alike d) {i : Nat} (left : i < b.columns.length)
    (right : i < d.columns.length) : d.columns[i].column.type = b.columns[i].column.type := by
  have both := congrArg (·[i]?) alike
  simpa [List.getElem?_eq_getElem left, List.getElem?_eq_getElem right] using both

/-- The rows of a batch, then those of another with columns of the same types, under the names of the
first. -/
def append (b d : Batch) (alike : b.Alike d) : Batch where
  columns := b.columns.zipWith (fun c e => ⟨c.name, c.column.append e.column⟩) d.columns
  rowCount := b.rowCount + d.rowCount
  aligned := by
    intro c listed
    obtain ⟨i, inside, rfl⟩ := List.mem_iff_getElem.mp listed
    have left : i < b.columns.length := by simp at inside; omega
    have right : i < d.columns.length := by simp at inside; omega
    simp only [List.getElem_zipWith]
    rw [Column.length_append (alike.type_eq left right), b.aligned _ (List.getElem_mem left),
      d.aligned _ (List.getElem_mem right)]

variable {b d : Batch}

/-- The cells of a row: those of the first batch where it has that many rows, then those of the other. -/
theorem row_append (alike : b.Alike d) (i : Nat) :
    (b.append d alike).row i = if i < b.rowCount then b.row i else d.row (i - b.rowCount) := by
  have count := alike.length_eq
  apply List.ext_getElem
  · split <;> simp [row, append, count]
  · intro k inside _
    have left : k < b.columns.length := by simp [row, append] at inside; omega
    have right : k < d.columns.length := by simp [row, append] at inside; omega
    have cells := Column.data_append (alike.type_eq left right)
    have stored : b.columns[k].column.data.length = b.rowCount := by
      rw [Column.length_data, b.aligned _ (List.getElem_mem left)]
    by_cases first : i < b.rowCount
    · simp [row, append, Row.cell, cells, first, List.getElem?_append_left (stored ▸ first)]
    · have later : b.columns[k].column.data.length ≤ i := by omega
      simp [row, append, Row.cell, cells, first, List.getElem?_append_right later, stored]

theorem rows_append (alike : b.Alike d) : (b.append d alike).rows = b.rows ++ d.rows := by
  have split : (b.append d alike).rows = (List.range (b.rowCount + d.rowCount)).map (b.append d alike).row := rfl
  rw [split, List.range_add, List.map_append, List.map_map, rows, rows]
  congr 1
  · refine List.map_congr_left fun i listed => ?_
    rw [row_append, if_pos (List.mem_range.mp listed)]
  · refine List.map_congr_left fun i _ => ?_
    rw [Function.comp, row_append, if_neg (by omega), Nat.add_sub_cancel_left]

theorem schema_append (alike : b.Alike d) : (b.append d alike).schema = b.schema := by
  have count := alike.length_eq
  simp only [schema, Schema.mk.injEq]
  apply List.ext_getElem
  · simp [append, count]
  · intro i _ _
    simp [append, Column.type_append]

end Batch

/-! ## Columns and values -/

namespace Bound

variable {b d : Batch} {e : Bound}

/-- Positions are read the same whatever the columns are called. -/
theorem value_of_positions {schema : Schema} (typed : e.WellTyped schema.Holds) (other : Schema) (row : Row) :
    e.value other row = e.value schema row := by
  induction typed with
  | constant value => rfl
  | column known => exact known.elim
  | input known => rfl
  | binary _ _ _ ihl ihr => rw [value, value, ihl, ihr]
  | cast _ _ ih => rw [value, value, ih]

theorem WellTyped.alike (typed : e.WellTyped b.schema.Holds) (alike : b.Alike d) : e.WellTyped d.schema.Holds := by
  refine typed.mono fun leaf holds => ?_
  cases leaf with
  | input index type =>
    obtain ⟨field, there, known⟩ := holds
    have types := congrArg (·[index]?) alike
    simp only [Batch.schema, List.getElem?_map, Option.map_eq_some_iff] at there types
    obtain ⟨c, found, rfl⟩ := there
    rw [found] at types
    obtain ⟨other, foundOther, same⟩ := Option.map_eq_some_iff.mp types
    exact ⟨⟨other.name, other.column.type⟩, by simp [Batch.schema, foundOther], same.trans known⟩
  | _ => exact holds.elim

/-- A well typed expression has a certain column exactly if that has its type and its values. -/
theorem eval_eq_ok_iff (typed : e.WellTyped b.schema.Holds) {c : Column} :
    e.eval b = .ok c ↔ c.type = .sql e.type ∧ b.rows.map (e.value b.schema) = c.data.map .ok := by
  obtain ⟨gathered, shaped⟩ := eval_gathered typed b.schema
  constructor
  · intro done
    rw [done] at gathered
    exact ⟨(shaped c done).1, gathered⟩
  · rintro ⟨type, values⟩
    cases computed : e.eval b with
    | error x =>
      rw [computed] at gathered
      have failed : Except.error x ∈ b.rows.map (e.value b.schema) := gathered
      rw [values] at failed
      obtain ⟨_, _, impossible⟩ := List.mem_map.mp failed
      cases impossible
    | ok other =>
      rw [computed] at gathered
      have same : other.data.map (Except.ok (ε := ExecError)) = c.data.map .ok := gathered.symm.trans values
      have injective : Function.Injective (Except.ok (ε := ExecError) (α := Option Datum)) :=
        fun _ _ same => Except.ok.inj same
      rw [Column.ext_data ((shaped other computed).1.trans type.symm) (List.map_injective_iff.mpr injective same)]

theorem exists_eval_iff (typed : e.WellTyped b.schema.Holds) :
    (∃ c, e.eval b = .ok c) ↔ ∀ row ∈ b.rows, ∃ cell, e.value b.schema row = .ok cell := by
  obtain ⟨gathered, _⟩ := eval_gathered typed b.schema
  constructor
  · rintro ⟨c, done⟩ row listed
    have values := ((eval_eq_ok_iff typed).mp done).2
    have here : e.value b.schema row ∈ c.data.map .ok := values ▸ List.mem_map_of_mem listed
    obtain ⟨cell, _, same⟩ := List.mem_map.mp here
    exact ⟨cell, same.symm⟩
  · intro each
    cases computed : e.eval b with
    | ok c => exact ⟨c, rfl⟩
    | error x =>
      rw [computed] at gathered
      obtain ⟨row, listed, fails⟩ := List.mem_map.mp gathered
      obtain ⟨cell, given⟩ := each row listed
      cases fails.symm.trans given

/-- Rows may as well be left out of the column as of the batch. -/
theorem eval_select (typed : e.WellTyped b.schema.Holds) {c : Column} (done : e.eval b = .ok c) (marks : List Bool)
    (count : marks.length = b.rowCount) : e.eval (b.select marks count) = .ok (c.select marks) := by
  obtain ⟨type, values⟩ := (eval_eq_ok_iff typed).mp done
  rw [eval_eq_ok_iff (by rw [Batch.schema_select]; exact typed)]
  refine ⟨type, ?_⟩
  rw [Batch.rows_select, Batch.schema_select, Column.map_selected, values, Column.data_select, Column.map_selected]

/-- The column of two batches together is that of the first and then that of the second. -/
theorem eval_append (typed : e.WellTyped b.schema.Holds) (alike : b.Alike d) {c : Column} :
    e.eval (b.append d alike) = .ok c ↔
      ∃ first second, e.eval b = .ok first ∧ e.eval d = .ok second ∧ c = first.append second := by
  have typedAll : e.WellTyped (b.append d alike).schema.Holds := by rw [Batch.schema_append]; exact typed
  have typedOther := typed.alike alike
  have values : (b.append d alike).rows.map (e.value (b.append d alike).schema) =
      b.rows.map (e.value b.schema) ++ d.rows.map (e.value d.schema) := by
    rw [Batch.rows_append, Batch.schema_append, List.map_append]
    congr 1
    exact List.map_congr_left fun row _ => value_of_positions typedOther b.schema row
  have together {first second : Column} (left : e.eval b = .ok first) (right : e.eval d = .ok second) :
      e.eval (b.append d alike) = .ok (first.append second) := by
    obtain ⟨leftType, leftValues⟩ := (eval_eq_ok_iff typed).mp left
    obtain ⟨rightType, rightValues⟩ := (eval_eq_ok_iff typedOther).mp right
    have same : second.type = first.type := rightType.trans leftType.symm
    refine (eval_eq_ok_iff typedAll).mpr ⟨(Column.type_append _ _).trans leftType, ?_⟩
    rw [values, leftValues, rightValues, Column.data_append same, List.map_append]
  constructor
  · -- a value on every row of both is one on every row of each
    intro done
    have each := (exists_eval_iff typedAll).mp ⟨c, done⟩
    rw [Batch.rows_append, Batch.schema_append] at each
    obtain ⟨first, left⟩ := (exists_eval_iff typed).mpr fun row listed =>
      each row (List.mem_append_left _ listed)
    obtain ⟨second, right⟩ := (exists_eval_iff typedOther).mpr fun row listed => by
      rw [← value_of_positions typedOther b.schema]
      exact each row (List.mem_append_right _ listed)
    exact ⟨first, second, left, right, Except.ok.inj (done.symm.trans (together left right))⟩
  · rintro ⟨first, second, left, right, rfl⟩
    exact together left right

/-- Computing whole columns is computing row by row. A well typed expression has a column over a batch
exactly if it has a value on each row; then the column has the type of the expression and as many entries as
there are rows, each the value on its row. So rows can be left out, and batches put together, before or after
it is computed. -/
theorem eval_rowwise (typed : e.WellTyped b.schema.Holds) :
    ((∃ c, e.eval b = .ok c) ↔ ∀ i < b.rowCount, ∃ cell, e.value b.schema (b.row i) = .ok cell) ∧
    (∀ c, e.eval b = .ok c → c.type = .sql e.type ∧ c.length = b.rowCount ∧
      ∀ i < b.rowCount, ∃ cell, c.data[i]? = some cell ∧ e.value b.schema (b.row i) = .ok cell) ∧
    (∀ c, e.eval b = .ok c → ∀ marks (count : marks.length = b.rowCount),
      e.eval (b.select marks count) = .ok (c.select marks)) ∧
    ∀ (d : Batch) (alike : b.Alike d) (c : Column), e.eval (b.append d alike) = .ok c ↔
      ∃ first second, e.eval b = .ok first ∧ e.eval d = .ok second ∧ c = first.append second := by
  refine ⟨?_, ?_, fun c done marks count => eval_select typed done marks count,
    fun d alike c => eval_append typed alike⟩
  · simp [exists_eval_iff typed, Batch.rows]
  · intro c done
    obtain ⟨type, values⟩ := (eval_eq_ok_iff typed).mp done
    refine ⟨type, ((eval_gathered typed b.schema).2 c done).2, fun i inside => ?_⟩
    have here := congrArg (·[i]?) values
    simp only [Batch.rows, List.getElem?_map, List.getElem?_range inside, Option.map_some] at here
    obtain ⟨cell, stored, same⟩ := Option.map_eq_some_iff.mp here.symm
    exact ⟨cell, stored, same.symm⟩

end Bound

namespace Sample

/-- Dividends and divisors; one divisor is zero, and one dividend is missing. -/
def pairs : Batch where
  columns := [⟨"a", ⟨.sql .int64, [some 6, some 7, none]⟩⟩, ⟨"b", ⟨.sql .int64, [some 3, some 0, some 0]⟩⟩]
  rowCount := 3
  aligned := by simp [Column.length]

/-- The quotient of the first two columns, as a text. -/
def quotient : Bound := .cast .string (.binary .div (.input 0 .int64) (.input 1 .int64) .int64)

end Sample

namespace Bound

theorem eval_rowwise_pairs :
    (¬ ∃ c, Sample.quotient.eval Sample.pairs = .ok c) ∧
    ∃ c, Sample.quotient.eval (Sample.pairs.select [true, false, true] rfl) = .ok c ∧ c.length = 2 ∧
      Sample.quotient.eval ((Sample.pairs.select [true, false, true] rfl).append
        (Sample.pairs.select [true, false, true] rfl) rfl) = .ok (c.append c) := by
  have typed : Sample.quotient.WellTyped Sample.pairs.schema.Holds :=
    .cast (.binary (.input ⟨_, rfl, rfl⟩) (.input ⟨_, rfl, rfl⟩) rfl) rfl
  obtain ⟨whole, _⟩ := eval_rowwise typed
  obtain ⟨_, shaped, _, appended⟩ :=
    eval_rowwise (b := Sample.pairs.select [true, false, true] rfl) typed
  obtain ⟨c, done⟩ : ∃ c, Sample.quotient.eval (Sample.pairs.select [true, false, true] rfl) = .ok c := ⟨_, rfl⟩
  refine ⟨?_, c, done, (shaped c done).2.1, ?_⟩
  · intro given
    obtain ⟨cell, impossible⟩ := whole.mp given 1 (by decide)
    cases impossible
  · exact (appended _ rfl _).mpr ⟨c, c, done, done, rfl⟩

end Bound

end Tabular
