import Tabular.Kernel

/-!
# Masks

The selection of rows by a column of truth values.
-/

namespace Tabular.Kernel

/-- The rows a mask keeps: those whose entry is true, not those whose entry is null. -/
def marks (entries : List (Option Bool)) : List Bool := entries.map (· == some true)

@[simp] theorem length_marks (entries : List (Option Bool)) : (marks entries).length = entries.length := by
  simp [marks]

theorem count_marks (entries : List (Option Bool)) : (marks entries).count true = entries.count (some true) := by
  simp [marks, List.count_eq_countP, List.countP_map, Function.comp_def]

/-- The rows of a batch whose entry in the mask is true. A mask that is true throughout gives the batch as it
is. -/
def applyMask (batch : Batch) (mask : Column) : Except KernelError Batch :=
  match mask with
  | ⟨.sql .bool, entries⟩ =>
    if h : entries.length = batch.rowCount then
      if entries.count (some true) = batch.rowCount then .ok batch
      else .ok (batch.select (marks entries) ((length_marks entries).trans h))
    else .error (.maskLength entries.length batch.rowCount)
  | ⟨type, _⟩ => .error (.maskType type)

/-- A mask of the length of a batch gives its marked rows, also where these are all of them. -/
theorem applyMask_eq_select {batch : Batch} {entries : List (Option Bool)} (fits : entries.length = batch.rowCount) :
    applyMask batch ⟨.sql .bool, entries⟩ =
      .ok (batch.select (marks entries) ((length_marks entries).trans fits)) := by
  by_cases all : entries.count (some true) = batch.rowCount
  · have whole := Batch.select_of_count ((length_marks entries).trans fits) ((count_marks entries).trans all)
    rw [whole]
    simp [applyMask, fits, all]
  · simp [applyMask, fits, all]

end Tabular.Kernel
