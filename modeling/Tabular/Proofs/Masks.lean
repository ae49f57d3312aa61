import Tabular.Kernel.Mask
import Tabular.Proofs.Columnwise

/-!
# Rows kept by a mask

A mask of truth values, as many as a batch has rows, keeps the rows on which it is true, and any other column is
refused (`Kernel.applyMask_keeps`). Every column of the batch is cut down to the same positions, and it does not
matter that a mask which is true throughout gives the batch without cutting anything.
-/

namespace Tabular

/-- The cells of a column at some positions, in their order. -/
def Column.at (positions : List Nat) (c : Column) : Column := ⟨c.type, positions.filterMap (c.cells[·]?)⟩

namespace Kernel

/-! ## Positions -/

/-- The positions at which a mask is true, from the first to the last. -/
def truePositions (entries : List (Option Bool)) : List Nat := entries.findIdxs (· == some true)

theorem truePositions_cons (entry : Option Bool) (entries : List (Option Bool)) :
    truePositions (entry :: entries) =
      if entry = some true then 0 :: (truePositions entries).map (· + 1)
      else (truePositions entries).map (· + 1) := by
  rw [truePositions, List.findIdxs_cons, List.findIdxs_start]
  simp [truePositions]

/-- Marks select the elements at the positions at which they are true. -/
theorem selected_marks {α : Type} (entries : List (Option Bool)) (xs : List α) :
    Column.selected (marks entries) xs = (truePositions entries).filterMap (xs[·]?) := by
  induction entries generalizing xs with
  | nil => simp [truePositions, marks, Column.selected]
  | cons entry entries ih =>
    cases xs with
    | nil => simp [marks, Column.selected]
    | cons x xs =>
      have tail : ((truePositions entries).map (· + 1)).filterMap ((x :: xs)[·]?) =
          Column.selected (marks entries) xs := by
        rw [List.filterMap_map, ih]
        rfl
      have head : marks (entry :: entries) = (entry == some true) :: marks entries := rfl
      rw [truePositions_cons, head]
      by_cases kept : entry = some true
      · rw [if_pos kept, List.filterMap_cons, tail]
        simp [kept, Column.selected]
      · rw [if_neg kept, tail, beq_eq_false_iff_ne.mpr kept, Column.selected]

/-! ## Masks -/

/-- A mask of another type is refused, then one of another length; any other mask selects its marked rows. -/
theorem applyMask_cases (b : Batch) (mask : Column) :
    (mask.type ≠ .sql .bool ∧ applyMask b mask = .error (.maskType mask.type)) ∨
    (mask.length ≠ b.rowCount ∧ applyMask b mask = .error (.maskLength mask.length b.rowCount)) ∨
    ∃ entries, ∃ fits : entries.length = b.rowCount, mask = ⟨.sql .bool, entries⟩ ∧
      applyMask b mask = .ok (b.select (marks entries) ((length_marks entries).trans fits)) := by
  obtain ⟨type, entries⟩ := mask
  by_cases truth : type = .sql .bool
  · subst truth
    by_cases fits : entries.length = b.rowCount
    · exact Or.inr (Or.inr ⟨entries, fits, rfl, applyMask_eq_select fits⟩)
    · refine Or.inr (Or.inl ⟨fits, ?_⟩)
      simp [applyMask, fits, Column.length]
  · refine Or.inl ⟨truth, ?_⟩
    rw [applyMask]
    intro _ same
    exact absurd same truth

/-- A column is refused as a mask exactly if it does not hold truth values, one for each row of the batch. Else
the batch keeps its columns, each cut down to the positions at which the mask is true, and has as many rows as
there are such positions. That a mask which is true throughout gives back the batch itself makes no difference. -/
theorem applyMask_keeps (b : Batch) (mask : Column) :
    ((∃ x, applyMask b mask = .error x) ↔ mask.type ≠ .sql .bool ∨ mask.length ≠ b.rowCount) ∧
    (∀ x, applyMask b mask = .error x → x = .maskType mask.type ∨ x = .maskLength mask.length b.rowCount) ∧
    ∀ entries, mask = ⟨.sql .bool, entries⟩ → ∀ fits : entries.length = b.rowCount,
      ∃ kept, applyMask b mask = .ok kept ∧ kept.schema = b.schema ∧
        kept.rowCount = entries.count (some true) ∧
        kept.columns = b.columns.map (fun c => ⟨c.name, c.column.at (truePositions entries)⟩) ∧
        kept = b.select (marks entries) ((length_marks entries).trans fits) ∧
        (entries.count (some true) = b.rowCount → kept = b) := by
  refine ⟨?_, ?_, ?_⟩
  · rcases applyMask_cases b mask with ⟨other, failed⟩ | ⟨other, failed⟩ | ⟨entries, fits, rfl, given⟩
    · simp [failed, other]
    · simp [failed, other]
    · have fits : Column.length ⟨.sql .bool, entries⟩ = b.rowCount := fits
      simp [given, fits]
  · intro x failed
    rcases applyMask_cases b mask with ⟨_, type⟩ | ⟨_, length⟩ | ⟨_, _, _, given⟩
    · exact Or.inl (Except.error.inj (failed.symm.trans type))
    · exact Or.inr (Except.error.inj (failed.symm.trans length))
    · cases failed.symm.trans given
  · rintro entries rfl fits
    refine ⟨_, applyMask_eq_select fits, b.schema_select _ _, count_marks entries, ?_, rfl, fun all => ?_⟩
    · refine List.map_congr_left fun c _ => ?_
      rw [Column.select, selected_marks, Column.at]
    · exact Batch.select_of_count _ ((count_marks entries).trans all)

end Kernel

end Tabular
