import Tabular.Proofs.Compilation
import Tabular.Proofs.Script

/-!
# Stages

What the stages of a compiled plan make of the rows of a batch (`applyAll_gives`), and so of the
batches of a script (`through_runs`).
-/

namespace Tabular

namespace Batch

/-- The rows of columns of a length. -/
def rowsOf (rowCount : Nat) (columns : List NamedColumn) : List Row :=
  (List.range rowCount).map fun i => columns.map fun c => Row.cell c.column.data i

/-- One more column puts its cells in front of the rows. -/
theorem rowsOf_cons {rowCount : Nat} {c : NamedColumn} (columns : List NamedColumn)
    (count : c.column.length = rowCount) :
    rowsOf rowCount (c :: columns) = List.zipWith List.cons c.column.data (rowsOf rowCount columns) := by
  rw [← Column.length_data] at count
  apply List.ext_getElem
  · simp [rowsOf, count]
  · intro i inside _
    have at_i : i < c.column.data.length := by simpa [rowsOf, count] using inside
    simp [rowsOf, Row.cell, List.getElem?_eq_getElem at_i]

end Batch

namespace Stage

/-! ## One stage -/

/-- The rows of a fitting batch go into the scan's columns as they are. -/
theorem apply_relabel {t : TableDef} {b : Batch} (fits : b.Fits t) :
    ∃ out, apply b (.relabel (Plan.scanSchema t)) = .ok (some out) ∧ out.rows = b.rows ∧
      out.schema = Plan.scanSchema t := by
  have same : b.columns.map (·.column.type) = (Plan.scanSchema t).fields.map (·.type) := by
    rw [fits]
    simp [Plan.scanSchema, Schema.ofColumns]
  obtain ⟨out, relabelled, columns, rowCount⟩ := Batch.relabel_ok same
  have count : (Plan.scanSchema t).fields.length = b.columns.length := by
    simpa using (congrArg List.length same).symm
  refine ⟨out, ?_, Batch.rows_relabel count columns rowCount, Batch.schema_relabel same columns⟩
  rw [apply, relabelled]
  rfl

/-- A filter fails with the error of some row, or keeps the rows of which the predicate is true. -/
theorem apply_filter {b : Batch} {e : Bound} (typed : e.WellTyped b.schema.Holds) (truth : e.type = .bool)
    (schema : Schema) :
    (∃ row ∈ b.rows, ∃ x, e.value schema row = .error x ∧ apply b (.filter e) = .error x) ∨
    ∃ (marks : List Bool) (kept : Batch), kept.rows = Column.selected marks b.rows ∧ kept.schema = b.schema ∧
      (b.rows.map fun row => (e.value schema row).map Row.isTrue) = marks.map .ok ∧
      apply b (.filter e) = .ok (if kept.rowCount = 0 then none else some kept) := by
  obtain ⟨gathered, column⟩ := Bound.eval_gathered typed schema
  cases computed : e.eval b with
  | error x =>
    rw [computed] at gathered
    obtain ⟨row, listed, fails⟩ := List.mem_map.mp gathered
    refine Or.inl ⟨row, listed, x, fails, ?_⟩
    rw [apply, computed]
    rfl
  | ok mask =>
    rw [computed] at gathered
    obtain ⟨type, count⟩ := column mask computed
    rw [truth] at type
    obtain ⟨_, entries⟩ := mask
    subst type
    have values : (b.rows.map fun row => e.value schema row) = (Column.mk (.sql .bool) entries).data.map .ok :=
      gathered
    have length : (Kernel.marks entries).length = b.rowCount := (Kernel.length_marks entries).trans count
    refine Or.inr ⟨Kernel.marks entries, b.select _ length, b.rows_select _ length, b.schema_select _ _, ?_, ?_⟩
    · have tested := congrArg (List.map (Except.map Row.isTrue)) values
      rw [List.map_map, List.map_map] at tested
      refine tested.trans ?_
      rw [Column.data_mk, Kernel.marks, List.map_map, List.map_map]
      refine List.map_congr_left fun entry _ => ?_
      rcases entry with _ | _ | _ <;> rfl
    · have masked : Kernel.applyMask b ⟨.sql .bool, entries⟩ = .ok (b.select (Kernel.marks entries) length) :=
        Kernel.applyMask_eq_select count
      rw [apply, computed]
      show (do
        let kept ← (Kernel.applyMask b ⟨.sql .bool, entries⟩).mapError ExecError.kernel
        return if kept.rowCount = 0 then none else some kept) = _
      rw [masked]
      rfl

/-- The columns of outputs hold their cells on each row. -/
theorem outputColumns_gathered {b : Batch} {outputs : List Output}
    (typed : ∀ o ∈ outputs, o.expr.WellTyped b.schema.Holds) (schema : Schema) :
    Gathered (Batch.rowsOf b.rowCount) (b.rows.map (Output.cells schema outputs)) (outputColumns b outputs) ∧
    ∀ columns, outputColumns b outputs = .ok columns →
      (∀ c ∈ columns, c.column.length = b.rowCount) ∧
      columns.map (fun c => Field.mk c.name c.column.type) = (Plan.outputSchema outputs).fields := by
  induction outputs with
  | nil =>
    refine ⟨?_, ?_⟩
    · show (b.rows.map fun _ => Except.ok []) = (Batch.rowsOf b.rowCount []).map .ok
      simp [Batch.rowsOf, Batch.rows, Function.comp_def]
    · rintro columns ⟨rfl⟩
      exact ⟨by simp, rfl⟩
  | cons o outputs ih =>
    obtain ⟨others, shape⟩ := ih fun r listed => typed r (List.mem_cons_of_mem _ listed)
    obtain ⟨first, column⟩ := Bound.eval_gathered (typed o List.mem_cons_self) schema
    refine ⟨?_, ?_⟩
    · have together : (b.rows.map fun row => Output.cells schema (o :: outputs) row) =
          b.rows.map fun row => (do
            let a ← o.expr.value schema row
            let cells ← Output.cells schema outputs row
            return a :: cells) := by
        refine List.map_congr_left fun row _ => ?_
        rw [Output.cells, List.mapM_cons]
        rfl
      rw [together]
      refine Gathered.bind₂ first others fun c columns onFirst onOthers => ?_
      have count : c.length = b.rowCount := (column c onFirst).2
      show List.zipWith (fun a cells => Except.ok (a :: cells)) c.data (Batch.rowsOf b.rowCount columns) =
        (Batch.rowsOf b.rowCount (⟨o.name, c⟩ :: columns)).map .ok
      rw [Batch.rowsOf_cons columns count, List.map_zipWith]
    · intro columns done
      obtain ⟨c, onFirst, rest⟩ := bind_eq_ok.mp done
      obtain ⟨cs, onOthers, same⟩ := bind_eq_ok.mp rest
      cases same
      obtain ⟨type, count⟩ := column c onFirst
      obtain ⟨counts, fields⟩ := shape cs onOthers
      refine ⟨?_, ?_⟩
      · intro d listed
        rcases List.mem_cons.mp listed with rfl | listed
        · exact count
        · exact counts d listed
      · rw [List.map_cons, fields, type]
        rfl

/-- A projection fails with the error of some row, or gives the cells of the outputs on each row. -/
theorem apply_project {b : Batch} {outputs : List Output}
    (typed : ∀ o ∈ outputs, o.expr.WellTyped b.schema.Holds) (schema : Schema) :
    (∃ row ∈ b.rows, ∃ x, Output.cells schema outputs row = .error x ∧ apply b (.project outputs) = .error x) ∨
    ∃ out, apply b (.project outputs) = .ok (some out) ∧ out.rowCount = b.rowCount ∧
      b.rows.mapM (Output.cells schema outputs) = .ok out.rows ∧ out.schema = Plan.outputSchema outputs := by
  obtain ⟨gathered, shape⟩ := outputColumns_gathered typed schema
  cases computed : outputColumns b outputs with
  | error x =>
    rw [computed] at gathered
    obtain ⟨row, listed, fails⟩ := List.mem_map.mp gathered
    refine Or.inl ⟨row, listed, x, fails, ?_⟩
    rw [apply, computed]
    rfl
  | ok columns =>
    rw [computed] at gathered
    obtain ⟨counts, fields⟩ := shape columns computed
    refine Or.inr ⟨⟨columns, b.rowCount, counts⟩, ?_, rfl, mapM_eq_ok.mpr gathered, ?_⟩
    · rw [apply, computed]
      show ((Batch.ofColumns columns b.rowCount).mapError _).map some = _
      rw [Batch.ofColumns, dif_pos counts]
      rfl
    · rw [Batch.schema, fields]

/-! ## All stages -/

theorem applyAll_cons (b : Batch) (s : Stage) (stages : List Stage) :
    applyAll b (s :: stages) = (do
      match ← s.apply b with
      | none => return none
      | some b => applyAll b stages) := rfl

/-- A condition, if there is one, fails on some row or passes on the rows that it keeps. -/
theorem applyAll_filter {b : Batch} {predicate : Option Bound} (stages : List Stage) (schema : Schema)
    (typed : ∀ e ∈ predicate, e.WellTyped b.schema.Holds ∧ e.type = .bool) :
    (∃ row ∈ b.rows, ∃ x, Bound.keeps schema predicate row = .error x ∧
      applyAll b ((predicate.map Stage.filter).toList ++ stages) = .error x) ∨
    ∃ (marks : List Bool) (kept : Batch), kept.rows = Column.selected marks b.rows ∧ kept.schema = b.schema ∧
      b.rows.map (Bound.keeps schema predicate) = marks.map .ok ∧
      applyAll b ((predicate.map Stage.filter).toList ++ stages) =
        if predicate.isSome ∧ kept.rowCount = 0 then .ok none else applyAll kept stages := by
  cases predicate with
  | none =>
    have every : Column.selected (b.rows.map fun _ => true) b.rows = b.rows :=
      Column.selected_of_count (by simp) (by simp)
    refine Or.inr ⟨b.rows.map fun _ => true, b, every.symm, rfl, ?_, by simp⟩
    rw [List.map_map]
    rfl
  | some e =>
    obtain ⟨typed, truth⟩ := typed e rfl
    show (∃ row ∈ b.rows, ∃ x, _ ∧ applyAll b (.filter e :: stages) = .error x) ∨
      ∃ (marks : List Bool) (kept : Batch), _ ∧ _ ∧ _ ∧ applyAll b (.filter e :: stages) = _
    rcases apply_filter typed truth schema with
      ⟨row, listed, x, fails, applied⟩ | ⟨marks, kept, rows, same, marked, applied⟩
    · refine Or.inl ⟨row, listed, x, ?_, ?_⟩
      · rw [Bound.keeps, fails]
        rfl
      · rw [applyAll_cons, applied]
        rfl
    · refine Or.inr ⟨marks, kept, rows, same, marked, ?_⟩
      rw [applyAll_cons, applied]
      by_cases empty : kept.rowCount = 0
      · rw [if_pos empty, if_pos ⟨rfl, empty⟩]
        rfl
      · rw [if_neg empty, if_neg fun both => empty both.2]
        rfl

/-- What the stages of a compiled plan make of a fitting batch is what may come of its rows, under the
schema of the outputs. -/
theorem applyAll_gives {t : TableDef} {predicate : Option Bound} {outputs : List Output}
    (predicateTyped : ∀ e ∈ predicate, e.WellTyped (Plan.scanSchema t).Holds ∧ e.type = .bool)
    (outputsTyped : ∀ o ∈ outputs, o.expr.WellTyped (Plan.scanSchema t).Holds) {b : Batch} (fits : b.Fits t) :
    (Selection.ofParts (Plan.scanSchema t) predicate outputs).Gives b.rows
      ((applyAll b (Plan.ofParts .physical t predicate outputs).stages).map (Option.map Batch.rows)) ∧
    ∀ out, applyAll b (Plan.ofParts .physical t predicate outputs).stages = .ok (some out) →
      out.schema = Plan.outputSchema outputs := by
  obtain ⟨scanned, relabelled, sameRows, schema⟩ := apply_relabel fits
  rw [Plan.stages_ofParts, applyAll_cons, relabelled, ← sameRows]
  show Selection.Gives _ _ (Except.map _ (applyAll scanned _)) ∧ ∀ out, applyAll scanned _ = _ → _
  rw [← schema] at predicateTyped outputsTyped ⊢
  rcases applyAll_filter [.project outputs] scanned.schema predicateTyped with
    ⟨row, listed, x, fails, applied⟩ | ⟨marks, kept, keptRows, keptSchema, marked, applied⟩
  · rw [applied]
    exact ⟨.error listed (Selection.onRow_of_fails fails), fun out done => nomatch done⟩
  · have answered := Selection.onRows_of_marks (q := Selection.ofParts scanned.schema predicate outputs) marked
    rw [applied]
    rw [← keptRows] at answered
    by_cases dropped : predicate.isSome ∧ kept.rowCount = 0
    · rw [if_pos dropped]
      obtain ⟨conditional, empty⟩ := dropped
      have noRows : kept.rows = [] := List.eq_nil_of_length_eq_zero (kept.length_rows.trans empty)
      rw [noRows] at answered
      exact ⟨.none conditional answered, fun out done => nomatch done⟩
    · rw [if_neg dropped, applyAll_cons]
      rw [← keptSchema] at outputsTyped
      rcases apply_project outputsTyped scanned.schema with
        ⟨row, listed, x, fails, projected⟩ | ⟨out, projected, count, computed, outSchema⟩
      · rw [projected]
        rw [keptRows] at listed
        obtain ⟨inside, kept⟩ := Selection.mem_selected marked listed
        refine ⟨.error inside ?_, fun out done => nomatch done⟩
        rw [Selection.onRow_of_keeps kept]
        show some <$> Output.cells scanned.schema outputs row = _
        rw [fails]
        rfl
      · rw [projected]
        refine ⟨.some (answered.trans computed) ?_, ?_⟩
        · by_cases conditional : predicate.isSome
          · refine Or.inr fun noRows => dropped ⟨conditional, ?_⟩
            rw [← count, ← out.length_rows, noRows]
            rfl
          · exact Or.inl (Bool.eq_false_iff.mpr conditional)
        · rintro _ ⟨rfl⟩
          exact outSchema

end Stage

/-! ## Runs -/

/-- What the stages of a compiled plan make of fitting batches is a run over their rows. -/
theorem Script.through_runs {t : TableDef} {predicate : Option Bound} {outputs : List Output}
    (predicateTyped : ∀ e ∈ predicate, e.WellTyped (Plan.scanSchema t).Holds ∧ e.type = .bool)
    (outputsTyped : ∀ o ∈ outputs, o.expr.WellTyped (Plan.scanSchema t).Holds)
    (failure : Option ExecError) {batches : List Batch} (fits : ∀ b ∈ batches, b.Fits t)
    {result : Script ExecError}
    (passed : through (Plan.ofParts .physical t predicate outputs).stages failure batches = result) :
    (Selection.ofParts (Plan.scanSchema t) predicate outputs).Runs failure (batches.map Batch.rows)
      (result.batches.map Batch.rows) result.failure ∧
    ∀ out ∈ result.batches, out.schema = Plan.outputSchema outputs := by
  subst passed
  induction batches with
  | nil => exact ⟨.stop, by simp [through]⟩
  | cons b batches ih =>
    obtain ⟨further, schemas⟩ := ih fun c listed => fits c (List.mem_cons_of_mem _ listed)
    obtain ⟨here, schema⟩ := Stage.applyAll_gives predicateTyped outputsTyped (fits b List.mem_cons_self)
    rw [through]
    split
    · rename_i x applied
      rw [applied] at here
      exact ⟨.fail here, by simp⟩
    · rename_i applied
      rw [applied] at here
      exact ⟨.skip here further, schemas⟩
    · rename_i out applied
      rw [applied] at here
      refine ⟨.answer here further, ?_⟩
      intro other listed
      rcases List.mem_cons.mp listed with rfl | listed
      · exact schema other applied
      · exact schemas other listed

end Tabular
