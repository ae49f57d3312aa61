import Tabular.Proofs.Stages
import Tabular.Storage.Replay

/-!
# Answers

What a query answers, from its text in names to the pulls of its stream. The answers are a run of
what the statement does with each row (`execute_select`), and nothing but the source and the values
can make them fail (`execute_sound`).
-/

namespace Tabular

/-! ## Fitting batches -/

namespace Batch

theorem Fits.length_row {t : TableDef} {b : Batch} (fits : b.Fits t) {row : Row} (listed : row ∈ b.rows) :
    row.length = t.columns.length := by
  obtain ⟨i, _, rfl⟩ := List.mem_map.mp listed
  rw [row, List.length_map]
  simpa using congrArg List.length fits

theorem Fits.row {t : TableDef} {b : Batch} (fits : b.Fits t) {row : Row} (listed : row ∈ b.rows) :
    row.Fits (Plan.scanSchema t) := by
  obtain ⟨scanned, _, sameRows, schema⟩ := Stage.apply_relabel fits
  rw [← schema]
  exact Row.fits_of_mem (sameRows ▸ listed)

end Batch

/-! ## Bound statements -/

namespace Binding

variable {catalog : Catalog} {t : TableDef} {row : Row}

/-- A bound condition keeps the rows that the written one keeps. -/
theorem bindFilter_keeps (known : catalog.table t.id = .ok t) (fits : row.Fits (Plan.scanSchema t))
    {s : Select} {filter : Option Bound}
    (accepted : s.condition.mapM (bindCondition catalog (some t)) = .ok filter) :
    Bound.keeps (Plan.scanSchema t) filter row = s.keeps t row := by
  rw [Select.keeps]
  cases written : s.condition with
  | none =>
    rw [written] at accepted
    cases accepted
    rfl
  | some c =>
    rw [written] at accepted
    obtain ⟨bound, boundTo, same⟩ := bind_eq_ok.mp accepted
    cases same
    rw [Bound.keeps, bindExpr_value known fits (bindCondition_ok boundTo).1]

theorem isSome_filter {s : Select} {bound : BoundSelect} (accepted : bindSelect catalog s = .ok bound) :
    bound.filter.isSome = s.condition.isSome := by
  obtain ⟨_, _, boundCondition⟩ := bindSelect_ok accepted
  cases written : s.condition with
  | none =>
    rw [written] at boundCondition
    rw [← Except.ok.inj boundCondition]
    rfl
  | some c =>
    rw [written] at boundCondition
    obtain ⟨e, _, same⟩ := bind_eq_ok.mp boundCondition
    rw [← Except.ok.inj same]
    rfl

/-- A bound statement does with a row what the written one does. -/
theorem bindSelect_onRow (known : catalog.table t.id = .ok t) (differ : t.columnNames.Nodup)
    (fits : row.Fits (Plan.scanSchema t)) (whole : row.length = t.columns.length) {s : Select}
    {bound : BoundSelect} (accepted : bindSelect catalog s = .ok bound) (reads : bound.source = some t) :
    (Selection.ofParts (Plan.scanSchema t) bound.filter bound.outputs).onRow row = (s.selection t).onRow row := by
  obtain ⟨_, ⟨lists, boundItems, flattened⟩, boundCondition⟩ := bindSelect_ok accepted
  rw [reads] at boundItems boundCondition
  have sameKeeps := bindFilter_keeps known fits boundCondition
  have sameCells : Output.cells (Plan.scanSchema t) bound.outputs row = s.cells t row := by
    rw [flattened]
    exact bindItems_value known differ fits whole boundItems
  rw [Selection.onRow, Selection.onRow]
  simp only [Selection.ofParts, Select.selection, sameKeeps, sameCells]

end Binding

/-! ## A query, for example -/

namespace Sample

/-- A table of two columns of integers. -/
def table : TableDef := ⟨⟨0⟩, "t", [⟨"a", .int64⟩, ⟨"b", .int64⟩]⟩

/-- Two rows of the table; in the second one `b` is zero. -/
def batch : Batch where
  columns := [⟨"a", ⟨.sql .int64, [some 6, some 1]⟩⟩, ⟨"b", ⟨.sql .int64, [some 3, some 0]⟩⟩]
  rowCount := 2
  aligned := by simp [Column.length]

/-- The rows, then a failure. -/
def script : Script StorageError := ⟨[batch], some (.io "t.csv" .missing)⟩

def engine : Engine Replay where
  catalog := Catalog.empty.insert table.describe
  store := .ofScript table.id script
  config := {}

/-- `SELECT a / b FROM t WHERE b <> 0`. -/
def quotients : Select where
  items := [.expr (.binary (.arithmetic .div) (.name "a") (.name "b")) none]
  source := some "t"
  condition := some (.binary (.comparison .ne) (.name "b") (.literal (.int 0)))

theorem fits : ∀ b ∈ ((Storage.feed engine.store).script script.played).batches, b.Fits table := by
  rw [engine, Replay.script_ofScript]
  simp [script, Batch.Fits, batch, table]

end Sample

/-! ## Executed plans -/

namespace Engine

variable {S κ : Type} [Storage S κ]

/-- A compiled plan answers with a run over the rows of the script that is opened, each batch under
the schema of the plan. -/
theorem start_runs {store : S} {t : TableDef} {predicate : Option Bound} {outputs : List Output}
    {p : PhysicalPlan} (compiled : Compiled t predicate outputs p) {c : κ}
    (opened : Storage.openRead store t.id = .ok c)
    (fits : ∀ b ∈ ((Storage.feed store).script c).batches, b.Fits t) :
    ∃ result : Script ExecError,
      (Selection.ofParts (Plan.scanSchema t) predicate outputs).Runs
        (((Storage.feed store).script c).failure.map .storage)
        (((Storage.feed store).script c).batches.map Batch.rows)
        (result.batches.map Batch.rows) result.failure ∧
      (∀ out ∈ result.batches, out.schema = p.schema) ∧
      ∀ n, (p.start store).answers (execFeed store) n = result.answers n := by
  have table : p.root.table = t := by rw [compiled.root, Plan.table_ofParts]
  have schema : p.schema = Plan.outputSchema outputs := by
    rw [PhysicalPlan.schema, compiled.root, Plan.schema_ofParts]
  obtain ⟨runs, schemas⟩ := Script.through_runs compiled.predicateTyped compiled.outputsTyped
    (((Storage.feed store).script c).failure.map ExecError.storage) fits rfl
  refine ⟨_, runs, schema ▸ schemas, fun n => ?_⟩
  rw [PhysicalPlan.answers_start (table ▸ opened), compiled.root]
  rfl

/-- What a query answers. Pulled from a stream, the batches of a `SELECT` over a table whose columns
have different names are a run of what the statement does with each row of the source, under the
schema of the plan. -/
theorem execute_select (e : Engine S) {s : Select} {name : String} {t : TableDef} {p : PhysicalPlan} {c : κ}
    (reads : s.source = some name) (known : e.catalog.tableByName name = .ok t)
    (differ : t.columnNames.Nodup) (planned : e.planSelect s = .ok p)
    (opened : Storage.openRead e.store t.id = .ok c)
    (fits : ∀ b ∈ ((Storage.feed e.store).script c).batches, b.Fits t) :
    ∃ result : Script ExecError,
      (s.selection t).Runs (((Storage.feed e.store).script c).failure.map .storage)
        (((Storage.feed e.store).script c).batches.map Batch.rows)
        (result.batches.map Batch.rows) result.failure ∧
      (∀ out ∈ result.batches, out.schema = p.schema) ∧
      ∀ n, (e.execute p).answers (execFeed e.store) n = result.answers n := by
  obtain ⟨bound, accepted, compiles⟩ := bind_eq_ok.mp planned
  have accepted : Binding.bindSelect e.catalog s = .ok bound := mapError_eq_ok.mp accepted
  obtain ⟨u, found, source⟩ := Binding.source_of_bindSelect reads accepted
  obtain rfl : u = t := Except.ok.inj (found.symm.trans known)
  have entry := Catalog.table_of_tableByName known
  obtain ⟨predicate, outputs, q, compiled, shape, _, same⟩ := exists_compile entry accepted source
  obtain rfl : q = p := Except.ok.inj (compiled.symm.trans (mapError_eq_ok.mp compiles))
  obtain ⟨result, runs, schemas, answers⟩ := start_runs shape opened fits
  refine ⟨result, ?_, schemas, answers⟩
  rw [same] at runs
  refine runs.congr ?_ ?_
  · intro rows given row listed
    obtain ⟨b, inScript, rfl⟩ := List.mem_map.mp given
    exact Binding.bindSelect_onRow entry differ ((fits b inScript).row listed)
      ((fits b inScript).length_row listed) accepted source
  · exact Binding.isSome_filter accepted

theorem execute_select_quotients :
    ∃ (p : PhysicalPlan) (result : Script ExecError), Sample.engine.planSelect Sample.quotients = .ok p ∧
      (Sample.quotients.selection Sample.table).Runs (some (.storage (.io "t.csv" .missing)))
        [Sample.batch.rows] (result.batches.map Batch.rows) result.failure ∧
      (∀ out ∈ result.batches, out.schema = p.schema) ∧
      ∀ n, (Sample.engine.execute p).answers (execFeed Sample.engine.store) n = result.answers n := by
  obtain ⟨p, planned⟩ : ∃ p, Sample.engine.planSelect Sample.quotients = .ok p := ⟨_, rfl⟩
  obtain ⟨result, runs, schemas, answers⟩ := execute_select Sample.engine rfl rfl (by decide) planned
    (Replay.openRead_ofScript Sample.table.id Sample.script) Sample.fits
  rw [Sample.engine, Replay.script_ofScript] at runs
  exact ⟨p, result, planned, runs, schemas, answers⟩

/-! ## Errors -/

/-- A row on which a compiled statement fails has a value that cannot be computed. -/
theorem ofValues_of_onRow {schema : Schema} {predicate : Option Bound} {outputs : List Output}
    (predicateTyped : ∀ e ∈ predicate, e.WellTyped schema.Holds ∧ e.type = .bool)
    (outputsTyped : ∀ o ∈ outputs, o.expr.WellTyped schema.Holds) {row : Row} (fits : row.Fits schema)
    {x : ExecError} (fails : (Selection.ofParts schema predicate outputs).onRow row = .error x) :
    x.OfValues := by
  have allows {e : Bound} (typed : e.WellTyped schema.Holds) (failed : e.value schema row = .error x) :
      x.OfValues := by
    have allowed := Bound.allows_value fits (typed.mono fun _ => Or.inr)
    rw [failed] at allowed
    exact allowed
  rcases Selection.error_of_onRow fails with failed | failed
  · cases predicate with
    | none => cases failed
    | some e => exact allows (predicateTyped e rfl).1 (error_of_map failed)
  · obtain ⟨o, listed, failed⟩ := exists_of_mapM_error failed
    exact allows (outputsTyped o listed) failed

/-- No query goes wrong. What is bound over a table is compiled, and over fitting batches its plan can
fail with nothing but the error of the script or one of values; each batch has the schema of the plan. -/
theorem execute_sound {catalog : Catalog} {s : Select} {bound : BoundSelect} (reads : s.source.isSome)
    (accepted : Binding.bindSelect catalog s = .ok bound) :
    ∃ t p, bound.source = some t ∧ compile bound = .ok p ∧
      ∀ (S κ : Type) [Storage S κ] (store : S) (c : κ), Storage.openRead store t.id = .ok c →
        (∀ b ∈ ((Storage.feed store).script c).batches, b.Fits t) →
        ∃ result : Script ExecError,
          (∀ n, (p.start store).answers (execFeed store) n = result.answers n) ∧
          (∀ out ∈ result.batches, out.schema = p.schema) ∧
          ∀ x, result.failure = some x →
            (∃ e, ((Storage.feed store).script c).failure = some e ∧ x = .storage e) ∨ x.OfValues := by
  obtain ⟨name, reads⟩ := Option.isSome_iff_exists.mp reads
  obtain ⟨t, found, source⟩ := Binding.source_of_bindSelect reads accepted
  obtain ⟨predicate, outputs, p, compiled, shape, _⟩ :=
    exists_compile (Catalog.table_of_tableByName found) accepted source
  refine ⟨t, p, source, compiled, ?_⟩
  intro S κ _ store c opened fits
  obtain ⟨result, runs, schemas, answers⟩ := start_runs shape opened fits
  refine ⟨result, answers, schemas, ?_⟩
  intro x failed
  rcases runs.last_cases with same | ⟨rows, given, row, listed, y, fails, same⟩
  · obtain ⟨e, atEnd, rfl⟩ := Option.map_eq_some_iff.mp (same.symm.trans failed)
    exact Or.inl ⟨e, atEnd, rfl⟩
  · obtain rfl : y = x := Option.some.inj (same.symm.trans failed)
    obtain ⟨b, inScript, rfl⟩ := List.mem_map.mp given
    exact Or.inr (ofValues_of_onRow shape.predicateTyped shape.outputsTyped ((fits b inScript).row listed) fails)

theorem execute_sound_quotients :
    ∃ (p : PhysicalPlan) (result : Script ExecError), Sample.engine.planSelect Sample.quotients = .ok p ∧
      (∀ n, (p.start Sample.engine.store).answers (execFeed Sample.engine.store) n = result.answers n) ∧
      (∀ out ∈ result.batches, out.schema = p.schema) ∧
      ∀ x, result.failure = some x → x = .storage (.io "t.csv" .missing) ∨ x.OfValues := by
  obtain ⟨bound, accepted⟩ : ∃ bound, Binding.bindSelect Sample.engine.catalog Sample.quotients = .ok bound :=
    ⟨_, rfl⟩
  obtain ⟨t, p, source, compiled, sound⟩ := execute_sound rfl accepted
  obtain rfl : t = Sample.table := by
    cases accepted
    exact (Option.some.inj source).symm
  obtain ⟨result, answers, schemas, errors⟩ := sound Replay _ Sample.engine.store Sample.script.played
    (Replay.openRead_ofScript Sample.table.id Sample.script) Sample.fits
  refine ⟨p, result, ?_, answers, schemas, ?_⟩
  · rw [planSelect, bind, accepted]
    show (compile bound).mapError _ = _
    rw [compiled]
    rfl
  · intro x failed
    rcases errors x failed with ⟨e, atEnd, rfl⟩ | ofValues
    · rw [Sample.engine, Replay.script_ofScript] at atEnd
      cases atEnd
      exact Or.inl rfl
    · exact Or.inr ofValues

end Engine

end Tabular
