import Tabular.Proofs.Answers

/-!
# Wildcards

What `SELECT *` answers. A wildcard becomes the names of the columns, and each name becomes the first
column that has it; so the answer is the table exactly if no two columns share a name
(`star_is_table_iff`).
-/

namespace Tabular

/-- The statement that asks for a whole table. -/
def Select.star (name : String) : Select := ⟨[.wildcard], some name, none⟩

/-- Names differ if every column is the first of its name. -/
theorem TableDef.nodup_of_position {t : TableDef}
    (first : ∀ i (inside : i < t.columns.length), t.position t.columns[i] = i) : t.columnNames.Nodup := by
  refine List.pairwise_iff_getElem.mpr fun i j atI atJ before same => ?_
  have inI : i < t.columns.length := by simpa [columnNames] using atI
  have inJ : j < t.columns.length := by simpa [columnNames] using atJ
  have named : t.columns[i].name = t.columns[j].name := by simpa [columnNames] using same
  have positions : t.position t.columns[i] = t.position t.columns[j] := by rw [position, position, named]
  rw [first i inI, first j inJ] at positions
  omega

/-! ## Answers -/

/-- The outputs of a wildcard over the positions of the columns. -/
def Output.star (t : TableDef) : List Output :=
  t.columns.map fun c => ⟨c.name, .input (t.position c) (t.namesake c).type⟩

theorem Output.resolve_wildcard (t : TableDef) :
    (Binding.wildcardOutputs t).mapM (Output.resolve (Plan.scanSchema t)) = .ok (Output.star t) := by
  rw [mapM_eq_ok, Binding.wildcardOutputs, star, List.map_map, List.map_map]
  refine List.map_congr_left fun c listed => ?_
  simp only [Function.comp, Output.resolve, Bound.resolve_column, Plan.lookup_namesake listed]
  rfl

/-- On every row a wildcard gives the cells under the names. -/
theorem Output.cells_star (t : TableDef) (schema : Schema) (row : Row) :
    Output.cells schema (Output.star t) row = .ok (t.columns.map fun c => t.cell row c.name) := by
  rw [Output.cells, mapM_eq_ok, star, List.map_map, List.map_map]
  refine List.map_congr_left fun c listed => ?_
  simp only [Function.comp, Bound.value, TableDef.cell_name listed]

namespace Engine

variable {S κ : Type} [Storage S κ] {t : TableDef} {name : String}

theorem bindSelect_star {catalog : Catalog} (known : catalog.tableByName name = .ok t) :
    Binding.bindSelect catalog (.star name) = .ok ⟨Binding.wildcardOutputs t, some t, none⟩ := by
  have table : (Select.star name).source.mapM (Binding.bindTable catalog) = .ok (some t) := by
    rw [Select.star, Option.mapM_some, Binding.bindTable, known]
    rfl
  rw [Binding.bindSelect, table]
  show Except.ok (BoundSelect.mk (List.flatten [Binding.wildcardOutputs t]) (some t) none) = _
  rw [List.flatten_cons, List.flatten_nil, List.append_nil]

/-- `SELECT *` is planned over every table, and gives the first column of each name. -/
theorem planSelect_star (e : Engine S) (known : e.catalog.tableByName name = .ok t) :
    ∃ p, e.planSelect (.star name) = .ok p ∧ Compiled t none (Output.star t) p := by
  have accepted := bindSelect_star known
  obtain ⟨predicate, outputs, p, compiled, shape, resolved, same⟩ :=
    exists_compile (Catalog.table_of_tableByName known) accepted rfl
  obtain rfl : predicate = none := by
    have conditional := congrArg Selection.conditional same
    simpa [Selection.ofParts] using conditional
  obtain rfl : Output.star t = outputs := Except.ok.inj ((Output.resolve_wildcard t).symm.trans resolved)
  refine ⟨p, ?_, shape⟩
  rw [planSelect, bind, accepted]
  show (compile _).mapError _ = _
  rw [compiled]
  rfl

/-- What `SELECT *` answers on any table: for each row the cells under the declared names. -/
theorem star_answers (e : Engine S) {c : κ} (known : e.catalog.tableByName name = .ok t)
    (opened : Storage.openRead e.store t.id = .ok c)
    (fits : ∀ b ∈ ((Storage.feed e.store).script c).batches, b.Fits t) :
    ∃ (p : PhysicalPlan) (result : Script ExecError), e.planSelect (.star name) = .ok p ∧
      (∀ n, (e.execute p).answers (execFeed e.store) n = result.answers n) ∧
      (∀ out ∈ result.batches, out.schema = Plan.outputSchema (Output.star t)) ∧
      result.batches.map Batch.rows = (((Storage.feed e.store).script c).batches.map Batch.rows).map
        (List.map fun row => t.columns.map fun c => t.cell row c.name) ∧
      result.failure = ((Storage.feed e.store).script c).failure.map .storage := by
  obtain ⟨p, planned, shape⟩ := planSelect_star e known
  obtain ⟨result, runs, schemas, answers⟩ := start_runs shape opened fits
  have schema : p.schema = Plan.outputSchema (Output.star t) := by
    rw [PhysicalPlan.schema, shape.root, Plan.schema_ofParts]
  rw [schema] at schemas
  have total (row : Row) : (Selection.ofParts (Plan.scanSchema t) none (Output.star t)).onRow row =
      .ok (some (t.columns.map fun c => t.cell row c.name)) := by
    rw [Selection.onRow_of_keeps rfl]
    show some <$> Output.cells _ _ row = _
    rw [Output.cells_star]
    rfl
  obtain ⟨rows, failure⟩ := runs.of_total rfl fun _ _ row _ => total row
  exact ⟨p, result, planned, answers, schemas, rows, failure⟩

end Engine

/-! ## When the answer is the table -/

/-- A batch under the declared names of its table: the columns are those of the batch, in their order. -/
def Batch.Declares (t : TableDef) (b out : Batch) : Prop :=
  out.rowCount = b.rowCount ∧ out.columns = renamed t.schema.fields b.columns

/-- Whatever a store holds for a table, `SELECT *` answers each of its batches with the same columns
under the declared names, and then ends as the table does. -/
def Catalog.StarIsTable (catalog : Catalog) (name : String) (t : TableDef) : Prop :=
  ∀ (S κ : Type) [Storage S κ] (e : Engine S) (c : κ), e.catalog = catalog →
    Storage.openRead e.store t.id = .ok c → (∀ b ∈ ((Storage.feed e.store).script c).batches, b.Fits t) →
    ∃ (p : PhysicalPlan) (result : Script ExecError), e.planSelect (.star name) = .ok p ∧
      (∀ n, (e.execute p).answers (execFeed e.store) n = result.answers n) ∧
      List.Forall₂ (Batch.Declares t) ((Storage.feed e.store).script c).batches result.batches ∧
      result.failure = ((Storage.feed e.store).script c).failure.map .storage

namespace Catalog

variable {catalog : Catalog} {t : TableDef} {name : String}

private theorem forall₂_of_map_eq {α β γ : Type} {r : α → β → Prop} {f : α → γ} {g : β → γ} {as : List α}
    {bs : List β} (same : bs.map g = as.map f) (each : ∀ a ∈ as, ∀ b ∈ bs, g b = f a → r a b) :
    List.Forall₂ r as bs := by
  induction as generalizing bs with
  | nil =>
    cases bs with
    | nil => exact .nil
    | cons b bs => cases same
  | cons a as ih =>
    cases bs with
    | nil => cases same
    | cons b bs =>
      obtain ⟨first, others⟩ := List.cons.inj same
      refine .cons (each a List.mem_cons_self b List.mem_cons_self first) (ih others ?_)
      intro x listed y given
      exact each x (List.mem_cons_of_mem _ listed) y (List.mem_cons_of_mem _ given)

/-- A batch with the rows of a fitting one, under the schema of the table, is that batch under the
declared names. -/
theorem declares_of_rows {b out : Batch} (fits : b.Fits t) (rows : out.rows = b.rows)
    (schema : out.schema = t.schema) : b.Declares t out := by
  have fields : out.columns.map (fun c => Field.mk c.name c.column.type) = t.schema.fields :=
    congrArg Schema.fields schema
  have types : out.columns.map (·.column.type) = b.columns.map (·.column.type) := by
    have both := congrArg (List.map Field.type) fields
    rw [List.map_map] at both
    rw [fits]
    simpa [TableDef.schema, Schema.ofColumns, Function.comp_def] using both
  have columns := Batch.columns_of_rows rows types
  refine ⟨by rw [← out.length_rows, rows, b.length_rows], ?_⟩
  rw [Batch.renamed, ← fields, List.zipWith_map_left]
  have count : out.columns.length = b.columns.length := by simpa using congrArg List.length columns
  apply List.ext_getElem
  · simp [count]
  · intro i inside _
    have inB : i < b.columns.length := count ▸ inside
    have both := congrArg (·[i]?) columns
    simp only [List.getElem?_map, List.getElem?_eq_getElem inside, List.getElem?_eq_getElem inB,
      Option.map_some, Option.some.injEq] at both
    rw [List.getElem_zipWith, ← both]

theorem star_of_nodup (known : catalog.tableByName name = .ok t) (differ : t.columnNames.Nodup) :
    catalog.StarIsTable name t := by
  rintro S κ _ e c rfl opened fits
  obtain ⟨p, result, planned, answers, schemas, rows, failure⟩ := e.star_answers known opened fits
  have schema : Plan.outputSchema (Output.star t) = t.schema := by
    rw [Plan.outputSchema, TableDef.schema, Output.star, List.map_map]
    congr 1
    refine List.map_congr_left fun d listed => ?_
    simp only [Function.comp, Bound.type, TableDef.namesake_of_nodup differ listed]
  refine ⟨p, result, planned, answers, ?_, failure⟩
  have same : result.batches.map Batch.rows = ((Storage.feed e.store).script c).batches.map Batch.rows := by
    rw [rows, List.map_map]
    refine List.map_congr_left fun b given => ?_
    have own : (b.rows.map fun row => t.columns.map fun c => t.cell row c.name) = b.rows.map id :=
      List.map_congr_left fun row listed => Binding.cells_of_nodup differ ((fits b given).length_row listed)
    rw [Function.comp, own, List.map_id]
  refine forall₂_of_map_eq same fun b given out listed rows => ?_
  exact declares_of_rows (fits b given) rows ((schemas out listed).trans schema)

end Catalog

/-! ## When it is not -/

/-- Some value of a type. -/
def DataType.anyValue : (type : DataType) → type.Carrier
  | .int64 => 0
  | .float64 => Double.ofInt 0
  | .bool => false
  | .string => ""

/-- One row of a table, with a value at a position and nulls at all others. -/
def Batch.probe (t : TableDef) (position : Nat) : Batch where
  columns := t.columns.mapIdx fun i c =>
    ⟨c.name, ⟨.sql c.type, [if i = position then some c.type.anyValue else none]⟩⟩
  rowCount := 1
  aligned := by
    intro c listed
    obtain ⟨i, inside, rfl⟩ := List.mem_mapIdx.mp listed
    rfl

namespace Batch

theorem fits_probe (t : TableDef) (position : Nat) : (probe t position).Fits t := by
  apply List.ext_getElem
  · simp [probe]
  · intro i _ _
    simp [probe]

/-- The row of a probe has a value where it was put and nowhere else. -/
theorem isSome_cell_probe {t : TableDef} {position i : Nat} (inside : i < t.columns.length) :
    (((probe t position).row 0).cell i).isSome = decide (i = position) := by
  have there : ((probe t position).row 0)[i]? = some (Row.cell
      (Column.data ⟨.sql t.columns[i].type, [if i = position then some t.columns[i].type.anyValue else none]⟩) 0) := by
    simp [row, probe, List.getElem?_eq_getElem inside]
  rw [Row.cell, there]
  by_cases here : i = position
  · rw [if_pos here, decide_eq_true here]
    rfl
  · rw [if_neg here, decide_eq_false here]
    rfl

end Batch

namespace Catalog

variable {catalog : Catalog} {t : TableDef} {name : String}

/-- A batch under declared names has the rows that it had. -/
theorem rows_of_declares {b out : Batch} (fits : b.Fits t) (declares : b.Declares t out) :
    out.rows = b.rows := by
  refine Batch.rows_relabel ?_ declares.2 declares.1
  have count := congrArg List.length fits
  simpa [TableDef.schema, Schema.ofColumns] using count.symm

/-- If `SELECT *` gives a table back, it gives back a value of every column in its own place. -/
theorem nodup_of_star (known : catalog.tableByName name = .ok t) (star : catalog.StarIsTable name t) :
    t.columnNames.Nodup := by
  refine TableDef.nodup_of_position fun i inside => ?_
  let position := t.position t.columns[i]
  let probe := Batch.probe t position
  let s : Script StorageError := ⟨[probe], none⟩
  let e : Engine Replay := ⟨catalog, .ofScript t.id s, {}⟩
  have opened := Replay.openRead_ofScript t.id s
  have script : (Storage.feed e.store).script s.played = s := Replay.script_ofScript t.id s
  have fits : ∀ b ∈ ((Storage.feed e.store).script s.played).batches, b.Fits t := by
    rw [script]
    intro b listed
    rw [List.mem_singleton.mp listed]
    exact Batch.fits_probe t _
  obtain ⟨p, result, planned, answers, declared, _⟩ := star Replay _ e s.played rfl opened fits
  obtain ⟨q, other, planned', answers', _, rows, _⟩ := e.star_answers known opened fits
  obtain rfl : q = p := Except.ok.inj (planned'.symm.trans planned)
  rw [script] at declared rows
  obtain ⟨out, _, declares, _, first⟩ := List.forall₂_cons_left_iff.mp declared
  obtain ⟨out', others, second, given⟩ : ∃ out' others, other.batches = out' :: others ∧
      out'.rows = probe.rows.map fun row => t.columns.map fun c => t.cell row c.name := by
    cases batches : other.batches with
    | nil =>
      rw [batches] at rows
      cases rows
    | cons out' others =>
      rw [batches] at rows
      exact ⟨out', others, rfl, (List.cons.inj rows).1⟩
  have same : out = out' := by
    have once := (answers 1).symm.trans (answers' 1)
    rw [Script.answers, Script.answers, first, second] at once
    exact Option.some.inj (Except.ok.inj (List.cons.inj once).1)
  rw [← same, rows_of_declares (Batch.fits_probe t position) declares] at given
  have row : probe.row 0 = t.columns.map fun c => t.cell (probe.row 0) c.name := (List.cons.inj given).1
  have cell : (probe.row 0).cell i = (probe.row 0).cell position := by
    have here := congrArg (fun row : Row => row.cell i) row
    refine here.trans ?_
    rw [← TableDef.cell_name (List.getElem_mem inside)]
    simp [Row.cell, List.getElem?_eq_getElem inside]
  have value := congrArg Option.isSome cell
  rw [Batch.isSome_cell_probe inside,
    Batch.isSome_cell_probe (TableDef.position_lt (List.getElem_mem inside))] at value
  exact (of_decide_eq_true (value.trans (decide_eq_true rfl))).symm

/-- `SELECT *` is the table exactly if no two of its columns share a name. -/
theorem star_is_table_iff (known : catalog.tableByName name = .ok t) :
    catalog.StarIsTable name t ↔ t.columnNames.Nodup :=
  ⟨nodup_of_star known, star_of_nodup known⟩

theorem star_is_table_sample : Sample.engine.catalog.tableByName "t" = .ok Sample.table ∧
    Sample.engine.catalog.StarIsTable "t" Sample.table := by
  have known : Sample.engine.catalog.tableByName "t" = .ok Sample.table := Catalog.empty.tableByName_insert _
  exact ⟨known, (star_is_table_iff known).mpr (by decide)⟩

/-- A table with an integer and a text of one name, of which `SELECT *` gives the integer twice. -/
theorem star_repeats_namesake :
    let t : TableDef := ⟨⟨0⟩, "t", [⟨"a", .int64⟩, ⟨"a", .string⟩]⟩
    let b : Batch := ⟨[⟨"a", ⟨.sql .int64, [some 1]⟩⟩, ⟨"a", ⟨.sql .string, [some "x"]⟩⟩], 1, by decide⟩
    let out : Batch := ⟨[⟨"a", ⟨.sql .int64, [some 1]⟩⟩, ⟨"a", ⟨.sql .int64, [some 1]⟩⟩], 1, by decide⟩
    let e : Engine Replay := ⟨Catalog.empty.insert t.describe, .ofScript t.id ⟨[b], none⟩, {}⟩
    b.Fits t ∧ (∃ p, e.planSelect (.star "t") = .ok p ∧
      (e.execute p).answers (execFeed e.store) 1 = [.ok (some out)]) ∧ ¬ b.Declares t out ∧
      ¬ e.catalog.StarIsTable "t" t := by
  intro t b out e
  have known : e.catalog.tableByName "t" = .ok t := Catalog.empty.tableByName_insert t
  refine ⟨rfl, ⟨_, by rw [Engine.planSelect, Engine.bind, Engine.bindSelect_star known]; rfl, ?_⟩, ?_,
    fun star => absurd (nodup_of_star known star) (by decide)⟩
  · rw [Engine.execute, PhysicalPlan.answers_start (Replay.openRead_ofScript t.id ⟨[b], none⟩),
      Replay.script_ofScript]
    rfl
  · rintro ⟨_, columns⟩
    have second := congrArg (fun cs : List NamedColumn => cs.map (·.column.type)) columns
    revert second
    decide

end Catalog

end Tabular
