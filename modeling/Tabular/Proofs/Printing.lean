import Tabular.CommandLine
import Tabular.Proofs.Chunking
import Tabular.Proofs.Layout

/-!
# Printed results

What is printed of a result depends on its schema and its rows, and not on the batches that they come in: titles, a
row of the table for each row, and how many there are. So a query is answered alike on the command line whatever the
size of batches (`Batch.report_batched`).
-/

namespace Tabular

/-! ## Texts of rows -/

/-- The text of a cell. -/
def Row.text : Option Datum → String
  | some d => Value.cellText d.type d.value
  | none => "NULL"

/-- The cells of a row, each in the lines of its text. -/
def Row.shown (row : Row) : List Text.Cell := row.map fun cell => Text.cellOf (text cell)

theorem Column.cellTexts_eq (c : Column) : c.cellTexts = c.data.map Row.text := by
  rw [cellTexts, data, List.map_map]
  refine List.map_congr_left fun cell _ => ?_
  cases cell <;> rfl

namespace Batch

theorem transposed_eq {α : Type} (rows : Nat) (columns : List (List α)) :
    transposed rows columns = (List.range rows).map fun i => columns.filterMap (·[i]?) := by
  induction rows generalizing columns with
  | zero => rfl
  | succ rows ih =>
    rw [transposed, ih, List.range_succ_eq_map, List.map_cons, List.map_map]
    congr 1
    · exact List.filterMap_congr fun column _ => List.head?_eq_getElem?
    · refine List.map_congr_left fun i _ => ?_
      rw [List.filterMap_map]
      exact List.filterMap_congr fun column _ => by simp

/-- The texts of a batch are those of its rows. -/
theorem cellRows_eq (b : Batch) : b.cellRows = b.rows.map (·.map Row.text) := by
  rw [cellRows, transposed_eq, rows, List.map_map]
  refine List.map_congr_left fun i inRange => ?_
  have texts : ∀ c ∈ b.columns, c.column.cellTexts[i]? = some (Row.text (Row.cell c.column.data i)) := by
    intro c listed
    have inside : i < c.column.data.length := by
      rw [Column.length_data, b.aligned c listed]
      exact List.mem_range.mp inRange
    simp [Column.cellTexts_eq, Row.cell, List.getElem?_eq_getElem inside]
  rw [List.filterMap_map, Function.comp, row, List.map_map, ← List.filterMap_eq_map]
  exact List.filterMap_congr texts

/-! ## Reports -/

/-- The grid of rows under the names of a schema. -/
def table (schema : Schema) (rows : List Row) : Text.Grid where
  header := schema.names.map Text.cellOf
  rows := rows.map Row.shown

variable {schema : Schema} {bs cs : List Batch}

theorem names_titles (each : ∀ b ∈ bs, b.schema = schema) : titles schema bs = schema.names := by
  cases bs with
  | nil => rfl
  | cons b bs => rw [titles, each b List.mem_cons_self]

theorem grid_eq (each : ∀ b ∈ bs, b.schema = schema) : grid schema bs = table schema (bs.flatMap Batch.rows) := by
  rw [grid, table, names_titles each, List.map_flatMap]
  congr 1
  refine congrArg (List.flatMap · bs) (funext fun b => ?_)
  rw [cellRows_eq, List.map_map]
  refine List.map_congr_left fun row _ => ?_
  rw [Function.comp, List.map_map]
  rfl

theorem count_eq (bs : List Batch) (before : Nat) :
    bs.foldl (fun count b => count + b.rowCount) before = before + (bs.flatMap Batch.rows).length := by
  induction bs generalizing before with
  | nil => rfl
  | cons b bs ih => rw [List.foldl_cons, ih, List.flatMap_cons, List.length_append, length_rows, Nat.add_assoc]

/-- A report is made of the rows, whatever the batches are. -/
theorem report_eq (each : ∀ b ∈ bs, b.schema = schema) : report schema bs =
    (table schema (bs.flatMap Batch.rows)).render ++ countText (bs.flatMap Batch.rows).length ++ "\n" := by
  rw [report, grid_eq each, count_eq, Nat.zero_add]

end Batch

/-! ## The command line -/

namespace CommandLine

open Engine

/-- Answers to the same rows under one schema are printed alike. -/
theorem report_of_answers {q : Selection} {fault : Option StorageError} {rows : List Row} {schema : Schema}
    {left right : Except ExecError (List Batch)} (answers : Answers q fault rows schema left)
    (others : Answers q fault rows schema right) :
    left.toOption.map (Batch.report schema) = right.toOption.map (Batch.report schema) := by
  have agree := answers.agree others
  cases left with
  | error x =>
    cases right with
    | error y => rfl
    | ok cs => exact agree.elim
  | ok bs =>
    cases right with
    | error y => exact agree.elim
    | ok cs =>
      obtain ⟨rows, _⟩ := agree
      show some (Batch.report schema bs) = some (Batch.report schema cs)
      rw [Batch.report_eq answers.2.2, Batch.report_eq others.2.2, rows]

/-- What is answered to a text, if anything is. -/
theorem toOption_statement (e : Engine FileStore) (sql : String) :
    (statement e sql).toOption = (Command.ofSql sql).toOption.bind fun command =>
      match command with
      | .explain _ => (e.explain sql).toOption
      | .select s => (e.planSelect s).toOption.bind fun p => (e.runPlan p).toOption.map (Batch.report p.schema) := by
  rw [statement, toOption_bind, toOption_mapError]
  refine congrArg _ (funext fun command => ?_)
  cases command with
  | explain s => exact toOption_mapError _ _
  | select s =>
    simp only [toOption_bind, toOption_mapError, planSelect, Option.bind_assoc]
    refine congrArg _ (funext fun b => congrArg _ (funext fun p => ?_))
    cases e.runPlan p <;> rfl

theorem planSelect_batched (e : Engine FileStore) (s : Select) (n : Nat) :
    (e.batched n).planSelect s = e.planSelect s := rfl

theorem explain_batched (e : Engine FileStore) (sql : String) (n : Nat) : (e.batched n).explain sql = e.explain sql := by
  have same (s : Select) : (e.batched n).explainSelect s = e.explainSelect s := rfl
  simp only [Engine.explain, same]

/-- A text is answered alike, or fails, with batches of any size. -/
theorem statement_batched {e : Engine FileStore} {d : Directory} {files : List String}
    (has : List.Forall₂ (e.store.Has d) files e.catalog.tables) (sql : String) {n m : Nat} (left : n ≠ 0)
    (right : m ≠ 0) : (statement (e.batched n) sql).toOption = (statement (e.batched m) sql).toOption := by
  rw [toOption_statement, toOption_statement]
  refine congrArg _ (funext fun command => ?_)
  cases command with
  | explain s =>
    dsimp only
    rw [explain_batched, explain_batched]
  | select s =>
    dsimp only
    rw [planSelect_batched, planSelect_batched]
    cases planned : e.planSelect s with
    | error x => simp only [Except.toOption, Option.bind_none]
    | ok p =>
      obtain ⟨q, fault, rows, answers⟩ := exists_planned_answers has planned
      exact report_of_answers (answers n left) (answers m right)

/-- Opening the tables of a directory does not depend on the size of batches. -/
theorem openTables_batched {config : Config} {size : Nat} (filled : config.batchSize ≠ 0) (positive : size ≠ 0)
    (directory : Except DirectoryFault Directory) :
    openTables (config.batched size) directory = (openTables config directory).map (Engine.batched · size) := by
  rw [openTables, openTables, openDirectory_batched filled positive]
  cases openDirectory config directory <;> rfl

/-- The outcome of a failure. Nothing is printed but what is said of it. -/
def Outcome.Failed (o : Outcome) : Prop := o.code = 1 ∧ o.out = ""

/-- Two outcomes that come to the same: they are one, or both are of failures. -/
def Outcome.Alike (a b : Outcome) : Prop := a = b ∨ a.Failed ∧ b.Failed

/-- No sum overflows in a statement. -/
theorem code_of_statement {e : Engine FileStore} {sql : String} {f : Failure} (failed : statement e sql = .error f) :
    f.code = 1 := by
  rcases bind_eq_error.mp failed with unread | ⟨command, _, failed⟩
  · obtain ⟨_, _, rfl⟩ := mapError_eq_error.mp unread
    rfl
  cases command with
  | explain _ =>
    obtain ⟨_, _, rfl⟩ := mapError_eq_error.mp failed
    rfl
  | select s =>
    rcases bind_eq_error.mp failed with unbound | ⟨bound, _, failed⟩
    · obtain ⟨_, _, rfl⟩ := mapError_eq_error.mp unbound
      rfl
    rcases bind_eq_error.mp failed with unplanned | ⟨plan, _, failed⟩
    · obtain ⟨_, _, rfl⟩ := mapError_eq_error.mp unplanned
      rfl
    rcases bind_eq_error.mp failed with stopped | ⟨batches, _, printed⟩
    · obtain ⟨_, _, rfl⟩ := mapError_eq_error.mp stopped
      rfl
    · cases printed

/-- The outcome of a query. -/
theorem run_query (dataDir sql : String) (size : Nat) (directory : Except DirectoryFault Directory)
    (input : List String) : (Invocation.query dataDir size sql).run directory input =
      match (openTables (Config.batched { dataDir } size) directory).bind (statement · sql) with
      | .ok out => ⟨0, out, ""⟩
      | .error f => ⟨f.code, "", f.text⟩ := by
  have output : (Invocation.query dataDir size sql).output directory input =
      (openTables (Config.batched { dataDir } size) directory).bind fun e =>
        (statement e sql).bind fun out => .ok { out } := rfl
  rw [Invocation.run, output]
  cases openTables (Config.batched { dataDir } size) directory with
  | error f => rfl
  | ok e =>
    dsimp only [Except.bind]
    cases statement e sql <;> rfl

/-- A query has one outcome, or fails, with batches of any size. -/
theorem run_batched (dataDir sql : String) (directory : Except DirectoryFault Directory) (input : List String)
    {n m : Nat} (left : n ≠ 0) (right : m ≠ 0) :
    ((Invocation.query dataDir n sql).run directory input).Alike
      ((Invocation.query dataDir m sql).run directory input) := by
  let config : Config := Config.batched { dataDir } 1
  have base : config.batchSize ≠ 0 := Nat.one_ne_zero
  have opened {size : Nat} (positive : size ≠ 0) : openTables (Config.batched { dataDir } size) directory =
      (openTables config directory).map (Engine.batched · size) :=
    openTables_batched base positive directory
  rw [run_query, run_query, opened left, opened right]
  cases engine : openTables config directory with
  | error x => exact Or.inl rfl
  | ok e =>
    obtain ⟨d, _, _, _, has⟩ := found_of_openDirectory (mapError_eq_ok.mp engine)
    have same := statement_batched has sql left right
    simp only [Except.map, Except.bind]
    cases here : statement (e.batched n) sql with
    | error f =>
      cases there : statement (e.batched m) sql with
      | error g => exact Or.inr ⟨⟨code_of_statement here, rfl⟩, ⟨code_of_statement there, rfl⟩⟩
      | ok out =>
        rw [here, there] at same
        cases same
    | ok out =>
      cases there : statement (e.batched m) sql with
      | error g =>
        rw [here, there] at same
        cases same
      | ok other =>
        rw [here, there] at same
        cases same
        exact Or.inl rfl

end CommandLine

namespace Batch

open CommandLine

end Batch

end Tabular
