import Tabular.Evaluate
import Tabular.Proofs.Outcome
import Tabular.Proofs.Rows

/-!
# Selections

What is done with rows one at a time, and what comes of it over batches of rows. Each row is kept
or not, and a kept row becomes another row. Both can fail.
-/

namespace Tabular

/-- What is done with a row: whether it is kept, and what a kept row becomes. Without a condition
every row is kept. -/
structure Selection where
  conditional : Bool
  keeps : Row → Except ExecError Bool
  cells : Row → Except ExecError Row

namespace Selection

/-- What becomes of one row. A row that is not kept is not looked at further. -/
def onRow (q : Selection) (row : Row) : Except ExecError (Option Row) := do
  if ← q.keeps row then some <$> q.cells row else return none

/-- What becomes of rows, in their order. -/
def onRows (q : Selection) (rows : List Row) : Except ExecError (List Row) := do
  let outcomes ← rows.mapM q.onRow
  return outcomes.filterMap id

/-- What may come of the rows of a batch: the error of a row that fails, nothing if a condition
keeps none, and else what becomes of them. -/
inductive Gives (q : Selection) (rows : List Row) : Except ExecError (Option (List Row)) → Prop
  | error {row : Row} {x : ExecError} (listed : row ∈ rows) (fails : q.onRow row = .error x) :
      Gives q rows (.error x)
  | none (conditional : q.conditional = true) (done : q.onRows rows = .ok []) : Gives q rows (.ok none)
  | some {out : List Row} (done : q.onRows rows = .ok out) (given : q.conditional = false ∨ out ≠ []) :
      Gives q rows (.ok (some out))

/-- What may come of batches of rows that end in a failure or well: answers, then an error if there
is one. A batch with a row that fails ends the answers, and a batch of which nothing comes has no
answer. -/
inductive Runs (q : Selection) (failure : Option ExecError) :
    List (List Row) → List (List Row) → Option ExecError → Prop
  | stop : Runs q failure [] [] failure
  | fail {rows : List Row} {rest : List (List Row)} {x : ExecError} (here : q.Gives rows (.error x)) :
      Runs q failure (rows :: rest) [] (some x)
  | skip {rows : List Row} {rest answers : List (List Row)} {last : Option ExecError}
      (here : q.Gives rows (.ok .none)) (further : Runs q failure rest answers last) :
      Runs q failure (rows :: rest) answers last
  | answer {rows out : List Row} {rest answers : List (List Row)} {last : Option ExecError}
      (here : q.Gives rows (.ok (some out))) (further : Runs q failure rest answers last) :
      Runs q failure (rows :: rest) (out :: answers) last

/-! ## Rows that are kept -/

theorem mem_selected {α : Type} {x : α} {f : α → Except ExecError Bool} {marks : List Bool} {xs : List α}
    (marked : xs.map f = marks.map .ok) (listed : x ∈ Column.selected marks xs) :
    x ∈ xs ∧ f x = .ok true := by
  induction xs generalizing marks with
  | nil =>
    cases marks with
    | nil => cases listed
    | cons mark marks => cases marked
  | cons y xs ih =>
    cases marks with
    | nil => cases marked
    | cons mark marks =>
      obtain ⟨first, others⟩ := List.cons.inj marked
      cases mark with
      | false =>
        obtain ⟨inside, kept⟩ := ih others listed
        exact ⟨List.mem_cons_of_mem _ inside, kept⟩
      | true =>
        rcases List.mem_cons.mp listed with rfl | listed
        · exact ⟨List.mem_cons_self, first⟩
        · obtain ⟨inside, kept⟩ := ih others listed
          exact ⟨List.mem_cons_of_mem _ inside, kept⟩

variable {q r : Selection}

/-- A kept row that fails to become another is a row that fails. -/
theorem onRow_of_keeps {row : Row} (kept : q.keeps row = .ok true) : q.onRow row = some <$> q.cells row := by
  rw [onRow, kept]
  rfl

theorem onRow_of_fails {row : Row} {x : ExecError} (fails : q.keeps row = .error x) :
    q.onRow row = .error x := by
  rw [onRow, fails]
  rfl

/-- A row fails while it is decided whether to keep it or once it is kept. -/
theorem error_of_onRow {row : Row} {x : ExecError} (fails : q.onRow row = .error x) :
    q.keeps row = .error x ∨ q.cells row = .error x := by
  rw [onRow] at fails
  cases kept : q.keeps row with
  | error y =>
    rw [kept] at fails
    cases fails
    exact Or.inl rfl
  | ok wanted =>
    rw [kept] at fails
    cases wanted with
    | false => cases fails
    | true => exact Or.inr (error_of_map fails)

/-- Once it is known which rows are kept, they alone become the answer. -/
theorem onRows_of_marks {marks : List Bool} {rows : List Row} (marked : rows.map q.keeps = marks.map .ok) :
    q.onRows rows = (Column.selected marks rows).mapM q.cells := by
  induction rows generalizing marks with
  | nil =>
    cases marks with
    | nil => rfl
    | cons mark marks => cases marked
  | cons row rows ih =>
    cases marks with
    | nil => cases marked
    | cons mark marks =>
      obtain ⟨first, others⟩ := List.cons.inj marked
      have rest := ih others
      rw [onRows] at rest ⊢
      rw [List.mapM_cons, onRow, first]
      cases mark with
      | false =>
        rw [Column.selected, ← rest]
        show (do
          let outcomes ← (do let others ← rows.mapM q.onRow; return none :: others)
          return outcomes.filterMap id) = _
        cases rows.mapM q.onRow <;> rfl
      | true =>
        rw [Column.selected, List.mapM_cons, ← rest]
        show (do
          let outcomes ← (do
            let out ← some <$> q.cells row
            let others ← rows.mapM q.onRow
            return out :: others)
          return outcomes.filterMap id) = _
        cases q.cells row with
        | error x => rfl
        | ok out => cases rows.mapM q.onRow <;> rfl

/-! ## Runs -/

/-- Selections that agree on the rows come to the same. -/
theorem onRows_congr {rows : List Row} (same : ∀ row ∈ rows, q.onRow row = r.onRow row) :
    q.onRows rows = r.onRows rows := by
  rw [onRows, onRows]
  congr 1
  induction rows with
  | nil => rfl
  | cons row rows ih =>
    rw [List.mapM_cons, List.mapM_cons, same row List.mem_cons_self,
      ih fun other listed => same other (List.mem_cons_of_mem _ listed)]

theorem Gives.congr {rows : List Row} {out : Except ExecError (Option (List Row))}
    (same : ∀ row ∈ rows, q.onRow row = r.onRow row) (kind : q.conditional = r.conditional)
    (gives : q.Gives rows out) : r.Gives rows out := by
  cases gives with
  | error listed fails => exact .error listed (same _ listed ▸ fails)
  | none conditional done => exact .none (kind ▸ conditional) (onRows_congr same ▸ done)
  | some done given => exact .some (onRows_congr same ▸ done) (kind ▸ given)

/-- Selections that agree on all rows of the batches have the same runs. -/
theorem Runs.congr {failure last : Option ExecError} {batches answers : List (List Row)}
    (same : ∀ rows ∈ batches, ∀ row ∈ rows, q.onRow row = r.onRow row)
    (kind : q.conditional = r.conditional) (runs : q.Runs failure batches answers last) :
    r.Runs failure batches answers last := by
  induction runs with
  | stop => exact .stop
  | fail here => exact .fail (here.congr (same _ List.mem_cons_self) kind)
  | skip here _ ih =>
    exact .skip (here.congr (same _ List.mem_cons_self) kind)
      (ih fun rows listed => same rows (List.mem_cons_of_mem _ listed))
  | answer here _ ih =>
    exact .answer (here.congr (same _ List.mem_cons_self) kind)
      (ih fun rows listed => same rows (List.mem_cons_of_mem _ listed))

/-- A run ends as its batches do or with the error of one of their rows. -/
theorem Runs.last_cases {failure last : Option ExecError} {batches answers : List (List Row)}
    (runs : q.Runs failure batches answers last) :
    last = failure ∨ ∃ rows ∈ batches, ∃ row ∈ rows, ∃ x, q.onRow row = .error x ∧ last = some x := by
  induction runs with
  | stop => exact Or.inl rfl
  | fail here =>
    cases here with
    | error listed fails => exact Or.inr ⟨_, List.mem_cons_self, _, listed, _, fails, rfl⟩
  | skip _ _ ih | answer _ _ ih =>
    rcases ih with same | ⟨rows, listed, failing⟩
    · exact Or.inl same
    · exact Or.inr ⟨rows, List.mem_cons_of_mem _ listed, failing⟩

theorem onRows_of_total {f : Row → Row} {rows : List Row}
    (total : ∀ row ∈ rows, q.onRow row = .ok (some (f row))) : q.onRows rows = .ok (rows.map f) := by
  have outcomes : rows.mapM q.onRow = .ok (rows.map fun row => some (f row)) := by
    rw [mapM_eq_ok, List.map_map]
    exact List.map_congr_left total
  rw [onRows, outcomes]
  show Except.ok ((rows.map fun row => some (f row)).filterMap id) = _
  rw [List.filterMap_map, ← List.filterMap_eq_map]
  rfl

/-- Where every row is kept and becomes another, so does every batch. -/
theorem Runs.of_total {failure last : Option ExecError} {batches answers : List (List Row)} {f : Row → Row}
    (unconditional : q.conditional = false)
    (total : ∀ rows ∈ batches, ∀ row ∈ rows, q.onRow row = .ok (some (f row)))
    (runs : q.Runs failure batches answers last) : answers = batches.map (List.map f) ∧ last = failure := by
  induction runs with
  | stop => exact ⟨rfl, rfl⟩
  | fail here =>
    cases here with
    | error listed fails =>
      rw [total _ List.mem_cons_self _ listed] at fails
      cases fails
  | skip here _ _ =>
    cases here with
    | none conditional _ =>
      rw [unconditional] at conditional
      cases conditional
  | answer here _ ih =>
    obtain ⟨others, atEnd⟩ := ih fun rows listed => total rows (List.mem_cons_of_mem _ listed)
    cases here with
    | some done _ =>
      rw [onRows_of_total (total _ List.mem_cons_self)] at done
      cases done
      exact ⟨by rw [others, List.map_cons], atEnd⟩

end Selection

end Tabular
