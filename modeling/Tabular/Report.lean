import Tabular.Batch
import Tabular.Text.Grid

/-!
# Reports

Batches as a grid of texts under the names of their columns, with the number of rows below.
-/

namespace Tabular

namespace Batch

/-- Takes the first elements of lists, then the second ones, and so on. -/
def transposed {α : Type} : (rows : Nat) → List (List α) → List (List α)
  | 0, _ => []
  | rows + 1, columns =>
    columns.filterMap List.head? :: transposed rows (columns.map (·.drop 1))

/-- The texts of the cells, row by row. -/
def cellRows (b : Batch) : List (List String) :=
  transposed b.rowCount (b.columns.map fun c => c.column.cellTexts)

/-- The titles over batches: the names of the first batch, or those of the schema if there is
none. -/
def titles (schema : Schema) : List Batch → List String
  | [] => schema.names
  | b :: _ => b.schema.names

/-- The grid of batches. -/
def grid (schema : Schema) (batches : List Batch) : Text.Grid where
  header := (titles schema batches).map Text.cellOf
  rows := batches.flatMap fun b => b.cellRows.map (·.map Text.cellOf)

/-- How many rows there are, in words. -/
def countText (rows : Nat) : String := s!"({rows} row" ++ (if rows = 1 then ")" else "s)")

/-- The report of batches. -/
def report (schema : Schema) (batches : List Batch) : String :=
  (grid schema batches).render ++ countText (batches.foldl (fun count b => count + b.rowCount) 0) ++ "\n"

end Batch

end Tabular
