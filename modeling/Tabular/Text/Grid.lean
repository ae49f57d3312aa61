import Tabular.Text.Width

/-!
# Grids

Texts in columns with a frame of dashes, bars and crosses. A cell may have several lines; a row is
as high as its highest cell, and a column as wide as its widest line.
-/

namespace Tabular.Text

/-- The lines of a cell. -/
abbrev Cell : Type := List (List Char)

/-- The lines of a text, with line feeds between them. -/
def cellOf (text : String) : Cell := text.toList.splitOn '\n'

/-- The columns that a cell takes. -/
def Cell.width (c : Cell) : Nat := (c.map Text.width).foldl max 0

/-- A row of titles, and rows of cells. Rows may differ in length; cells at the end that are missing
are blank. -/
structure Grid where
  header : List Cell
  rows : List (List Cell)

namespace Grid

/-- All rows, the titles first. -/
def allRows (g : Grid) : List (List Cell) := g.header :: g.rows

def columnCount (g : Grid) : Nat := (g.allRows.map List.length).foldl max 0

/-- The width of a column, which is at least one. -/
def columnWidth (g : Grid) (column : Nat) : Nat :=
  (g.allRows.map fun row => (row[column]?.map Cell.width).getD 0).foldl max 1

def columnWidths (g : Grid) : List Nat := (List.range g.columnCount).map g.columnWidth

/-- A line of the frame, which has a cross at the end of each column. -/
def rule (widths : List Nat) : List Char :=
  '+' :: "+".toList.intercalate (widths.map fun w => List.replicate (w + 2) '-') ++ ['+']

/-- A line of a cell with a blank on both sides, filled up to the width of its column. -/
def padded (width : Nat) (line : List Char) : List Char :=
  ' ' :: line ++ List.replicate (width + 1 - Text.width line) ' '

/-- One of the lines of a row; cells that are not as high are blank. -/
def rowLine (widths : List Nat) (row : List Cell) (line : Nat) : List Char :=
  let text (column : Nat) : List Char := ((row[column]?).bind (·[line]?)).getD []
  '|' :: "|".toList.intercalate (widths.zipIdx.map fun w => padded w.1 (text w.2)) ++ ['|']

/-- The number of lines of a row. -/
def rowHeight (row : List Cell) : Nat := (row.map List.length).foldl max 1

/-- The lines of a row. Without columns it has none. -/
def rowLines (widths : List Nat) (row : List Cell) : List (List Char) :=
  if widths.isEmpty then []
  else (List.range (rowHeight row)).map (rowLine widths row)

/-- The lines of a grid: a rule, the titles, a rule, the rows and a rule. -/
def lines (g : Grid) : List (List Char) :=
  let widths := g.columnWidths
  rule widths :: rowLines widths g.header ++ rule widths :: g.rows.flatMap (rowLines widths) ++
    [rule widths]

/-- The text of a grid, every line with a line feed after it. -/
def render (g : Grid) : String :=
  String.ofList (g.lines.flatMap fun line => line ++ ['\n'])

end Grid

end Tabular.Text
