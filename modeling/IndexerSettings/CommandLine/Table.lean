import IndexerSettings.Text.Columns

/-!
# Tables

Rows of cells under a header, drawn with lines.  A column is as wide as its
widest line; a cell with several lines makes its row as high.
-/

namespace IndexerSettings.Table

/-- The lines of a cell. -/
def cellLines (cell : String) : List String := cell.splitOn "\n"

/-- The cells that the widest line of a cell takes. -/
def cellColumns (cell : String) : Nat :=
  ((cellLines cell).map Text.columns).foldl max 0

/-- The widths of the columns of some rows, as many as there are in `header`. -/
def widths (header : List String) (rows : List (List String)) : List Nat :=
  rows.foldl (fun ws row => ws.zipWith max (row.map cellColumns))
    (header.map cellColumns)

/-- The marks of a horizontal line: its ends, what it is drawn with, and where
it crosses the line between two columns. -/
structure Rule where
  left : String
  stroke : Char
  cross : String
  right : String

def topRule : Rule := ⟨"┌", '─', "┬", "┐"⟩

def headerRule : Rule := ⟨"╞", '═', "╪", "╡"⟩

def rowRule : Rule := ⟨"├", '╌', "┼", "┤"⟩

def bottomRule : Rule := ⟨"└", '─', "┴", "┘"⟩

/-- A horizontal line across columns; a cell has a space on either side. -/
def Rule.line (r : Rule) (widths : List Nat) : String :=
  r.left
    ++ r.cross.intercalate
      (widths.map fun w => String.ofList (List.replicate (w + 2) r.stroke))
    ++ r.right

/-- A line of a cell, filled up to the width of its column. -/
def padded (width : Nat) (line : String) : String :=
  line ++ String.ofList (List.replicate (width - Text.columns line) ' ')

/-- The lines of a row. -/
def rowLines (widths : List Nat) (row : List String) : List String :=
  let cells := row.map cellLines
  let height := (cells.map List.length).foldl max 0
  (List.range height).map fun i =>
    "│ " ++ " ┆ ".intercalate
      (widths.zipWith (fun w cell => padded w (cell.getD i "")) cells) ++ " │"

/-- The rows after the first, each below a line. -/
def furtherLines (widths : List Nat) : List (List String) → List String
  | [] => []
  | row :: rest =>
    rowRule.line widths :: rowLines widths row ++ furtherLines widths rest

/-- The lines of a table. -/
def lines (header : List String) (rows : List (List String)) : List String :=
  let ws := widths header rows
  topRule.line ws :: rowLines ws header
    ++ headerRule.line ws :: (match rows with
      | [] => []
      | row :: rest => rowLines ws row ++ furtherLines ws rest)
    ++ [bottomRule.line ws]

end IndexerSettings.Table
