import Ingest.Text.Width

/-!
# Report/Table — tables of text

A table is drawn with a frame around it, a double rule below its header and dashed rules between its
rows and columns. A column is as wide as its widest line, with a blank on both sides; a cell of
several lines makes its row as high as it needs. So all lines of a table are equally wide.
-/

namespace Ingest

/-- A table of text. -/
structure Table where
  /-- The headings of the columns. -/
  header : List String
  /-- The rows, each with a cell for every column. -/
  rows : List (List String)
deriving DecidableEq, Repr

namespace Table

/-- The lines of a cell. -/
def cellLines (cell : String) : List String := cell.splitOn "\n"

/-- The greatest of some numbers. -/
def greatest (ns : List Nat) : Nat := ns.foldl max 0

/-- The width of the widest line of a cell. -/
def cellWidth (cell : String) : Nat := greatest ((cellLines cell).map Text.width)

/-- The width of each column. -/
def widths (t : Table) : List Nat :=
  (List.range t.header.length).map fun i =>
    greatest ((t.header :: t.rows).map fun row => cellWidth ((row[i]?).getD ""))

/-- `n` times the same text. -/
def times (n : Nat) (s : String) : String := String.join (List.replicate n s)

/-! ## Rules -/

/-- How a horizontal rule is drawn. -/
structure Rule where
  /-- Its left end. -/
  left : String
  /-- Its stroke. -/
  stroke : String
  /-- Its crossing with the line between two columns. -/
  crossing : String
  /-- Its right end. -/
  right : String

/-- The rule above the header. -/
def topRule : Rule := ⟨"╭", "─", "┬", "╮"⟩

/-- The rule below the header. -/
def headerRule : Rule := ⟨"╞", "═", "╪", "╡"⟩

/-- The rule between two rows. -/
def rowRule : Rule := ⟨"├", "╌", "┼", "┤"⟩

/-- The rule below the last row. -/
def bottomRule : Rule := ⟨"╰", "─", "┴", "╯"⟩

/-- A rule across columns of given widths. -/
def Rule.draw (r : Rule) (widths : List Nat) : String :=
  r.left ++ r.crossing.intercalate (widths.map fun w => times (w + 2) r.stroke) ++ r.right

/-! ## Rows -/

/-- A line of a cell, filled up to the width of its column. -/
def padded (w : Nat) (line : String) : String :=
  " " ++ line ++ times (w - Text.width line) " " ++ " "

/-- One line of a row: line `k` of each of its cells. -/
def rowLine (widths : List Nat) (row : List String) (k : Nat) : String :=
  let cells := widths.zipIdx.map fun (w, i) => padded w (((cellLines ((row[i]?).getD ""))[k]?).getD "")
  "│" ++ "┆".intercalate cells ++ "│"

/-- The lines of a row. -/
def rowLines (widths : List Nat) (row : List String) : List String :=
  (List.range (greatest (row.map fun cell => (cellLines cell).length))).map (rowLine widths row)

/-- The lines of a table. -/
def lines (t : Table) : List String :=
  let widths := t.widths
  [topRule.draw widths] ++ rowLines widths t.header ++ [headerRule.draw widths] ++
    [rowRule.draw widths].intercalate (t.rows.map (rowLines widths)) ++ [bottomRule.draw widths]

/-- The text of a table. -/
def text (t : Table) : String := "\n".intercalate t.lines

end Table

end Ingest
