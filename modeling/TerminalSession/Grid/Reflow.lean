import TerminalSession.Grid.Screen

/-!
# Reflow

Changing the width of a screen together with its history. Rows that were broken at the margin are
joined to lines again, and every line is broken anew.

## Main definitions

* `LogicalLine`: the cells of a line, and the place of the cursor among them
* `LogicalLine.join`: rows become lines
* `Layout`: the rows laid out so far, with `Layout.place` for one cell and `Layout.line` for one
  line
* `Screen.reflow`: the screen at a new size, and the new position of the cursor

## Design notes

* The cursor is carried as the number of cells before it in its line. It may stand past the end of
  the line; the line is then filled up to it.
* Right halves are not laid out: a wide character brings its own. The cursor of a line is found
  again at a cell that is laid out or past the last one. A cursor on a right half is found nowhere,
  and stands at the very first row.
-/

namespace TerminalSession

/-- A line of text over any number of rows, as its cells in order. The cursor is given as the number
of cells before it, and may lie past the last one. -/
structure LogicalLine where
  cells : List Cell
  cursor : Option Nat := none
  deriving DecidableEq, Repr, Inhabited

namespace LogicalLine

/-- Cells without the blank ones at the end. Spaces in another style than the plain one are kept. -/
def trimBlank (cells : List Cell) : List Cell :=
  (cells.reverse.dropWhile Cell.isBlank).reverse

/-- The lines of a list of rows, where a row may carry the column of the cursor. A wrapped row goes
on in the next one with all its cells; the last row of a line loses the blank cells at its end. -/
def join : List (Row × Option Nat) → List LogicalLine
  | [] => []
  | (row, cursor) :: rest =>
    let cells := row.cells.toList
    if row.wrapped then
      match join rest with
      | [] => [{ cells, cursor }]
      | line :: lines =>
        { cells := cells ++ line.cells
          cursor := cursor <|> line.cursor.map (· + cells.length) } :: lines
    else { cells := trimBlank cells, cursor } :: join rest

/-- The line filled with empty cells up to its cursor, which may stand past the last cell. -/
def filled (line : LogicalLine) : List Cell :=
  line.cells ++ List.replicate (line.cursor.getD 0 - line.cells.length) Cell.empty

end LogicalLine

/-- Rows being laid out: those that are complete, the cells of the one being filled, and where the
cursor was found. A place is the number of complete rows above it, and of cells before it in its
row. -/
structure Layout where
  rows : Array Row := #[]
  row : Array Cell := #[]
  cursor : Option (Nat × Nat) := none
  deriving DecidableEq, Repr, Inhabited

namespace Layout

/-- The row being filled is complete and its line goes on in the next one. It may end with a column
for which no character was narrow enough, which is filled up. -/
def breakRow (width : Nat) (layout : Layout) : Layout :=
  { layout with
    rows := layout.rows.push { cells := Row.fitCells layout.row width, wrapped := true }
    row := #[] }

/-- The line ends in the row being filled. The row is filled up and is not wrapped, so that the next
line begins anew. -/
def endRow (width : Nat) (layout : Layout) : Layout :=
  { layout with
    rows := layout.rows.push { cells := Row.fitCells layout.row width }
    row := #[] }

/-- The cursor is where the next cell goes. What was found before is forgotten. -/
def markCursor (layout : Layout) : Layout :=
  { layout with cursor := some (layout.rows.size, layout.row.size) }

/-- How many columns a cell takes in rows of a width. A wide character in a single column is
squeezed into it. -/
def needed (width : Nat) (cell : Cell) : Nat :=
  if cell.width = 2 ∧ 1 < width then 2 else 1

/-- One cell of a line, given with its number in the line, is laid out. A row that has no room for
it is broken first; the cursor is marked where the cell then goes. -/
def place (width : Nat) (cursor : Option Nat) (layout : Layout) (item : Cell × Nat) : Layout :=
  if item.1.isRightHalf then layout
  else
    let layout :=
      if width < layout.row.size + needed width item.1 then layout.breakRow width else layout
    let layout := if cursor = some item.2 then layout.markCursor else layout
    let row := layout.row.push item.1
    { layout with
      row := if needed width item.1 = 2 then row.push (Cell.rightHalf item.1.style) else row }

/-- A line is laid out. A cursor past its last cell is found at its end, on a row of its own where
the last one is full. -/
def line (width : Nat) (layout : Layout) (line : LogicalLine) : Layout :=
  let cells := line.filled
  let layout := cells.zipIdx.foldl (place width line.cursor) layout
  let layout :=
    if line.cursor = some cells.length then
      (if width ≤ layout.row.size then layout.breakRow width else layout).markCursor
    else layout
  layout.endRow width

/-- Lines are laid out one after the other, each from the first column of a new row on. -/
def lines (width : Nat) (list : List LogicalLine) : Layout :=
  list.foldl (line width) {}

end Layout

namespace Screen

/-- The number of rows down to the cursor and to the last row that is not blank, and one at
least. -/
def usedRows (s : Screen) (cursorRow : Nat) : Nat :=
  max (max 1 (s.rows.size - (s.rows.toList.reverse.takeWhile Row.isBlank).length))
    (min cursorRow (s.rows.size - 1) + 1)

/-- The lines of history and screen, with the cursor in its line. Blank rows below the last used one
are left out. -/
def logicalLines (s : Screen) (row col : Nat) : List LogicalLine :=
  let rows := s.history.toList ++ s.rows.toList.take (s.usedRows row)
  LogicalLine.join <| rows.zipIdx.map fun item =>
    (item.1, if item.2 = s.history.size + row then some col else none)

/-- The screen at a new size, and the new row and column of the cursor. Rows that do not fit move
into the history, but not past the cursor; what is then left below the screen is lost. -/
def reflow (s : Screen) (cols rows : Nat) (row col : Nat) : Screen × Nat × Nat :=
  let layout := Layout.lines cols (s.logicalLines row col)
  let cursor := layout.cursor.getD (0, 0)
  let first := min (layout.rows.size - rows) cursor.1
  let shown := (layout.rows.drop first).take rows
  let old := layout.rows.take first
  let history := old.drop (old.size - s.limit)
  ({ s with
      rows := shown ++ Array.replicate (rows - shown.size) (Row.blank cols)
      history
      offset := min s.offset history.size },
    min (cursor.1 - first) (rows - 1), min cursor.2 (cols - 1))

end Screen

end TerminalSession
