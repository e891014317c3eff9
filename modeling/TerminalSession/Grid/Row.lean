import TerminalSession.Grid.Cell
import TerminalSession.Text.Blank

/-!
# Rows

A row of cells, and what terminal functions do inside one row.

## Main definitions

* `Row`: the cells, and whether the line went on in the next row
* `Row.write`, `Row.combine`: put a character or a combining mark into a row
* `Row.eraseRange`, `Row.insertCells`, `Row.deleteCells`: the editing functions
* `Row.text`, `Row.render`, `Row.trimmed`: what a row shows

## Design notes

* Every function here keeps the number of cells, except `Row.fit`, which sets it.
* Writing keeps wide characters whole: when one half is written over, the other becomes a space.
-/

namespace TerminalSession

/-- A row of cells. It is wrapped when its line went on in the next row because the margin was
reached. -/
structure Row where
  cells : Array Cell
  wrapped : Bool := false
  deriving DecidableEq, Repr, Inhabited

namespace Row

/-- A row that was never written. -/
def blank (cols : Nat) : Row :=
  { cells := Array.replicate cols Cell.empty }

@[simp] theorem size_blank (cols : Nat) : (blank cols).cells.size = cols := by
  simp [blank]

@[simp] theorem wrapped_blank (cols : Nat) : (blank cols).wrapped = false := rfl

/-- Whether the row looks as if it was never written. -/
def isBlank (row : Row) : Bool :=
  !row.wrapped && row.cells.all Cell.isBlank

/-! ### Size -/

/-- Cells brought to a number of columns: cut off, or filled with empty cells. -/
def fitCells (cells : Array Cell) (cols : Nat) : Array Cell :=
  cells.take cols ++ Array.replicate (cols - cells.size) Cell.empty

@[simp] theorem size_fitCells (cells : Array Cell) (cols : Nat) :
    (fitCells cells cols).size = cols := by
  simp [fitCells]
  omega

/-- A row brought to a number of columns. A wide character that the margin cuts in half is lost. -/
def fit (row : Row) (cols : Nat) : Row :=
  let cells := fitCells row.cells cols
  { row with
    cells := cells.modify (cols - 1) fun last => if last.width = 2 then Cell.empty else last }

@[simp] theorem size_fit (row : Row) (cols : Nat) : (row.fit cols).cells.size = cols := by
  simp [fit]

/-! ### Writing -/

/-- The cells with a character put into a column. The other half of a wide character that is written
over becomes a space, and a wide character takes the column after it too, if there is one. -/
def writeCells (cells : Array Cell) (col : Nat) (cell : Cell) : Array Cell :=
  let onRightHalf := 0 < col && (cells[col]?.map Cell.isRightHalf).getD false
  let cells := if onRightHalf then cells.setIfInBounds (col - 1) (Cell.space cell.style) else cells
  let onLeftHalf := (cells[col]?.map fun old => old.width == 2).getD false
  let cells := if onLeftHalf then cells.setIfInBounds (col + 1) (Cell.space cell.style) else cells
  let cells := cells.setIfInBounds col cell
  if cell.width = 2 then cells.setIfInBounds (col + 1) (Cell.rightHalf cell.style) else cells

/-- The row with a character put into a column. -/
def write (row : Row) (col : Nat) (cell : Cell) : Row :=
  { row with cells := writeCells row.cells col cell }

@[simp] theorem size_write (row : Row) (col : Nat) (cell : Cell) :
    (row.write col cell).cells.size = row.cells.size := by
  simp only [write, writeCells]
  split <;> split <;> split <;> simp

/-- The row with a mark added to the character before a column; none in the first column. Behind a
wide character the mark goes to its left half, where the character is. -/
def combine (row : Row) (col : Nat) (mark : Char) : Row :=
  if col = 0 then row
  else
    let before := min (col - 1) (row.cells.size - 1)
    let onRightHalf := (row.cells[before]?.map Cell.isRightHalf).getD false
    let target := if onRightHalf then before - 1 else before
    { row with
      cells := row.cells.modify target fun old => { old with glyph := old.glyph ++ [mark] } }

@[simp] theorem size_combine (row : Row) (col : Nat) (mark : Char) :
    (row.combine col mark).cells.size = row.cells.size := by
  unfold combine
  split <;> simp

/-! ### Editing -/

/-- The row with the cells from column `first` up to but not including column `past` erased. What is
left of a wide character at either end is not repaired. -/
def eraseRange (row : Row) (first past : Nat) (style : Style) : Row :=
  { row with
    cells := row.cells.mapIdx fun col old =>
      if first ≤ col && col < past then Cell.erased style else old }

@[simp] theorem size_eraseRange (row : Row) (first past : Nat) (style : Style) :
    (row.eraseRange first past style).cells.size = row.cells.size := by
  simp [eraseRange]

/-- The row with every cell erased; its line goes on no further. -/
def clear (row : Row) (style : Style) : Row :=
  { cells := row.cells.map fun _ => Cell.erased style }

@[simp] theorem size_clear (row : Row) (style : Style) :
    (row.clear style).cells.size = row.cells.size := by
  simp [clear]

/-- The row with empty cells put in at a column; what is pushed over the margin is lost. More cells
than there is room for are as many as there is room for. -/
def insertCells (row : Row) (col n : Nat) : Row :=
  let k := min n (row.cells.size - col)
  { row with
    cells := row.cells.extract 0 col ++ Array.replicate k Cell.empty ++
      row.cells.extract col (row.cells.size - k) }

/-- The row with cells taken out at a column; empty cells come in at the margin, so that the row
keeps its length. -/
def deleteCells (row : Row) (col n : Nat) : Row :=
  let k := min n (row.cells.size - col)
  { row with
    cells := row.cells.extract 0 col ++ row.cells.extract (col + k) row.cells.size ++
      Array.replicate k Cell.empty }

@[simp] theorem size_insertCells (row : Row) (col n : Nat) :
    (row.insertCells col n).cells.size = row.cells.size := by
  simp [insertCells]
  omega

@[simp] theorem size_deleteCells (row : Row) (col n : Nat) :
    (row.deleteCells col n).cells.size = row.cells.size := by
  simp [deleteCells]
  omega

/-! ### Showing -/

/-- What the row shows, from its first cell to its last. Right halves show nothing. -/
def text (row : Row) : Text :=
  row.cells.toList.flatMap fun cell => if cell.isRightHalf then [] else cell.shown

/-- How many columns that takes. -/
def columns (row : Row) : Nat :=
  row.cells.foldr (fun cell rest => (if cell.isRightHalf then 0 else max cell.width 1) + rest) 0

/-- What the row shows, filled with spaces to a number of columns. A row that takes more is not
cut. -/
def render (row : Row) (cols : Nat) : Text :=
  row.text ++ List.replicate (cols - row.columns) ' '

/-- What the row shows, without the white space at its end. -/
def trimmed (row : Row) : Text :=
  Text.trimEnd row.text

end Row

end TerminalSession
