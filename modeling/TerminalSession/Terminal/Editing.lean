import TerminalSession.Terminal.Scrolling

/-!
# Erasing and editing

Functions that erase parts of the screen or shift cells inside the cursor's row.

## Main definitions

* `Terminal.eraseLine`, `Terminal.eraseDisplay`: erase to the end, to the start, or everything
* `Terminal.insertChars`, `Terminal.deleteChars`, `Terminal.eraseChars`: from the cursor on

## Design notes

* Erased cells take the present style. Cells that are shifted in are empty.
* A row whose end is erased goes on no further; erasing its start leaves that as it is.
-/

namespace TerminalSession.Terminal

/-- Erases in the cursor's row: 0 from the cursor on, 1 up to and with the cursor, 2 everything. -/
def eraseLine (t : Terminal) (mode : Nat) : Terminal :=
  let col := t.cursor.col
  let style := t.style
  t.modifyCursorRow fun row =>
    match mode with
    | 0 => { row.eraseRange col row.cells.size style with wrapped := false }
    | 1 => row.eraseRange 0 (min col (row.cells.size - 1) + 1) style
    | 2 => { row.eraseRange 0 row.cells.size style with wrapped := false }
    | _ => row

/-- Erases the rows of the screen from `first` up to but not including `past`. The lines of these
rows end with them. -/
def clearRows (t : Terminal) (first past : Nat) : Terminal :=
  let style := t.style
  t.modifyScreen fun s =>
    { s with
      rows := s.rows.mapIdx fun i row => if first ≤ i && i < past then row.clear style else row }

/-- Erases on the screen: 0 from the cursor on, 1 up to and with the cursor, 2 everything. Mode 3
erases the history instead. -/
def eraseDisplay (t : Terminal) (mode : Nat) : Terminal :=
  let row := t.cursor.row
  match mode with
  | 0 => (t.eraseLine 0).clearRows (row + 1) t.screen.rows.size
  | 1 => (t.clearRows 0 row).eraseLine 1
  | 2 => t.clearRows 0 t.screen.rows.size
  | 3 => t.modifyScreen Screen.forget
  | _ => t

/-- Empty cells come in at the cursor; cells at the margin are lost. -/
def insertChars (t : Terminal) (n : Nat) : Terminal :=
  let col := t.cursor.col
  t.modifyCursorRow fun row => if row.cells.size ≤ col then row else row.insertCells col n

/-- Cells at the cursor are taken out; empty cells come in at the margin. -/
def deleteChars (t : Terminal) (n : Nat) : Terminal :=
  let col := t.cursor.col
  t.modifyCursorRow fun row => if row.cells.size ≤ col then row else row.deleteCells col n

/-- Erases `n` cells from the cursor on, or as many as there are. Nothing moves, and the line goes
on in the next row if it did before. -/
def eraseChars (t : Terminal) (n : Nat) : Terminal :=
  let col := t.cursor.col
  let style := t.style
  t.modifyCursorRow fun row => row.eraseRange col (col + n) style

end TerminalSession.Terminal
