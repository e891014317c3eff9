import TerminalSession.Terminal.Basic

/-!
# Cursor motion

Moving the cursor without changing the screen.

## Main definitions

* `Terminal.cursorUp` and its companions: by a number of places, stopping at the border
* `Terminal.moveTo`, `Terminal.moveToRow`, `Terminal.moveToCol`: to a place counted from 1
* `Terminal.tab`, `Terminal.backspace`, `Terminal.carriageReturn`: the control characters
* `Terminal.tabOverflows`: whether a tab leads to a column that is no word
* `Terminal.saveCursor`, `Terminal.restoreCursor`: remember a place and the style there

## Design notes

* A cursor at the margin counts as standing in the last column when it moves backwards.
* Tab stops stand every eight columns. Columns are words of 16 bits, and from column 65528 on the
  next stop is none. There `tab` goes on with the number modulo 2^16, which is column 0, and
  `tabOverflows` tells that this was an overflow. Where arithmetic is checked, nothing comes after
  it.
-/

namespace TerminalSession.Terminal

/-- To the first column of the row. A character that was to wrap does not wrap any more. -/
def carriageReturn (t : Terminal) : Terminal :=
  t.modifyCursor fun c => { c with col := 0 }

/-- One column back; from the margin, to the last column but one. -/
def backspace (t : Terminal) : Terminal :=
  t.modifyCursor fun c => { c with col := min c.col t.lastCol - 1 }

/-- The tab stop after a column, whether or not it is a word. -/
def tabStopAfter (col : Nat) : Nat :=
  (col / 8 + 1) * 8

/-- The tab stop after a column, modulo 2^16. Up to column 65527 this is the stop itself; from there
on `tabOverflows` tells that it is not. -/
def nextTabStop (col : Nat) : Nat :=
  tabStopAfter col % 65536

/-- To the next tab stop, or to the last column if that comes first. If the stop overflows, a
program with checked arithmetic goes no further. -/
def tab (t : Terminal) : Terminal :=
  t.modifyCursor fun c => { c with col := min (nextTabStop c.col) t.lastCol }

/-- Whether the tab stop after the cursor is no word, so that `tab` computes a column modulo 2^16. -/
def tabOverflows (t : Terminal) : Bool :=
  65536 ≤ tabStopAfter t.cursor.col

/-- Up by `n` rows, or to the first one. The region is no obstacle. -/
def cursorUp (t : Terminal) (n : Nat) : Terminal :=
  t.modifyCursor fun c => { c with row := c.row - n }

/-- Down by `n` rows, or to the last one. The region is no obstacle, and nothing scrolls. -/
def cursorDown (t : Terminal) (n : Nat) : Terminal :=
  t.modifyCursor fun c => { c with row := min (c.row + n) t.lastRow }

/-- Right by `n` columns, or to the last one. -/
def cursorForward (t : Terminal) (n : Nat) : Terminal :=
  t.modifyCursor fun c => { c with col := min (c.col + n) t.lastCol }

/-- Left by `n` columns, or to the first one. From the margin it is counted from the last column. -/
def cursorBackward (t : Terminal) (n : Nat) : Terminal :=
  t.modifyCursor fun c => { c with col := min c.col t.lastCol - n }

/-- To a column, counted from 1. A number beyond the last column stands for it, and zero for the
first. -/
def moveToCol (t : Terminal) (col : Nat) : Terminal :=
  t.modifyCursor fun c => { c with col := min (col - 1) t.lastCol }

/-- To a row, counted from 1. A number beyond the last row stands for it, and zero for the first. -/
def moveToRow (t : Terminal) (row : Nat) : Terminal :=
  t.modifyCursor fun c => { c with row := min (row - 1) t.lastRow }

/-- To a row and a column, both counted from 1. Rows are counted from the top of the screen and not
of the region. -/
def moveTo (t : Terminal) (row col : Nat) : Terminal :=
  t.modifyCursor fun c =>
    { c with row := min (row - 1) t.lastRow, col := min (col - 1) t.lastCol }

/-- Remembers where the cursor stands, and the style. What was remembered before is forgotten. -/
def saveCursor (t : Terminal) : Terminal :=
  t.modifyCursor fun c => { c with saved := some { row := c.row, col := c.col, style := t.style } }

/-- Goes back to the remembered place and style, if there is one. It can be done any number of
times. -/
def restoreCursor (t : Terminal) : Terminal :=
  match t.cursor.saved with
  | none => t
  | some saved =>
    { t.modifyCursor fun c => { c with row := saved.row, col := saved.col } with
      style := saved.style }

end TerminalSession.Terminal
