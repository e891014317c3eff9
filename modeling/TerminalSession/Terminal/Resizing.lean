import TerminalSession.Terminal.Basic

/-!
# Resizing

## Main definitions

* `Cursor.within`: a cursor brought inside a size, with its saved position
* `Terminal.resize`: the terminal at a new size

## Design notes

* The primary screen is reflowed, the alternate screen is cropped: programs that use the alternate
  screen draw it anew themselves.
-/

namespace TerminalSession

/-- The cursor and its saved position brought inside a size. Neither is moved with the text that it
stood in. -/
def Cursor.within (c : Cursor) (cols rows : Nat) : Cursor :=
  { c with
    row := min c.row (rows - 1)
    col := min c.col (cols - 1)
    saved := c.saved.map fun saved =>
      { saved with row := min saved.row (rows - 1), col := min saved.col (cols - 1) } }

/-- The terminal at a new size; the whole screen scrolls from then on. The same size again changes
nothing, not even the region. -/
def Terminal.resize (t : Terminal) (cols rows : Nat) : Terminal :=
  if cols = t.cols ∧ rows = t.rows then t
  else
    let (primary, row, col) := t.primary.reflow cols rows t.primaryCursor.row t.primaryCursor.col
    { t with
      cols, rows, primary
      alternate := t.alternate.crop cols rows
      primaryCursor := { t.primaryCursor with row, col }.within cols rows
      alternateCursor := t.alternateCursor.within cols rows
      region := Region.full rows }

end TerminalSession
