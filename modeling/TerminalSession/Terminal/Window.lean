import TerminalSession.Terminal.Basic

/-!
# The window

What a viewer of the terminal sees.

## Main definitions

* `CursorReport`: where the cursor is seen, counted from 1
* `Terminal.scrollWindow`: move the window over the history
* `Terminal.dump`: the text of the window
* `Terminal.cursorReport`: the cursor in the window
-/

namespace TerminalSession

/-- Where the cursor is seen in the window, counted from 1. Without a visible cursor both numbers
are 0. -/
structure CursorReport where
  col : Nat := 0
  row : Nat := 0
  valid : Bool := false
  deriving DecidableEq, Repr, Inhabited

namespace Terminal

/-- The window moves by a signed number of rows, older ones being negative. -/
def scrollWindow (t : Terminal) (delta : Int) : Terminal :=
  t.modifyScreen fun s => s.moveWindow delta

/-- The text of one row of the window. A place without a row shows spaces, so that the window always
has the same shape. -/
def windowRow (t : Terminal) (place : Nat) : Text :=
  match t.screen.rowAt? place with
  | some row => row.render t.cols
  | none => List.replicate t.cols ' '

/-- The text of the window, one line for each row, from the top. -/
def dump (t : Terminal) : Text :=
  ['\n'].intercalate ((List.range t.rows).map t.windowRow)

/-- Where the cursor is seen in the window, if it is. It moves down as the window stands back, and
out of sight. -/
def cursorReport (t : Terminal) : CursorReport :=
  let row := t.cursor.row + t.screen.offset
  if t.cursor.visible && row < t.rows then
    { col := min t.cursor.col t.lastCol + 1, row := row + 1, valid := true }
  else {}

end Terminal

end TerminalSession
