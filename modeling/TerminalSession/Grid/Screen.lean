import TerminalSession.Grid.Row

/-!
# Screens

The rows of a screen, the history of rows that left it at the top, and the window laid over both.

## Main definitions

* `Screen`: rows, history, and how far back the window stands
* `Screen.remember`: one row enters the history
* `Screen.scrollUp`, `Screen.scrollDown`: move the rows of a region by one
* `Screen.rowAt?`: the row shown at a place of the window

## Design notes

* The history is kept oldest row first, so `history ++ rows` is everything there is, in order, and
  the window is a stretch of it.
* A window that stands back keeps showing the same rows while the history grows.
-/

namespace TerminalSession

/-- A screen with its history. The oldest row of the history comes first, and there are at most
`limit` of them. The offset tells how many rows the window stands back; it is 0 at the live end. -/
structure Screen where
  rows : Array Row
  history : Array Row := #[]
  limit : Nat
  offset : Nat := 0
  deriving DecidableEq, Repr, Inhabited

namespace Screen

/-- A screen that was never written, with room for `limit` rows of history. -/
def blank (cols rows limit : Nat) : Screen :=
  { rows := Array.replicate rows (Row.blank cols), limit }

/-- The rows of history and screen. -/
def totalLines (s : Screen) : Nat :=
  s.history.size + s.rows.size

/-- The screen with one of its rows changed. Where there is no such row nothing changes. -/
def modifyRow (s : Screen) (row : Nat) (f : Row → Row) : Screen :=
  { s with rows := s.rows.modify row f }

@[simp] theorem size_modifyRow (s : Screen) (row : Nat) (f : Row → Row) :
    (s.modifyRow row f).rows.size = s.rows.size := by
  simp [modifyRow]

/-! ### History and window -/

/-- A row enters the history, and the oldest one leaves when there is no room. A window that stands
back moves with its rows. -/
def remember (s : Screen) (row : Row) : Screen :=
  if s.limit = 0 then s
  else
    let grown := s.history.push row
    let history := if s.limit < grown.size then grown.drop 1 else grown
    { s with history, offset := if 0 < s.offset then min (s.offset + 1) history.size else 0 }

@[simp] theorem rows_remember (s : Screen) (row : Row) : (s.remember row).rows = s.rows := by
  unfold remember
  split <;> rfl

/-- The row shown at a place of the window, counted from its top. The window begins in the history
and ends on the screen, as far as the offset says. -/
def rowAt? (s : Screen) (place : Nat) : Option Row :=
  let line := s.history.size - s.offset + place
  if line < s.history.size then s.history[line]? else s.rows[line - s.history.size]?

/-- The window moved towards older rows, as far as the history reaches. -/
def windowBack (s : Screen) (n : Nat) : Screen :=
  { s with offset := min (s.offset + n) s.history.size }

/-- The window moved towards the live end, and not past it. -/
def windowForward (s : Screen) (n : Nat) : Screen :=
  { s with offset := s.offset - n }

/-- The window moved by a signed number of rows, older ones being negative. -/
def moveWindow (s : Screen) (delta : Int) : Screen :=
  if delta < 0 then s.windowBack delta.natAbs else s.windowForward delta.natAbs

/-- The screen without history, with its window at the live end. -/
def forget (s : Screen) : Screen :=
  { s with history := #[], offset := 0 }

/-! ### Moving rows -/

/-- The row at `top` is taken out and an empty row comes in at `bottom`. -/
def dropLine (s : Screen) (cols top bottom : Nat) : Screen :=
  { s with
    rows := (s.rows.eraseIdxIfInBounds top).insertIdxIfInBounds bottom (Row.blank cols) }

/-- The row at `bottom` is taken out and an empty row comes in at `top`. -/
def addLine (s : Screen) (cols top bottom : Nat) : Screen :=
  { s with
    rows := (s.rows.eraseIdxIfInBounds bottom).insertIdxIfInBounds top (Row.blank cols) }

/-- The rows from `top` to `bottom` move up by one. When `keep` is set, the row that leaves enters
the history. -/
def scrollUp (s : Screen) (cols top bottom : Nat) (keep : Bool) : Screen :=
  let s' := s.dropLine cols top bottom
  if keep then
    match s.rows[top]? with
    | some row => s'.remember row
    | none => s'
  else s'

/-- The rows from `top` to `bottom` move down by one. -/
def scrollDown (s : Screen) (cols top bottom : Nat) : Screen :=
  s.addLine cols top bottom

/-! ### Size -/

/-- The screen cut or filled to a size, row by row. No row is joined or broken, so text is lost at
the right and below. -/
def crop (s : Screen) (cols rows : Nat) : Screen :=
  { s with
    rows := (s.rows.take rows ++ Array.replicate (rows - s.rows.size) (Row.blank cols)).map
      fun row => row.fit cols
    offset := min s.offset s.history.size }

end Screen

end TerminalSession
