import TerminalSession.Grid.Reflow

/-!
# Terminals

The state that a stream of output acts on.

## Main definitions

* `Cursor`, `Modes`, `Region`: the parts
* `Terminal`: two screens with a cursor each, and what both share
* `Terminal.screen`, `Terminal.cursor`: the screen and the cursor in use
* `Terminal.modifyScreen`, `Terminal.modifyCursor`: change them

## Design notes

* Rows and columns are counted from 0. A cursor whose column equals the number of columns has
  reached the margin: the next character goes to the next row.
* The alternate screen is a fresh screen each time it is entered, and it has no history.
-/

namespace TerminalSession

/-- A remembered cursor position, with the style at that time. -/
structure SavedCursor where
  row : Nat
  col : Nat
  style : Style
  deriving DecidableEq, Repr, Inhabited

/-- A cursor, with the place that was saved with it. Its column may be one past the last: the next
character goes to the next row then. -/
structure Cursor where
  row : Nat := 0
  col : Nat := 0
  visible : Bool := true
  saved : Option SavedCursor := none
  deriving DecidableEq, Repr, Inhabited

/-- The modes that printing and line feeds look at. Both screens share them. -/
structure Modes where
  /-- A character past the margin goes to the next row. -/
  autoWrap : Bool := true
  /-- A character moves the rest of its row to the right. -/
  insert : Bool := false
  /-- A line feed also returns to the first column. -/
  newLine : Bool := false
  deriving DecidableEq, Repr, Inhabited

/-- The rows that scroll, from `top` to `bottom`, both of them included and counted from 0. -/
structure Region where
  top : Nat
  bottom : Nat
  deriving DecidableEq, Repr, Inhabited

/-- The whole screen scrolls, as it does until a region is chosen. -/
def Region.full (rows : Nat) : Region := { top := 0, bottom := rows - 1 }

/-- Two screens and the state they share. One of the screens is in use; each has a cursor of its
own, and the primary one has a history. Style, modes, title and region belong to the terminal,
whichever screen is in use. -/
structure Terminal where
  cols : Nat
  rows : Nat
  primary : Screen
  alternate : Screen
  onAlternate : Bool := false
  primaryCursor : Cursor := {}
  alternateCursor : Cursor := {}
  style : Style := {}
  modes : Modes := {}
  title : Text := []
  region : Region
  deriving DecidableEq, Repr, Inhabited

/-- The rows of history that a terminal keeps when nothing else is said. -/
def defaultHistoryLimit : Nat := 10000

namespace Terminal

/-- A terminal to which nothing was written. The alternate screen has no room for history, both
cursors stand in the corner, and the whole screen scrolls. -/
def fresh (cols rows limit : Nat) : Terminal :=
  { cols, rows
    primary := Screen.blank cols rows limit
    alternate := Screen.blank cols rows 0
    region := Region.full rows }

/-- Everything as at the start, at the present size and with the same room for history. -/
def reset (t : Terminal) : Terminal :=
  fresh t.cols t.rows t.primary.limit

/-- The screen in use. Most operations change no other. -/
def screen (t : Terminal) : Screen :=
  if t.onAlternate then t.alternate else t.primary

/-- The cursor in use, which is the one that belongs to the screen in use. -/
def cursor (t : Terminal) : Cursor :=
  if t.onAlternate then t.alternateCursor else t.primaryCursor

/-- The terminal with the screen in use changed. The other screen, both cursors and what is shared
stay as they are. -/
@[inline] def modifyScreen (t : Terminal) (f : Screen → Screen) : Terminal :=
  if t.onAlternate then { t with alternate := f t.alternate } else { t with primary := f t.primary }

/-- The terminal with the cursor in use changed, and nothing else. -/
@[inline] def modifyCursor (t : Terminal) (f : Cursor → Cursor) : Terminal :=
  if t.onAlternate then { t with alternateCursor := f t.alternateCursor }
  else { t with primaryCursor := f t.primaryCursor }

/-- The terminal with the row of the screen changed in which the cursor stands. -/
@[inline] def modifyCursorRow (t : Terminal) (f : Row → Row) : Terminal :=
  let row := t.cursor.row
  t.modifyScreen fun s => s.modifyRow row f

/-- The last column, counted from 0. -/
def lastCol (t : Terminal) : Nat := t.cols - 1

/-- The last row, counted from 0. -/
def lastRow (t : Terminal) : Nat := t.rows - 1

@[simp] theorem screen_modifyScreen (t : Terminal) (f : Screen → Screen) :
    (t.modifyScreen f).screen = f t.screen := by
  unfold modifyScreen screen
  split <;> simp_all

/-- A change of the screen in use is what it makes of that screen. -/
theorem modifyScreen_congr {t : Terminal} {f g : Screen → Screen} (eq : f t.screen = g t.screen) :
    t.modifyScreen f = t.modifyScreen g := by
  unfold modifyScreen
  unfold screen at eq
  split
  next on => rw [if_pos on] at eq; rw [eq]
  next off => rw [if_neg off] at eq; rw [eq]

theorem modifyScreen_modifyScreen (t : Terminal) (f g : Screen → Screen) :
    (t.modifyScreen f).modifyScreen g = t.modifyScreen fun s => g (f s) := by
  unfold modifyScreen
  split <;> simp_all

@[simp] theorem cursor_modifyScreen (t : Terminal) (f : Screen → Screen) :
    (t.modifyScreen f).cursor = t.cursor := by
  unfold modifyScreen cursor
  split <;> rfl

@[simp] theorem cursor_modifyCursor (t : Terminal) (f : Cursor → Cursor) :
    (t.modifyCursor f).cursor = f t.cursor := by
  unfold modifyCursor cursor
  split <;> simp_all

@[simp] theorem screen_modifyCursor (t : Terminal) (f : Cursor → Cursor) :
    (t.modifyCursor f).screen = t.screen := by
  unfold modifyCursor screen
  split <;> rfl

/-! ### What a change of the screen or of the cursor leaves alone -/

@[simp] theorem cols_modifyScreen (t : Terminal) (f : Screen → Screen) :
    (t.modifyScreen f).cols = t.cols := by
  unfold modifyScreen
  split <;> rfl

@[simp] theorem cols_modifyCursor (t : Terminal) (f : Cursor → Cursor) :
    (t.modifyCursor f).cols = t.cols := by
  unfold modifyCursor
  split <;> rfl

@[simp] theorem rows_modifyScreen (t : Terminal) (f : Screen → Screen) :
    (t.modifyScreen f).rows = t.rows := by
  unfold modifyScreen
  split <;> rfl

@[simp] theorem rows_modifyCursor (t : Terminal) (f : Cursor → Cursor) :
    (t.modifyCursor f).rows = t.rows := by
  unfold modifyCursor
  split <;> rfl

@[simp] theorem onAlternate_modifyScreen (t : Terminal) (f : Screen → Screen) :
    (t.modifyScreen f).onAlternate = t.onAlternate := by
  unfold modifyScreen
  split <;> rfl

@[simp] theorem onAlternate_modifyCursor (t : Terminal) (f : Cursor → Cursor) :
    (t.modifyCursor f).onAlternate = t.onAlternate := by
  unfold modifyCursor
  split <;> rfl

@[simp] theorem region_modifyCursor (t : Terminal) (f : Cursor → Cursor) :
    (t.modifyCursor f).region = t.region := by
  unfold modifyCursor
  split <;> rfl

@[simp] theorem style_modifyScreen (t : Terminal) (f : Screen → Screen) :
    (t.modifyScreen f).style = t.style := by
  unfold modifyScreen
  split <;> rfl

end Terminal

end TerminalSession
