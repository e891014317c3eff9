import TerminalSession.Grid.Screen

/-!
# The window of a screen

The window of a screen is a stretch of all its rows, those of the history and those of the screen below
them. It moves towards either end, as far as the history goes.

## Main definitions

* `Screen.lines`: all rows that there are, those of the history first
* `Screen.clampOffset`: the offset after a movement, brought into the range of the history

## Main statements

* `Screen.rowAt?_eq_lines`: a window is a stretch of all rows
* `Screen.moveWindow_eq`: a window inside the history moves by plain clamping
-/

namespace TerminalSession.Screen

variable {s : Screen}

/-! ### What is in the window -/

/-- All rows that there are, those of the history first. The window is a stretch of these. -/
def lines (s : Screen) : List Row := s.history.toList ++ s.rows.toList

/-- The window is a stretch of all rows. -/
theorem rowAt?_eq_lines (s : Screen) (place : Nat) :
    s.rowAt? place = s.lines[s.history.size - s.offset + place]? := by
  rw [lines, List.getElem?_append, Array.length_toList, Array.getElem?_toList,
    Array.getElem?_toList]
  rfl

/-- A row of the window that lies on the screen. -/
theorem rowAt?_eq_rows {place : Nat} (inside : s.offset ≤ s.history.size) (le : s.offset ≤ place) :
    s.rowAt? place = s.rows[place - s.offset]? := by
  unfold rowAt?
  dsimp only
  rw [if_neg (by omega)]
  congr 1
  omega

/-! ### Where the window stands -/

/-- The offset after a movement by a signed number of rows, older ones being negative. -/
def clampOffset (s : Screen) (delta : Int) : Nat :=
  (max 0 (min ((s.offset : Int) - delta) s.history.size)).toNat

theorem coe_clampOffset (s : Screen) (delta : Int) :
    (s.clampOffset delta : Int) = max 0 (min ((s.offset : Int) - delta) s.history.size) :=
  Int.toNat_of_nonneg (by omega)

/-- A window inside the history moves by plain clamping. -/
theorem moveWindow_eq (offset_le : s.offset ≤ s.history.size) (delta : Int) :
    s.moveWindow delta = { s with offset := s.clampOffset delta } := by
  unfold moveWindow windowBack windowForward clampOffset
  split <;> simp only [mk.injEq, true_and] <;> omega

end TerminalSession.Screen
