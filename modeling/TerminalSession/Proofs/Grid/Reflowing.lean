import TerminalSession.Proofs.Grid.Columns
import TerminalSession.Proofs.Grid.Following

/-!
# What a reflow makes of any screen

A reflow lays out every cell but right halves, and gives each wide character a right half of its own.
So it does not matter what was left of wide characters before: afterwards all of them are whole, and
the cursor stands on a cell that is shown.

## Main definitions

* `Layout.CursorShown`: the cursor was found on a cell that is no right half
* `Screen.Whole`: a screen of a size with all wide characters whole, and a cursor on a cell that is
  shown

## Main statements

* `Layout.cursorShown_lines`: a cursor that is found is found on such a cell
* `Screen.exists_cellAt?_reflow`: after a reflow the cursor stands on such a cell, be it found or not
* `Screen.Whole.reflow`: a reflow makes any screen whole

## Design notes

* Nothing is asked of the place of the cursor before. A cursor outside the screen is found nowhere, as
  one on a right half, and goes to the corner.
-/

namespace TerminalSession

/-- What terminal functions leave behind takes no more than two columns. -/
theorem Cell.common_le_two : Cell.Common fun cell => cell.width ≤ 2 where
  erased _ := Nat.le_succ 1
  space _ := Nat.le_succ 1
  rightHalf _ := Nat.zero_le 2

/-! ### Where the cursor is found -/

namespace Layout

variable {width : Nat} {layout after : Layout}

/-- If the cursor was found, then on a cell that is shown. -/
def CursorShown (layout : Layout) : Prop :=
  ∀ r c : Nat, layout.cursor = some (r, c) →
    ∃ cell before, layout.Shows r c cell before ∧ cell.isRightHalf = false

theorem cursorShown_of_none (none : layout.cursor = none) : layout.CursorShown := by
  intro r c found
  rw [none] at found
  exact absurd found.symm (Option.some_ne_none _)

namespace CursorShown

/-- The cell stays in its place when the layout goes on. -/
theorem of_extends (shown : layout.CursorShown) (ext : layout.Extends after)
    (cursor_eq : after.cursor = layout.cursor) : after.CursorShown := by
  intro r c found
  rw [cursor_eq] at found
  obtain ⟨cell, before, shows_, whole⟩ := shown r c found
  exact ⟨cell, before, shows_.extends ext, whole⟩

/-- A cell is marked with the cursor only when it is put in its place. -/
theorem place (shown : layout.CursorShown) (inWidth : layout.InWidth width) (cursor : Option Nat)
    (item : Cell × Nat) : (place width cursor layout item).CursorShown := by
  by_cases elsewhere : item.1.isRightHalf = true ∨ cursor ≠ some item.2
  · exact shown.of_extends (extends_place inWidth cursor item) (cursor_place elsewhere width layout)
  · obtain ⟨whole, rfl⟩ : item.1.isRightHalf = false ∧ cursor = some item.2 := by
      simpa using elsewhere
    intro r c found
    rw [cursor_place_self whole, Option.some_inj, Prod.mk.injEq] at found
    obtain ⟨rfl, rfl⟩ := found
    exact ⟨item.1, layout.written, place_shows inWidth _ whole, whole⟩

theorem foldl_place (shown : layout.CursorShown) (width_pos : 0 < width)
    (inWidth : layout.InWidth width) (cursor : Option Nat) (items : List (Cell × Nat)) :
    (items.foldl (Layout.place width cursor) layout).CursorShown := by
  induction items generalizing layout with
  | nil => exact shown
  | cons item rest ih =>
    exact ih (shown.place inWidth cursor item) (inWidth.place width_pos cursor item)

/-- A cursor past the last cell is marked where the row is filled up with empty cells. The row has
room, so there is such a cell. -/
theorem endRow_markCursor (room : layout.row.size < width) :
    (layout.markCursor.endRow width).CursorShown := by
  intro r c found
  obtain ⟨rfl, rfl⟩ : layout.rows.size = r ∧ layout.row.size = c :=
    Prod.mk.inj (Option.some.inj found)
  have size : (layout.markCursor.endRow width).rows.size = layout.rows.size + 1 :=
    Array.size_push _
  have cells_eq : (layout.markCursor.endRow width).rowCells layout.rows.size =
      layout.row.toList ++ List.replicate (width - layout.row.size) Cell.empty := by
    rw [rowCells_of_lt (by omega), ← Row.toList_fitCells (Nat.le_of_lt room)]
    simp only [endRow, markCursor, Array.getElem_push_eq]
  refine ⟨Cell.empty, _, ⟨by omega, ?_, rfl⟩, rfl⟩
  rw [cells_eq, List.getElem?_append_right (by simp), List.getElem?_replicate,
    if_pos (by simp; omega)]

theorem close (shown : layout.CursorShown) (width_pos : 0 < width) (inWidth : layout.InWidth width)
    (text : LogicalLine) : (layout.close width text).CursorShown := by
  by_cases past : text.cursor = some text.filled.length
  · unfold Layout.close
    rw [if_pos past]
    split
    · exact endRow_markCursor width_pos
    next room => exact endRow_markCursor (Nat.lt_of_not_le room)
  · exact shown.of_extends (extends_close inWidth text) (cursor_close past width layout)

theorem line (shown : layout.CursorShown) (width_pos : 0 < width) (inWidth : layout.InWidth width)
    (text : LogicalLine) : (line width layout text).CursorShown := by
  rw [line_eq_close]
  exact (shown.foldl_place width_pos inWidth _ _).close width_pos
    (inWidth.foldl_place width_pos _ _) text

end CursorShown

/-- A cursor that is found is found on a cell that is no right half. -/
theorem cursorShown_lines (width_pos : 0 < width) (list : List LogicalLine) :
    (lines width list).CursorShown := by
  have start_shown : ({} : Layout).CursorShown := cursorShown_of_none rfl
  have start_inWidth : ({} : Layout).InWidth width := Nat.zero_le _
  unfold lines
  generalize ({} : Layout) = layout at start_shown start_inWidth ⊢
  induction list generalizing layout with
  | nil => exact start_shown
  | cons text rest ih =>
    exact ih _ (start_shown.line width_pos start_inWidth text) (inWidth_line width layout text)

end Layout

/-! ### The new screen -/

namespace Screen

variable {s : Screen} {cols rows : Nat}

/-- After a reflow all rows have the new width and show all wide characters whole, so they take as
many columns. Nothing is asked of the rows before but that no cell is wider than two. -/
theorem each_reflow (le_two : s.Each (Row.All fun cell => cell.width ≤ 2)) (two_le : 2 ≤ cols)
    (rows row col : Nat) :
    (s.reflow cols rows row col).1.Each fun row =>
      row.cells.size = cols ∧ Row.Paired row.cells ∧ row.columns = cols := by
  have cols_pos : 0 < cols := by omega
  have common := Cell.common_le_two
  have fits := Fits.reflow s cols rows row col
  have uniform : (s.reflow cols rows row col).1.Each fun row => row.cells.size = cols :=
    ⟨fits.uniform_rows, fits.uniform_history⟩
  have paired := le_two.reflow (Layout.Fills.paired two_le) cols_pos common.empty
    (Row.Paired.blank cols) rows row col
  have narrow := le_two.reflow (Layout.Fills.all cols common) cols_pos common.empty
    ((Row.All.lasts common).blank cols) rows row col
  refine ((uniform.and paired).and narrow).imp ?_
  rintro new ⟨⟨size, whole⟩, le_two⟩
  exact ⟨size, whole, (whole.columns_eq le_two).trans size⟩

/-- In the corner of a screen that shows all wide characters whole there is no right half: its left
half would have to come before it. -/
theorem exists_corner (paired : Row.Each (fun row => Row.Paired row.cells) s.rows)
    (uniform : Row.Uniform cols s.rows) (cols_pos : 0 < cols) (rows_pos : 0 < s.rows.size) :
    ∃ cell, s.cellAt? 0 0 = some cell ∧ cell.isRightHalf = false := by
  obtain ⟨row, row_eq⟩ : ∃ row, s.rows[0]? = some row := ⟨_, Array.getElem?_eq_getElem rows_pos⟩
  have mem : row ∈ s.rows := Array.mem_of_getElem? row_eq
  obtain ⟨cell, cell_eq⟩ : ∃ cell, row.cells[0]? = some cell := by
    refine ⟨_, Array.getElem?_eq_getElem ?_⟩
    rw [uniform row mem]
    exact cols_pos
  have first : Row.widthAt row.cells 0 ≠ 0 := (paired row mem).first
  rw [Row.widthAt, cell_eq] at first
  refine ⟨cell, ?_, beq_eq_false_iff_ne.mpr first⟩
  rw [cellAt?, row_eq]
  exact cell_eq

/-- After a reflow the cursor stands on a cell that is no right half: on the one that was put down
for it, on an empty one at the end of a line, or in the corner. -/
theorem exists_cellAt?_reflow (le_two : s.Each (Row.All fun cell => cell.width ≤ 2))
    (two_le : 2 ≤ cols) (rows_pos : 0 < rows) (row col : Nat) :
    let r := s.reflow cols rows row col
    ∃ cell, r.1.cellAt? r.2.1 r.2.2 = some cell ∧ cell.isRightHalf = false := by
  intro r
  have cols_pos : 0 < cols := by omega
  rcases found : (s.laidOut cols row col).cursor with _ | ⟨i, j⟩
  · obtain ⟨-, corner⟩ := reflow_of_cursor_eq_none rows found
    have fits := Fits.reflow s cols rows row col
    have paired := (each_reflow le_two two_le rows row col).rows
    have exists_cell := exists_corner (fun new mem => (paired new mem).2.1) fits.uniform_rows cols_pos
      (by rw [fits.size_rows]; exact rows_pos)
    rwa [corner]
  · obtain ⟨cell, before, shows_, whole⟩ := Layout.cursorShown_lines cols_pos _ i j found
    obtain ⟨le, lt, cursor_eq⟩ := reflow_cursor rows_pos found shows_
    obtain ⟨cell_eq, -⟩ := cellAt?_reflow shows_ le lt (lt_size_laidOut shows_)
    refine ⟨cell, ?_, whole⟩
    rw [cursor_eq]
    exact cell_eq

/-- A screen of a size, with its history. Every wide character in a row is followed by its right half
and every right half follows one, so that each row takes exactly the columns of the screen. The cursor
stands inside, on a cell that is no right half. -/
structure Whole (cols rows : Nat) (s : Screen) (row col : Nat) : Prop where
  each : s.Each fun row => row.cells.size = cols ∧ Row.Paired row.cells ∧ row.columns = cols
  size_rows : s.rows.size = rows
  row_lt : row < rows
  col_lt : col < cols
  cursor : ∃ cell, s.cellAt? row col = some cell ∧ cell.isRightHalf = false

/-- A reflow makes a screen whole, whatever halves of wide characters it has and wherever the cursor
is. -/
theorem Whole.reflow (le_two : s.Each (Row.All fun cell => cell.width ≤ 2)) (two_le : 2 ≤ cols)
    (rows_pos : 0 < rows) (row col : Nat) :
    let r := s.reflow cols rows row col
    r.1.Whole cols rows r.2.1 r.2.2 where
  each := each_reflow le_two two_le rows row col
  size_rows := (Fits.reflow s cols rows row col).size_rows
  row_lt := s.row_reflow_lt cols row col rows_pos
  col_lt := s.col_reflow_lt rows row col (Nat.lt_of_lt_of_le Nat.two_pos two_le)
  cursor := exists_cellAt?_reflow le_two two_le rows_pos row col

end Screen

end TerminalSession
