import Mathlib.Data.List.DropRight
import TerminalSession.Grid.Reflow

/-!
# What is written on a screen

A screen is read cell by cell, the history first. Laying it out anew moves cells to other rows, pads
rows and drops blank ends, but what is read of it stays the same, up to rows that found no room.

## Main definitions

* `Cell.isWritten`: whether a cell counts when a screen is read
* `Row.writtenIn`, `Screen.written`: what is read of rows, and of a screen with its history
* `Screen.laidOut`, `Screen.firstShown`: the layout of a screen, and the first row of it that is
  shown at the new size
* `Screen.evicted`, `Screen.cutOff`: the rows laid out that are lost at the top and at the bottom

## Main statements

* `LogicalLine.written_join`: joining rows to lines loses nothing that is written
* `Layout.written_lines`: neither does laying out lines
* `Screen.rows_laidOut`: where the rows laid out go
* `Screen.written_reflow`: what is written after a reflow

## Design notes

* A row being filled is counted with the rows of a layout, so `Layout.written` grows with every cell
  that is placed. This needs the row to be no longer than the width, which is `Layout.InWidth`.
-/

namespace TerminalSession

/-- Whether a cell counts when a screen is read: it is neither the right half of another one nor
blank. -/
def Cell.isWritten (cell : Cell) : Bool := !cell.isRightHalf && !cell.isBlank

@[simp] theorem Cell.isWritten_empty : Cell.empty.isWritten = false := rfl

@[simp] theorem Cell.isWritten_rightHalf (style : Style) :
    (Cell.rightHalf style).isWritten = false := rfl

/-- A wide character is counted once, with its left half. -/
theorem Cell.isWritten_of_isRightHalf {cell : Cell} (half : cell.isRightHalf = true) :
    cell.isWritten = false := by
  rw [isWritten, half]
  rfl

/-- A space of the default style counts as if nothing had been written there. -/
theorem Cell.isWritten_of_isBlank {cell : Cell} (blank : cell.isBlank = true) :
    cell.isWritten = false := by
  rw [isWritten, blank, Bool.not_true, Bool.and_false]

/-! ### Rows -/

namespace Row

/-- What is written in a row, from left to right, with glyph, width and style of each cell. -/
def written (row : Row) : List Cell := row.cells.toList.filter Cell.isWritten

/-- What is written in rows, one after the other. -/
def writtenIn (rows : List Row) : List Cell := rows.flatMap written

@[simp] theorem writtenIn_nil : writtenIn [] = [] := rfl

@[simp] theorem writtenIn_cons (row : Row) (rest : List Row) :
    writtenIn (row :: rest) = row.written ++ writtenIn rest := rfl

/-- Rows are read one after the other, so what is written in two stretches of rows follows one
another. -/
@[simp] theorem writtenIn_append (a b : List Row) :
    writtenIn (a ++ b) = writtenIn a ++ writtenIn b :=
  List.flatMap_append

@[simp] theorem written_blank (cols : Nat) : (blank cols).written = [] := by
  simp [written, blank]

@[simp] theorem writtenIn_replicate_blank (n cols : Nat) :
    writtenIn (List.replicate n (blank cols)) = [] := by
  induction n with
  | zero => rfl
  | succ n ih => rw [List.replicate_succ, writtenIn_cons, written_blank, ih, List.nil_append]

/-- Nothing is written in a row that looks as if it was never written. -/
theorem written_of_isBlank {row : Row} (blank : row.isBlank = true) : row.written = [] := by
  simp only [isBlank, Bool.and_eq_true, Array.all_eq_true_iff_forall_mem] at blank
  refine List.filter_eq_nil_iff.mpr fun cell mem => ?_
  rw [Cell.isWritten_of_isBlank (blank.2 cell (by simpa using mem))]
  exact Bool.false_ne_true

/-- Cells that are not too many are only filled up, and with cells that are not written. -/
theorem toList_fitCells {cells : Array Cell} {width : Nat} (fits : cells.size ≤ width) :
    (fitCells cells width).toList =
      cells.toList ++ List.replicate (width - cells.size) Cell.empty := by
  simp only [fitCells, Array.toList_append, Array.toList_replicate, Array.take_eq_extract,
    Array.toList_extract, List.extract_eq_take_drop, List.drop_zero, Nat.sub_zero]
  rw [List.take_of_length_le (by simpa using fits)]

/-- So filling up a row does not change what is written in it. -/
theorem written_fitCells {cells : Array Cell} {width : Nat} (fits : cells.size ≤ width) :
    (fitCells cells width).toList.filter Cell.isWritten =
      cells.toList.filter Cell.isWritten := by
  rw [toList_fitCells fits, List.filter_append, List.filter_replicate]
  simp

end Row

/-! ### Lines -/

namespace LogicalLine

open Row (writtenIn)

/-- What is written in a line. -/
def written (line : LogicalLine) : List Cell := line.cells.filter Cell.isWritten

/-- The cells that are dropped at the end of a line are not written. -/
theorem written_trimBlank (cells : List Cell) :
    (trimBlank cells).filter Cell.isWritten = cells.filter Cell.isWritten := by
  have dropped : (cells.rtakeWhile Cell.isBlank).filter Cell.isWritten = [] := by
    refine List.filter_eq_nil_iff.mpr fun cell mem => ?_
    rw [Cell.isWritten_of_isBlank (List.mem_rtakeWhile_imp mem)]
    exact Bool.false_ne_true
  calc (trimBlank cells).filter Cell.isWritten
      = (cells.rdropWhile Cell.isBlank).filter Cell.isWritten ++
          (cells.rtakeWhile Cell.isBlank).filter Cell.isWritten := by
        rw [dropped, List.append_nil]
        rfl
    _ = cells.filter Cell.isWritten := by
        rw [← List.filter_append, List.rdropWhile_append_rtakeWhile]

/-- Joining rows to lines loses nothing that is written. What is trimmed at the end of a line is
blank, and blank cells do not count. -/
theorem written_join (rows : List (Row × Option Nat)) :
    (join rows).flatMap written = writtenIn (rows.map Prod.fst) := by
  induction rows with
  | nil => rfl
  | cons item rest ih =>
    obtain ⟨row, cursor⟩ := item
    rw [List.map_cons, Row.writtenIn_cons, ← ih, join]
    dsimp only
    split
    · split
      next none => rw [none]; rfl
      next line lines some =>
        rw [some, List.flatMap_cons, List.flatMap_cons, ← List.append_assoc]
        congr 1
        exact List.filter_append _ _
    · rw [List.flatMap_cons]
      congr 1
      exact written_trimBlank _

/-- The cells that fill a line up to its cursor are not written. -/
theorem written_filled (line : LogicalLine) : line.filled.filter Cell.isWritten = line.written := by
  rw [filled, List.filter_append, List.filter_replicate]
  simp [written]

end LogicalLine
/-! ### Layouts -/

namespace Layout

open Row (writtenIn)

variable {width : Nat} {layout : Layout}

/-- What is written on a screen and in its history, in reading order. -/
def written (layout : Layout) : List Cell :=
  writtenIn layout.rows.toList ++ layout.row.toList.filter Cell.isWritten

/-- The row being filled is not longer than the width, so nothing is cut off when it is brought to
the width in the end. -/
def InWidth (width : Nat) (layout : Layout) : Prop := layout.row.size ≤ width

/-- A row is broken when it has no room for a cell. -/
def makeRoom (width : Nat) (cell : Cell) (layout : Layout) : Layout :=
  if width < layout.row.size + needed width cell then layout.breakRow width else layout

/-- A cell is put into the row being filled, with a right half where it needs two columns. -/
def push (width : Nat) (cell : Cell) (layout : Layout) : Layout :=
  let row := layout.row.push cell
  { layout with row := if needed width cell = 2 then row.push (Cell.rightHalf cell.style) else row }

/-- The cursor is where the next cell goes, on a condition. -/
def markIf (p : Prop) [Decidable p] (layout : Layout) : Layout :=
  if p then layout.markCursor else layout

/-- Right halves are left out: the layout of a wide character brings its own. -/
theorem place_of_isRightHalf {item : Cell × Nat} (half : item.1.isRightHalf = true)
    (width : Nat) (cursor : Option Nat) (layout : Layout) :
    place width cursor layout item = layout :=
  if_pos half

/-- Laying out a cell is making room for it, marking the cursor there, and putting the cell in. -/
theorem place_of_shown {item : Cell × Nat} (shown : item.1.isRightHalf = false) (width : Nat)
    (cursor : Option Nat) (layout : Layout) :
    place width cursor layout item =
      ((layout.makeRoom width item.1).markIf (cursor = some item.2)).push width item.1 :=
  if_neg (by rw [shown]; exact Bool.false_ne_true)

@[simp] theorem rows_markIf (p : Prop) [Decidable p] (layout : Layout) :
    (layout.markIf p).rows = layout.rows := by
  unfold markIf
  split <;> rfl

@[simp] theorem row_markIf (p : Prop) [Decidable p] (layout : Layout) :
    (layout.markIf p).row = layout.row := by
  unfold markIf
  split <;> rfl

/-- Where the cursor was found is no part of the rows. So a layout can be marked without changing
what is written in it. -/
@[simp] theorem written_markIf (p : Prop) [Decidable p] (layout : Layout) :
    (layout.markIf p).written = layout.written := by
  rw [written, rows_markIf, row_markIf, written]

/-- After the end of a row the next one is empty, and fits. -/
theorem inWidth_endRow (width : Nat) (layout : Layout) :
    (layout.endRow width).InWidth width := Nat.zero_le _

/-- Breaking a row moves its cells to the complete ones. It is filled up, since it is no longer than
the width. -/
theorem written_breakRow (inWidth : layout.InWidth width) :
    (layout.breakRow width).written = layout.written := by
  simp only [written, breakRow, Array.toList_push, Row.writtenIn_append, Row.writtenIn_cons,
    Row.writtenIn_nil, Row.written, Row.written_fitCells inWidth, List.filter_nil, List.append_nil]

theorem written_endRow (inWidth : layout.InWidth width) :
    (layout.endRow width).written = layout.written := by
  simp only [written, endRow, Array.toList_push, Row.writtenIn_append, Row.writtenIn_cons,
    Row.writtenIn_nil, Row.written, Row.written_fitCells inWidth, List.filter_nil, List.append_nil]

/-- A cell takes as many columns as there are, at most. This is why a wide character is squeezed
into a single one. -/
theorem needed_le (width_pos : 0 < width) (cell : Cell) : needed width cell ≤ width := by
  unfold needed
  split <;> omega

/-- After a row was broken where necessary, there is room for the cell. -/
theorem room_makeRoom (width_pos : 0 < width) (cell : Cell) (layout : Layout) :
    (layout.makeRoom width cell).row.size + needed width cell ≤ width := by
  unfold makeRoom
  split
  · simpa [breakRow] using needed_le width_pos cell
  · omega

theorem written_makeRoom (inWidth : layout.InWidth width) (cell : Cell) :
    (layout.makeRoom width cell).written = layout.written := by
  unfold makeRoom
  split
  · exact written_breakRow inWidth
  · rfl

/-- A cell takes its columns in the row that is being filled. -/
theorem size_push (width : Nat) (cell : Cell) (layout : Layout) :
    (layout.push width cell).row.size = layout.row.size + needed width cell := by
  unfold push
  dsimp only
  split
  next two => rw [Array.size_push, Array.size_push, two]
  next other =>
    unfold needed at other ⊢
    split at other
    · exact absurd rfl other
    next narrow => rw [Array.size_push, if_neg narrow]

/-- What is added to a row is the cell itself. The right half that it may bring is not written. -/
theorem written_push (width : Nat) (cell : Cell) (layout : Layout) :
    (layout.push width cell).written = layout.written ++ [cell].filter Cell.isWritten := by
  have same : (layout.push width cell).row.toList.filter Cell.isWritten =
      layout.row.toList.filter Cell.isWritten ++ [cell].filter Cell.isWritten := by
    unfold push
    dsimp only
    split <;> simp [List.filter_append, List.filter_cons]
  rw [written, same, ← List.append_assoc]
  rfl

/-- So a row stays no longer than the width, cell by cell. -/
theorem InWidth.place (width_pos : 0 < width) (inWidth : layout.InWidth width)
    (cursor : Option Nat) (item : Cell × Nat) : (place width cursor layout item).InWidth width := by
  cases shown : item.1.isRightHalf with
  | true => rwa [place_of_isRightHalf shown]
  | false =>
    rw [place_of_shown shown, InWidth, size_push, row_markIf]
    exact room_makeRoom width_pos _ _

/-- A cell that is laid out is read after what was laid out before. -/
theorem written_place (inWidth : layout.InWidth width) (cursor : Option Nat) (item : Cell × Nat) :
    (place width cursor layout item).written = layout.written ++ [item.1].filter Cell.isWritten := by
  cases shown : item.1.isRightHalf with
  | true =>
    rw [place_of_isRightHalf shown]
    simp [Cell.isWritten_of_isRightHalf shown]
  | false => rw [place_of_shown shown, written_push, written_markIf, written_makeRoom inWidth]

/-- And along a line. -/
theorem InWidth.foldl_place (width_pos : 0 < width) (cursor : Option Nat)
    (items : List (Cell × Nat)) (inWidth : layout.InWidth width) :
    (items.foldl (Layout.place width cursor) layout).InWidth width := by
  induction items generalizing layout with
  | nil => exact inWidth
  | cons item rest ih => exact ih (inWidth.place width_pos cursor item)

/-- The cells of a line are laid out in order, and each that is written is written once. The
induction is on the cells that are still to come, over any layout. -/
theorem written_foldl_place (width_pos : 0 < width) (cursor : Option Nat)
    (items : List (Cell × Nat)) (inWidth : layout.InWidth width) :
    (items.foldl (place width cursor) layout).written =
      layout.written ++ (items.map Prod.fst).filter Cell.isWritten := by
  induction items generalizing layout with
  | nil => rw [List.foldl_nil, List.map_nil, List.filter_nil, List.append_nil]
  | cons item rest ih =>
    rw [List.foldl_cons, ih (inWidth.place width_pos cursor item), written_place inWidth,
      List.append_assoc, ← List.filter_append]
    rfl

/-- What is written in a line is read after what was laid out before. Breaks, and the blank cells
that fill up rows, add nothing to it. -/
theorem written_line (width_pos : 0 < width) (inWidth : layout.InWidth width)
    (text : LogicalLine) : (line width layout text).written = layout.written ++ text.written := by
  have placed := written_foldl_place width_pos text.cursor text.filled.zipIdx inWidth
  have placed_inWidth := inWidth.foldl_place width_pos text.cursor text.filled.zipIdx
  rw [List.zipIdx_map_fst, text.written_filled] at placed
  unfold line
  dsimp only
  generalize text.filled.zipIdx.foldl (place width text.cursor) layout = after
    at placed placed_inWidth ⊢
  rw [← placed]
  -- A line may end with one more break, when the cursor stands past its cells at the margin.
  split
  · split
    · have cleared : (after.breakRow width).markCursor.InWidth width := Nat.zero_le _
      rw [written_endRow cleared]
      exact written_breakRow placed_inWidth
    · exact written_endRow placed_inWidth
  · exact written_endRow placed_inWidth

theorem inWidth_line (width : Nat) (layout : Layout) (text : LogicalLine) :
    (line width layout text).InWidth width := inWidth_endRow width _

/-- So are the lines, one after the other. -/
theorem written_foldl_line (width_pos : 0 < width) (list : List LogicalLine)
    (inWidth : layout.InWidth width) :
    (list.foldl (line width) layout).written =
      layout.written ++ list.flatMap LogicalLine.written := by
  induction list generalizing layout with
  | nil => rw [List.foldl_nil, List.flatMap_nil, List.append_nil]
  | cons text rest ih =>
    rw [List.foldl_cons, ih (inWidth_line width layout text), written_line width_pos inWidth,
      List.append_assoc]
    rfl

/-- Between two lines no row is being filled. -/
theorem row_lines (width : Nat) (list : List LogicalLine) : (lines width list).row = #[] := by
  unfold lines
  rcases list.eq_nil_or_concat with rfl | ⟨rest, text, rfl⟩
  · rfl
  · rw [List.concat_eq_append, List.foldl_append]
    rfl

/-- Laying out lines loses nothing that is written. -/
theorem written_lines (width_pos : 0 < width) (list : List LogicalLine) :
    writtenIn (lines width list).rows.toList = list.flatMap LogicalLine.written := by
  have start : ({} : Layout).InWidth width := Nat.zero_le _
  have all : (lines width list).written = list.flatMap LogicalLine.written :=
    written_foldl_line width_pos list start
  rw [written, row_lines] at all
  simpa using all

end Layout

/-! ### Screens -/

namespace Screen

open Row (writtenIn)

/-- The rows of the history and of the screen, oldest first, whether or not anything is written in
them. -/
def allRows (s : Screen) : List Row := s.history.toList ++ s.rows.toList

/-- What is written on a screen and in its history. -/
def written (s : Screen) : List Cell := writtenIn s.allRows

/-- The layout of a screen, with its history, at another width. It has all rows, before any of them
is lost for want of room. -/
def laidOut (s : Screen) (cols row col : Nat) : Layout :=
  Layout.lines cols (s.logicalLines row col)

/-- The first row laid out that is shown. The rows above it go into the history. -/
def firstShown (s : Screen) (cols rows row col : Nat) : Nat :=
  min ((s.laidOut cols row col).rows.size - rows) ((s.laidOut cols row col).cursor.getD (0, 0)).1

/-- The rows laid out for which the history has no room. They are the oldest of those above the
first row shown. -/
def evicted (s : Screen) (cols rows row col : Nat) : List Row :=
  (s.laidOut cols row col).rows.toList.take (s.firstShown cols rows row col - s.limit)

/-- The rows laid out that are left below the screen, where the cursor keeps the rows above it in
view. -/
def cutOff (s : Screen) (cols rows row col : Nat) : List Row :=
  (s.laidOut cols row col).rows.toList.drop (s.firstShown cols rows row col + rows)

variable (s : Screen) (cols rows row col : Nat)

/-- The first row that is shown is one of those that were laid out, or follows right after them. -/
theorem firstShown_le : s.firstShown cols rows row col ≤ (s.laidOut cols row col).rows.size := by
  unfold firstShown
  omega

/-- The rows above the first one shown are lost or go into the history: the last of them are kept,
as many as there is room for. -/
theorem evicted_append_history :
    s.evicted cols rows row col ++ (s.reflow cols rows row col).1.history.toList =
      (s.laidOut cols row col).rows.toList.take (s.firstShown cols rows row col) := by
  have le := s.firstShown_le cols rows row col
  change s.evicted cols rows row col ++
    (((s.laidOut cols row col).rows.take (s.firstShown cols rows row col)).drop
      (((s.laidOut cols row col).rows.take (s.firstShown cols rows row col)).size - s.limit)).toList
    = _
  rw [evicted]
  generalize s.firstShown cols rows row col = first at le ⊢
  generalize (s.laidOut cols row col).rows = laid at le ⊢
  -- The history takes the last rows above the screen, as many as its limit.
  have split : laid.toList.take first = laid.toList.take (first - s.limit) ++
      (laid.toList.drop (first - s.limit)).take (first - (first - s.limit)) := by
    rw [← List.take_add]
    congr 1
    omega
  rw [split]
  simp [Nat.min_eq_left le]

/-- The rows shown are the next ones, with blank rows below them if they are too few. If they are
too many, those further down are cut off. -/
theorem toList_rows_reflow :
    (s.reflow cols rows row col).1.rows.toList =
      ((s.laidOut cols row col).rows.toList.drop (s.firstShown cols rows row col)).take rows ++
        List.replicate
          (rows - ((s.laidOut cols row col).rows.size - s.firstShown cols rows row col))
          (Row.blank cols) := by
  change (((s.laidOut cols row col).rows.drop (s.firstShown cols rows row col)).take rows ++
    Array.replicate (rows - (((s.laidOut cols row col).rows.drop
      (s.firstShown cols rows row col)).take rows).size) (Row.blank cols)).toList = _
  generalize s.firstShown cols rows row col = first
  generalize (s.laidOut cols row col).rows = laid
  have size : ((laid.drop first).take rows).size = min rows (laid.size - first) := by
    simp
    omega
  have missing : rows - min rows (laid.size - first) = rows - (laid.size - first) := by omega
  have shown : ((laid.drop first).take rows).toList = (laid.toList.drop first).take rows := by
    simp only [Array.take_eq_extract, Array.drop_eq_extract, Array.toList_extract,
      List.extract_eq_take_drop, List.drop_zero, Nat.sub_zero]
    congr 1
    exact List.take_of_length_le (by simp)
  rw [size, missing, Array.toList_append, shown, Array.toList_replicate]

/-- The rows of the screen that are not used are blank, so that nothing written is lost with them.
They are the rows below the cursor in which there is nothing, up to the end. -/
theorem writtenIn_drop_usedRows : writtenIn (s.rows.toList.drop (s.usedRows row)) = [] := by
  have split := s.rows.toList.rdropWhile_append_rtakeWhile (p := Row.isBlank)
  have used : (s.rows.toList.rdropWhile Row.isBlank).length ≤ s.usedRows row := by
    have lengths := congrArg List.length split
    simp only [List.length_append, List.rtakeWhile, List.length_reverse, Array.length_toList]
      at lengths
    unfold usedRows
    omega
  have kept : s.rows.toList.drop (s.usedRows row) ⊆ s.rows.toList.rtakeWhile Row.isBlank := by
    conv => lhs; rw [← split]
    rw [List.drop_append, List.drop_eq_nil_of_le used, List.nil_append]
    exact List.drop_subset _ _
  refine List.flatMap_eq_nil_iff.mpr fun unused mem => ?_
  exact Row.written_of_isBlank (List.mem_rtakeWhile_imp (kept mem))

/-- The lines of a screen and its history are all that is written there. -/
theorem flatMap_written_logicalLines :
    (s.logicalLines row col).flatMap LogicalLine.written = s.written := by
  have used : writtenIn s.rows.toList = writtenIn (s.rows.toList.take (s.usedRows row)) := by
    calc writtenIn s.rows.toList
        = writtenIn (s.rows.toList.take (s.usedRows row) ++
            s.rows.toList.drop (s.usedRows row)) := by rw [List.take_append_drop]
      _ = writtenIn (s.rows.toList.take (s.usedRows row)) := by
        rw [Row.writtenIn_append, writtenIn_drop_usedRows, List.append_nil]
  rw [logicalLines, LogicalLine.written_join, List.map_map, written, allRows,
    Row.writtenIn_append, used, ← Row.writtenIn_append]
  congr 1
  exact List.zipIdx_map_fst _ _

/-- What is written down to the last row shown goes into the history or onto the screen. -/
theorem written_reflow :
    writtenIn (s.evicted cols rows row col) ++ (s.reflow cols rows row col).1.written =
      writtenIn ((s.laidOut cols row col).rows.toList.take
        (s.firstShown cols rows row col + rows)) := by
  rw [written, allRows, Row.writtenIn_append, ← List.append_assoc, ← Row.writtenIn_append,
    evicted_append_history, toList_rows_reflow, Row.writtenIn_append,
    Row.writtenIn_replicate_blank, List.append_nil, ← Row.writtenIn_append, ← List.take_add]

/-- The rows laid out are, one after the other, those that are lost at the top, the history, the screen
and those that are cut off at the bottom. Only a screen with nothing below it has blank rows
besides. -/
theorem rows_laidOut :
    s.evicted cols rows row col ++ (s.reflow cols rows row col).1.allRows ++
        s.cutOff cols rows row col =
      (s.laidOut cols row col).rows.toList ++ List.replicate
        (rows - ((s.laidOut cols row col).rows.size - s.firstShown cols rows row col))
        (Row.blank cols) := by
  rw [allRows, ← List.append_assoc, evicted_append_history, toList_rows_reflow, cutOff]
  rcases Nat.le_total (s.laidOut cols row col).rows.size (s.firstShown cols rows row col + rows)
    with all | more
  · -- Every row finds room, so nothing is cut off.
    have length_le : (s.laidOut cols row col).rows.toList.length ≤
        s.firstShown cols rows row col + rows := all
    rw [List.drop_eq_nil_of_le length_le, List.append_nil, ← List.append_assoc, ← List.take_add,
      List.take_of_length_le length_le]
  · -- The screen is full of rows laid out, so none of its rows is blank for want of them.
    have full : rows - ((s.laidOut cols row col).rows.size - s.firstShown cols rows row col) = 0 := by
      omega
    rw [full, List.replicate_zero, List.append_nil, List.append_nil, ← List.take_add,
      List.take_append_drop]

/-- What is written stays, up to the rows lost at the top and at the bottom. -/
theorem written_eq_of_reflow (cols_pos : 0 < cols) :
    s.written = writtenIn (s.evicted cols rows row col) ++
      (s.reflow cols rows row col).1.written ++ writtenIn (s.cutOff cols rows row col) := by
  calc s.written
      = writtenIn (s.laidOut cols row col).rows.toList := by
        rw [laidOut, Layout.written_lines cols_pos, flatMap_written_logicalLines]
    _ = writtenIn (s.evicted cols rows row col ++ (s.reflow cols rows row col).1.allRows ++
          s.cutOff cols rows row col) := by
        rw [rows_laidOut, Row.writtenIn_append, Row.writtenIn_replicate_blank, List.append_nil]
    _ = _ := by rw [Row.writtenIn_append, Row.writtenIn_append, ← written]

/-- Rows are lost at the top only when the history is full. -/
theorem size_history_of_evicted (lost : s.evicted cols rows row col ≠ []) :
    (s.reflow cols rows row col).1.history.size = s.limit := by
  have le := s.firstShown_le cols rows row col
  have sizes := congrArg List.length (s.evicted_append_history cols rows row col)
  rw [evicted, ne_eq, List.take_eq_nil_iff, not_or] at lost
  simp only [evicted, List.length_append, List.length_take, Array.length_toList] at sizes
  omega

/-- Rows are cut off at the bottom only below a cursor in the first row. -/
theorem row_reflow_of_cutOff (cut : s.cutOff cols rows row col ≠ []) :
    (s.reflow cols rows row col).2.1 = 0 := by
  rw [cutOff, ne_eq, List.drop_eq_nil_iff, Array.length_toList, not_le] at cut
  change min (((s.laidOut cols row col).cursor.getD (0, 0)).1 - s.firstShown cols rows row col)
    (rows - 1) = 0
  unfold firstShown at cut ⊢
  omega

/-- What is written on a screen and in its history is still there after a reflow, in order and once
each, between what is written in the rows lost at the top and in the rows cut off at the bottom. These
rows are the first and the last ones laid out: between them are the rows of the history and of the
screen, with blank rows below where too few were laid out. Rows are lost at the top only if the history
is full, and cut off below the screen only if the cursor is in its first row; otherwise what is written
is the same as before. -/
theorem reflow_keeps_written (s : Screen) (rows row col : Nat) {cols : Nat} (cols_pos : 0 < cols) :
    let r := s.reflow cols rows row col
    let lost := s.evicted cols rows row col
    let cut := s.cutOff cols rows row col
    let laid := (s.laidOut cols row col).rows
    s.written = writtenIn lost ++ r.1.written ++ writtenIn cut ∧
      lost ++ r.1.allRows ++ cut = laid.toList ++
        List.replicate (rows - (laid.size - s.firstShown cols rows row col)) (Row.blank cols) ∧
      (lost ≠ [] → r.1.history.size = s.limit) ∧
      (cut ≠ [] → r.2.1 = 0) ∧
      (r.1.history.size ≠ s.limit → r.2.1 ≠ 0 → r.1.written = s.written) := by
  intro r lost cut laid
  have split : s.written = writtenIn lost ++ r.1.written ++ writtenIn cut :=
    s.written_eq_of_reflow cols rows row col cols_pos
  have lost_top : lost ≠ [] → r.1.history.size = s.limit :=
    s.size_history_of_evicted cols rows row col
  have lost_bottom : cut ≠ [] → r.2.1 = 0 := s.row_reflow_of_cutOff cols rows row col
  refine ⟨split, s.rows_laidOut cols rows row col, lost_top, lost_bottom, fun room below => ?_⟩
  have top : lost = [] := not_not.mp (mt lost_top room)
  have bottom : cut = [] := not_not.mp (mt lost_bottom below)
  rw [split, top, bottom, Row.writtenIn_nil, List.nil_append, List.append_nil]

/-- A line over two rows of three columns, below a line in the history, in two rows of two columns and
with one row of history. With the cursor in the second row, the line in the history is lost and the rest
is kept. With the cursor in the first row, that line is kept and the end of the other one is cut off. -/
theorem reflow_keeps_written_narrow :
    let cell := fun c : Char => ({ glyph := [c] } : Cell)
    let s : Screen :=
      { rows := #[{ cells := #[cell 'a', cell 'b', cell 'c'], wrapped := true },
          { cells := #[cell 'd', cell 'e', Cell.empty] }]
        history := #[{ cells := #[cell 'x', Cell.empty, Cell.empty] }]
        limit := 1 }
    let below := s.reflow 2 2 1 1
    let above := s.reflow 2 2 0 1
    s.written = ['x', 'a', 'b', 'c', 'd', 'e'].map cell ∧
      (below.2 = (1, 0) ∧ below.1.written = ['a', 'b', 'c', 'd', 'e'].map cell ∧
        below.1.history.size = 1 ∧ s.cutOff 2 2 1 1 = []) ∧
      (above.2 = (0, 1) ∧ above.1.written = ['x', 'a', 'b', 'c', 'd'].map cell ∧
        s.evicted 2 2 0 1 = [] ∧ writtenIn (s.cutOff 2 2 0 1) = [cell 'e']) := by
  intro cell s below above
  obtain ⟨split_below, -, full, -⟩ := reflow_keeps_written s 2 1 1 Nat.two_pos
  obtain ⟨split_above, -⟩ := reflow_keeps_written s 2 0 1 Nat.two_pos
  have before : s.written = ['x', 'a', 'b', 'c', 'd', 'e'].map cell := by decide +kernel
  have lost : writtenIn (s.evicted 2 2 1 1) = [cell 'x'] := by decide +kernel
  have nothing_cut : s.cutOff 2 2 1 1 = [] := by decide +kernel
  have nothing_lost : s.evicted 2 2 0 1 = [] := by decide +kernel
  have cut : writtenIn (s.cutOff 2 2 0 1) = [cell 'e'] := by decide +kernel
  have kept_below : s.written = [cell 'x'] ++ below.1.written ++ [] := by
    rw [split_below, lost, nothing_cut, Row.writtenIn_nil]
  have kept_above : s.written = [] ++ above.1.written ++ [cell 'e'] := by
    rw [split_above, cut, nothing_lost, Row.writtenIn_nil]
  rw [before] at kept_below kept_above
  refine ⟨before, ⟨by decide +kernel, ?_, full fun none => ?_, nothing_cut⟩, by decide +kernel, ?_,
    nothing_lost, cut⟩
  · generalize below.1.written = kept at kept_below ⊢
    simpa using kept_below.symm
  · rw [none] at lost
    exact nomatch lost
  · generalize above.1.written = kept at kept_above ⊢
    exact (List.append_left_inj [cell 'e']).mp kept_above.symm

end Screen

end TerminalSession
