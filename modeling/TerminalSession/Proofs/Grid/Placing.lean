import TerminalSession.Proofs.Grid.Written

/-!
# Where a layout places its cells

A layout only grows: a cell that was placed stays where it is, after the same cells. So the place of
the cursor in the layout of a screen can be told from the line that the cursor stands in.

## Main definitions

* `Layout.rowCells`: the cells of a row, be it complete or being filled
* `Layout.Extends`: a layout that went on from another one
* `Layout.Shows`: a cell at a place of a layout, and what is read before it

## Main statements

* `Layout.extends_lines`: laying out more lines extends a layout
* `Layout.lines_shows`: the cursor is found where the cell under it is placed
* `Layout.cursor_lines_of_isRightHalf`: a cursor on a right half is found nowhere
* `Layout.rowCells_lines_zero`: what is placed first

## Design notes

* `Layout.Extends` compares the row being filled of the first layout with the row of the same number
  in the second one, which may be complete and padded by then. A comparison of the two rows being
  filled would not survive the end of a row.
-/

namespace TerminalSession.Layout

open Row (writtenIn)

variable {width : Nat} {layout : Layout}

/-- The cells of a row of a layout. The row being filled comes after those that are complete. -/
def rowCells (layout : Layout) (r : Nat) : List Cell :=
  if r = layout.rows.size then layout.row.toList
  else (layout.rows[r]?.map fun row => row.cells.toList).getD []

/-- The row after the complete ones is the one that is being filled. -/
theorem rowCells_size (layout : Layout) : layout.rowCells layout.rows.size = layout.row.toList :=
  if_pos rfl

theorem rowCells_of_lt {r : Nat} (lt : r < layout.rows.size) :
    layout.rowCells r = layout.rows[r].cells.toList := by
  rw [rowCells, if_neg (by omega), Array.getElem?_eq_getElem lt]
  rfl

/-! ### Growing -/

/-- A layout that went on from another one: it begins with the same complete rows, and the row that
was being filled begins with the same cells. -/
structure Extends (layout after : Layout) : Prop where
  rows : layout.rows.toList <+: after.rows.toList
  row : layout.row.toList <+: after.rowCells layout.rows.size

namespace Extends

variable {after last : Layout}

/-- A layout goes on from itself, with nothing added. -/
theorem refl (layout : Layout) : layout.Extends layout where
  rows := List.prefix_refl _
  row := by simp only [rowCells_size, List.prefix_rfl]

/-- There are no fewer rows afterwards. -/
theorem size_le (ext : layout.Extends after) : layout.rows.size ≤ after.rows.size := by
  simpa using ext.rows.length_le

/-- Every row begins with the same cells. -/
theorem rowCells_prefix (ext : layout.Extends after) {r : Nat} (le : r ≤ layout.rows.size) :
    layout.rowCells r <+: after.rowCells r := by
  rcases Nat.lt_or_eq_of_le le with lt | rfl
  · have lt' : r < after.rows.size := Nat.lt_of_lt_of_le lt ext.size_le
    have same : layout.rows[r] = after.rows[r] := by
      rw [← Array.getElem_toList lt, ← Array.getElem_toList lt']
      exact ext.rows.getElem (by simpa using lt)
    simp only [rowCells_of_lt lt, rowCells_of_lt lt', same, List.prefix_rfl]
  · rw [rowCells_size]
    exact ext.row

/-- What went on from a layout that went on from another one, went on from that one. The row that
was being filled may have been completed in the first part or in the second. -/
theorem trans (ext : layout.Extends after) (ext' : after.Extends last) : layout.Extends last where
  rows := ext.rows.trans ext'.rows
  row := ext.row.trans (ext'.rowCells_prefix ext.size_le)

end Extends

/-- Completing the row that is being filled only adds blank cells to its end. The next row is empty,
and everything begins with nothing. -/
theorem extends_breakRow (inWidth : layout.InWidth width) :
    layout.Extends (layout.breakRow width) where
  rows := by
    simp only [breakRow, Array.toList_push]
    exact List.prefix_append _ _
  row := by
    rw [rowCells_of_lt (by simp [breakRow])]
    simp only [breakRow, Array.getElem_push_eq]
    rw [Row.toList_fitCells inWidth]
    exact List.prefix_append _ _

theorem extends_endRow (inWidth : layout.InWidth width) :
    layout.Extends (layout.endRow width) where
  rows := by
    simp only [endRow, Array.toList_push]
    exact List.prefix_append _ _
  row := by
    rw [rowCells_of_lt (by simp [endRow])]
    simp only [endRow, Array.getElem_push_eq]
    rw [Row.toList_fitCells inWidth]
    exact List.prefix_append _ _

/-- Whether or not a row had to be broken for it, making room extends a layout. -/
theorem extends_makeRoom (inWidth : layout.InWidth width) (cell : Cell) :
    layout.Extends (layout.makeRoom width cell) := by
  unfold makeRoom
  split
  · exact extends_breakRow inWidth
  · exact Extends.refl layout

/-- Where the cursor was found does not matter to the rows. -/
theorem extends_markCursor (layout : Layout) : layout.Extends layout.markCursor :=
  { Extends.refl layout with }

theorem extends_markIf (p : Prop) [Decidable p] (layout : Layout) :
    layout.Extends (layout.markIf p) := by
  unfold markIf
  split
  · exact extends_markCursor layout
  · exact Extends.refl layout

/-- The row being filled, with a cell put into it. -/
theorem toList_row_push (width : Nat) (cell : Cell) (layout : Layout) :
    layout.row.toList ++ [cell] <+: (layout.push width cell).row.toList := by
  unfold push
  dsimp only
  split
  · rw [Array.toList_push, Array.toList_push]
    exact List.prefix_append _ _
  · simp only [Array.toList_push, List.prefix_rfl]

/-- A cell goes to the end of the row that is being filled. -/
theorem extends_push (width : Nat) (cell : Cell) (layout : Layout) :
    layout.Extends (layout.push width cell) where
  rows := List.prefix_refl _
  row := by
    change _ <+: (layout.push width cell).rowCells (layout.push width cell).rows.size
    rw [rowCells_size]
    exact (List.prefix_append _ _).trans (toList_row_push width cell layout)

/-- So placing a cell extends a layout, with all the steps that it may take. -/
theorem extends_place (inWidth : layout.InWidth width) (cursor : Option Nat)
    (item : Cell × Nat) : layout.Extends (place width cursor layout item) := by
  cases shown : item.1.isRightHalf with
  | true =>
    rw [place_of_isRightHalf shown]
    exact Extends.refl layout
  | false =>
    rw [place_of_shown shown]
    exact ((extends_makeRoom inWidth item.1).trans (extends_markIf _ _)).trans (extends_push _ _ _)

/-- So does placing the cells of a line, one by one. -/
theorem extends_foldl_place (width_pos : 0 < width) (cursor : Option Nat)
    (items : List (Cell × Nat)) (inWidth : layout.InWidth width) :
    layout.Extends (items.foldl (place width cursor) layout) := by
  induction items generalizing layout with
  | nil => exact Extends.refl layout
  | cons item rest ih =>
    exact (extends_place inWidth cursor item).trans (ih (inWidth.place width_pos cursor item))

/-- The end of a line: a cursor past its last cell is marked, in a new row if this one is full. -/
def close (width : Nat) (text : LogicalLine) (layout : Layout) : Layout :=
  (if text.cursor = some text.filled.length then
    (if width ≤ layout.row.size then layout.breakRow width else layout).markCursor
  else layout).endRow width

/-- A line is laid out in two parts: its cells are placed, and then it is closed. -/
theorem line_eq_close (width : Nat) (layout : Layout) (text : LogicalLine) :
    line width layout text =
      (text.filled.zipIdx.foldl (place width text.cursor) layout).close width text := rfl

/-- Closing a line may break a row for the cursor, and completes the last one. -/
theorem extends_close (inWidth : layout.InWidth width) (text : LogicalLine) :
    layout.Extends (layout.close width text) := by
  unfold close
  split
  · split
    · have marked : (layout.breakRow width).markCursor.InWidth width := Nat.zero_le _
      exact ((extends_breakRow inWidth).trans (extends_markCursor _)).trans (extends_endRow marked)
    · have marked : layout.markCursor.InWidth width := inWidth
      exact (extends_markCursor layout).trans (extends_endRow marked)
  · exact extends_endRow inWidth

/-- So laying out a line extends a layout, with its cells and its end. -/
theorem extends_line (width_pos : 0 < width) (inWidth : layout.InWidth width)
    (text : LogicalLine) : layout.Extends (line width layout text) := by
  rw [line_eq_close]
  exact (extends_foldl_place width_pos _ _ inWidth).trans
    (extends_close (inWidth.foldl_place width_pos _ _) text)

theorem extends_foldl_line (width_pos : 0 < width) (list : List LogicalLine)
    (inWidth : layout.InWidth width) : layout.Extends (list.foldl (line width) layout) := by
  induction list generalizing layout with
  | nil => exact Extends.refl layout
  | cons text rest ih =>
    exact (extends_line width_pos inWidth text).trans (ih (inWidth_line width layout text))

/-- Laying out more lines extends a layout. -/
theorem extends_lines (width_pos : 0 < width) (above below : List LogicalLine) :
    (lines width above).Extends (lines width (above ++ below)) := by
  have inWidth : (lines width above).InWidth width := by
    rw [InWidth, row_lines]
    exact Nat.zero_le _
  unfold lines at inWidth ⊢
  rw [List.foldl_append]
  exact extends_foldl_line width_pos below inWidth

/-! ### Cells in place -/

/-- A cell at a place of a layout, and what is read before it. As a layout only grows, it is the
same later. -/
structure Shows (layout : Layout) (r c : Nat) (cell : Cell) (before : List Cell) : Prop where
  row_le : r ≤ layout.rows.size
  cell_eq : (layout.rowCells r)[c]? = some cell
  before_eq : writtenIn (layout.rows.toList.take r) ++
    ((layout.rowCells r).take c).filter Cell.isWritten = before

variable {r c : Nat} {cell : Cell} {before : List Cell}

/-- A cell stays in its place, after the same cells, as the layout grows: rows that were ended do
not change, and the row being filled grows at its end. -/
theorem Shows.extends {after : Layout} (shows_ : layout.Shows r c cell before)
    (ext : layout.Extends after) : after.Shows r c cell before := by
  have prefix_ := ext.rowCells_prefix shows_.row_le
  have lt : c < (layout.rowCells r).length := (List.getElem?_eq_some_iff.mp shows_.cell_eq).1
  obtain ⟨more, more_eq⟩ := prefix_
  obtain ⟨rows, rows_eq⟩ := ext.rows
  refine
    { row_le := Nat.le_trans shows_.row_le ext.size_le
      cell_eq := ?_
      before_eq := ?_ }
  · rw [← more_eq, List.getElem?_append_left lt]
    exact shows_.cell_eq
  · rw [← more_eq, List.take_append_of_le_length (Nat.le_of_lt lt), ← rows_eq,
      List.take_append_of_le_length (by simpa using shows_.row_le)]
    exact shows_.before_eq

/-- A cell that is put in is shown at the end of what was there. It may bring its right half with
it, which comes after it. -/
theorem shows_push (width : Nat) (cell : Cell) (layout : Layout) :
    (layout.push width cell).Shows layout.rows.size layout.row.size cell layout.written := by
  obtain ⟨more, more_eq⟩ := toList_row_push width cell layout
  rw [List.append_assoc, List.singleton_append] at more_eq
  have cells_eq : (layout.push width cell).rowCells layout.rows.size =
      layout.row.toList ++ cell :: more := by
    rw [more_eq]
    exact rowCells_size (layout.push width cell)
  have rows_eq : (layout.push width cell).rows.toList.take layout.rows.size =
      layout.rows.toList := List.take_of_length_le (by simp [push])
  refine
    { row_le := Nat.le_refl _
      cell_eq := ?_
      before_eq := ?_ }
  · rw [cells_eq, List.getElem?_append_right (by simp)]
    simp
  · rw [cells_eq, rows_eq, List.take_append_of_le_length (by simp),
      List.take_of_length_le (by simp)]
    rfl

/-! ### The cursor -/

/-- Making room does not find the cursor. -/
theorem cursor_makeRoom (width : Nat) (cell : Cell) (layout : Layout) :
    (layout.makeRoom width cell).cursor = layout.cursor := by
  unfold makeRoom
  split <;> rfl

/-- The cursor is marked only at a cell of its number that is shown. -/
theorem cursor_place {cursor : Option Nat} {item : Cell × Nat}
    (elsewhere : item.1.isRightHalf = true ∨ cursor ≠ some item.2) (width : Nat)
    (layout : Layout) : (place width cursor layout item).cursor = layout.cursor := by
  cases shown : item.1.isRightHalf with
  | true => rw [place_of_isRightHalf shown]
  | false =>
    have other : cursor ≠ some item.2 :=
      elsewhere.resolve_left (by rw [shown]; exact Bool.false_ne_true)
    rw [place_of_shown shown, markIf, if_neg other]
    exact cursor_makeRoom width item.1 layout

/-- The cursor is found with the cell that has its number, and not with a right half. Where no such
cell is placed, it is not found. -/
theorem cursor_foldl_place {cursor : Option Nat} {items : List (Cell × Nat)}
    (elsewhere : ∀ item ∈ items, item.1.isRightHalf = true ∨ cursor ≠ some item.2) (width : Nat)
    (layout : Layout) :
    (items.foldl (place width cursor) layout).cursor = layout.cursor := by
  induction items generalizing layout with
  | nil => rfl
  | cons item rest ih =>
    rw [List.foldl_cons, ih (fun other mem => elsewhere other (List.mem_cons_of_mem _ mem)),
      cursor_place (elsewhere item List.mem_cons_self)]

/-- At the end of a line the cursor is found just if it stands right after the last cell. -/
theorem cursor_close {text : LogicalLine} (inside : text.cursor ≠ some text.filled.length)
    (width : Nat) (layout : Layout) : (layout.close width text).cursor = layout.cursor := by
  rw [close, if_neg inside]
  rfl

/-- A line without the cursor leaves it where it is. -/
theorem cursor_line_of_none {text : LogicalLine} (unmarked : text.cursor = none) (width : Nat)
    (layout : Layout) : (line width layout text).cursor = layout.cursor := by
  have elsewhere : ∀ n : Nat, text.cursor ≠ some n := by
    intro n
    rw [unmarked]
    exact (Option.some_ne_none n).symm
  rw [line_eq_close, cursor_close (elsewhere _)]
  exact cursor_foldl_place (fun item _ => Or.inr (elsewhere item.2)) width layout

/-- In lines without the cursor it is not found. -/
theorem cursor_foldl_line_of_none {list : List LogicalLine}
    (unmarked : ∀ text ∈ list, text.cursor = none) (width : Nat) (layout : Layout) :
    (list.foldl (line width) layout).cursor = layout.cursor := by
  induction list generalizing layout with
  | nil => rfl
  | cons text rest ih =>
    rw [List.foldl_cons, ih (fun other mem => unmarked other (List.mem_cons_of_mem _ mem)),
      cursor_line_of_none (unmarked text List.mem_cons_self)]

/-- A cursor inside its line adds no cells to it. -/
theorem filled_eq_cells {text : LogicalLine} {p : Nat} (cursor_eq : text.cursor = some p)
    (lt : p < text.cells.length) : text.filled = text.cells := by
  rw [LogicalLine.filled, cursor_eq, Option.getD_some, Nat.sub_eq_zero_of_le (Nat.le_of_lt lt),
    List.replicate_zero, List.append_nil]

/-- The cursor inside a line is not the one past its end. -/
theorem cursor_ne_length_filled {text : LogicalLine} {p : Nat} (cursor_eq : text.cursor = some p)
    (lt : p < text.cells.length) : text.cursor ≠ some text.filled.length := by
  rw [filled_eq_cells cursor_eq lt, cursor_eq]
  intro same
  have := Option.some.inj same
  omega

/-- A cell that is shown is put where there is room for it. -/
theorem place_shows (inWidth : layout.InWidth width) (cursor : Option Nat) {item : Cell × Nat}
    (shown : item.1.isRightHalf = false) :
    (place width cursor layout item).Shows (layout.makeRoom width item.1).rows.size
      (layout.makeRoom width item.1).row.size item.1 layout.written := by
  have shows_ := shows_push width item.1
    ((layout.makeRoom width item.1).markIf (cursor = some item.2))
  rw [rows_markIf, row_markIf, written_markIf, written_makeRoom inWidth] at shows_
  rw [place_of_shown shown]
  exact shows_

/-- If it has the cursor's number, the cursor is marked there. -/
theorem cursor_place_self {item : Cell × Nat} (shown : item.1.isRightHalf = false) (width : Nat)
    (layout : Layout) :
    (place width (some item.2) layout item).cursor =
      some ((layout.makeRoom width item.1).rows.size, (layout.makeRoom width item.1).row.size) := by
  rw [place_of_shown shown, markIf, if_pos rfl]
  rfl

/-- The numbered items of a list, split at one of them. -/
theorem zipIdx_split {α : Type} {list : List α} {k : Nat} (lt : k < list.length) :
    list.zipIdx =
      (list.take k).zipIdx ++ (list[k], k) :: (list.drop (k + 1)).zipIdx (k + 1) := by
  conv => lhs; rw [← List.take_append_drop k list, List.drop_eq_getElem_cons lt]
  rw [List.zipIdx_append, List.zipIdx_cons, List.length_take, Nat.min_eq_left (Nat.le_of_lt lt),
    Nat.zero_add]

/-- Among other cells of a line the cursor is found at the cell of its number, before which those
before it are read. -/
theorem foldl_place_shows (width_pos : 0 < width) (inWidth : layout.InWidth width)
    {cells : List Cell} {p : Nat} (cell_eq : cells[p]? = some cell)
    (shown : cell.isRightHalf = false) :
    ∃ r c, (cells.zipIdx.foldl (place width (some p)) layout).cursor = some (r, c) ∧
      (cells.zipIdx.foldl (place width (some p)) layout).Shows r c cell
        (layout.written ++ (cells.take p).filter Cell.isWritten) := by
  obtain ⟨lt, get_eq⟩ := List.getElem?_eq_some_iff.mp cell_eq
  have start_inWidth := inWidth.foldl_place width_pos (some p) (cells.take p).zipIdx
  have item_shown : (cell, p).1.isRightHalf = false := shown
  have found := cursor_place_self item_shown width
    ((cells.take p).zipIdx.foldl (place width (some p)) layout)
  have shows_ := place_shows start_inWidth (some p) item_shown
  -- The cells after it have other numbers, and do not move it.
  have later : ∀ item ∈ (cells.drop (p + 1)).zipIdx (p + 1),
      item.1.isRightHalf = true ∨ some p ≠ some item.2 := by
    intro item mem
    have number := (List.mem_zipIdx mem).1
    refine Or.inr fun same => ?_
    have := Option.some.inj same
    omega
  rw [written_foldl_place width_pos _ _ inWidth, List.zipIdx_map_fst] at shows_
  rw [zipIdx_split lt, get_eq, List.foldl_append, List.foldl_cons]
  exact ⟨_, _, (cursor_foldl_place later width _).trans found,
    shows_.extends (extends_foldl_place width_pos _ _ (start_inWidth.place width_pos _ _))⟩

/-- The cursor is found where the cell under it is placed, after what was laid out before and what
stands before it in its line. -/
theorem line_shows (width_pos : 0 < width) (inWidth : layout.InWidth width) {text : LogicalLine}
    {p : Nat} (cursor_eq : text.cursor = some p) (cell_eq : text.cells[p]? = some cell)
    (shown : cell.isRightHalf = false) :
    ∃ r c, (line width layout text).cursor = some (r, c) ∧
      (line width layout text).Shows r c cell
        (layout.written ++ (text.cells.take p).filter Cell.isWritten) := by
  have lt := (List.getElem?_eq_some_iff.mp cell_eq).1
  obtain ⟨r, c, found, shows_⟩ := foldl_place_shows width_pos inWidth cell_eq shown
  rw [line_eq_close, filled_eq_cells cursor_eq lt, cursor_eq]
  refine ⟨r, c, ?_, ?_⟩
  · rw [cursor_close (cursor_ne_length_filled cursor_eq lt)]
    exact found
  · exact shows_.extends (extends_close (inWidth.foldl_place width_pos _ _) text)

/-- A cursor on a right half is not found. Right halves are passed over before the cursor is
compared with the place in the line, so no cell marks it. -/
theorem cursor_line_of_isRightHalf {text : LogicalLine} {p : Nat} (cursor_eq : text.cursor = some p)
    (cell_eq : text.cells[p]? = some cell) (half : cell.isRightHalf = true) (width : Nat)
    (layout : Layout) : (line width layout text).cursor = layout.cursor := by
  obtain ⟨lt, get_eq⟩ := List.getElem?_eq_some_iff.mp cell_eq
  rw [line_eq_close, cursor_close (cursor_ne_length_filled cursor_eq lt),
    filled_eq_cells cursor_eq lt]
  refine cursor_foldl_place (fun item mem => ?_) width layout
  obtain ⟨-, number_lt, item_eq⟩ := List.mem_zipIdx mem
  by_cases same : text.cursor = some item.2
  · refine Or.inl ?_
    have number : item.2 = p := Option.some.inj (same.symm.trans cursor_eq)
    rw [item_eq]
    simp only [number, Nat.sub_zero, get_eq, half]
  · exact Or.inr same

/-! ### All lines -/

variable {above below : List LogicalLine} {text : LogicalLine} {p : Nat}

theorem inWidth_foldl_line (list : List LogicalLine) (inWidth : layout.InWidth width) :
    (list.foldl (line width) layout).InWidth width := by
  induction list generalizing layout with
  | nil => exact inWidth
  | cons text rest ih => exact ih (inWidth_line width layout text)

/-- The cursor is found where the cell under it is placed, after what is written in the lines above
and before it in its own. -/
theorem lines_shows (width_pos : 0 < width) (above : List LogicalLine)
    (below_unmarked : ∀ text ∈ below, text.cursor = none)
    (cursor_eq : text.cursor = some p) (cell_eq : text.cells[p]? = some cell)
    (shown : cell.isRightHalf = false) :
    ∃ r c, (lines width (above ++ text :: below)).cursor = some (r, c) ∧
      (lines width (above ++ text :: below)).Shows r c cell
        (above.flatMap LogicalLine.written ++ (text.cells.take p).filter Cell.isWritten) := by
  have empty_inWidth : ({} : Layout).InWidth width := Nat.zero_le _
  have start_inWidth := inWidth_foldl_line above empty_inWidth
  have start_written := written_foldl_line width_pos above empty_inWidth
  obtain ⟨r, c, found, shows_⟩ := line_shows width_pos start_inWidth cursor_eq cell_eq shown
  refine ⟨r, c, ?_, ?_⟩
  · rw [lines, List.foldl_append, List.foldl_cons, cursor_foldl_line_of_none below_unmarked]
    exact found
  · rw [lines, List.foldl_append, List.foldl_cons]
    rw [start_written] at shows_
    exact shows_.extends (extends_foldl_line width_pos below (inWidth_line width _ text))

/-- A cursor on a right half is found nowhere. -/
theorem cursor_lines_of_isRightHalf (above_unmarked : ∀ text ∈ above, text.cursor = none)
    (below_unmarked : ∀ text ∈ below, text.cursor = none) (cursor_eq : text.cursor = some p)
    (cell_eq : text.cells[p]? = some cell) (half : cell.isRightHalf = true) (width : Nat) :
    (lines width (above ++ text :: below)).cursor = none := by
  rw [lines, List.foldl_append, List.foldl_cons, cursor_foldl_line_of_none below_unmarked,
    cursor_line_of_isRightHalf cursor_eq cell_eq half, cursor_foldl_line_of_none above_unmarked]

/-- A line made of right halves alone leaves the layout as it was. -/
theorem foldl_place_of_isRightHalf {items : List (Cell × Nat)}
    (halves : ∀ item ∈ items, item.1.isRightHalf = true) (width : Nat) (cursor : Option Nat)
    (layout : Layout) : items.foldl (place width cursor) layout = layout := by
  induction items generalizing layout with
  | nil => rfl
  | cons item rest ih =>
    rw [List.foldl_cons, place_of_isRightHalf (halves item List.mem_cons_self),
      ih fun other mem => halves other (List.mem_cons_of_mem _ mem)]

theorem isRightHalf_of_mem_zipIdx {cells : List Cell}
    (halves : ∀ cell ∈ cells, cell.isRightHalf = true) (n : Nat) :
    ∀ item ∈ cells.zipIdx n, item.1.isRightHalf = true :=
  fun _ mem => halves _ (List.fst_mem_of_mem_zipIdx mem)

/-- A line that shows nothing is a row of empty cells, whether or not its cursor is marked at the
end: a row has a column at least, so the cursor still has room in it. -/
theorem rowCells_close_zero (width_pos : 0 < width) (text : LogicalLine) :
    ((({} : Layout).close width text).rowCells 0)[0]? = some Cell.empty := by
  have rows_eq : (({} : Layout).close width text).rows =
      #[{ cells := Row.fitCells #[] width }] := by
    unfold close
    split
    · rw [if_neg (by exact Nat.not_le_of_lt width_pos)]
      rfl
    · rfl
  have lt : 0 < (({} : Layout).close width text).rows.size := by
    rw [rows_eq]
    exact Nat.one_pos
  rw [rowCells_of_lt lt]
  simp only [rows_eq, List.getElem_toArray, List.getElem_cons_zero]
  rw [Row.toList_fitCells (Nat.zero_le _)]
  simp [width_pos]

/-- The first cell that is shown is placed in the corner. -/
theorem place_shows_corner (width_pos : 0 < width) (cursor : Option Nat) {item : Cell × Nat}
    (shown : item.1.isRightHalf = false) :
    (place width cursor {} item).Shows 0 0 item.1 [] := by
  have room : ({} : Layout).makeRoom width item.1 = {} := by
    have fits := needed_le width_pos item.1
    rw [makeRoom, if_neg (by simpa using fits)]
  have empty_inWidth : ({} : Layout).InWidth width := Nat.zero_le _
  have shows_ := place_shows empty_inWidth cursor shown
  rw [room] at shows_
  exact shows_

/-- What is placed first is the first cell of the first line that is no right half; without one it
is an empty cell. -/
theorem rowCells_lines_zero (width_pos : 0 < width) (text : LogicalLine)
    (below : List LogicalLine) :
    ((lines width (text :: below)).rowCells 0)[0]? =
      some ((text.filled.find? fun cell => !cell.isRightHalf).getD Cell.empty) := by
  have empty_inWidth : ({} : Layout).InWidth width := Nat.zero_le _
  have ext : (line width {} text).Extends (lines width (text :: below)) :=
    extends_foldl_line width_pos below (inWidth_line width {} text)
  -- The lines below leave the corner as the first line has it.
  have first_cell : ∀ cell, ((line width {} text).rowCells 0)[0]? = some cell →
      ((lines width (text :: below)).rowCells 0)[0]? = some cell := by
    intro cell cell_eq
    obtain ⟨more, more_eq⟩ := ext.rowCells_prefix (Nat.zero_le _)
    rw [← more_eq, List.getElem?_append_left (List.getElem?_eq_some_iff.mp cell_eq).1]
    exact cell_eq
  apply first_cell
  cases found : text.filled.find? fun cell => !cell.isRightHalf with
  | none =>
    have halves : ∀ cell ∈ text.filled, cell.isRightHalf = true := by
      simpa using found
    rw [line_eq_close, foldl_place_of_isRightHalf (isRightHalf_of_mem_zipIdx halves 0)]
    exact rowCells_close_zero width_pos text
  | some cell =>
    obtain ⟨shown, before, rest, filled_eq, halves⟩ := List.find?_eq_some_iff_append.mp found
    have before_halves : ∀ cell ∈ before, cell.isRightHalf = true := by
      simpa using halves
    rw [line_eq_close, filled_eq, List.zipIdx_append, List.zipIdx_cons, List.foldl_append,
      foldl_place_of_isRightHalf (isRightHalf_of_mem_zipIdx before_halves 0), List.foldl_cons]
    generalize item_eq : (cell, 0 + before.length) = item
    have cell_eq : item.1 = cell := by rw [← item_eq]
    have item_shown : item.1.isRightHalf = false := by
      rw [cell_eq]
      simpa using shown
    have shows_ := place_shows_corner width_pos text.cursor item_shown
    have inWidth := empty_inWidth.place width_pos text.cursor item
    rw [cell_eq] at shows_
    exact (shows_.extends ((extends_foldl_place width_pos _ _ inWidth).trans
      (extends_close (inWidth.foldl_place width_pos _ _) text))).cell_eq

end TerminalSession.Layout
