import TerminalSession.Proofs.Grid.Placing

/-!
# Lines laid out one below the other

What a line looks like does not depend on the lines above it, so the rows of several lines are the
rows of each of them, one after the other.

## Main definitions

* `Layout.put`: a cell is laid out, without regard to the cursor
* `Layout.block`: the rows of one line
* `Layout.Below`: a layout with the rows of another one below some more rows

## Main statements

* `Layout.Below.line`: a line is laid out below other rows as it is without them
* `Layout.rows_lines`: the rows of lines

## Design notes

* Where the cursor is found is not compared by `Layout.Below`. So the relation also says that the
  cursor has no influence on what is laid out, as long as it stands inside its line.
-/

namespace TerminalSession.Layout

variable {width : Nat} {layout layout' : Layout} {above : List Row}

/-- A cell is laid out, without regard to the cursor. -/
def put (width : Nat) (layout : Layout) (cell : Cell) : Layout :=
  (layout.makeRoom width cell).push width cell

/-- The rows that a line takes by itself, laid out below nothing. -/
def block (width : Nat) (text : LogicalLine) : List Row := (line width {} text).rows.toList

/-- A layout with the rows of another one below some more rows, and with the same row being
filled. -/
structure Below (above : List Row) (layout layout' : Layout) : Prop where
  rows_eq : layout'.rows.toList = above ++ layout.rows.toList
  row_eq : layout'.row = layout.row

namespace Below

theorem breakRow (below : Below above layout layout') (width : Nat) :
    Below above (layout.breakRow width) (layout'.breakRow width) where
  rows_eq := by
    simp only [Layout.breakRow, Array.toList_push, below.rows_eq, below.row_eq, List.append_assoc]
  row_eq := rfl

theorem endRow (below : Below above layout layout') (width : Nat) :
    Below above (layout.endRow width) (layout'.endRow width) where
  rows_eq := by
    simp only [Layout.endRow, Array.toList_push, below.rows_eq, below.row_eq, List.append_assoc]
  row_eq := rfl

theorem makeRoom (below : Below above layout layout') (width : Nat) (cell : Cell) :
    Below above (layout.makeRoom width cell) (layout'.makeRoom width cell) := by
  unfold Layout.makeRoom
  rw [below.row_eq]
  split
  · exact below.breakRow width
  · exact below

theorem push (below : Below above layout layout') (width : Nat) (cell : Cell) :
    Below above (layout.push width cell) (layout'.push width cell) where
  rows_eq := below.rows_eq
  row_eq := by simp only [Layout.push, below.row_eq]

theorem put (below : Below above layout layout') (width : Nat) (cell : Cell) :
    Below above (layout.put width cell) (layout'.put width cell) :=
  (below.makeRoom width cell).push width cell

theorem foldl_put (below : Below above layout layout') (width : Nat) (cells : List Cell) :
    Below above (cells.foldl (Layout.put width) layout) (cells.foldl (Layout.put width) layout') := by
  induction cells generalizing layout layout' with
  | nil => exact below
  | cons cell rest ih => exact ih (below.put width cell)

theorem markIf (below : Below above layout layout') (p : Prop) [Decidable p] :
    Below above layout (layout'.markIf p) where
  rows_eq := by rw [rows_markIf, below.rows_eq]
  row_eq := by rw [row_markIf, below.row_eq]

/-- Cells of a line are put down, but for right halves. What is above a layout stays above it with
each of them, so the line can be laid out by itself. -/
theorem foldl_place (below : Below above layout layout') (width : Nat) (cursor : Option Nat)
    (cells : List Cell) (n : Nat) :
    Below above ((cells.filter fun cell => !cell.isRightHalf).foldl (Layout.put width) layout)
      ((cells.zipIdx n).foldl (Layout.place width cursor) layout') := by
  induction cells generalizing layout layout' n with
  | nil => exact below
  | cons cell rest ih =>
    rw [List.zipIdx_cons, List.foldl_cons]
    cases half : cell.isRightHalf with
    | true =>
      rw [place_of_isRightHalf half, List.filter_cons_of_neg (by rw [half]; decide)]
      exact ih below (n + 1)
    | false =>
      rw [place_of_shown half, List.filter_cons_of_pos (by rw [half]; decide), List.foldl_cons]
      exact ih (((below.makeRoom width cell).markIf _).push width cell) (n + 1)

end Below

/-- The end of a line, without regard to where the cursor is found: one that stands past the last cell
needs a column of its own. -/
def finish (width : Nat) (text : LogicalLine) (layout : Layout) : Layout :=
  (if text.cursor = some text.filled.length ∧ width ≤ layout.row.size then layout.breakRow width
  else layout).endRow width

/-- Marking the cursor makes no difference to the end of a line. -/
theorem Below.close (below : Below above layout layout') (width : Nat) (text : LogicalLine) :
    Below above (layout.finish width text) (layout'.close width text) := by
  unfold Layout.finish Layout.close
  rw [below.row_eq]
  refine Below.endRow ?_ width
  by_cases past : text.cursor = some text.filled.length
  · by_cases full : width ≤ layout.row.size
    · rw [if_pos ⟨past, full⟩, if_pos past, if_pos full]
      exact (below.breakRow width).markIf True
    · rw [if_neg fun both => full both.2, if_pos past, if_neg full]
      exact below.markIf True
  · rw [if_neg fun both => past both.1, if_neg past]
    exact below

/-- The cells of a line are put down, and the row is ended. -/
def lay (width : Nat) (text : LogicalLine) (layout : Layout) : Layout :=
  ((text.filled.filter fun cell => !cell.isRightHalf).foldl (put width) layout).finish width text

/-- This is how a line is laid out. -/
theorem below_line (below : Below above layout layout') (width : Nat) (text : LogicalLine) :
    Below above (layout.lay width text) (line width layout' text) := by
  rw [line_eq_close]
  exact (below.foldl_place width text.cursor text.filled 0).close width text

/-- The rows of one line. -/
theorem block_eq (width : Nat) (text : LogicalLine) :
    block width text = (({} : Layout).lay width text).rows.toList := by
  have start : Below [] ({} : Layout) ({} : Layout) := ⟨rfl, rfl⟩
  exact (below_line start width text).rows_eq

theorem rows_foldl_line (width : Nat) (list : List LogicalLine) {layout : Layout}
    (between : layout.row = #[]) :
    (list.foldl (line width) layout).rows.toList =
      layout.rows.toList ++ list.flatMap (block width) := by
  induction list generalizing layout with
  | nil => simp
  | cons text rest ih =>
    have start : Below layout.rows.toList ({} : Layout) layout := ⟨by simp, between⟩
    rw [List.foldl_cons, ih rfl, (below_line start width text).rows_eq, List.flatMap_cons,
      List.append_assoc, block_eq]

/-- The rows of lines are the rows of each of them, one after the other. -/
theorem rows_lines (width : Nat) (list : List LogicalLine) :
    (lines width list).rows.toList = list.flatMap (block width) :=
  rows_foldl_line width list rfl

end TerminalSession.Layout
