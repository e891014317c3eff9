import TerminalSession.Proofs.Grid.Placing
import TerminalSession.Proofs.Grid.Shape

/-!
# The cursor in a reflow

A cursor that stands on a character is to stand on the same character after a reflow. It does so
unless it stands on a right half: then it is found nowhere, and goes to the first row of all that
was laid out.

## Main definitions

* `Screen.StandsOn`: a cursor on a character, be it on its right half
* `Screen.before`: what is read before a place of a screen
* `Screen.Follows`: the cursor stands on the same character after a reflow
* `Screen.NothingShownBefore`: nothing that a layout shows comes before a place
* `Screen.linesDown`, `Screen.KeepsLine`: the lines down to the cursor's line, and whether what is
  written in them is kept

## Main statements

* `Screen.exists_cursorLine`: the line that the cursor stands in
* `Screen.follows_iff`: when the cursor stands on the same character
* `Screen.keepsLine_iff`: when the cursor's line is kept

## Design notes

* Characters are told apart by what is read before them, so that the same character at two places
  counts as two.
-/

namespace TerminalSession

open Row (writtenIn)

/-! ### Joining rows -/

namespace LogicalLine

/-- The cells of a row that its line keeps. -/
def kept (row : Row) : List Cell :=
  if row.wrapped then row.cells.toList else trimBlank row.cells.toList

theorem kept_prefix (row : Row) : kept row <+: row.cells.toList := by
  unfold kept
  split
  · exact List.prefix_refl _
  · exact row.cells.toList.rdropWhile_prefix Cell.isBlank

/-- A cell that is not blank is kept: what is trimmed from the row that ends a line are the blank
cells behind the last one that is not. -/
theorem lt_length_kept {row : Row} {j : Nat} {cell : Cell} (cell_eq : row.cells[j]? = some cell)
    (visible : cell.isBlank = false) : j < (kept row).length := by
  rw [← Array.getElem?_toList] at cell_eq
  unfold kept
  split
  · exact (List.getElem?_eq_some_iff.mp cell_eq).1
  · by_contra past
    -- Behind the cells that are kept there are only blank ones.
    have split : trimBlank row.cells.toList ++ row.cells.toList.rtakeWhile Cell.isBlank =
        row.cells.toList := row.cells.toList.rdropWhile_append_rtakeWhile
    rw [← split, List.getElem?_append_right (Nat.not_lt.mp past)] at cell_eq
    have blank := List.mem_rtakeWhile_imp (List.mem_of_getElem? cell_eq)
    rw [visible] at blank
    exact Bool.false_ne_true blank

/-- Rows without a cursor, in the form in which lines are joined. -/
def unmarked (rows : List Row) : List (Row × Option Nat) := rows.map fun row => (row, none)

/-- Lines of rows without a cursor have none, so that there is never more than one line with a
cursor. -/
theorem cursor_join_unmarked (rows : List Row) :
    ∀ line ∈ join (unmarked rows), line.cursor = none := by
  induction rows with
  | nil => exact fun line mem => nomatch mem
  | cons row rest ih =>
    change ∀ line ∈ join ((row, none) :: unmarked rest), line.cursor = none
    rw [join]
    split
    · split
      · simp
      next line lines eq =>
        rw [eq] at ih
        have head := ih line List.mem_cons_self
        intro other mem
        rcases List.mem_cons.mp mem with rfl | mem
        · rw [head]
          rfl
        · exact ih other (List.mem_cons_of_mem _ mem)
    · intro other mem
      rcases List.mem_cons.mp mem with rfl | mem
      · rfl
      · exact ih other mem

end LogicalLine

/-- Rows of which a layout shows nothing, and that go on in the row after them. -/
def Row.Unseen (rows : List Row) : Prop :=
  ∀ row ∈ rows, row.wrapped = true ∧ ∀ cell ∈ row.cells.toList, cell.isRightHalf = true

instance (rows : List Row) : Decidable (Row.Unseen rows) :=
  inferInstanceAs (Decidable (∀ row ∈ rows, _ ∧ _))

namespace LogicalLine

/-- The line of the row with the cursor: the lines above and below it, the cells of the line that
come from rows above, and those from rows below. -/
structure Joined (lines : List LogicalLine) (above : List Row) (row : Row) (col : Nat)
    (linesAbove : List LogicalLine) (cellsAbove cellsBelow : List Cell)
    (linesBelow : List LogicalLine) : Prop where
  lines_eq : lines = linesAbove ++
    { cells := cellsAbove ++ (kept row ++ cellsBelow)
      cursor := some (cellsAbove.length + col) } :: linesBelow
  above_unmarked : ∀ line ∈ linesAbove, line.cursor = none
  below_unmarked : ∀ line ∈ linesBelow, line.cursor = none
  written_above :
    linesAbove.flatMap written ++ cellsAbove.filter Cell.isWritten = writtenIn above
  unseen_iff : (linesAbove = [] ∧ ∀ cell ∈ cellsAbove, cell.isRightHalf = true) ↔ Row.Unseen above

variable {row : Row} {col : Nat}

/-- A row with the cursor that is the first one. Nothing comes before its cells; what follows them
in the line is the first line of the rows below if the row goes on there, and nothing otherwise. -/
theorem exists_joined_nil (row : Row) (col : Nat) (below : List Row) :
    ∃ cellsBelow linesBelow,
      Joined (join ((row, some col) :: unmarked below)) [] row col [] [] cellsBelow linesBelow := by
  have below_unmarked := cursor_join_unmarked below
  have nothing : (([] : List LogicalLine) = [] ∧
      ∀ cell ∈ ([] : List Cell), cell.isRightHalf = true) ↔ Row.Unseen [] := by
    simp [Row.Unseen]
  rw [join]
  split
  next wrapped =>
    have kept_eq : kept row = row.cells.toList := if_pos wrapped
    split
    next =>
      refine ⟨[], [], ?_, ?_, ?_, rfl, nothing⟩
      · simp [kept_eq]
      · simp
      · simp
    next line lines eq =>
      rw [eq] at below_unmarked
      refine ⟨line.cells, lines, ?_, ?_, ?_, rfl, nothing⟩
      · simp [kept_eq]
      · simp
      · intro other mem
        exact below_unmarked other (List.mem_cons_of_mem _ mem)
  next ended =>
    have kept_eq : kept row = trimBlank row.cells.toList := if_neg ended
    refine ⟨[], join (unmarked below), ?_, ?_, below_unmarked, rfl, nothing⟩
    · simp [kept_eq]
    · simp

namespace Joined

variable {rest : List (Row × Option Nat)} {above : List Row} {first : Row}
  {linesAbove linesBelow : List LogicalLine} {cellsAbove cellsBelow : List Cell}

/-- One more row on top adds what is written in it. -/
theorem written_cons
    (joined : Joined (join rest) above row col linesAbove cellsAbove cellsBelow linesBelow)
    (first : Row) :
    writtenIn (first :: above) = first.written ++
      (linesAbove.flatMap written ++ cellsAbove.filter Cell.isWritten) := by
  rw [joined.written_above, Row.writtenIn_cons]

/-- One more row on top that goes on in the next one: its cells come in front of the first line,
whether that is the cursor's or one above it. -/
theorem exists_wrapped
    (joined : Joined (join rest) above row col linesAbove cellsAbove cellsBelow linesBelow)
    (wrapped : first.wrapped = true) :
    ∃ linesAbove cellsAbove, Joined (join ((first, none) :: rest)) (first :: above) row col
      linesAbove cellsAbove cellsBelow linesBelow := by
  have unseen : Row.Unseen (first :: above) ↔
      (∀ cell ∈ first.cells.toList, cell.isRightHalf = true) ∧ Row.Unseen above := by
    simp [Row.Unseen, wrapped]
  rw [join, joined.lines_eq]
  simp only [wrapped, if_true]
  cases linesAbove with
  | nil =>
    refine ⟨[], first.cells.toList ++ cellsAbove, ?_, ?_, joined.below_unmarked, ?_, ?_⟩
    · simp [Nat.add_comm, Nat.add_left_comm]
    · simp
    · rw [joined.written_cons, List.filter_append]
      rfl
    · rw [unseen, ← joined.unseen_iff]
      simp [or_imp, forall_and]
  | cons line linesAbove =>
    have head := joined.above_unmarked line List.mem_cons_self
    refine ⟨{ line with cells := first.cells.toList ++ line.cells } :: linesAbove, cellsAbove,
      ?_, ?_, joined.below_unmarked, ?_, ?_⟩
    · simp [head]
    · intro other mem
      rcases List.mem_cons.mp mem with rfl | mem
      · exact head
      · exact joined.above_unmarked other (List.mem_cons_of_mem _ mem)
    · rw [joined.written_cons]
      simp [written, Row.written]
    · rw [unseen, ← joined.unseen_iff]
      simp

/-- One more row on top that ends a line. It is a line of its own, above all others, and so the
cursor's line stays as it is. -/
theorem exists_ended
    (joined : Joined (join rest) above row col linesAbove cellsAbove cellsBelow linesBelow)
    (ended : first.wrapped = false) :
    ∃ linesAbove cellsAbove, Joined (join ((first, none) :: rest)) (first :: above) row col
      linesAbove cellsAbove cellsBelow linesBelow := by
  have seen : ¬ Row.Unseen (first :: above) := by
    simp [Row.Unseen, ended]
  rw [join, joined.lines_eq]
  simp only [ended, Bool.false_eq_true, if_false]
  refine ⟨{ cells := trimBlank first.cells.toList } :: linesAbove, cellsAbove, ?_, ?_,
    joined.below_unmarked, ?_, ?_⟩
  · simp
  · intro other mem
    rcases List.mem_cons.mp mem with rfl | mem
    · rfl
    · exact joined.above_unmarked other mem
  · rw [joined.written_cons]
    simp [written, Row.written, written_trimBlank]
  · simp [seen]

end Joined

/-- The row with the cursor lies in one line. The rows above it are added from the bottom to the
top, each of which goes on in the rows below it or ends a line. -/
theorem exists_joined (above : List Row) (row : Row) (col : Nat) (below : List Row) :
    ∃ linesAbove cellsAbove cellsBelow linesBelow,
      Joined (join (unmarked above ++ (row, some col) :: unmarked below)) above row col
        linesAbove cellsAbove cellsBelow linesBelow := by
  induction above with
  | nil =>
    obtain ⟨cellsBelow, linesBelow, joined⟩ := exists_joined_nil row col below
    exact ⟨[], [], cellsBelow, linesBelow, joined⟩
  | cons first above ih =>
    obtain ⟨_, _, cellsBelow, linesBelow, joined⟩ := ih
    cases wrapped : first.wrapped with
    | true =>
      obtain ⟨linesAbove, cellsAbove, joined⟩ := joined.exists_wrapped wrapped
      exact ⟨linesAbove, cellsAbove, cellsBelow, linesBelow, joined⟩
    | false =>
      obtain ⟨linesAbove, cellsAbove, joined⟩ := joined.exists_ended wrapped
      exact ⟨linesAbove, cellsAbove, cellsBelow, linesBelow, joined⟩

end LogicalLine

/-! ### Characters on a screen -/

namespace Screen

variable {s : Screen} {cols rows row col first : Nat} {cell : Cell}

/-- The cell at a place of a screen, if the place is on it. -/
def cellAt? (s : Screen) (row col : Nat) : Option Cell :=
  s.rows[row]?.bind fun row => row.cells[col]?

/-- What is read before a place of a screen, the history included. It tells where in the text the
place is, whatever the width of the rows. -/
def before (s : Screen) (row col : Nat) : List Cell :=
  writtenIn (s.allRows.take (s.history.size + row)) ++
    ((s.rows[row]?.map fun row => row.cells.toList.take col).getD []).filter Cell.isWritten

/-- A cursor on a character, which is written in the column `first`: in the cursor's column, or
before it when the cursor is on its right half. -/
structure StandsOn (s : Screen) (row col first : Nat) (cell : Cell) : Prop where
  cell_eq : s.cellAt? row first = some cell
  isWritten : cell.isWritten = true
  column : first = col ∨
    first + 1 = col ∧ cell.width = 2 ∧ (s.cellAt? row col).map Cell.isRightHalf = some true

/-- The cursor stands on the same character after a reflow: on an equal one, before which the same
is read as before, what was lost from the history included. -/
def Follows (s : Screen) (cols rows row col first : Nat) (cell : Cell) : Prop :=
  let r := s.reflow cols rows row col
  ∃ first', r.1.StandsOn r.2.1 r.2.2 first' cell ∧
    writtenIn (s.evicted cols rows row col) ++ r.1.before r.2.1 first' = s.before row first

/-- All rows above a row go on in the next one, and show nothing; neither do the cells before a
column of that row. -/
def NothingShownBefore (s : Screen) (row col : Nat) : Prop :=
  Row.Unseen (s.allRows.take (s.history.size + row)) ∧
    ∀ cell ∈ (s.rows[row]?.map fun row => row.cells.toList.take col).getD [],
      cell.isRightHalf = true

instance (s : Screen) (row col : Nat) : Decidable (s.NothingShownBefore row col) :=
  inferInstanceAs (Decidable (_ ∧ _))

/-- Before the corner of a screen its history is read. -/
theorem before_zero (s : Screen) : s.before 0 0 = writtenIn s.history.toList := by
  have history : s.allRows.take (s.history.size + 0) = s.history.toList := by
    rw [allRows, Nat.add_zero, ← Array.length_toList, List.take_left]
  rw [before, history]
  cases s.rows[0]? <;> simp

theorem lt_of_cellAt? (cell_eq : s.cellAt? row col = some cell) : row < s.rows.size := by
  obtain ⟨found, row_eq, -⟩ := Option.bind_eq_some_iff.mp cell_eq
  exact (Array.getElem?_eq_some_iff.mp row_eq).1

/-! ### The cursor's line -/

/-- The line that the cursor stands in: the lines above and below it, and the number of its cells
that come from rows above the cursor's. -/
structure CursorLine (s : Screen) (row col : Nat) (above : List LogicalLine) (text : LogicalLine)
    (below : List LogicalLine) (n : Nat) : Prop where
  lines_eq : s.logicalLines row col = above ++ text :: below
  above_unmarked : ∀ line ∈ above, line.cursor = none
  below_unmarked : ∀ line ∈ below, line.cursor = none
  cursor_eq : text.cursor = some (n + col)
  cell_eq : ∀ j cell, s.cellAt? row j = some cell → cell.isBlank = false →
    text.cells[n + j]? = some cell
  before_eq : ∀ j cell, s.cellAt? row j = some cell → cell.isBlank = false →
    above.flatMap LogicalLine.written ++ (text.cells.take (n + j)).filter Cell.isWritten =
      s.before row j
  unseen_iff : ∀ j cell, s.cellAt? row j = some cell → cell.isBlank = false →
    ((above = [] ∧ ∀ cell ∈ text.cells.take (n + j), cell.isRightHalf = true) ↔
      s.NothingShownBefore row j)

/-- The rows of a screen, one of them marked with the cursor: those before it and after it are
marked with none, whatever their number. -/
theorem map_zipIdx_eq (list : List Row) {k : Nat} (lt : k < list.length) (col : Nat) :
    (list.zipIdx.map fun item => (item.1, if item.2 = k then some col else none)) =
      LogicalLine.unmarked (list.take k) ++
        (list[k], some col) :: LogicalLine.unmarked (list.drop (k + 1)) := by
  have elsewhere : ∀ (rows : List Row) (n : Nat), (∀ item ∈ rows.zipIdx n, item.2 ≠ k) →
      ((rows.zipIdx n).map fun item => (item.1, if item.2 = k then some col else none)) =
        LogicalLine.unmarked rows := by
    intro rows n other
    have same : ∀ item ∈ rows.zipIdx n,
        (item.1, if item.2 = k then some col else none) = (item.1, none) := by
      intro item mem
      rw [if_neg (other item mem)]
    rw [List.map_congr_left same, LogicalLine.unmarked]
    conv => rhs; rw [← List.zipIdx_map_fst n rows]
    rw [List.map_map]
    rfl
  rw [Layout.zipIdx_split lt, List.map_append, List.map_cons, if_pos rfl, elsewhere, elsewhere]
  · intro item mem
    have := (List.mem_zipIdx mem).1
    omega
  · intro item mem
    have := (List.mem_zipIdx mem).2.1
    rw [List.length_take] at this
    omega

/-- The cursor of a line that was joined, at a cell that is not blank: that cell is kept, so it is
found behind the cells of the rows above, with the same cells before it. -/
theorem take_joined {found : Row} {above below : List Cell} {j : Nat}
    (cell_eq : found.cells[j]? = some cell) (visible : cell.isBlank = false) :
    (above ++ (LogicalLine.kept found ++ below))[above.length + j]? = some cell ∧
      (above ++ (LogicalLine.kept found ++ below)).take (above.length + j) =
        above ++ found.cells.toList.take j := by
  have lt := LogicalLine.lt_length_kept cell_eq visible
  obtain ⟨dropped, dropped_eq⟩ := LogicalLine.kept_prefix found
  constructor
  · have same : (LogicalLine.kept found)[j]? = found.cells.toList[j]? := by
      rw [← dropped_eq, List.getElem?_append_left lt]
    rw [List.getElem?_append_right (Nat.le_add_right _ _), Nat.add_sub_cancel_left,
      List.getElem?_append_left lt, same, Array.getElem?_toList, cell_eq]
  · rw [List.take_length_add_append, List.take_append_of_le_length (Nat.le_of_lt lt), ← dropped_eq,
      List.take_append_of_le_length (Nat.le_of_lt lt)]

/-- A cursor in a row of the screen stands in one line. What was read before the cursor, and whether
anything was shown there, can be told from that line and the lines above. -/
theorem exists_cursorLine (row_lt : row < s.rows.size) (col : Nat) :
    ∃ above text below n, s.CursorLine row col above text below n := by
  have used : row < s.usedRows row := by
    unfold usedRows
    omega
  have got : s.rows[row]? = some s.rows[row] := Array.getElem?_eq_getElem row_lt
  -- The rows that are joined go down to the cursor's row at least, so it is one of them.
  generalize source_eq : s.history.toList ++ s.rows.toList.take (s.usedRows row) = source
  have lt : s.history.size + row < source.length := by
    rw [← source_eq, List.length_append, List.length_take, Array.length_toList, Array.length_toList]
    omega
  have above_eq : source.take (s.history.size + row) = s.allRows.take (s.history.size + row) := by
    rw [← source_eq, allRows, ← Array.length_toList, List.take_length_add_append,
      List.take_length_add_append, List.take_take, Nat.min_eq_left (Nat.le_of_lt used)]
  have row_eq : source[s.history.size + row] = s.rows[row] := by
    simp [← source_eq]
  have marked : s.logicalLines row col = LogicalLine.join
      (LogicalLine.unmarked (source.take (s.history.size + row)) ++
        (s.rows[row], some col) ::
          LogicalLine.unmarked (source.drop (s.history.size + row + 1))) := by
    rw [logicalLines, source_eq, map_zipIdx_eq source lt, row_eq]
  obtain ⟨linesAbove, cellsAbove, cellsBelow, linesBelow, joined⟩ := LogicalLine.exists_joined
    (source.take (s.history.size + row)) s.rows[row] col (source.drop (s.history.size + row + 1))
  have cell_at : ∀ j cell, s.cellAt? row j = some cell → s.rows[row].cells[j]? = some cell := by
    intro j cell cell_eq
    rwa [cellAt?, got] at cell_eq
  refine ⟨linesAbove, _, linesBelow, cellsAbove.length,
    { lines_eq := marked.trans joined.lines_eq
      above_unmarked := joined.above_unmarked
      below_unmarked := joined.below_unmarked
      cursor_eq := rfl
      cell_eq := fun j cell cell_eq visible => (take_joined (cell_at j cell cell_eq) visible).1
      before_eq := ?_
      unseen_iff := ?_ }⟩
  · intro j cell cell_eq visible
    rw [(take_joined (cell_at j cell cell_eq) visible).2, before, got, ← above_eq,
      ← joined.written_above, List.filter_append, List.append_assoc]
    rfl
  · intro j cell cell_eq visible
    rw [(take_joined (cell_at j cell cell_eq) visible).2, NothingShownBefore, got, ← above_eq,
      ← joined.unseen_iff]
    simp [or_imp, forall_and, and_assoc]

/-! ### The new screen -/

/-- The rows shown are rows laid out. -/
theorem row_reflow {r : Nat} (le : s.firstShown cols rows row col ≤ r)
    (lt : r < s.firstShown cols rows row col + rows)
    (laid : r < (s.laidOut cols row col).rows.size) :
    (s.reflow cols rows row col).1.rows[r - s.firstShown cols rows row col]? =
      some (s.laidOut cols row col).rows[r] := by
  rw [← Array.getElem?_toList, toList_rows_reflow, List.getElem?_append_left, List.getElem?_take,
    if_pos (by omega), List.getElem?_drop, Nat.add_sub_cancel' le, Array.getElem?_toList,
    Array.getElem?_eq_getElem laid]
  rw [List.length_take, List.length_drop, Array.length_toList]
  omega

/-- What is read before a row shown is what was laid out before it. -/
theorem take_allRows_reflow {r : Nat} (le : s.firstShown cols rows row col ≤ r)
    (lt : r < s.firstShown cols rows row col + rows)
    (laid : r < (s.laidOut cols row col).rows.size) :
    s.evicted cols rows row col ++ (s.reflow cols rows row col).1.allRows.take
        ((s.reflow cols rows row col).1.history.size + (r - s.firstShown cols rows row col)) =
      (s.laidOut cols row col).rows.toList.take r := by
  have top := s.evicted_append_history cols rows row col
  rw [allRows, ← Array.length_toList, List.take_length_add_append, ← List.append_assoc, top,
    toList_rows_reflow, List.take_append_of_le_length, List.take_take,
    Nat.min_eq_left (by omega), ← List.take_add, Nat.add_sub_cancel' le]
  rw [List.length_take, List.length_drop, Array.length_toList]
  omega

/-- A cell that is shown in a row laid out is shown on the new screen, after the same cells. Its row
must be among those that the screen has room for. -/
theorem cellAt?_reflow {r c : Nat} {before : List Cell}
    (shows_ : (s.laidOut cols row col).Shows r c cell before)
    (le : s.firstShown cols rows row col ≤ r) (lt : r < s.firstShown cols rows row col + rows)
    (laid : r < (s.laidOut cols row col).rows.size) :
    (s.reflow cols rows row col).1.cellAt? (r - s.firstShown cols rows row col) c = some cell ∧
      writtenIn (s.evicted cols rows row col) ++
        (s.reflow cols rows row col).1.before (r - s.firstShown cols rows row col) c = before := by
  have row_eq := row_reflow le lt laid
  have cells_eq := Layout.rowCells_of_lt laid
  constructor
  · rw [cellAt?, row_eq, Option.bind_some, ← Array.getElem?_toList, ← cells_eq]
    exact shows_.cell_eq
  · rw [Screen.before, row_eq, ← List.append_assoc, ← Row.writtenIn_append,
      take_allRows_reflow le lt laid, Option.map_some, Option.getD_some, ← cells_eq]
    exact shows_.before_eq

/-- A cell in a row laid out is in one that is complete. -/
theorem lt_size_laidOut {r c : Nat} {before : List Cell}
    (shows_ : (s.laidOut cols row col).Shows r c cell before) :
    r < (s.laidOut cols row col).rows.size := by
  refine Nat.lt_of_le_of_ne shows_.row_le fun last => ?_
  have cell_eq := shows_.cell_eq
  rw [last, Layout.rowCells_size, laidOut, Layout.row_lines] at cell_eq
  exact absurd cell_eq (by simp)

/-- A cursor that was found is shown where it was found, in the row counted from the first one
shown, and no further than the last one. -/
theorem reflow_cursor (rows_pos : 0 < rows) {r c : Nat} {before : List Cell}
    (found : (s.laidOut cols row col).cursor = some (r, c))
    (shows_ : (s.laidOut cols row col).Shows r c cell before) :
    s.firstShown cols rows row col ≤ r ∧ r < s.firstShown cols rows row col + rows ∧
      (s.reflow cols rows row col).2 = (r - s.firstShown cols rows row col, c) := by
  have laid := lt_size_laidOut shows_
  have c_lt : c < cols := by
    have cell_eq := shows_.cell_eq
    rw [Layout.rowCells_of_lt laid, Array.getElem?_toList] at cell_eq
    rw [← Layout.uniform_lines cols (s.logicalLines row col) _ (Array.getElem_mem laid)]
    exact (Array.getElem?_eq_some_iff.mp cell_eq).1
  have first_eq : s.firstShown cols rows row col =
      min ((s.laidOut cols row col).rows.size - rows) r := by
    rw [firstShown, found]
    rfl
  have cursor_eq : (s.reflow cols rows row col).2 =
      (min (r - s.firstShown cols rows row col) (rows - 1), min c (cols - 1)) := by
    change (min (((s.laidOut cols row col).cursor.getD (0, 0)).1 - s.firstShown cols rows row col)
      (rows - 1), min ((s.laidOut cols row col).cursor.getD (0, 0)).2 (cols - 1)) = _
    rw [found]
    rfl
  refine ⟨by omega, by omega, ?_⟩
  rw [cursor_eq, Prod.mk.injEq]
  exact ⟨by omega, by omega⟩

/-! ### On the character itself -/

theorem isBlank_of_isWritten (written : cell.isWritten = true) : cell.isBlank = false := by
  simp only [Cell.isWritten, Bool.and_eq_true, Bool.not_eq_true'] at written
  exact written.2

theorem isRightHalf_of_isWritten (written : cell.isWritten = true) : cell.isRightHalf = false := by
  simp only [Cell.isWritten, Bool.and_eq_true, Bool.not_eq_true'] at written
  exact written.1

/-- A cursor in the column of its character follows it. The character is no right half, so the
layout puts it down, and it marks the cursor where it does so. -/
theorem follows_of_cellAt? (cols_pos : 0 < cols) (rows_pos : 0 < rows)
    (cell_eq : s.cellAt? row col = some cell) (written : cell.isWritten = true) :
    s.Follows cols rows row col col cell := by
  obtain ⟨above, text, below, n, line⟩ := exists_cursorLine (lt_of_cellAt? cell_eq) col
  have visible := isBlank_of_isWritten written
  obtain ⟨r, c, found, shows_⟩ := Layout.lines_shows cols_pos above line.below_unmarked
    line.cursor_eq (line.cell_eq col cell cell_eq visible) (isRightHalf_of_isWritten written)
  rw [line.before_eq col cell cell_eq visible] at shows_
  rw [← line.lines_eq] at found shows_
  obtain ⟨le, lt, cursor_eq⟩ := reflow_cursor rows_pos found shows_
  obtain ⟨cell_eq', before_eq⟩ := cellAt?_reflow shows_ le lt (lt_size_laidOut shows_)
  refine ⟨c, ?_, ?_⟩
  · rw [cursor_eq]
    exact { cell_eq := cell_eq', isWritten := written, column := Or.inl rfl }
  · rw [cursor_eq]
    exact before_eq

/-! ### On a right half -/

theorem isBlank_of_isRightHalf (half : cell.isRightHalf = true) : cell.isBlank = false := by
  have width : cell.width = 0 := by simpa [Cell.isRightHalf] using half
  simp [Cell.isBlank, width]

/-- A cursor on a right half is not found in the layout. -/
theorem cursor_laidOut_of_isRightHalf (cols : Nat)
    (half : (s.cellAt? row col).map Cell.isRightHalf = some true) :
    (s.laidOut cols row col).cursor = none := by
  obtain ⟨cell, cell_eq, half⟩ := Option.map_eq_some_iff.mp half
  obtain ⟨above, text, below, n, line⟩ := exists_cursorLine (lt_of_cellAt? cell_eq) col
  rw [laidOut, line.lines_eq]
  exact Layout.cursor_lines_of_isRightHalf line.above_unmarked line.below_unmarked line.cursor_eq
    (line.cell_eq col cell cell_eq (isBlank_of_isRightHalf half)) half cols

/-- A cursor that was not found is put into the corner, and nothing goes into the history. -/
theorem reflow_of_cursor_eq_none (rows : Nat) (lost : (s.laidOut cols row col).cursor = none) :
    s.firstShown cols rows row col = 0 ∧ (s.reflow cols rows row col).2 = (0, 0) := by
  have first_eq : s.firstShown cols rows row col = 0 := by
    rw [firstShown, lost]
    exact Nat.min_zero _
  refine ⟨first_eq, ?_⟩
  change (min (((s.laidOut cols row col).cursor.getD (0, 0)).1 - s.firstShown cols rows row col)
    (rows - 1), min ((s.laidOut cols row col).cursor.getD (0, 0)).2 (cols - 1)) = _
  rw [lost, first_eq]
  simp

/-- Cells that are right halves leave nothing to be read. -/
theorem filter_isWritten_eq_nil {cells : List Cell}
    (halves : ∀ cell ∈ cells, cell.isRightHalf = true) : cells.filter Cell.isWritten = [] := by
  refine List.filter_eq_nil_iff.mpr fun cell mem => ?_
  rw [Cell.isWritten_of_isRightHalf (halves cell mem)]
  exact Bool.false_ne_true

/-- A cursor on a right half is inside its line, to which no cells are added then. -/
theorem CursorLine.filled_eq {above below : List LogicalLine} {text : LogicalLine} {n : Nat}
    (line : s.CursorLine row col above text below n)
    (half : (s.cellAt? row col).map Cell.isRightHalf = some true) : text.filled = text.cells := by
  obtain ⟨right, right_eq, right_half⟩ := Option.map_eq_some_iff.mp half
  have cell_eq := line.cell_eq col right right_eq (isBlank_of_isRightHalf right_half)
  exact Layout.filled_eq_cells line.cursor_eq (List.getElem?_eq_some_iff.mp cell_eq).1

/-- In the corner a cursor stands on its character if that is the first one that is shown. Only
right halves come before it then, and these are not laid out. -/
theorem follows_of_nothingShownBefore (cols_pos : 0 < cols) (rows_pos : 0 < rows)
    (stands : s.StandsOn row col first cell)
    (half : (s.cellAt? row col).map Cell.isRightHalf = some true)
    (nothing : s.NothingShownBefore row first) : s.Follows cols rows row col first cell := by
  obtain ⟨first_eq, cursor_eq⟩ :=
    reflow_of_cursor_eq_none rows (cursor_laidOut_of_isRightHalf cols half)
  obtain ⟨above, text, below, n, line⟩ := exists_cursorLine (lt_of_cellAt? stands.cell_eq) col
  have visible := isBlank_of_isWritten stands.isWritten
  have shown := isRightHalf_of_isWritten stands.isWritten
  obtain ⟨rfl, halves⟩ := (line.unseen_iff first cell stands.cell_eq visible).mpr nothing
  obtain ⟨lt, cell_eq⟩ :=
    List.getElem?_eq_some_iff.mp (line.cell_eq first cell stands.cell_eq visible)
  -- Only right halves come before the character, so it is the first cell that is laid out.
  have found : text.filled.find? (fun cell => !cell.isRightHalf) = some cell := by
    rw [line.filled_eq half, ← List.take_append_drop (n + first) text.cells,
      List.drop_eq_getElem_cons lt, cell_eq, List.find?_append,
      List.find?_eq_none.mpr (by simpa using halves), List.find?_cons, shown]
    rfl
  have corner : (s.laidOut cols row col).Shows 0 0 cell [] :=
    { row_le := Nat.zero_le _
      cell_eq := by
        rw [laidOut, line.lines_eq, List.nil_append, Layout.rowCells_lines_zero cols_pos, found]
        rfl
      before_eq := rfl }
  have lt : 0 < s.firstShown cols rows row col + rows := by omega
  obtain ⟨cell_eq', before_eq⟩ :=
    cellAt?_reflow corner (Nat.le_of_eq first_eq) lt (lt_size_laidOut corner)
  rw [first_eq, Nat.sub_zero] at cell_eq' before_eq
  have before_first : s.before row first = [] := by
    rw [← line.before_eq first cell stands.cell_eq visible, filter_isWritten_eq_nil halves]
    rfl
  refine ⟨0, ?_, ?_⟩
  · rw [cursor_eq]
    exact { cell_eq := cell_eq', isWritten := stands.isWritten, column := Or.inl rfl }
  · rw [cursor_eq, before_first]
    exact before_eq

/-- The corner of the new screen is the first cell shown of the first line. Right halves are left
out when a line is laid out, so they are passed over in the search. -/
theorem find?_of_corner (cols_pos : 0 < cols) (rows_pos : 0 < rows)
    (first_eq : s.firstShown cols rows row col = 0) {text : LogicalLine} {below : List LogicalLine}
    (lines_eq : s.logicalLines row col = text :: below)
    (cell_eq : (s.reflow cols rows row col).1.cellAt? 0 0 = some cell)
    (written : cell.isWritten = true) :
    text.filled.find? (fun cell => !cell.isRightHalf) = some cell := by
  have corner_eq := Layout.rowCells_lines_zero cols_pos text below
  rw [← lines_eq] at corner_eq
  have corner : (s.laidOut cols row col).Shows 0 0 _ [] :=
    { row_le := Nat.zero_le _, cell_eq := corner_eq, before_eq := rfl }
  have laid := lt_size_laidOut corner
  have lt : 0 < s.firstShown cols rows row col + rows := by omega
  have row_eq := row_reflow (Nat.le_of_eq first_eq) lt laid
  rw [first_eq] at row_eq
  rw [cellAt?, row_eq, Option.bind_some, ← Array.getElem?_toList, ← Layout.rowCells_of_lt laid]
    at cell_eq
  have same := Option.some.inj (corner_eq.symm.trans cell_eq)
  cases found : text.filled.find? fun cell => !cell.isRightHalf with
  | some other =>
    rw [found] at same
    exact congrArg some same
  | none =>
    rw [found] at same
    rw [← same] at written
    exact absurd written (by decide)

/-- In the corner a cursor stands on its character only if that is the first one that is shown.
Nothing is read before the corner, and a cell without anything to be read that was shown earlier
would stand there itself. -/
theorem nothingShownBefore_of_follows (cols_pos : 0 < cols) (rows_pos : 0 < rows)
    (stands : s.StandsOn row col first cell)
    (half : (s.cellAt? row col).map Cell.isRightHalf = some true)
    (follows : s.Follows cols rows row col first cell) : s.NothingShownBefore row first := by
  obtain ⟨first_eq, cursor_eq⟩ :=
    reflow_of_cursor_eq_none rows (cursor_laidOut_of_isRightHalf cols half)
  obtain ⟨above, text, below, n, line⟩ := exists_cursorLine (lt_of_cellAt? stands.cell_eq) col
  have visible := isBlank_of_isWritten stands.isWritten
  obtain ⟨first', stands', before_eq⟩ := follows
  rw [cursor_eq] at stands' before_eq
  obtain rfl : first' = 0 := by
    rcases stands'.column with eq | ⟨eq, -⟩
    · exact eq
    · omega
  -- Nothing is read before the corner, so nothing was read before the character.
  have top := s.evicted_append_history cols rows row col
  rw [first_eq, List.take_zero, List.append_eq_nil_iff] at top
  have before_first : s.before row first = [] := by
    rw [← before_eq, before_zero, top.1, top.2]
    rfl
  rw [← line.before_eq first cell stands.cell_eq visible, List.append_eq_nil_iff] at before_first
  have unread : ∀ list : List Cell, list.filter Cell.isWritten = [] → cell ∉ list :=
    fun list none mem => absurd stands.isWritten (List.filter_eq_nil_iff.mp none cell mem)
  cases above with
  | nil =>
    have found := find?_of_corner cols_pos rows_pos first_eq line.lines_eq stands'.cell_eq
      stands.isWritten
    refine (line.unseen_iff first cell stands.cell_eq visible).mp ⟨rfl, ?_⟩
    rw [line.filled_eq half, ← List.take_append_drop (n + first) text.cells,
      List.find?_append] at found
    cases early : (text.cells.take (n + first)).find? fun cell => !cell.isRightHalf with
    | none => simpa using early
    | some other =>
      rw [early] at found
      obtain rfl : other = cell := Option.some.inj found
      exact absurd (List.mem_of_find?_eq_some early) (unread _ before_first.2)
  | cons line₀ above =>
    have found := find?_of_corner cols_pos rows_pos first_eq line.lines_eq stands'.cell_eq
      stands.isWritten
    have filled_eq : line₀.filled = line₀.cells := by
      rw [LogicalLine.filled, line.above_unmarked line₀ List.mem_cons_self]
      simp
    rw [List.flatMap_cons, List.append_eq_nil_iff] at before_first
    rw [filled_eq] at found
    exact absurd (List.mem_of_find?_eq_some found) (unread _ before_first.1.1)

/-- A cursor on a character follows it unless it stands on the right half, and something that a
layout shows comes before the character. -/
theorem follows_iff (cols_pos : 0 < cols) (rows_pos : 0 < rows)
    (stands : s.StandsOn row col first cell) :
    s.Follows cols rows row col first cell ↔ first = col ∨ s.NothingShownBefore row first := by
  rcases stands.column with rfl | ⟨next, -, half⟩
  · exact ⟨fun _ => Or.inl rfl,
      fun _ => follows_of_cellAt? cols_pos rows_pos stands.cell_eq stands.isWritten⟩
  · constructor
    · exact fun follows =>
        Or.inr (nothingShownBefore_of_follows cols_pos rows_pos stands half follows)
    · rintro (same | nothing)
      · omega
      · exact follows_of_nothingShownBefore cols_pos rows_pos stands half nothing

end Screen

/-! ### The lines down to the cursor -/

/-- The lines down to the one with the cursor, that one included; all lines, if no line has it. -/
def LogicalLine.down : List LogicalLine → List LogicalLine
  | [] => []
  | line :: rest => line :: if line.cursor.isSome then [] else down rest

theorem LogicalLine.down_prefix (list : List LogicalLine) : down list <+: list := by
  induction list with
  | nil => exact List.prefix_refl _
  | cons line rest ih =>
    refine List.cons_prefix_cons.mpr ⟨rfl, ?_⟩
    split
    · exact List.nil_prefix
    · exact ih

namespace Screen

variable (s : Screen) (cols rows row col : Nat)

/-- The lines of a screen and its history down to the cursor's line, the last one included. -/
def linesDown (s : Screen) (row col : Nat) : List LogicalLine :=
  LogicalLine.down (s.logicalLines row col)

/-- What is written down to the end of the cursor's line is there after a reflow, but for what was
lost from the history. -/
def KeepsLine (s : Screen) (cols rows row col : Nat) : Prop :=
  (s.linesDown row col).flatMap LogicalLine.written <+:
    writtenIn (s.evicted cols rows row col) ++ (s.reflow cols rows row col).1.written

theorem written_linesDown_prefix :
    (s.linesDown row col).flatMap LogicalLine.written <+: s.written := by
  obtain ⟨rest, rest_eq⟩ := LogicalLine.down_prefix (s.logicalLines row col)
  rw [← s.flatMap_written_logicalLines row col, ← rest_eq, List.flatMap_append]
  exact List.prefix_append _ _

/-- The cursor's line is kept when nothing of it is laid out below the last row shown. Lines are
laid out in their order, so what follows the cursor's line does not matter. -/
theorem keepsLine_iff {cols : Nat} (cols_pos : 0 < cols) :
    s.KeepsLine cols rows row col ↔
      writtenIn ((Layout.lines cols (s.linesDown row col)).rows.toList.drop
        (s.firstShown cols rows row col + rows)) = [] := by
  obtain ⟨later, later_eq⟩ := LogicalLine.down_prefix (s.logicalLines row col)
  have laid : (Layout.lines cols (s.linesDown row col)).rows.toList <+:
      (s.laidOut cols row col).rows.toList := by
    rw [laidOut, ← later_eq]
    exact (Layout.extends_lines cols_pos _ later).rows
  obtain ⟨more, more_eq⟩ := laid
  -- The rows of these lines come first in the layout, and the screen ends at one place in it.
  rw [KeepsLine, written_reflow, ← Layout.written_lines cols_pos, ← more_eq]
  generalize (Layout.lines cols (s.linesDown row col)).rows.toList = down
  generalize s.firstShown cols rows row col + rows = past
  have split : writtenIn down = writtenIn (down.take past) ++ writtenIn (down.drop past) := by
    rw [← Row.writtenIn_append, List.take_append_drop]
  constructor
  · intro kept
    rcases Nat.lt_or_ge past down.length with inside | outside
    · rw [List.take_append_of_le_length (Nat.le_of_lt inside), split] at kept
      have length_le := kept.length_le
      rw [List.length_append] at length_le
      exact List.eq_nil_of_length_eq_zero (by omega)
    · rw [List.drop_eq_nil_of_le outside]
      rfl
  · intro nothing
    rw [split, nothing, List.append_nil, List.take_append, Row.writtenIn_append]
    exact List.prefix_append _ _

end Screen

end TerminalSession
