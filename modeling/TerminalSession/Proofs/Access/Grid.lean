import TerminalSession.Proofs.Access.Primitive
import TerminalSession.Proofs.Grid.Shape

/-!
# Rows and screens, access by access

The functions on rows and screens once more, step by step and with accesses that can fail. On a
screen of the right shape none of them fails, and the result is that of the total function.

## Main definitions

* `Row.write?`, `Row.combine?`, `Row.eraseLine?`, `Row.insertCells?`, `Row.deleteCells?`: inside a
  row
* `Screen.modifyRow?`, `Screen.replaceLine?`, `Screen.scrollUp?`: rows of a screen
* `Screen.reflow?`: a screen at another size
* `Screen.look?`: a row of the window

## Main statements

* one lemma for each of them, named `_eq_some`

## Design notes

* Cells are inserted and deleted one at a time here, each time over the whole row, while
  `Row.insertCells` and `Row.deleteCells` move all of them at once. `iterate_insert_eq` and
  `iterate_remove_eq` compare the two ways.
-/

namespace TerminalSession

open Access (get set remove insert slice split take sub iterate)

/-! ### Rows -/

namespace Row

/-- The left half of the wide character whose right half is in a column becomes a space. In the
first column there is no cell before it, and none is looked for. -/
def clearLeft? (cells : Array Cell) (col : Nat) (style : Style) : Option (Array Cell) := do
  let old ← get cells col
  if 0 < col && old.isRightHalf then do
    let left ← sub col 1
    set cells left (Cell.space style)
  else some cells

/-- The right half of the wide character in a column becomes a space, if there is a column for
it. -/
def clearRight? (cells : Array Cell) (col cols : Nat) (style : Style) : Option (Array Cell) := do
  let old ← get cells col
  if old.width = 2 ∧ col + 1 < cols then set cells (col + 1) (Cell.space style) else some cells

/-- A wide character takes the column after it too, if there is one. The column is compared with the
number of columns and not with the length of the row, so the row has to be that long. -/
def putRightHalf? (cells : Array Cell) (col cols : Nat) (cell : Cell) : Option (Array Cell) :=
  if cell.width = 2 ∧ col + 1 < cols then set cells (col + 1) (Cell.rightHalf cell.style)
  else some cells

/-- `Row.write`, cell by cell. Each of the cells that are looked at and written has to be there. -/
def write? (row : Row) (col cols : Nat) (cell : Cell) : Option Row := do
  let cells ← clearLeft? row.cells col cell.style
  let cells ← clearRight? cells col cols cell.style
  let cells ← set cells col cell
  let cells ← putRightHalf? cells col cols cell
  some { row with cells }

/-- The place of the character before a column. A cursor past the margin is put on the last cell,
and from a right half one goes to the left half if the row has it. -/
def before? (row : Row) (col : Nat) : Option Nat := do
  let left ← sub col 1
  let last ← sub row.cells.size 1
  let cell ← get row.cells (min left last)
  if cell.isRightHalf && 0 < min left last then sub (min left last) 1 else some (min left last)

/-- `Row.combine`, cell by cell. In the first column the mark has no character to join and is
lost. -/
def combine? (row : Row) (col : Nat) (mark : Char) : Option Row :=
  if col = 0 then some row
  else do
    let target ← row.before? col
    let cell ← get row.cells target
    let cells ← set row.cells target { cell with glyph := cell.glyph ++ [mark] }
    some { row with cells }

/-- `Row.eraseRange`, where the range has to lie within the row. -/
def eraseRange? (row : Row) (first past : Nat) (style : Style) : Option Row := do
  let _ ← slice row.cells first past
  some (row.eraseRange first past style)

/-- What `Terminal.eraseLine` does in the cursor's row. The ends of a range are cut at the length of
the row before the cells are taken. -/
def eraseLine? (row : Row) (col mode : Nat) (style : Style) : Option Row :=
  match mode with
  | 0 => do
    let row ← row.eraseRange? (min col row.cells.size) row.cells.size style
    some { row with wrapped := false }
  | 1 => row.eraseRange? 0 (min col (row.cells.size - 1) + 1) style
  | 2 => do
    let row ← row.eraseRange? 0 row.cells.size style
    some { row with wrapped := false }
  | _ => some row

/-- `Row.insertCells`, one cell at a time: the last one leaves, an empty one comes in. -/
def insertCells? (row : Row) (col n : Nat) : Option Row :=
  if row.cells.size ≤ col then some row
  else do
    let room ← sub row.cells.size col
    let cells ← iterate (fun cells => insert cells.pop col Cell.empty) (min n room) row.cells
    some { row with cells }

/-- `Row.deleteCells`, one cell at a time: it leaves, and an empty one comes in at the end. -/
def deleteCells? (row : Row) (col n : Nat) : Option Row :=
  if row.cells.size ≤ col then some row
  else do
    let room ← sub row.cells.size col
    let cells ← iterate (fun cells => (remove cells col).map fun taken => taken.2.push Cell.empty)
      (min n room) row.cells
    some { row with cells }

/-! ### Writing -/

/-- The cell before a right half is there: a right half in the first column is not looked at. So the
space that replaces the left half is put into a cell of the row. -/
theorem clearLeft?_eq_some {cells : Array Cell} {col : Nat} (col_lt : col < cells.size)
    (style : Style) :
    clearLeft? cells col style =
      some (if 0 < col && (cells[col]?.map Cell.isRightHalf).getD false then
        cells.setIfInBounds (col - 1) (Cell.space style) else cells) := by
  have got : cells[col]? = some cells[col] := Array.getElem?_eq_getElem col_lt
  rw [clearLeft?, Access.get_eq_some col_lt, got]
  simp only [Option.bind_eq_bind, Option.bind_some, Option.map_some, Option.getD_some]
  split
  next both =>
    have pos : 0 < col := by
      simp only [Bool.and_eq_true, decide_eq_true_eq] at both
      exact both.1
    rw [Access.sub_eq_some pos, Option.bind_some, Access.set_eq_some (by omega)]
  next => rfl

/-- A write past the last column fails here and does nothing there, so the column is looked at. -/
theorem setNext_eq_some {cells : Array Cell} {col cols : Nat} (size : cells.size = cols) (p : Prop)
    [Decidable p] (new : Cell) :
    (if p ∧ col + 1 < cols then set cells (col + 1) new else some cells) =
      some (if p then cells.setIfInBounds (col + 1) new else cells) := by
  by_cases fits : col + 1 < cols
  · simp only [fits, and_true]
    split
    · exact Access.set_eq_some (size ▸ fits) new
    · rfl
  · rw [Array.setIfInBounds_eq_of_size_le (by omega)]
    simp [fits]

/-- The cell after a wide one may lie past the margin. It is replaced only if it does not, which is
the case for every column left of the last. -/
theorem clearRight?_eq_some {cells : Array Cell} {col cols : Nat} (size : cells.size = cols)
    (col_lt : col < cols) (style : Style) :
    clearRight? cells col cols style =
      some (if (cells[col]?.map fun old => old.width == 2).getD false then
        cells.setIfInBounds (col + 1) (Cell.space style) else cells) := by
  have bound : col < cells.size := size ▸ col_lt
  have got : cells[col]? = some cells[col] := Array.getElem?_eq_getElem bound
  rw [clearRight?, Access.get_eq_some bound, got]
  simp only [Option.bind_eq_bind, Option.bind_some, Option.map_some, Option.getD_some, beq_iff_eq]
  exact setNext_eq_some size _ _

/-- So writing a character does not fail, with both of its neighbours mended and its own right half
after it. Mending keeps the number of cells, which is all that the accesses after it need. -/
theorem write?_eq_some {row : Row} {col cols : Nat} (size : row.cells.size = cols)
    (col_lt : col < cols) (cell : Cell) : row.write? col cols cell = some (row.write col cell) := by
  rw [write?, clearLeft?_eq_some (size ▸ col_lt), Option.bind_eq_bind, Option.bind_some]
  -- Both spaces are put into cells of the same number, so the accesses that follow are in range.
  generalize first : (if 0 < col && (row.cells[col]?.map Cell.isRightHalf).getD false then
    row.cells.setIfInBounds (col - 1) (Cell.space cell.style) else row.cells) = cells
  have size₁ : cells.size = cols := by
    rw [← first]
    split <;> simpa using size
  rw [clearRight?_eq_some size₁ col_lt, Option.bind_some]
  generalize second : (if (cells[col]?.map fun old => old.width == 2).getD false then
    cells.setIfInBounds (col + 1) (Cell.space cell.style) else cells) = cells'
  have size₂ : cells'.size = cols := by
    rw [← second]
    split <;> simpa using size₁
  rw [Access.set_eq_some (size₂ ▸ col_lt), Option.bind_some, putRightHalf?,
    setNext_eq_some (by simpa using size₂), Option.bind_some]
  simp only [write, writeCells, first, second]

/-! ### Combining -/

/-- The cell that a mark joins is left of the cursor. A right half has a cell before it, so that
this one can be taken instead. -/
theorem before?_eq_some {row : Row} (cells_pos : 0 < row.cells.size) {col : Nat}
    (col_pos : 0 < col) :
    row.before? col =
      some (if (row.cells[min (col - 1) (row.cells.size - 1)]?.map Cell.isRightHalf).getD false then
        min (col - 1) (row.cells.size - 1) - 1 else min (col - 1) (row.cells.size - 1)) := by
  have bound : min (col - 1) (row.cells.size - 1) < row.cells.size := by omega
  rw [before?, Access.sub_eq_some col_pos, Access.sub_eq_some cells_pos]
  simp only [Option.bind_eq_bind, Option.bind_some]
  generalize min (col - 1) (row.cells.size - 1) = before at bound
  have got : row.cells[before]? = some row.cells[before] := Array.getElem?_eq_getElem bound
  rw [Access.get_eq_some bound, got]
  simp only [Option.bind_some, Option.map_some, Option.getD_some]
  by_cases half : row.cells[before].isRightHalf = true
  · by_cases pos : 0 < before
    · simp [half, pos, Access.sub_eq_some (show 1 ≤ before from pos)]
    · simp [show before = 0 by omega]
  · simp [half]

/-- So a mark can be added in any row that has cells. It goes to the cell before the column, or to
the one before that if this is a right half; a column beyond the row is brought into it first. -/
theorem combine?_eq_some {row : Row} (cells_pos : 0 < row.cells.size) (col : Nat) (mark : Char) :
    row.combine? col mark = some (row.combine col mark) := by
  unfold combine? combine
  split
  · rfl
  next moved =>
    rw [before?_eq_some cells_pos (by omega), Option.bind_eq_bind, Option.bind_some]
    dsimp only
    generalize eq : (if (row.cells[min (col - 1) (row.cells.size - 1)]?.map
      Cell.isRightHalf).getD false then min (col - 1) (row.cells.size - 1) - 1
      else min (col - 1) (row.cells.size - 1)) = target
    have target_lt : target < row.cells.size := by
      rw [← eq]
      split <;> omega
    simp only [Access.get_eq_some target_lt, Access.set_eq_some target_lt, Option.bind_eq_bind,
      Option.bind_some]
    congr 2

/-! ### Editing -/

/-- A range that is in order, and ends within the row, can be erased. -/
theorem eraseRange?_eq_some {row : Row} {first past : Nat} (ordered : first ≤ past)
    (bound : past ≤ row.cells.size) (style : Style) :
    row.eraseRange? first past style = some (row.eraseRange first past style) := by
  rw [eraseRange?, Access.slice_eq_some ordered bound]
  rfl

/-- Erasing from a column past the margin erases nothing, as erasing from the margin does. -/
theorem eraseRange_min (row : Row) (col : Nat) (style : Style) :
    row.eraseRange (min col row.cells.size) row.cells.size style =
      row.eraseRange col row.cells.size style := by
  simp only [eraseRange, Row.mk.injEq, and_true]
  ext i _ in_row
  · simp
  · rw [Array.size_mapIdx] at in_row
    have same : decide (min col row.cells.size ≤ i) = decide (col ≤ i) := by
      apply decide_eq_decide.mpr
      omega
    simp only [Array.getElem_mapIdx, same]

/-- Each of the three parts of a row is such a range, once its ends are brought into the row. What
is no part of a row is not erased. -/
theorem eraseLine?_eq_some {row : Row} (cells_pos : 0 < row.cells.size) (col mode : Nat)
    (style : Style) :
    row.eraseLine? col mode style =
      some (match mode with
        | 0 => { row.eraseRange col row.cells.size style with wrapped := false }
        | 1 => row.eraseRange 0 (min col (row.cells.size - 1) + 1) style
        | 2 => { row.eraseRange 0 row.cells.size style with wrapped := false }
        | _ => row) := by
  unfold eraseLine?
  split
  · rw [eraseRange?_eq_some (Nat.min_le_right _ _) (Nat.le_refl _), eraseRange_min]
    rfl
  · exact eraseRange?_eq_some (Nat.zero_le _) (by omega) style
  · rw [eraseRange?_eq_some (Nat.zero_le _) (Nat.le_refl _)]
    rfl
  · rfl

/-- Cells put in one at a time are the cells put in at once. The last cell is dropped before each,
so the row keeps its length, and with it the places that are in range. -/
theorem iterate_insert_eq {cells : Array Cell} {col n : Nat} (col_lt : col < cells.size)
    (room : n ≤ cells.size - col) :
    Nat.repeat (fun cells : Array Cell => cells.pop.insertIdxIfInBounds col Cell.empty) n cells =
      cells.extract 0 col ++ Array.replicate n Cell.empty ++
        cells.extract col (cells.size - n) := by
  induction n with
  | zero => simp [Nat.repeat, Nat.max_eq_right (Nat.le_of_lt col_lt)]
  | succ n ih =>
    have size : (cells.extract 0 col ++ Array.replicate n Cell.empty ++
        cells.extract col (cells.size - n)).size = cells.size := by
      simp only [Array.size_append, Array.size_extract, Array.size_replicate]
      omega
    rw [Nat.repeat, ih (by omega), Array.insertIdxIfInBounds,
      dif_pos (by rw [Array.size_pop, size]; omega)]
    ext i _ _
    · simp only [Array.size_insertIdx, Array.size_pop, size, Array.size_append,
        Array.size_extract, Array.size_replicate]
      omega
    · simp only [Array.getElem_insertIdx, Array.getElem_pop, Array.getElem_append,
        Array.getElem_extract, Array.getElem_replicate, Array.size_append, Array.size_extract,
        Array.size_replicate]
      -- Each place lies before the new cells, among them or behind them, on both sides alike.
      repeat' split
      all_goals first
        | rfl
        | omega
        | exact getElem_congr_idx (by omega)

/-- Cells taken out one at a time are the cells taken out at once. Each is made up for at the end of
the row, so the next one to take out is again in range. -/
theorem iterate_remove_eq {cells : Array Cell} {col n : Nat} (col_lt : col < cells.size)
    (room : n ≤ cells.size - col) :
    Nat.repeat (fun cells : Array Cell => (cells.eraseIdxIfInBounds col).push Cell.empty) n cells =
      cells.extract 0 col ++ cells.extract (col + n) cells.size ++
        Array.replicate n Cell.empty := by
  induction n with
  | zero => simp [Nat.repeat, Nat.max_eq_right (Nat.le_of_lt col_lt)]
  | succ n ih =>
    have size : (cells.extract 0 col ++ cells.extract (col + n) cells.size ++
        Array.replicate n Cell.empty).size = cells.size := by
      simp only [Array.size_append, Array.size_extract, Array.size_replicate]
      omega
    rw [Nat.repeat, ih (by omega), Array.eraseIdxIfInBounds_eq, dif_pos (by omega)]
    ext i _ _
    · simp only [Array.size_push, Array.size_eraseIdx, size, Array.size_append,
        Array.size_extract, Array.size_replicate]
      omega
    · simp only [Array.getElem_push, Array.getElem_eraseIdx, Array.getElem_append,
        Array.getElem_extract, Array.getElem_replicate, Array.size_append, Array.size_extract,
        Array.size_replicate, Array.size_eraseIdx]
      repeat' split
      all_goals first
        | rfl
        | omega
        | exact getElem_congr_idx (by omega)

/-- The number of cells is cut at the margin first. What is inserted, and what is then cut off, is
in range for any such number. -/
theorem insertCells?_eq_some (row : Row) (col n : Nat) :
    row.insertCells? col n =
      some (if row.cells.size ≤ col then row else row.insertCells col n) := by
  unfold insertCells?
  split
  · rfl
  next inside =>
    have col_lt : col < row.cells.size := by omega
    have repeated := Access.iterate_eq_some
      (f := fun cells => insert cells.pop col Cell.empty)
      (g := fun cells => cells.pop.insertIdxIfInBounds col Cell.empty)
      (P := fun cells => cells.size = row.cells.size)
      (fun cells size => Access.insert_eq_some (by rw [Array.size_pop]; omega) _)
      (fun cells size => by
        rw [Array.insertIdxIfInBounds, dif_pos (by rw [Array.size_pop]; omega),
          Array.size_insertIdx, Array.size_pop]
        omega)
      rfl (min n (row.cells.size - col))
    simp only [Access.sub_eq_some (Nat.le_of_lt col_lt), Option.bind_eq_bind, Option.bind_some,
      repeated.1]
    rw [iterate_insert_eq col_lt (Nat.min_le_right _ _), insertCells]

/-- So it is for cells that are taken out. There are no more of them than cells from the column on,
and from a column beyond the row none is taken out. -/
theorem deleteCells?_eq_some (row : Row) (col n : Nat) :
    row.deleteCells? col n =
      some (if row.cells.size ≤ col then row else row.deleteCells col n) := by
  unfold deleteCells?
  split
  · rfl
  next inside =>
    have col_lt : col < row.cells.size := by omega
    have repeated := Access.iterate_eq_some
      (f := fun cells => (remove cells col).map fun taken => taken.2.push Cell.empty)
      (g := fun cells => (cells.eraseIdxIfInBounds col).push Cell.empty)
      (P := fun cells => cells.size = row.cells.size)
      (fun cells size => by
        rw [Access.remove_eq_some (by omega)]
        rfl)
      (fun cells size => by
        rw [Array.size_push, Array.eraseIdxIfInBounds_eq, dif_pos (by omega),
          Array.size_eraseIdx]
        omega)
      rfl (min n (row.cells.size - col))
    simp only [Access.sub_eq_some (Nat.le_of_lt col_lt), Option.bind_eq_bind, Option.bind_some,
      repeated.1]
    rw [iterate_remove_eq col_lt (Nat.min_le_right _ _), deleteCells]

end Row

/-! ### Screens -/

namespace Screen

/-- A screen with one of its rows changed. The row has to be there, and the change has to succeed on
it. -/
def modifyRow? (s : Screen) (row : Nat) (f : Row → Option Row) : Option Screen := do
  let old ← get s.rows row
  let new ← f old
  let rows ← set s.rows row new
  some { s with rows }

/-- A row is taken out, and an empty one comes in. The second place is one of the rows that are
left, or the end. -/
def replaceLine? (s : Screen) (cols out into : Nat) : Option Screen := do
  let (_, rows) ← remove s.rows out
  let rows ← insert rows into (Row.blank cols)
  some { s with rows }

/-- `Screen.scrollUp`; the row that leaves enters the history before the empty one comes in. -/
def scrollUp? (s : Screen) (cols top bottom : Nat) (keep : Bool) : Option Screen := do
  let (row, rows) ← remove s.rows top
  let left : Screen := { s with rows }
  let left := if keep then left.remember row else left
  let rows ← insert left.rows bottom (Row.blank cols)
  some { left with rows }

/-- `Screen.reflow`, where the rows in use have to be there, and the first row of the new screen has
to be one that was laid out and not below the cursor. -/
def reflow? (s : Screen) (cols rows row col : Nat) : Option (Screen × Nat × Nat) := do
  let used ← take s.rows (s.usedRows row)
  let source := (s.history.toList ++ used.toList).zipIdx.map fun item =>
    (item.1, if item.2 = s.history.size + row then some col else none)
  let layout := Layout.lines cols (LogicalLine.join source)
  let cursor := layout.cursor.getD (0, 0)
  let first := min (layout.rows.size - rows) cursor.1
  let (old, new) ← split layout.rows first
  let down ← sub cursor.1 first
  let shown := new.take rows
  let history := old.drop (old.size - s.limit)
  some ({ s with
      rows := shown ++ Array.replicate (rows - shown.size) (Row.blank cols)
      history
      offset := min s.offset history.size },
    min down (rows - 1), min cursor.2 (cols - 1))

/-- `Screen.rowAt?`; a place outside of the window shows nothing, which is no failure. Only the
difference that turns a line into a row of the screen may fail. -/
def look? (s : Screen) (place : Nat) : Option (Option Row) :=
  let line := s.history.size - s.offset + place
  if line < s.history.size then some s.history[line]?
  else (sub line s.history.size).map fun row => s.rows[row]?

/-- A row of the screen can be changed. -/
theorem modifyRow?_eq_some {s : Screen} {row : Nat} (row_lt : row < s.rows.size)
    {f : Row → Option Row} {g : Row → Row} (step : ∀ old ∈ s.rows, f old = some (g old)) :
    s.modifyRow? row f = some (s.modifyRow row g) := by
  simp only [modifyRow?, Access.get_eq_some row_lt, step _ (Array.getElem_mem row_lt),
    Access.set_eq_some row_lt, Option.bind_eq_bind, Option.bind_some]
  rw [modifyRow]
  congr 2

/-- A row can be taken out and another one put in, at any two places of the screen. After the first
step one row is missing, and the place for the second is still there. -/
theorem replaceLine?_eq_some {s : Screen} {out into : Nat} (out_lt : out < s.rows.size)
    (into_lt : into < s.rows.size) (cols : Nat) :
    s.replaceLine? cols out into = some { s with
      rows := (s.rows.eraseIdxIfInBounds out).insertIdxIfInBounds into (Row.blank cols) } := by
  have bound : into ≤ (s.rows.eraseIdxIfInBounds out).size := by
    rw [Array.eraseIdxIfInBounds_eq, dif_pos out_lt, Array.size_eraseIdx]
    omega
  simp only [replaceLine?, Access.remove_eq_some out_lt, Access.insert_eq_some bound,
    Option.bind_eq_bind, Option.bind_some]

/-- The row that is remembered is the one that is taken out, so it is there. The new row is put in
among one row less, where the lower end of the region is still a place. -/
theorem scrollUp?_eq_some {s : Screen} {top bottom : Nat} (top_lt : top < s.rows.size)
    (bottom_lt : bottom < s.rows.size) (cols : Nat) (keep : Bool) :
    s.scrollUp? cols top bottom keep = some (s.scrollUp cols top bottom keep) := by
  have bound : bottom ≤ (s.rows.eraseIdxIfInBounds top).size := by
    rw [Array.eraseIdxIfInBounds_eq, dif_pos top_lt, Array.size_eraseIdx]
    omega
  have got : s.rows[top]? = some s.rows[top] := Array.getElem?_eq_getElem top_lt
  simp only [scrollUp?, scrollUp, Access.remove_eq_some top_lt, got, Option.bind_eq_bind,
    Option.bind_some]
  cases keep with
  | false => simp only [Bool.false_eq_true, if_false, Access.insert_eq_some bound]; rfl
  | true =>
    simp only [if_true, rows_remember, Access.insert_eq_some bound, Option.bind_some, dropLine]
    unfold remember
    split <;> rfl

/-- No more rows are reflowed than there are. -/
theorem usedRows_le {s : Screen} (rows_pos : 0 < s.rows.size) (row : Nat) :
    s.usedRows row ≤ s.rows.size := by
  unfold usedRows
  omega

/-- All ranges that a reflow takes are in order, whatever the cursor is said to be. -/
theorem reflow?_eq_some {s : Screen} (rows_pos : 0 < s.rows.size) (cols rows row col : Nat) :
    s.reflow? cols rows row col = some (s.reflow cols rows row col) := by
  have lines_eq : LogicalLine.join
      ((s.history.toList ++ (s.rows.take (s.usedRows row)).toList).zipIdx.map fun item =>
        (item.1, if item.2 = s.history.size + row then some col else none)) =
      s.logicalLines row col := by
    rw [Array.take_eq_extract, Array.toList_extract, List.extract_eq_take_drop, List.drop_zero]
    rfl
  simp only [reflow?, reflow, Access.take_eq_some (usedRows_le rows_pos row), lines_eq,
    Option.bind_eq_bind, Option.bind_some]
  generalize Layout.lines cols (s.logicalLines row col) = layout
  rw [Access.split_eq_some (by omega), Option.bind_some, Access.sub_eq_some (Nat.min_le_right _ _)]
  rfl

/-- A row of the window is in the history or on the screen, or it is none of them; neither is
accessed out of range. -/
theorem look?_eq_some (s : Screen) (place : Nat) : s.look? place = some (s.rowAt? place) := by
  unfold look? rowAt?
  dsimp only
  split
  · rfl
  next below =>
    rw [Access.sub_eq_some (by omega)]
    rfl

end Screen

end TerminalSession
