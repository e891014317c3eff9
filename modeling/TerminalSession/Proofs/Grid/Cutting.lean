import TerminalSession.Proofs.Grid.Pairing

/-!
# Where printing cuts wide characters in half

A character that is put into a row repairs what it covers in part. It leaves a half behind in three
cases: when room is made for it in the middle of a wide character, when that pushes one half of a wide
character over the margin, and when a wide character covers the left half of another one. In all other
cases the row stays whole.

## Main statements

* `Row.widthAt_put_insert`: the widths of a row after a character came in
* `Row.Paired.put_iff`: a row stays whole exactly when it is not cut in the middle of a character

## Design notes

* `Row.Paired.put` says that a row which is spared stays whole. Here it is the other way around: each
  of the columns at which a row is cut shows a half after the cut.
-/

namespace TerminalSession.Row

variable {cells : Array Cell} {row : Row} {col n : Nat}

/-! ### Coming in -/

/-- The widths of a row in which cells came in: before them nothing changes, they are empty, behind
them everything is moved, and beyond the margin nothing is left. -/
theorem widthAt_insertCells (fits : col + n ≤ row.cells.size) (i : Nat) :
    widthAt (row.insertCells col n).cells i =
      if i < col then widthAt row.cells i
      else if i < col + n then 1
      else if i < row.cells.size then widthAt row.cells (i - n)
      else 1 := by
  have room : min n (row.cells.size - col) = n := by omega
  have left_size : (row.cells.extract 0 col).size = col := by
    rw [Array.size_extract]
    omega
  unfold insertCells
  dsimp only
  rw [room, Array.append_assoc, widthAt_append, left_size]
  split
  next before =>
    rw [widthAt_extract _ (by omega), if_pos (by omega), Nat.zero_add]
  next behind =>
    rw [widthAt_append, Array.size_replicate]
    split
    next inside => rw [widthAt_replicate _ rfl, if_pos (by omega)]
    next past =>
      rw [if_neg (by omega), widthAt_extract _ (by omega)]
      split
      next shifted => rw [if_pos (by omega), show col + (i - col - n) = i - n by omega]
      next lost => rw [if_neg (by omega)]

/-- The widths of a row after a character came in, with what was behind it moved to the right. The
place made for it was empty, so its neighbours are not looked at. -/
theorem widthAt_put_insert {cell : Cell} (shown : cell.width ≠ 0) (le_two : cell.width ≤ 2)
    (fits : col + cell.width ≤ row.cells.size) (i : Nat) :
    widthAt (row.put true col cell).cells i =
      if i < col then widthAt row.cells i
      else if i = col then cell.width
      else if i < col + cell.width then 0
      else if i < row.cells.size then widthAt row.cells (i - cell.width)
      else 1 := by
  have ready_eq : row.makeRoom col cell.width = row.insertCells col cell.width :=
    if_neg (by omega)
  have size : (row.insertCells col cell.width).cells.size = row.cells.size :=
    size_insertCells row col cell.width
  -- Where the character goes there is an empty cell, so that nothing has to be repaired.
  have vacant : widthAt (row.insertCells col cell.width).cells col = 1 := by
    rw [widthAt_insertCells fits, if_neg (by omega), if_pos (by omega)]
  change widthAt (writeCells (row.makeRoom col cell.width).cells col cell) i = _
  rw [ready_eq, widthAt_writeCells _ shown (by omega), vacant, widthAt_insertCells fits]
  repeat' split
  all_goals omega

/-! ### Cutting -/

/-- Before a right half there is a wide character. -/
theorem Paired.exists_wide (paired : Paired cells) (half : widthAt cells col = 0) :
    ∃ before, col = before + 1 ∧ widthAt cells before = 2 := by
  obtain _ | before := col
  · exact absurd half paired.first
  · exact ⟨before, rfl, (paired.next before).mpr half⟩

/-- If the row is whole after a character came in, then a character began where it came in. -/
theorem Paired.bordersAt_of_insert (paired : Paired row.cells) {cell : Cell}
    (shown : cell.width ≠ 0) (le_two : cell.width ≤ 2) (fits : col + cell.width ≤ row.cells.size)
    (after : Paired (row.put true col cell).cells) : bordersAt row.cells col = true := by
  rw [bordersAt_iff]
  intro half
  obtain ⟨before, rfl, wide⟩ := paired.exists_wide half
  have next := after.next before
  rw [widthAt_put_insert shown le_two fits, widthAt_put_insert shown le_two fits,
    if_pos (Nat.lt_succ_self before), if_neg (Nat.lt_irrefl _), if_pos rfl] at next
  exact shown (next.mp wide)

/-- And one began at the first column that was pushed over the margin. If none did, a wide character
would lose its right half there and end the row with its left one. -/
theorem Paired.bordersAt_of_pushed (paired : Paired row.cells) {cell : Cell}
    (shown : cell.width ≠ 0) (le_two : cell.width ≤ 2) (fits : col + cell.width ≤ row.cells.size)
    (after : Paired (row.put true col cell).cells) :
    bordersAt row.cells (row.cells.size - cell.width) = true := by
  rcases Nat.eq_or_lt_of_le (Nat.le_sub_of_add_le fits) with here | behind
  · rw [← here]
    exact paired.bordersAt_of_insert shown le_two fits after
  · rw [bordersAt_iff]
    intro half
    obtain ⟨before, pushed_eq, wide⟩ := paired.exists_wide half
    -- The wide character before that column comes to stand in the last one.
    have next := after.next (before + cell.width)
    rw [widthAt_put_insert shown le_two fits, widthAt_put_insert shown le_two fits,
      if_neg (by omega), if_neg (by omega), if_neg (by omega), if_pos (by omega),
      Nat.add_sub_cancel, if_neg (by omega), if_neg (by omega), if_neg (by omega),
      if_neg (by omega)] at next
    exact Nat.one_ne_zero (next.mp wide)

/-- If the row is whole after a wide character was put over it, then a character began behind it. -/
theorem bordersAt_of_writeCells {cell : Cell} (wide : cell.width = 2)
    (fits : col + cell.width ≤ cells.size) (after : Paired (writeCells cells col cell)) :
    bordersAt cells (col + 1 + 1) = true := by
  have shown : cell.width ≠ 0 := by omega
  rw [bordersAt_iff]
  intro half
  have next := after.next (col + 1)
  rw [widthAt_writeCells cells shown fits, widthAt_writeCells cells shown fits,
    if_neg (by omega), if_pos ⟨rfl, wide⟩, if_neg (by omega), if_neg (by omega), if_neg (by omega),
    if_neg (by omega)] at next
  exact absurd (next.mpr half) (by decide)

/-- A row into which a character is put stays whole exactly when no column at which it is cut is in the
middle of a wide character. -/
theorem Paired.put_iff (paired : Paired row.cells) {insert : Bool} {cell : Cell}
    (shown : cell.width ≠ 0) (le_two : cell.width ≤ 2)
    (fits : col + cell.width ≤ row.cells.size) :
    Paired (row.put insert col cell).cells ↔
      row.spares (putCuts row.cells.size insert col cell.width) = true := by
  refine ⟨fun after => ?_, fun spares => paired.put shown le_two fits spares⟩
  cases insert with
  | true =>
    have margin_eq : max col (row.cells.size - cell.width) = row.cells.size - cell.width := by omega
    show row.spares [col, max col (row.cells.size - cell.width)] = true
    rw [margin_eq, spares_pair]
    exact ⟨paired.bordersAt_of_insert shown le_two fits after,
      paired.bordersAt_of_pushed shown le_two fits after⟩
  | false =>
    show row.spares (if cell.width = 2 then [col + 1 + 1] else []) = true
    split
    next wide => exact spares_singleton.mpr (bordersAt_of_writeCells wide fits after)
    next narrow => rfl

end TerminalSession.Row
