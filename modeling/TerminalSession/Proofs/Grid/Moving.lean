import TerminalSession.Proofs.Grid.Shape

/-!
# Rows that move one at a time

The rows of a region move up or down, each time by one place. What a screen has for rows after so many
times is told place by place.

## Main statements

* `Screen.getElem?_replaceLine`: what is where after one row is taken out and another one put in
* `Screen.getElem?_rows_dropLine`, `Screen.getElem?_rows_addLine`: the rows of a region move by one place
* `Screen.getElem?_rows_iterate_scrollUp`, `Screen.getElem?_rows_iterate_addLine`: they move by several

## Design notes

* Nothing is asked of the number of places. When it is that of the rows of the region or greater, then
  the whole region is empty afterwards.
-/

namespace TerminalSession.Screen

variable {s : Screen} {cols top bottom : Nat}

/-! ### By one place -/

@[simp] theorem rows_scrollUp (s : Screen) (cols top bottom : Nat) (keep : Bool) :
    (s.scrollUp cols top bottom keep).rows = (s.dropLine cols top bottom).rows := by
  unfold scrollUp
  dsimp only
  split
  · split
    · exact rows_remember _ _
    · rfl
  · rfl

/-- The rows after one that is taken out move up, and those from one on that is put in move down.
Between the two places each row moves by one, and outside of them none does. -/
theorem getElem?_replaceLine {rows : Array Row} {out into : Nat} (out_lt : out < rows.size)
    (into_lt : into < rows.size) (row : Row) (i : Nat) :
    ((rows.eraseIdxIfInBounds out).insertIdxIfInBounds into row)[i]? =
      if i = into then some row
      else if i < into then rows[if i < out then i else i + 1]?
      else rows[if i ≤ out then i - 1 else i]? := by
  have erased : (rows.eraseIdxIfInBounds out).size = rows.size - 1 := by
    rw [Array.eraseIdxIfInBounds_eq, dif_pos out_lt, Array.size_eraseIdx]
  rw [Array.insertIdxIfInBounds, dif_pos (by omega), Array.getElem?_insertIdx, erased,
    Array.eraseIdxIfInBounds_eq, dif_pos out_lt, Array.getElem?_eraseIdx, Array.getElem?_eraseIdx]
  by_cases at_into : i = into
  · rw [if_neg (by omega), if_pos at_into, if_pos (by omega), if_pos at_into]
  · rw [if_neg at_into, if_neg at_into]
    by_cases before : i < into
    · rw [if_pos before, if_pos before]
      split <;> rfl
    · rw [if_neg before, if_neg before]
      by_cases moved : i ≤ out
      · rw [if_pos (by omega), if_pos moved]
      · rw [if_neg (by omega), if_neg moved, Nat.sub_add_cancel (by omega)]

theorem size_dropLine (top_le : top ≤ bottom) (bottom_lt : bottom < s.rows.size) :
    (s.dropLine cols top bottom).rows.size = s.rows.size :=
  size_replaceLine (by omega) bottom_lt _

theorem size_addLine (top_le : top ≤ bottom) (bottom_lt : bottom < s.rows.size) :
    (s.addLine cols top bottom).rows.size = s.rows.size :=
  size_replaceLine bottom_lt (by omega) _

/-- The rows of the region move up by one, and an empty one comes in at its end. Rows outside the
region stay, because as many are taken out above them as are put in. -/
theorem getElem?_rows_dropLine (top_le : top ≤ bottom) (bottom_lt : bottom < s.rows.size) (i : Nat) :
    (s.dropLine cols top bottom).rows[i]? =
      if i < top ∨ bottom < i then s.rows[i]?
      else if i = bottom then some (Row.blank cols)
      else s.rows[i + 1]? := by
  rw [dropLine, getElem?_replaceLine (by omega) bottom_lt]
  by_cases outside : i < top ∨ bottom < i
  · rw [if_pos outside, if_neg (by omega)]
    obtain above | below := outside
    · rw [if_pos (by omega), if_pos above]
    · rw [if_neg (by omega), if_neg (by omega)]
  · rw [if_neg outside]
    by_cases last : i = bottom
    · rw [if_pos last, if_pos last]
    · rw [if_neg last, if_neg last, if_pos (by omega), if_neg (by omega)]

/-- The rows of the region move down by one, and an empty one comes in at its start. The last row of
the region is lost, and rows outside it stay. -/
theorem getElem?_rows_addLine (top_le : top ≤ bottom) (bottom_lt : bottom < s.rows.size) (i : Nat) :
    (s.addLine cols top bottom).rows[i]? =
      if i < top ∨ bottom < i then s.rows[i]?
      else if i = top then some (Row.blank cols)
      else s.rows[i - 1]? := by
  rw [addLine, getElem?_replaceLine bottom_lt (by omega)]
  by_cases outside : i < top ∨ bottom < i
  · rw [if_pos outside, if_neg (by omega)]
    obtain above | below := outside
    · rw [if_pos above, if_pos (by omega)]
    · rw [if_neg (by omega), if_neg (by omega)]
  · rw [if_neg outside]
    by_cases first : i = top
    · rw [if_pos first, if_pos first]
    · rw [if_neg first, if_neg first, if_neg (by omega), if_pos (by omega)]

/-! ### By several places -/

/-- The rows of the region move up by `n`, and empty ones come in at its end. Nothing is said of
`n`: from the height of the region on all its rows are empty. -/
theorem getElem?_rows_iterate_scrollUp (keep : Bool) (top_le : top ≤ bottom)
    (bottom_lt : bottom < s.rows.size) (n i : Nat) :
    (Nat.repeat (fun s => s.scrollUp cols top bottom keep) n s).rows[i]? =
      if i < top ∨ bottom < i then s.rows[i]?
      else if bottom < i + n then some (Row.blank cols)
      else s.rows[i + n]? := by
  induction n generalizing i with
  | zero =>
    by_cases outside : i < top ∨ bottom < i
    · rw [if_pos outside, Nat.repeat]
    · rw [if_neg outside, if_neg (by omega), Nat.repeat, Nat.add_zero]
  | succ n ih =>
    have size_eq : (Nat.repeat (fun s => s.scrollUp cols top bottom keep) n s).rows.size =
        s.rows.size := by
      refine iterate_induction (P := fun s' : Screen => s'.rows.size = s.rows.size)
        (fun s' same => ?_) rfl n
      rw [rows_scrollUp, size_dropLine top_le (by omega), same]
    rw [Nat.repeat, rows_scrollUp, getElem?_rows_dropLine top_le (by omega), ih, ih]
    by_cases outside : i < top ∨ bottom < i
    · rw [if_pos outside, if_pos outside, if_pos outside]
    · rw [if_neg outside, if_neg outside]
      by_cases last : i = bottom
      · rw [if_pos last, if_pos (by omega)]
      · rw [if_neg last, if_neg (by omega : ¬ (i + 1 < top ∨ bottom < i + 1)), Nat.add_right_comm,
          ← Nat.add_assoc]

/-- The rows of the region move down by `n`, and empty ones come in at its start. Nothing is said of
`n`: from the height of the region on all its rows are empty. -/
theorem getElem?_rows_iterate_addLine (top_le : top ≤ bottom) (bottom_lt : bottom < s.rows.size)
    (n i : Nat) :
    (Nat.repeat (fun s => s.addLine cols top bottom) n s).rows[i]? =
      if i < top ∨ bottom < i then s.rows[i]?
      else if i < top + n then some (Row.blank cols)
      else s.rows[i - n]? := by
  induction n generalizing i with
  | zero =>
    by_cases outside : i < top ∨ bottom < i
    · rw [if_pos outside, Nat.repeat]
    · rw [if_neg outside, if_neg (by omega), Nat.repeat, Nat.sub_zero]
  | succ n ih =>
    have size_eq : (Nat.repeat (fun s => s.addLine cols top bottom) n s).rows.size =
        s.rows.size := by
      refine iterate_induction (P := fun s' : Screen => s'.rows.size = s.rows.size)
        (fun s' same => ?_) rfl n
      rw [size_addLine top_le (by omega), same]
    rw [Nat.repeat, getElem?_rows_addLine top_le (by omega), ih, ih]
    by_cases outside : i < top ∨ bottom < i
    · rw [if_pos outside, if_pos outside, if_pos outside]
    · rw [if_neg outside, if_neg outside]
      by_cases first : i = top
      · rw [if_pos first, if_pos (by omega)]
      · rw [if_neg first, if_neg (by omega : ¬ (i - 1 < top ∨ bottom < i - 1)), Nat.sub_sub,
          Nat.add_comm 1 n]
        by_cases empty : i - 1 < top + n
        · rw [if_pos empty, if_pos (by omega)]
        · rw [if_neg empty, if_neg (by omega)]

end TerminalSession.Screen
