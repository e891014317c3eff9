import TerminalSession.Proofs.Grid.Remembering

/-!
# Rows that move all at once

The rows of a region move one at a time, each time by one place. The screen comes to what it is when
they move all at once: the rows that stay in the region and the empty ones are put together, and take
the place of what was there.

## Main definitions

* `Screen.splice`: other rows take the place of the rows of a region
* `Screen.shiftUp`, `Screen.shiftDown`: the rows of a region move by a number of places

## Main statements

* `Screen.getElem?_rows_shiftUp`, `Screen.getElem?_rows_shiftDown`: what each row is then
* `Screen.iterate_dropLine`, `Screen.iterate_addLine`: moving rows one at a time is the same
* `Screen.iterate_scrollUp`, `Screen.iterate_scrollUp_remembering`: so it is when rows scroll, and when
  those that leave enter the history

## Design notes

* Rows move by no more places than the region has rows. Otherwise there would be more empty rows than
  room for them.
-/

namespace TerminalSession.Screen

variable {s s' : Screen} {cols first last n : Nat}

/-- Other rows take the place of those from `first` to `last`. The rows above and below stay, and so
does the number of rows if as many are put in. -/
def splice (s : Screen) (first last : Nat) (rows : Array Row) : Screen :=
  { s with rows := s.rows.extract 0 first ++ rows ++ s.rows.extract (last + 1) s.rows.size }

/-- The rows from `first` to `last` move up by `n` places, and empty ones come in at the end. -/
def shiftUp (s : Screen) (cols first last n : Nat) : Screen :=
  s.splice first last (s.rows.extract (first + n) (last + 1) ++ Array.replicate n (Row.blank cols))

/-- The rows from `first` to `last` move down by `n` places, and empty ones come in at the start. -/
def shiftDown (s : Screen) (cols first last n : Nat) : Screen :=
  s.splice first last (Array.replicate n (Row.blank cols) ++ s.rows.extract first (last + 1 - n))

/-! ### Row by row -/

/-- A screen is its rows and its past. -/
theorem eq_of_rows_of_past (rows_eq : ∀ i : Nat, s.rows[i]? = s'.rows[i]?)
    (past_eq : s.past = s'.past) : s = s' := by
  obtain ⟨rows, history, limit, offset⟩ := s
  obtain ⟨rows', history', limit', offset'⟩ := s'
  obtain rfl : rows = rows' := Array.ext_getElem? rows_eq
  simpa [past] using past_eq

theorem getElem?_extract_of_lt (rows : Array Row) {first past i : Nat} (lt : first + i < past) :
    (rows.extract first past)[i]? = rows[first + i]? := by
  rw [Array.getElem?_extract]
  split
  · rfl
  · exact (Array.getElem?_eq_none (by omega)).symm

/-- Rows outside the region stay where they are, and the others come into it in their order. There
are as many of them as the region is high, so nothing moves below it. -/
theorem getElem?_rows_splice {rows : Array Row} (size : rows.size = last + 1 - first)
    (first_le : first ≤ last) (last_lt : last < s.rows.size) (i : Nat) :
    (s.splice first last rows).rows[i]? =
      if i < first ∨ last < i then s.rows[i]? else rows[i - first]? := by
  have size_above : (s.rows.extract 0 first).size = first := by
    rw [Array.size_extract]
    omega
  have size_both : (s.rows.extract 0 first ++ rows).size = last + 1 := by
    rw [Array.size_append, size_above, size]
    omega
  rw [splice, Array.getElem?_append, size_both, Array.getElem?_append, size_above]
  by_cases below : last < i
  · rw [if_neg (by omega), if_pos (.inr below), Array.getElem?_extract]
    split
    · rw [Nat.add_sub_cancel' below]
    · exact (Array.getElem?_eq_none (by omega)).symm
  · rw [if_pos (by omega)]
    by_cases above : i < first
    · rw [if_pos above, if_pos (.inl above), getElem?_extract_of_lt _ (by omega), Nat.zero_add]
    · rw [if_neg above, if_neg (by omega)]

section Moving

variable (first_le : first ≤ last) (last_lt : last < s.rows.size) (le : n ≤ last - first + 1)
include first_le last_lt le

/-- What each row is when those of a region move up. It is said in the words of
`getElem?_rows_iterate_scrollUp`, so that the step repeated and the shift at once can be
compared. -/
theorem getElem?_rows_shiftUp (i : Nat) :
    (s.shiftUp cols first last n).rows[i]? =
      if i < first ∨ last < i then s.rows[i]?
      else if last < i + n then some (Row.blank cols)
      else s.rows[i + n]? := by
  have size_kept : (s.rows.extract (first + n) (last + 1)).size = last + 1 - (first + n) := by
    rw [Array.size_extract]
    omega
  rw [shiftUp, getElem?_rows_splice (by simp; omega) first_le last_lt, Array.getElem?_append,
    size_kept]
  by_cases outside : i < first ∨ last < i
  · rw [if_pos outside, if_pos outside]
  · rw [if_neg outside, if_neg outside]
    by_cases empty : last < i + n
    · rw [if_neg (by omega), if_pos empty, Array.getElem?_replicate, if_pos (by omega)]
    · rw [if_pos (by omega), if_neg empty, getElem?_extract_of_lt _ (by omega)]
      congr 1
      omega

/-- What each row is when those of a region move down. It is said in the words of
`getElem?_rows_iterate_addLine`, for the same comparison. -/
theorem getElem?_rows_shiftDown (i : Nat) :
    (s.shiftDown cols first last n).rows[i]? =
      if i < first ∨ last < i then s.rows[i]?
      else if i < first + n then some (Row.blank cols)
      else s.rows[i - n]? := by
  rw [shiftDown, getElem?_rows_splice (by simp; omega) first_le last_lt, Array.getElem?_append,
    Array.size_replicate]
  by_cases outside : i < first ∨ last < i
  · rw [if_pos outside, if_pos outside]
  · rw [if_neg outside, if_neg outside]
    by_cases empty : i < first + n
    · rw [if_pos (by omega), if_pos empty, Array.getElem?_replicate, if_pos (by omega)]
    · rw [if_neg (by omega), if_neg empty, getElem?_extract_of_lt _ (by omega)]
      congr 1
      omega

/-! ### One row at a time -/

/-- A screen whose rows drop out one after the other. -/
theorem iterate_dropLine :
    Nat.repeat (fun s => s.dropLine cols first last) n s = s.shiftUp cols first last n := by
  refine eq_of_rows_of_past (fun i => ?_) (past_iterate (fun s => s.dropLine _ _ _) (fun _ => rfl) n s)
  rw [getElem?_rows_shiftUp first_le last_lt le]
  exact getElem?_rows_iterate_scrollUp false first_le last_lt n i

/-- A screen into which empty rows come one after the other. -/
theorem iterate_addLine :
    Nat.repeat (fun s => s.addLine cols first last) n s = s.shiftDown cols first last n := by
  refine eq_of_rows_of_past (fun i => ?_) (past_iterate (fun s => s.addLine _ _ _) (fun _ => rfl) n s)
  rw [getElem?_rows_shiftDown first_le last_lt le]
  exact getElem?_rows_iterate_addLine first_le last_lt n i

/-- So it is when rows scroll that are not to be remembered. -/
theorem iterate_scrollUp :
    Nat.repeat (fun s => s.scrollUp cols first last false) n s = s.shiftUp cols first last n :=
  iterate_dropLine first_le last_lt le

end Moving

/-- When rows scroll off the top of a screen that remembers them, they enter the history in their
order. -/
theorem iterate_scrollUp_remembering {rows limit : Nat} (fits : s.Fits cols rows limit)
    (last_lt : last < rows) (le : n ≤ last + 1) :
    Nat.repeat (fun s => s.scrollUp cols 0 last true) n s =
      (s.shiftUp cols 0 last n).rememberAll (s.rows.toList.take n) := by
  have last_lt' : last < s.rows.size := fits.size_rows.symm ▸ last_lt
  refine eq_of_rows_of_past (fun i => ?_) ?_
  · rw [rows_rememberAll, getElem?_rows_shiftUp (Nat.zero_le last) last_lt' le,
      getElem?_rows_iterate_scrollUp true (Nat.zero_le last) last_lt']
  · rw [past_iterate_scrollUp fits last_lt le, past_rememberAll]
    rfl

end TerminalSession.Screen
