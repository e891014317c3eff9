import TerminalSession.Proofs.Grid.Remembering
import TerminalSession.Proofs.Grid.Window

/-!
# The window over rows that move

The rows of a region move up, and the ones that leave the screen enter its history. A window that stands
back lies over both, so what it shows afterwards is told row by row.

## Main statements

* `Screen.rowAt?_iterate_scrollUp`: what a window that stands back shows of it

## Design notes

* Rows below the region do not move, but the window does. So they are further down in the window than
  before, with the rows that came in empty above them.
-/

namespace TerminalSession.Screen

variable {s : Screen} {cols bottom : Nat}

/-! ### Rows that enter the history -/

section Window

variable {rows limit : Nat} (fits : s.Fits cols rows limit) (bottom_lt : bottom < rows)
  {n : Nat} (le : n ≤ bottom + 1)
include fits bottom_lt le

theorem length_take_rows : (s.rows.toList.take n).length = n := by
  have size_eq := fits.size_rows
  rw [List.length_take, Array.length_toList]
  omega

/-- The history has the latest of all rows down to the last one that entered. -/
theorem toList_history_iterate_scrollUp :
    (Nat.repeat (fun s => s.scrollUp cols 0 bottom true) n s).history.toList =
      (s.lines.take (s.history.size + n)).rtake limit := by
  have past_eq := congrArg history (past_iterate_scrollUp fits bottom_lt le)
  have le_past : s.past.history.size ≤ s.past.limit := fits.limit_eq.symm ▸ fits.history_le
  have limit_eq : s.past.limit = limit := fits.limit_eq
  have entered := toList_history_rememberAll le_past (s.rows.toList.take n)
  rw [← past_eq, limit_eq] at entered
  rw [lines, ← Array.length_toList, List.take_length_add_append]
  exact entered

theorem size_history_iterate_scrollUp :
    (Nat.repeat (fun s => s.scrollUp cols 0 bottom true) n s).history.size =
      min (s.history.size + n) limit := by
  have past_eq := congrArg history (past_iterate_scrollUp fits bottom_lt le)
  have le_past : s.past.history.size ≤ s.past.limit := fits.limit_eq.symm ▸ fits.history_le
  have limit_eq : s.past.limit = limit := fits.limit_eq
  have entered := size_history_rememberAll le_past (s.rows.toList.take n)
  rw [← past_eq, limit_eq, length_take_rows fits bottom_lt le] at entered
  exact entered

variable (back : 0 < s.offset) (room : s.offset + n ≤ limit)
include back room

/-- The window moves by one row for each row that enters the history. -/
theorem offset_iterate_scrollUp :
    (Nat.repeat (fun s => s.scrollUp cols 0 bottom true) n s).offset = s.offset + n := by
  have length := length_take_rows fits bottom_lt le
  have room_past : s.past.offset + (s.rows.toList.take n).length ≤ s.past.limit := by
    rw [length]
    exact fits.limit_eq.symm ▸ room
  have le_past : s.past.history.size ≤ s.past.limit := fits.limit_eq.symm ▸ fits.history_le
  obtain ⟨offset_eq, -⟩ := window_rememberAll le_past back fits.offset_le room_past
  rw [← past_iterate_scrollUp fits bottom_lt le, length] at offset_eq
  exact offset_eq

/-- What a window that stands back shows when the region moves up from the first row on. The rows of
the history and of the region stay where they are in the window. The empty ones follow, and then what
is below the region, further down than before. -/
theorem rowAt?_iterate_scrollUp (place : Nat) :
    (Nat.repeat (fun s => s.scrollUp cols 0 bottom true) n s).rowAt? place =
      if place ≤ s.offset + bottom then s.rowAt? place
      else if place ≤ s.offset + bottom + n then some (Row.blank cols)
      else s.rowAt? (place - n) := by
  have inside := fits.offset_le
  have fits' := fits_iterate_scrollUp fits bottom_lt n
  have inside' := fits'.offset_le
  have history_eq := toList_history_iterate_scrollUp fits bottom_lt le
  have size_eq := size_history_iterate_scrollUp fits bottom_lt le
  have offset_eq := offset_iterate_scrollUp fits bottom_lt le back room
  have rows_eq (i : Nat) := @getElem?_rows_iterate_scrollUp s cols 0 bottom true (Nat.zero_le bottom)
    (fits.size_rows.symm ▸ bottom_lt) n i
  generalize Nat.repeat (fun s => s.scrollUp cols 0 bottom true) n s = s' at *
  by_cases entered : place < s.offset + n
  · -- The row was in the history, or has entered it.
    have total : (s.lines.take (s.history.size + n)).length = s.history.size + n := by
      rw [lines, ← Array.length_toList, List.take_length_add_append, List.length_append,
        length_take_rows fits bottom_lt le]
    rw [if_pos (by omega), rowAt?_eq_history (by omega) inside', ← Array.getElem?_toList, history_eq,
      List.rtake, List.getElem?_drop, total, size_eq, offset_eq, rowAt?_eq_lines]
    have same_place : s.history.size + n - limit +
        (min (s.history.size + n) limit - (s.offset + n) + place) =
          s.history.size - s.offset + place := by omega
    rw [same_place, List.getElem?_take_of_lt (by omega)]
  · rw [rowAt?_eq_rows inside' (by omega), rows_eq, offset_eq]
    by_cases kept : place ≤ s.offset + bottom
    · rw [if_pos kept, if_neg (by omega), if_neg (by omega), rowAt?_eq_rows inside (by omega)]
      congr 1
      omega
    · rw [if_neg kept]
      by_cases empty : place ≤ s.offset + bottom + n
      · rw [if_pos empty, if_neg (by omega), if_pos (by omega)]
      · rw [if_neg empty, if_pos (by omega), rowAt?_eq_rows inside (by omega)]
        congr 1
        omega

end Window

end TerminalSession.Screen
