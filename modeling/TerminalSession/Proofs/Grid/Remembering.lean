import Mathlib.Data.List.DropRight
import TerminalSession.Proofs.Grid.Moving

/-!
# Rows entering the history

The history takes rows at its end and loses the oldest ones when there is no room. A window that
stands back moves along, so that it keeps showing the same rows until they are lost themselves.

## Main definitions

* `Screen.past`: a screen without its own rows
* `Screen.rememberAll`: rows enter the history one after the other

## Main statements

* `Screen.size_history_rememberAll`: how long the history becomes
* `Screen.toList_history_rememberAll`: which rows it has then
* `Screen.past_iterate_scrollUp`: the rows that enter when a screen scrolls from its first row on
* `Screen.window_rememberAll`: how far a window that stands back moves, and that it shows the same
  rows

## Design notes

* How long the history becomes and where the window stands does not depend on the screen's own rows,
  so an operation that changes these as well is described by what it does to the past alone.
* The window is counted from the end of the history. When the oldest row is lost, the place of every
  row in the history moves, but not its distance from the end.
-/

namespace TerminalSession.Screen

variable {s : Screen} {row : Row} {place : Nat}

/-- The screen without its own rows: its history, the room for it, and the window. -/
def past (s : Screen) : Screen := { s with rows := #[] }

/-- Rows enter the history, one after the other, the oldest first. -/
def rememberAll (s : Screen) (rows : List Row) : Screen := rows.foldl remember s

@[simp] theorem rememberAll_nil (s : Screen) : s.rememberAll [] = s := rfl

@[simp] theorem rememberAll_cons (s : Screen) (row : Row) (rest : List Row) :
    s.rememberAll (row :: rest) = (s.remember row).rememberAll rest := rfl

theorem rememberAll_append (s : Screen) (first rest : List Row) :
    s.rememberAll (first ++ rest) = (s.rememberAll first).rememberAll rest := List.foldl_append

/-- What a row does to the past does not depend on the screen's own rows. -/
theorem past_remember (s : Screen) (row : Row) : (s.remember row).past = s.past.remember row := by
  unfold remember past
  dsimp only
  split <;> rfl

/-- So is it with several rows. -/
theorem past_rememberAll (s : Screen) (rows : List Row) :
    (s.rememberAll rows).past = s.past.rememberAll rows := by
  induction rows generalizing s with
  | nil => rfl
  | cons row rest ih => rw [rememberAll_cons, ih, past_remember, rememberAll_cons]

@[simp] theorem rows_rememberAll (s : Screen) (rows : List Row) :
    (s.rememberAll rows).rows = s.rows := by
  induction rows generalizing s with
  | nil => rfl
  | cons row rest ih => rw [rememberAll_cons, ih, rows_remember]

/-- A change of the screen's own rows, done several times. -/
theorem past_iterate (f : Screen → Screen) (keeps : ∀ s : Screen, (f s).past = s.past) (n : Nat)
    (s : Screen) : (Nat.repeat f n s).past = s.past :=
  iterate_induction (P := fun s' => s'.past = s.past) (fun s' same => (keeps s').trans same) rfl n

@[simp] theorem limit_remember (s : Screen) (row : Row) : (s.remember row).limit = s.limit := by
  unfold remember
  split <;> rfl

@[simp] theorem limit_rememberAll (s : Screen) (rows : List Row) :
    (s.rememberAll rows).limit = s.limit := by
  induction rows generalizing s with
  | nil => rfl
  | cons row rest ih => rw [rememberAll_cons, ih, limit_remember]

/-! ### The history -/

/-- The history grows by one row, up to its limit. -/
theorem size_history_remember (le : s.history.size ≤ s.limit) (row : Row) :
    (s.remember row).history.size = min (s.history.size + 1) s.limit := by
  unfold remember
  split
  · omega
  · dsimp only
    split <;> simp only [Array.size_extract, Array.size_push] at * <;> omega

theorem size_history_rememberAll (le : s.history.size ≤ s.limit) (rows : List Row) :
    (s.rememberAll rows).history.size = min (s.history.size + rows.length) s.limit := by
  induction rows generalizing s with
  | nil => simp [Nat.min_eq_left le]
  | cons row rest ih =>
    have grown := size_history_remember le row
    have le' : (s.remember row).history.size ≤ (s.remember row).limit := by
      rw [grown, limit_remember]
      exact Nat.min_le_right _ _
    rw [rememberAll_cons, ih le', grown, limit_remember, List.length_cons]
    omega

/-- As long as there is room, rows are put at the end. -/
theorem remember_of_lt (room : s.history.size < s.limit) (row : Row) :
    (s.remember row).history = s.history.push row := by
  have some : s.limit ≠ 0 := by omega
  have fits : ¬ s.limit < (s.history.push row).size := by
    rw [Array.size_push]
    omega
  simp only [remember, if_neg some, if_neg fits]

/-- The history has the latest of the rows that it had and of the one that enters. There may be no
room at all, room for one more, or the oldest one has to go. -/
theorem toList_history_remember (le : s.history.size ≤ s.limit) (row : Row) :
    (s.remember row).history.toList = (s.history.toList ++ [row]).rtake s.limit := by
  have length_eq : (s.history.toList ++ [row]).length = s.history.size + 1 := by simp
  unfold remember
  split
  next none =>
    have empty : s.history.toList = [] :=
      List.eq_nil_of_length_eq_zero (by rw [Array.length_toList]; omega)
    rw [none, empty, List.rtake_zero]
  · rw [List.rtake, length_eq]
    dsimp only
    split
    next full =>
      rw [Array.size_push] at full
      have one : s.history.size + 1 - s.limit = 1 := by omega
      rw [one, Array.drop_eq_extract, Array.toList_extract, Array.toList_push,
        List.extract_eq_take_drop]
      exact List.take_of_length_le (by simp)
    next room =>
      rw [Array.size_push] at room
      rw [Array.toList_push, show s.history.size + 1 - s.limit = 0 by omega, List.drop_zero]

/-- What is left of a list is enough to tell what is left after more is put at its end. -/
theorem rtake_rtake_append (earlier later : List Row) (n : Nat) :
    (earlier.rtake n ++ later).rtake n = (earlier ++ later).rtake n := by
  simp only [List.rtake, List.drop_append, List.length_append, List.length_drop, List.drop_drop]
  congr 2 <;> omega

/-- The latest rows of an old history and of those that enter are a part of the old history, as it was,
and the last ones that entered. -/
theorem exists_kept_of_rtake (old entering : List Row) (limit : Nat) :
    ∃ lost kept entered : List Row, old = lost ++ kept ∧
      (old ++ entering).rtake limit = kept ++ entered ∧ entered <:+ entering :=
  let excess := (old ++ entering).length - limit
  ⟨old.take excess, old.drop excess, entering.drop (excess - old.length),
    (List.take_append_drop excess old).symm, List.drop_append, List.drop_suffix _ _⟩

/-- The history has the latest of the rows that it had and of those that enter. -/
theorem toList_history_rememberAll (le : s.history.size ≤ s.limit) (rows : List Row) :
    (s.rememberAll rows).history.toList = (s.history.toList ++ rows).rtake s.limit := by
  induction rows generalizing s with
  | nil =>
    rw [rememberAll_nil, List.append_nil, List.rtake, Array.length_toList,
      Nat.sub_eq_zero_of_le le, List.drop_zero]
  | cons row rest ih =>
    have le' : (s.remember row).history.size ≤ (s.remember row).limit := by
      rw [size_history_remember le, limit_remember]
      exact Nat.min_le_right _ _
    rw [rememberAll_cons, ih le', limit_remember, toList_history_remember le, rtake_rtake_append,
      List.append_assoc]
    rfl

/-! ### Scrolling -/

section Scrolling

variable {cols bottom : Nat}

theorem scrollUp_eq (pos : 0 < s.rows.size) :
    s.scrollUp cols 0 bottom true = (s.dropLine cols 0 bottom).remember s.rows[0] := by
  rw [scrollUp, Array.getElem?_eq_getElem pos]
  rfl

theorem fits_iterate_scrollUp {rows limit : Nat} (fits : s.Fits cols rows limit)
    (bottom_lt : bottom < rows) (n : Nat) :
    (Nat.repeat (fun s => s.scrollUp cols 0 bottom true) n s).Fits cols rows limit :=
  fits.iterate (fun _ fits => fits.scrollUp true (Nat.zero_lt_of_lt bottom_lt) bottom_lt) n

/-- When a screen scrolls from its first row on, the first rows enter the history in their order.
Once they are gone, the rows that come up are still those of the screen as long as the region has
any. -/
theorem past_iterate_scrollUp {rows limit : Nat} (fits : s.Fits cols rows limit)
    (bottom_lt : bottom < rows) {n : Nat} (le : n ≤ bottom + 1) :
    (Nat.repeat (fun s => s.scrollUp cols 0 bottom true) n s).past =
      s.past.rememberAll (s.rows.toList.take n) := by
  induction n with
  | zero => rfl
  | succ n ih =>
    have pos : 0 < (Nat.repeat (fun s => s.scrollUp cols 0 bottom true) n s).rows.size := by
      rw [(fits_iterate_scrollUp fits bottom_lt n).size_rows]
      exact Nat.zero_lt_of_lt bottom_lt
    have first := @getElem?_rows_iterate_scrollUp s cols 0 bottom true (Nat.zero_le bottom)
      (fits.size_rows.symm ▸ bottom_lt) n 0
    rw [if_neg (by omega), if_neg (by omega), Nat.zero_add, Array.getElem?_eq_getElem pos,
      ← Array.getElem?_toList] at first
    rw [Nat.repeat, scrollUp_eq pos, past_remember, List.take_add_one, ← first, rememberAll_append,
      ← ih (by omega)]
    rfl

end Scrolling

/-! ### The window -/

/-- A window that stands back moves by one row. -/
theorem offset_remember (le : s.history.size ≤ s.limit) (back : 0 < s.offset)
    (inside : s.offset ≤ s.history.size) (room : s.offset + 1 ≤ s.limit) (row : Row) :
    (s.remember row).offset = s.offset + 1 := by
  have size_eq := size_history_remember le row
  have some : s.limit ≠ 0 := by omega
  unfold remember at size_eq ⊢
  rw [if_neg some] at size_eq ⊢
  dsimp only at size_eq ⊢
  rw [if_pos back, size_eq]
  omega

/-- A row of the window that lies in the history. -/
theorem rowAt?_eq_history (back : place < s.offset) (inside : s.offset ≤ s.history.size) :
    s.rowAt? place = s.history[s.history.size - s.offset + place]? := by
  unfold rowAt?
  dsimp only
  rw [if_pos (by omega)]

/-- The history with the new row at its end and the oldest one lost, or with all of them. Either way
its rows are the last ones of the old history with the new row behind it. -/
theorem history_remember (some : s.limit ≠ 0) (row : Row) (i : Nat) :
    (s.remember row).history[i]? =
      (s.history.push row)[i + (s.history.size + 1 - (s.remember row).history.size)]? := by
  unfold remember
  rw [if_neg some]
  dsimp only
  split
  · rw [Array.drop_eq_extract, Array.size_extract, Array.size_push, Array.getElem?_extract]
    split
    · congr 1
      omega
    next outside =>
      symm
      rw [Array.getElem?_eq_none_iff, Array.size_push]
      rw [Array.size_push] at outside
      omega
  · rw [Array.size_push, Nat.sub_self, Nat.add_zero]

/-- The window that lies in the history shows the same row after another one has entered. -/
theorem rowAt?_remember (le : s.history.size ≤ s.limit) (back : place < s.offset)
    (inside : s.offset ≤ s.history.size) (room : s.offset + 1 ≤ s.limit) (row : Row) :
    (s.remember row).rowAt? place = s.rowAt? place := by
  have size_eq := size_history_remember le row
  have offset_eq := offset_remember le (Nat.zero_lt_of_lt back) inside room row
  have some : s.limit ≠ 0 := by omega
  rw [rowAt?_eq_history (by omega) (by omega), rowAt?_eq_history back inside,
    history_remember some, Array.getElem?_push, if_neg (by omega), offset_eq]
  congr 1
  omega

/-- A window that stands back moves with the rows that enter, and shows the same rows as long as it
does not reach beyond the limit of the history. -/
theorem window_rememberAll (le : s.history.size ≤ s.limit) (back : 0 < s.offset)
    (inside : s.offset ≤ s.history.size) {rows : List Row} (room : s.offset + rows.length ≤ s.limit) :
    (s.rememberAll rows).offset = s.offset + rows.length ∧
      ∀ place < s.offset, (s.rememberAll rows).rowAt? place = s.rowAt? place := by
  induction rows generalizing s with
  | nil => exact ⟨rfl, fun _ _ => rfl⟩
  | cons row rest ih =>
    rw [List.length_cons] at room
    have room_one : s.offset + 1 ≤ s.limit := by omega
    have size_eq := size_history_remember le row
    have offset_eq := offset_remember le back inside room_one row
    have limit_eq := limit_remember s row
    obtain ⟨offset_rest, shown_rest⟩ := ih (s := s.remember row) (by omega) (by omega) (by omega)
      (by omega)
    refine ⟨?_, fun place lt => ?_⟩
    · rw [rememberAll_cons, offset_rest, offset_eq, List.length_cons]
      omega
    · rw [rememberAll_cons, shown_rest place (by omega), rowAt?_remember le lt inside room_one]

/-- What a window shows of the history does not depend on the screen's own rows. -/
theorem rowAt?_past (back : place < s.offset) (inside : s.offset ≤ s.history.size) :
    s.past.rowAt? place = s.rowAt? place := by
  rw [rowAt?_eq_history (s := s.past) back inside, rowAt?_eq_history back inside]
  rfl

end TerminalSession.Screen
