import Mathlib.Data.Prod.Lex
import TerminalSession.Proofs.Grid.Following
import TerminalSession.Terminal.Editing
import TerminalSession.Terminal.Printing

/-!
# Erasing on the screen

What is erased from the cursor on and what is erased up to it make the whole screen together, with the
cursor's place in both. So erasing the one and then the other is erasing everything.

## Main definitions

* `Row.eraseWhere`, `Screen.eraseWhere`: the cells of some places are erased

## Main statements

* `Screen.eraseWhere_eraseWhere`: erasing twice erases what is in one or in the other
* `Terminal.eraseDisplay_zero`, `Terminal.eraseDisplay_one`, `Terminal.eraseDisplay_two`: which places
  they erase
* `Terminal.eraseDisplay_partitions`: both parts, and that they make the whole

## Design notes

* Places are in reading order, which is the lexicographic order of rows and columns. A cursor that has
  reached the margin comes after all places of its row: erasing up to it takes the whole row, and erasing
  from it on takes nothing of the row.
* Whether a row goes on in the next one is no matter of its cells, so rows that end are told apart from
  the places that are erased.
-/

namespace TerminalSession

/-! ### Rows -/

namespace Row

variable {row row' : Row} {style : Style} {places places' : Nat → Bool} {ends ends' : Bool}

/-- The row with some of its cells erased, and with its line going on no further if it ends there. -/
def eraseWhere (row : Row) (style : Style) (places : Nat → Bool) (ends : Bool) : Row where
  cells := row.cells.mapIdx fun j old => if places j then Cell.erased style else old
  wrapped := row.wrapped && !ends

theorem getElem?_eraseWhere (j : Nat) :
    (row.eraseWhere style places ends).cells[j]? =
      row.cells[j]?.map fun old => if places j then Cell.erased style else old :=
  Array.getElem?_mapIdx

theorem eq_of_cells (cells_eq : ∀ j : Nat, row.cells[j]? = row'.cells[j]?)
    (wrapped_eq : row.wrapped = row'.wrapped) : row = row' := by
  obtain ⟨cells, wrapped⟩ := row
  obtain ⟨cells', wrapped'⟩ := row'
  obtain rfl : cells = cells' := Array.ext_getElem? cells_eq
  rw [show wrapped = wrapped' from wrapped_eq]

/-- Erasing twice erases what is in one or in the other. -/
theorem eraseWhere_eraseWhere :
    (row.eraseWhere style places ends).eraseWhere style places' ends' =
      row.eraseWhere style (fun j => places j || places' j) (ends || ends') := by
  refine eq_of_cells (fun j => ?_) ?_
  · rw [getElem?_eraseWhere, getElem?_eraseWhere, getElem?_eraseWhere, Option.map_map]
    congr 1
    funext old
    simp only [Function.comp_apply, Bool.or_eq_true]
    split <;> split <;> simp_all
  · simp only [eraseWhere, Bool.not_or, Bool.and_assoc]

/-- Only the places that the row has matter. -/
theorem eraseWhere_congr (same : ∀ j < row.cells.size, places j = places' j) :
    row.eraseWhere style places ends = row.eraseWhere style places' ends := by
  refine eq_of_cells (fun j => ?_) rfl
  rw [getElem?_eraseWhere, getElem?_eraseWhere]
  by_cases lt : j < row.cells.size
  · rw [same j lt]
  · rw [Array.getElem?_eq_none (Nat.not_lt.mp lt)]
    rfl

theorem eraseWhere_false : row.eraseWhere style (fun _ => false) false = row := by
  refine eq_of_cells (fun j => ?_) (Bool.and_true _)
  rw [getElem?_eraseWhere]
  exact Option.map_id'

theorem clear_eq_eraseWhere : row.clear style = row.eraseWhere style (fun _ => true) true := by
  refine eq_of_cells (fun j => ?_) (Bool.and_false _).symm
  rw [getElem?_eraseWhere, clear, Array.getElem?_map]
  rfl

theorem eraseRange_eq_eraseWhere (first past : Nat) :
    row.eraseRange first past style =
      row.eraseWhere style (fun j => first ≤ j && j < past) false := by
  refine eq_of_cells (fun j => ?_) (Bool.and_true _).symm
  rw [getElem?_eraseWhere]
  exact Array.getElem?_mapIdx

/-- A row that ends goes on no further. -/
theorem withWrapped_eraseWhere :
    { row.eraseWhere style places false with wrapped := false } =
      row.eraseWhere style places true := by
  simp [eraseWhere]

end Row

/-! ### Screens -/

namespace Screen

variable {s : Screen} {style : Style} {places places' : Nat → Nat → Bool} {ends ends' : Nat → Bool}

/-- The screen with the cells of some places erased, and with the lines of some rows going on no
further. -/
def eraseWhere (s : Screen) (style : Style) (places : Nat → Nat → Bool) (ends : Nat → Bool) : Screen :=
  { s with rows := s.rows.mapIdx fun i row => row.eraseWhere style (places i) (ends i) }

theorem getElem?_rows_eraseWhere (i : Nat) :
    (s.eraseWhere style places ends).rows[i]? =
      s.rows[i]?.map fun row => row.eraseWhere style (places i) (ends i) :=
  Array.getElem?_mapIdx

/-- What the cells are then. -/
theorem cellAt?_eraseWhere (i j : Nat) :
    (s.eraseWhere style places ends).cellAt? i j =
      (s.cellAt? i j).map fun old => if places i j then Cell.erased style else old := by
  rw [cellAt?, getElem?_rows_eraseWhere, cellAt?]
  cases s.rows[i]? with
  | none => rfl
  | some row => exact Row.getElem?_eraseWhere j

/-- Only the rows that the screen has matter. -/
theorem eraseWhere_congr (same : ∀ i < s.rows.size, places i = places' i ∧ ends i = ends' i) :
    s.eraseWhere style places ends = s.eraseWhere style places' ends' := by
  have rows_eq : (s.eraseWhere style places ends).rows = (s.eraseWhere style places' ends').rows := by
    refine Array.ext_getElem? fun i => ?_
    rw [getElem?_rows_eraseWhere, getElem?_rows_eraseWhere]
    by_cases lt : i < s.rows.size
    · rw [(same i lt).1, (same i lt).2]
    · rw [Array.getElem?_eq_none (Nat.not_lt.mp lt)]
      rfl
  exact congrArg (fun rows => { s with rows }) rows_eq

/-- Erasing twice erases what is in one or in the other. -/
theorem eraseWhere_eraseWhere :
    (s.eraseWhere style places ends).eraseWhere style places' ends' =
      s.eraseWhere style (fun i j => places i j || places' i j) (fun i => ends i || ends' i) := by
  simp only [eraseWhere, Array.mapIdx_mapIdx, Function.comp_def, Row.eraseWhere_eraseWhere]

/-- When everything is in one or in the other, everything is erased. -/
theorem eraseWhere_whole (whole : ∀ i j, (places i j || places' i j) = true)
    (all : ∀ i, (ends i || ends' i) = true) :
    (s.eraseWhere style places ends).eraseWhere style places' ends' =
      s.eraseWhere style (fun _ _ => true) fun _ => true := by
  rw [eraseWhere_eraseWhere]
  exact eraseWhere_congr fun i _ => ⟨funext (whole i), all i⟩

/-- Erasing in one row. -/
theorem modifyRow_eraseWhere (row : Nat) (columns : Nat → Bool) (ending : Bool) :
    (s.modifyRow row fun old => old.eraseWhere style columns ending) =
      s.eraseWhere style (fun i j => i == row && columns j) (fun i => i == row && ending) := by
  have rows_eq : (s.modifyRow row fun old => old.eraseWhere style columns ending).rows =
      (s.eraseWhere style (fun i j => i == row && columns j) fun i => i == row && ending).rows := by
    refine Array.ext_getElem? fun i => ?_
    rw [getElem?_rows_eraseWhere, modifyRow, Array.getElem?_modify]
    by_cases this : row = i
    · simp [this]
    · have other : (i == row) = false := beq_false_of_ne (Ne.symm this)
      simp [this, other, Row.eraseWhere_false]
  exact congrArg (fun rows => { s with rows }) rows_eq

/-- Erasing whole rows. -/
theorem clearRows_eq_eraseWhere (first past : Nat) :
    { s with
      rows := s.rows.mapIdx fun i row => if first ≤ i && i < past then row.clear style else row } =
    s.eraseWhere style (fun i _ => first ≤ i && i < past) (fun i => first ≤ i && i < past) := by
  unfold eraseWhere
  congr 2
  funext i row
  dsimp only
  split
  next inside => rw [inside, Row.clear_eq_eraseWhere]
  next outside => rw [Bool.eq_false_iff.mpr outside, Row.eraseWhere_false]

end Screen

/-! ### Terminals -/

namespace Terminal

variable (t : Terminal)

/-- The places from the cursor on, in reading order. -/
def fromCursor (i j : Nat) : Bool := toLex (t.cursor.row, t.cursor.col) ≤ toLex (i, j)

/-- The places up to the cursor, in reading order. -/
def upToCursor (i j : Nat) : Bool := toLex (i, j) ≤ toLex (t.cursor.row, t.cursor.col)

/-- Each place is in one part or in the other, and the cursor's place is in both. -/
theorem fromCursor_or_upToCursor (i j : Nat) : (t.fromCursor i j || t.upToCursor i j) = true := by
  simpa [fromCursor, upToCursor] using le_total _ _

@[simp] theorem fromCursor_modifyScreen (f : Screen → Screen) :
    (t.modifyScreen f).fromCursor = t.fromCursor := by
  unfold fromCursor
  rw [cursor_modifyScreen]

@[simp] theorem upToCursor_modifyScreen (f : Screen → Screen) :
    (t.modifyScreen f).upToCursor = t.upToCursor := by
  unfold upToCursor
  rw [cursor_modifyScreen]

/-! ### In the cursor's row, and in whole rows -/

theorem eraseLine_zero :
    t.eraseLine 0 = t.modifyScreen fun s => s.eraseWhere t.style
      (fun i j => i == t.cursor.row && t.cursor.col ≤ j) (fun i => i == t.cursor.row && true) := by
  have erased (row : Row) :
      { row.eraseRange t.cursor.col row.cells.size t.style with wrapped := false } =
        row.eraseWhere t.style (fun j => t.cursor.col ≤ j) true := by
    rw [Row.eraseRange_eq_eraseWhere, Row.withWrapped_eraseWhere]
    exact Row.eraseWhere_congr fun j lt => by simp [lt]
  rw [eraseLine, modifyCursorRow]
  refine modifyScreen_congr ?_
  rw [← Screen.modifyRow_eraseWhere]
  exact congrArg _ (funext erased)

/-- The row of the cursor up to the cursor, which is erased as well. A cursor past the last column
erases the whole row, and the line still goes on in the next row if it did before. -/
theorem eraseLine_one :
    t.eraseLine 1 = t.modifyScreen fun s => s.eraseWhere t.style
      (fun i j => i == t.cursor.row && j ≤ t.cursor.col) (fun i => i == t.cursor.row && false) := by
  have erased (row : Row) :
      row.eraseRange 0 (min t.cursor.col (row.cells.size - 1) + 1) t.style =
        row.eraseWhere t.style (fun j => j ≤ t.cursor.col) false := by
    rw [Row.eraseRange_eq_eraseWhere]
    refine Row.eraseWhere_congr fun j lt => ?_
    rw [Bool.eq_iff_iff]
    simp only [Bool.and_eq_true, decide_eq_true_eq]
    omega
  rw [eraseLine, modifyCursorRow]
  refine modifyScreen_congr ?_
  rw [← Screen.modifyRow_eraseWhere]
  exact congrArg _ (funext erased)

theorem clearRows_eq (first past : Nat) :
    t.clearRows first past = t.modifyScreen fun s => s.eraseWhere t.style
      (fun i _ => first ≤ i && i < past) (fun i => first ≤ i && i < past) := by
  unfold clearRows
  exact modifyScreen_congr (Screen.clearRows_eq_eraseWhere first past)

/-! ### Which places are erased -/

/-- From the cursor on. The rest of its row is erased first, and then the rows below; none of these
lines goes on any more. -/
theorem eraseDisplay_zero :
    t.eraseDisplay 0 = t.modifyScreen fun s =>
      s.eraseWhere t.style t.fromCursor fun i => t.cursor.row ≤ i := by
  change (t.eraseLine 0).clearRows (t.cursor.row + 1) t.screen.rows.size = _
  rw [clearRows_eq, eraseLine_zero, modifyScreen_modifyScreen, style_modifyScreen]
  refine modifyScreen_congr ?_
  rw [Screen.eraseWhere_eraseWhere]
  refine Screen.eraseWhere_congr fun i lt => ⟨funext fun j => ?_, ?_⟩
  · rw [Bool.eq_iff_iff]
    simp only [fromCursor, Prod.Lex.toLex_le_toLex, Bool.or_eq_true, Bool.and_eq_true, beq_iff_eq,
      decide_eq_true_eq]
    omega
  · rw [Bool.eq_iff_iff, Bool.and_true]
    simp only [Bool.or_eq_true, Bool.and_eq_true, beq_iff_eq, decide_eq_true_eq]
    omega

/-- Up to the cursor. The line of its own row is not ended, because the end of that row is not
erased; the lines of the rows above are. -/
theorem eraseDisplay_one :
    t.eraseDisplay 1 = t.modifyScreen fun s =>
      s.eraseWhere t.style t.upToCursor fun i => i < t.cursor.row := by
  change (t.clearRows 0 t.cursor.row).eraseLine 1 = _
  rw [eraseLine_one, clearRows_eq, modifyScreen_modifyScreen, style_modifyScreen,
    cursor_modifyScreen]
  refine modifyScreen_congr ?_
  rw [Screen.eraseWhere_eraseWhere]
  refine Screen.eraseWhere_congr fun i lt => ⟨funext fun j => ?_, ?_⟩
  · rw [Bool.eq_iff_iff]
    simp only [upToCursor, Prod.Lex.toLex_le_toLex, Bool.or_eq_true, Bool.and_eq_true, beq_iff_eq,
      decide_eq_true_eq]
    omega
  · rw [Bool.eq_iff_iff, Bool.and_false, Bool.or_false]
    simp only [Bool.and_eq_true, decide_eq_true_eq]
    omega

/-- Everywhere. -/
theorem eraseDisplay_two :
    t.eraseDisplay 2 = t.modifyScreen fun s =>
      s.eraseWhere t.style (fun _ _ => true) fun _ => true := by
  change t.clearRows 0 t.screen.rows.size = _
  rw [clearRows_eq]
  refine modifyScreen_congr (Screen.eraseWhere_congr fun i lt => ⟨funext fun j => ?_, ?_⟩)
  · simp [lt]
  · simp [lt]

/-- Erasing the part after the cursor first, and the part before it then. -/
theorem eraseDisplay_zero_one : (t.eraseDisplay 0).eraseDisplay 1 = t.eraseDisplay 2 := by
  rw [eraseDisplay_one, eraseDisplay_zero, eraseDisplay_two, modifyScreen_modifyScreen,
    upToCursor_modifyScreen, style_modifyScreen, cursor_modifyScreen]
  refine modifyScreen_congr (Screen.eraseWhere_whole t.fromCursor_or_upToCursor fun i => ?_)
  simpa using le_or_gt _ _

/-- Erasing them the other way round. -/
theorem eraseDisplay_one_zero : (t.eraseDisplay 1).eraseDisplay 0 = t.eraseDisplay 2 := by
  rw [eraseDisplay_zero, eraseDisplay_one, eraseDisplay_two, modifyScreen_modifyScreen,
    fromCursor_modifyScreen, style_modifyScreen, cursor_modifyScreen]
  refine modifyScreen_congr (Screen.eraseWhere_whole (fun i j => ?_) fun i => ?_)
  · rw [Bool.or_comm]
    exact t.fromCursor_or_upToCursor i j
  · simpa using Nat.lt_or_ge _ _

/-- Erasing from the cursor on erases the cells from the cursor on in reading order, and erasing up to
the cursor those up to it. A cursor that has reached the margin comes after its whole row. The cells
become empty ones in the present style, and no other ones change. Lines end at the rows from the
cursor's on, or at those above it, and nothing else of the terminal changes. So erasing one part and
then the other one, in either order, is erasing everything. -/
theorem eraseDisplay_partitions :
    let cursor := toLex (t.cursor.row, t.cursor.col)
    (∀ i j, (t.eraseDisplay 0).screen.cellAt? i j = (t.screen.cellAt? i j).map fun old =>
        if cursor ≤ toLex (i, j) then Cell.erased t.style else old) ∧
      (∀ i j, (t.eraseDisplay 1).screen.cellAt? i j = (t.screen.cellAt? i j).map fun old =>
        if toLex (i, j) ≤ cursor then Cell.erased t.style else old) ∧
      (t.eraseDisplay 0 = t.modifyScreen fun s =>
        s.eraseWhere t.style (fun i j => cursor ≤ toLex (i, j)) fun i => t.cursor.row ≤ i) ∧
      (t.eraseDisplay 1 = t.modifyScreen fun s =>
        s.eraseWhere t.style (fun i j => toLex (i, j) ≤ cursor) fun i => i < t.cursor.row) ∧
      (t.eraseDisplay 0).eraseDisplay 1 = t.eraseDisplay 2 ∧
      (t.eraseDisplay 1).eraseDisplay 0 = t.eraseDisplay 2 := by
  intro cursor
  refine ⟨fun i j => ?_, fun i j => ?_, t.eraseDisplay_zero, t.eraseDisplay_one,
    t.eraseDisplay_zero_one, t.eraseDisplay_one_zero⟩
  · rw [eraseDisplay_zero, screen_modifyScreen, Screen.cellAt?_eraseWhere]
    simp only [fromCursor, decide_eq_true_eq, cursor]
  · rw [eraseDisplay_one, screen_modifyScreen, Screen.cellAt?_eraseWhere]
    simp only [upToCursor, decide_eq_true_eq, cursor]

/-- A cursor that has reached the margin. -/
example :
    let t := ((fresh 2 2 0).print 'a').print 'b'
    let first := fun t : Terminal => t.screen.rows[0]?.map Row.text
    t.cursor.col = 2 ∧ first (t.eraseDisplay 0) = some ['a', 'b'] ∧
      first (t.eraseDisplay 1) = some [' ', ' '] := by
  decide +kernel

end Terminal

end TerminalSession
