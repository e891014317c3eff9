import TerminalSession.Grid.Reflow
import TerminalSession.Proofs.Grid.Rows

/-!
# The shape of a screen

A screen is a rectangle of cells with a bounded history, and every operation on screens keeps it
one.

## Main definitions

* `Row.Uniform`: rows that all have the same number of cells
* `Screen.Fits`: the shape of a screen of a size and with room for a number of rows of history

## Main statements

* `Screen.Fits.scrollUp` and its companions: what moves rows keeps the shape
* `Screen.Fits.reflow`, `Screen.Fits.crop`: a change of the size gives the shape of the new size

## Design notes

* The limit of the history is part of the shape, so that an operation that keeps the shape is known
  to keep the limit. The alternate screen is a screen with the limit 0: its history is empty for
  this reason alone.
-/

namespace TerminalSession

namespace Row

/-- Rows that all have the same number of cells, be they on the screen or in its history. -/
def Uniform (cols : Nat) (rows : Array Row) : Prop :=
  ∀ row ∈ rows, row.cells.size = cols

namespace Uniform

variable {cols : Nat} {rows others : Array Row} {row : Row}

/-- The number of cells in a row is a property that all rows may have, so it is kept when rows are
moved. -/
theorem empty (cols : Nat) : Uniform cols #[] := Each.empty _

theorem replicate_blank (cols n : Nat) : Uniform cols (Array.replicate n (Row.blank cols)) :=
  Each.replicate (R := fun row => row.cells.size = cols) (size_blank cols) n

theorem push (uniform : Uniform cols rows) (size : row.cells.size = cols) :
    Uniform cols (rows.push row) := Each.push uniform size

theorem append (uniform : Uniform cols rows) (others_uniform : Uniform cols others) :
    Uniform cols (rows ++ others) := Each.append uniform others_uniform

theorem extract (uniform : Uniform cols rows) (first past : Nat) :
    Uniform cols (rows.extract first past) := Each.extract uniform first past

theorem eraseIdxIfInBounds (uniform : Uniform cols rows) (i : Nat) :
    Uniform cols (rows.eraseIdxIfInBounds i) := Each.eraseIdxIfInBounds uniform i

theorem insertIdxIfInBounds (uniform : Uniform cols rows) (size : row.cells.size = cols) (i : Nat) :
    Uniform cols (rows.insertIdxIfInBounds i row) := Each.insertIdxIfInBounds uniform size i

/-- A change of a row has to keep its number of cells. -/
theorem modify {f : Row → Row} (uniform : Uniform cols rows)
    (keeps : ∀ old : Row, old.cells.size = cols → (f old).cells.size = cols) (i : Nat) :
    Uniform cols (rows.modify i f) := Each.modify uniform fun old _ size => keeps old size

theorem mapIdx {f : Nat → Row → Row} (uniform : Uniform cols rows)
    (keeps : ∀ i (old : Row), old.cells.size = cols → (f i old).cells.size = cols) :
    Uniform cols (rows.mapIdx f) := Each.mapIdx uniform keeps

end Uniform

end Row

/-- What one step keeps of a screen, any number of steps keeps. -/
theorem Screen.iterate_induction {P : Screen → Prop} {f : Screen → Screen}
    (keeps : ∀ s : Screen, P s → P (f s)) {s : Screen} (start : P s) (n : Nat) :
    P (Nat.repeat f n s) := by
  induction n with
  | zero => exact start
  | succ n ih => exact keeps _ ih

/-- Taking one row out and putting another one in keeps the number of rows. -/
theorem Screen.size_replaceLine {rows : Array Row} {out into : Nat} (out_lt : out < rows.size)
    (into_lt : into < rows.size) (row : Row) :
    ((rows.eraseIdxIfInBounds out).insertIdxIfInBounds into row).size = rows.size := by
  have erased : (rows.eraseIdxIfInBounds out).size = rows.size - 1 := by
    rw [Array.eraseIdxIfInBounds_eq, dif_pos out_lt, Array.size_eraseIdx]
  rw [Array.insertIdxIfInBounds, dif_pos (by omega), Array.size_insertIdx, erased]
  omega

/-- The shape of a screen: so many rows of so many cells, a history of such rows within its limit,
and a window that does not stand back further than the history reaches. -/
structure Screen.Fits (cols rows limit : Nat) (s : Screen) : Prop where
  size_rows : s.rows.size = rows
  uniform_rows : Row.Uniform cols s.rows
  uniform_history : Row.Uniform cols s.history
  limit_eq : s.limit = limit
  history_le : s.history.size ≤ limit
  offset_le : s.offset ≤ s.history.size

namespace Screen.Fits

variable {cols rows limit : Nat} {s : Screen}

/-- An empty screen has its size, no history and its window at the end. -/
theorem blank (cols rows limit : Nat) : (Screen.blank cols rows limit).Fits cols rows limit where
  size_rows := by simp [Screen.blank]
  uniform_rows := Row.Uniform.replicate_blank cols rows
  uniform_history := Row.Uniform.empty cols
  limit_eq := rfl
  history_le := Nat.zero_le _
  offset_le := Nat.le_refl _

/-- A screen without room for history has none. -/
theorem history_eq_empty (fits : s.Fits cols rows 0) : s.history = #[] :=
  Array.eq_empty_of_size_eq_zero (Nat.le_zero.mp fits.history_le)

/-! ### Rows -/

/-- Other rows may take the place of the rows of a screen. -/
theorem withRows (fits : s.Fits cols rows limit) {new : Array Row} (size : new.size = rows)
    (uniform : Row.Uniform cols new) : ({ s with rows := new } : Screen).Fits cols rows limit where
  size_rows := size
  uniform_rows := uniform
  uniform_history := fits.uniform_history
  limit_eq := fits.limit_eq
  history_le := fits.history_le
  offset_le := fits.offset_le

/-- A change of a row that keeps its length keeps the shape of the screen. -/
theorem modifyRow (fits : s.Fits cols rows limit) {f : Row → Row}
    (keeps : ∀ old : Row, old.cells.size = cols → (f old).cells.size = cols) (i : Nat) :
    (s.modifyRow i f).Fits cols rows limit :=
  fits.withRows ((size_modifyRow s i f).trans fits.size_rows) (fits.uniform_rows.modify keeps i)

theorem mapRows (fits : s.Fits cols rows limit) {f : Nat → Row → Row}
    (keeps : ∀ i (old : Row), old.cells.size = cols → (f i old).cells.size = cols) :
    ({ s with rows := s.rows.mapIdx f } : Screen).Fits cols rows limit :=
  fits.withRows (by rw [Array.size_mapIdx, fits.size_rows]) (fits.uniform_rows.mapIdx keeps)

/-- Taking one row out and putting an empty one in keeps the shape. -/
theorem replaceLine (fits : s.Fits cols rows limit) {out into : Nat} (out_lt : out < rows)
    (into_lt : into < rows) :
    ({ s with rows := (s.rows.eraseIdxIfInBounds out).insertIdxIfInBounds into (Row.blank cols) }
      : Screen).Fits cols rows limit := by
  have size := fits.size_rows
  refine fits.withRows ?_ ?_
  · rw [size_replaceLine (by omega) (by omega), size]
  · exact (fits.uniform_rows.eraseIdxIfInBounds out).insertIdxIfInBounds (Row.size_blank cols) into

/-- A row is taken out and an empty one put in. Both places have to be on the screen, or the number
of rows would change. -/
theorem dropLine (fits : s.Fits cols rows limit) {top bottom : Nat} (top_lt : top < rows)
    (bottom_lt : bottom < rows) : (s.dropLine cols top bottom).Fits cols rows limit :=
  fits.replaceLine top_lt bottom_lt

theorem addLine (fits : s.Fits cols rows limit) {top bottom : Nat} (top_lt : top < rows)
    (bottom_lt : bottom < rows) : (s.addLine cols top bottom).Fits cols rows limit :=
  fits.replaceLine bottom_lt top_lt

/-! ### History and window -/

/-- A row of the right width may enter the history. Its size stays within the limit, because the
oldest row is lost then, and the window goes back no further than there are rows. -/
theorem remember (fits : s.Fits cols rows limit) {row : Row} (size : row.cells.size = cols) :
    (s.remember row).Fits cols rows limit := by
  have limit_eq := fits.limit_eq
  have history_le := fits.history_le
  have offset_le := fits.offset_le
  unfold Screen.remember
  split
  · exact fits
  next room =>
    have grown := fits.uniform_history.push size
    refine
      { size_rows := fits.size_rows
        uniform_rows := fits.uniform_rows
        uniform_history := ?_
        limit_eq := limit_eq
        history_le := ?_
        offset_le := ?_ }
    · dsimp only
      split
      · exact grown.extract 1 _
      · exact grown
    · dsimp only
      split <;> simp only [Array.size_extract, Array.size_push] at * <;> omega
    · dsimp only
      split
      · exact Nat.min_le_right _ _
      · exact Nat.zero_le _

/-- The window may stand anywhere within the history. -/
theorem withOffset (fits : s.Fits cols rows limit) {offset : Nat} (le : offset ≤ s.history.size) :
    ({ s with offset } : Screen).Fits cols rows limit where
  size_rows := fits.size_rows
  uniform_rows := fits.uniform_rows
  uniform_history := fits.uniform_history
  limit_eq := fits.limit_eq
  history_le := fits.history_le
  offset_le := le

/-- The window stays within the history. -/
theorem moveWindow (fits : s.Fits cols rows limit) (delta : Int) :
    (s.moveWindow delta).Fits cols rows limit := by
  unfold Screen.moveWindow
  split
  · exact fits.withOffset (Nat.min_le_right _ _)
  · exact fits.withOffset (Nat.le_trans (Nat.sub_le _ _) fits.offset_le)

/-- Without history the window is at the end. -/
theorem forget (fits : s.Fits cols rows limit) : s.forget.Fits cols rows limit where
  size_rows := fits.size_rows
  uniform_rows := fits.uniform_rows
  uniform_history := Row.Uniform.empty cols
  limit_eq := fits.limit_eq
  history_le := Nat.zero_le _
  offset_le := Nat.le_refl _

/-! ### Scrolling -/

/-- The history grows within its limit, and a window that stands back moves with it. -/
theorem scrollUp (fits : s.Fits cols rows limit) {top bottom : Nat} (keep : Bool)
    (top_lt : top < rows) (bottom_lt : bottom < rows) :
    (s.scrollUp cols top bottom keep).Fits cols rows limit := by
  have dropped := fits.dropLine top_lt bottom_lt
  unfold Screen.scrollUp
  dsimp only
  split
  · split
    next row found =>
      exact dropped.remember (fits.uniform_rows row (Array.mem_of_getElem? found))
    next => exact dropped
  · exact dropped

theorem scrollDown (fits : s.Fits cols rows limit) {top bottom : Nat} (top_lt : top < rows)
    (bottom_lt : bottom < rows) : (s.scrollDown cols top bottom).Fits cols rows limit :=
  fits.addLine top_lt bottom_lt

/-- Steps that keep the shape are taken one after the other. -/
theorem iterate {f : Screen → Screen}
    (keeps : ∀ s : Screen, s.Fits cols rows limit → (f s).Fits cols rows limit)
    (fits : s.Fits cols rows limit) (n : Nat) : (Nat.repeat f n s).Fits cols rows limit :=
  iterate_induction keeps fits n

/-! ### Size -/

/-- A screen without history takes the shape of another size when it is cropped. With a history it
would not: its rows keep their width. -/
theorem crop (fits : s.Fits cols rows 0) (newCols newRows : Nat) :
    (s.crop newCols newRows).Fits newCols newRows 0 where
  size_rows := by
    simp only [Screen.crop, Array.size_map, Array.size_append, Array.size_extract,
      Array.size_replicate]
    omega
  uniform_rows := by
    intro row mem
    obtain ⟨old, -, rfl⟩ := Array.mem_map.mp mem
    exact Row.size_fit old newCols
  uniform_history := by
    simp only [Screen.crop, fits.history_eq_empty]
    exact Row.Uniform.empty newCols
  limit_eq := fits.limit_eq
  history_le := fits.history_le
  offset_le := Nat.min_le_right _ _

end Screen.Fits

namespace Layout

variable {width : Nat}

/-- The rows of a layout stay uniform while a cell is placed. -/
theorem uniform_place {layout : Layout} (uniform : Row.Uniform width layout.rows)
    (cursor : Option Nat) (item : Cell × Nat) :
    Row.Uniform width (place width cursor layout item).rows := by
  have broken : Row.Uniform width (layout.breakRow width).rows :=
    uniform.push (Row.size_fitCells _ _)
  unfold place
  dsimp only
  split
  · exact uniform
  · split <;> split <;> assumption

/-- Rows are completed with the width of the layout, cell after cell and line after line. -/
theorem uniform_foldl_place (cursor : Option Nat) (items : List (Cell × Nat)) {layout : Layout}
    (uniform : Row.Uniform width layout.rows) :
    Row.Uniform width (items.foldl (place width cursor) layout).rows := by
  induction items generalizing layout with
  | nil => exact uniform
  | cons item items ih => exact ih (uniform_place uniform cursor item)

theorem uniform_line {layout : Layout} (uniform : Row.Uniform width layout.rows)
    (text : LogicalLine) : Row.Uniform width (line width layout text).rows := by
  have placed := uniform_foldl_place text.cursor text.filled.zipIdx uniform
  unfold line
  dsimp only
  refine Row.Uniform.push ?_ (Row.size_fitCells _ _)
  split
  · split
    · exact placed.push (Row.size_fitCells _ _)
    · exact placed
  · exact placed

/-- All rows of a layout have its width. -/
theorem uniform_lines (width : Nat) (list : List LogicalLine) :
    Row.Uniform width (lines width list).rows := by
  unfold lines
  have start : Row.Uniform width ({} : Layout).rows := Row.Uniform.empty width
  generalize ({} : Layout) = layout at start ⊢
  induction list generalizing layout with
  | nil => exact start
  | cons text list ih => exact ih _ (uniform_line start text)

end Layout

namespace Screen

/-- A screen takes the shape of its new size when it is laid out anew, whatever it was before. No
more than the limit is kept of the history, and missing rows are blank. -/
theorem Fits.reflow (s : Screen) (cols rows row col : Nat) :
    (s.reflow cols rows row col).1.Fits cols rows s.limit where
  size_rows := by
    simp only [Screen.reflow, Array.size_append, Array.size_extract, Array.size_replicate]
    omega
  uniform_rows :=
    (((Layout.uniform_lines cols _).extract _ _).extract _ _).append
      (Row.Uniform.replicate_blank cols _)
  uniform_history := ((Layout.uniform_lines cols _).extract _ _).extract _ _
  limit_eq := rfl
  history_le := by
    simp only [Screen.reflow, Array.size_extract]
    omega
  offset_le := Nat.min_le_right _ _

/-- The row that a reflow returns for the cursor is on the screen, found or not. -/
theorem row_reflow_lt (s : Screen) (cols row col : Nat) {rows : Nat} (rows_pos : 0 < rows) :
    (s.reflow cols rows row col).2.1 < rows := by
  simp only [Screen.reflow]
  omega

/-- So is the column. -/
theorem col_reflow_lt (s : Screen) (rows row col : Nat) {cols : Nat} (cols_pos : 0 < cols) :
    (s.reflow cols rows row col).2.2 < cols := by
  simp only [Screen.reflow]
  omega

end Screen

end TerminalSession
