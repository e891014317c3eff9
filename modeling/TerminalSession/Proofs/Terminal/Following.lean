import TerminalSession.Emulator
import TerminalSession.Proofs.Grid.Following

/-!
# The cursor in a change of the size

A change of the size reflows the primary screen and takes its cursor along. When the size stays the
same, nothing happens at all.

## Main definitions

* `Terminal.CursorFollows`: the primary cursor stands on the same character afterwards
* `Terminal.KeepsCursorLine`: what is written down to the end of the cursor's line is still there

## Main statements

* `Terminal.cursorFollows_resize_iff`: when the cursor follows its character, when its line is kept,
  and when rows are lost from the history
* `Terminal.cursorFollows_resize_fails`: a cursor on a right half that does not follow
-/

namespace TerminalSession.Terminal

open Row (writtenIn)

variable {t : Terminal} {cols rows first : Nat} {cell : Cell}

/-- Whether a size is the one that a terminal has. -/
def HasSize (t : Terminal) (cols rows : Nat) : Prop := cols = t.cols ∧ rows = t.rows

instance (t : Terminal) (cols rows : Nat) : Decidable (t.HasSize cols rows) :=
  inferInstanceAs (Decidable (_ ∧ _))

/-- The primary cursor on a character that is written in the column `first` of its row. -/
def CursorOn (t : Terminal) (first : Nat) (cell : Cell) : Prop :=
  t.primary.StandsOn t.primaryCursor.row t.primaryCursor.col first cell

/-- The oldest rows, for which the history has no room after a change of the size. -/
def evicted (t : Terminal) (cols rows : Nat) : List Row :=
  if t.HasSize cols rows then []
  else t.primary.evicted cols rows t.primaryCursor.row t.primaryCursor.col

/-- After a change of the size the primary cursor stands on the same character: on an equal one,
before which the same is read as before, what was lost from the history included. -/
def CursorFollows (t : Terminal) (cols rows first : Nat) (cell : Cell) : Prop :=
  let t' := t.resize cols rows
  ∃ first', t'.CursorOn first' cell ∧
    writtenIn (t.evicted cols rows) ++ t'.primary.before t'.primaryCursor.row first' =
      t.primary.before t.primaryCursor.row first

/-- After a change of the size, what was written down to the end of the cursor's line is there, but
for what was lost from the history. -/
def KeepsCursorLine (t : Terminal) (cols rows : Nat) : Prop :=
  (t.primary.linesDown t.primaryCursor.row t.primaryCursor.col).flatMap LogicalLine.written <+:
    writtenIn (t.evicted cols rows) ++ (t.resize cols rows).primary.written

/-- The rows that the lines down to the cursor's take at a new size, from the one below the last row
shown on. -/
def cursorLineBelow (t : Terminal) (cols rows : Nat) : List Row :=
  let row := t.primaryCursor.row
  let col := t.primaryCursor.col
  (Layout.lines cols (t.primary.linesDown row col)).rows.toList.drop
    (t.primary.firstShown cols rows row col + rows)

theorem resize_of_hasSize (same : t.HasSize cols rows) : t.resize cols rows = t := if_pos same

theorem primary_resize (changed : ¬ t.HasSize cols rows) :
    (t.resize cols rows).primary =
      (t.primary.reflow cols rows t.primaryCursor.row t.primaryCursor.col).1 := by
  unfold HasSize at changed
  rw [resize, if_neg changed]

/-- The place that the reflow finds for the cursor lies inside the new size. -/
theorem primaryCursor_resize (changed : ¬ t.HasSize cols rows) (cols_pos : 0 < cols)
    (rows_pos : 0 < rows) :
    ((t.resize cols rows).primaryCursor.row, (t.resize cols rows).primaryCursor.col) =
      (t.primary.reflow cols rows t.primaryCursor.row t.primaryCursor.col).2 := by
  have row_lt := t.primary.row_reflow_lt cols t.primaryCursor.row t.primaryCursor.col rows_pos
  have col_lt := t.primary.col_reflow_lt rows t.primaryCursor.row t.primaryCursor.col cols_pos
  unfold HasSize at changed
  rw [resize, if_neg changed]
  simp only [Cursor.within]
  rw [Nat.min_eq_left (Nat.le_sub_one_of_lt row_lt), Nat.min_eq_left (Nat.le_sub_one_of_lt col_lt)]

/-- A change of the size to the present one leaves the cursor where it stands. -/
theorem cursorFollows_of_hasSize (same : t.HasSize cols rows) (on : t.CursorOn first cell) :
    t.CursorFollows cols rows first cell := by
  rw [CursorFollows, resize_of_hasSize same, evicted, if_pos same]
  exact ⟨first, on, rfl⟩

/-- Any other one reflows the primary screen. -/
theorem cursorFollows_iff_follows (changed : ¬ t.HasSize cols rows) (cols_pos : 0 < cols)
    (rows_pos : 0 < rows) :
    t.CursorFollows cols rows first cell ↔
      t.primary.Follows cols rows t.primaryCursor.row t.primaryCursor.col first cell := by
  have cursor_eq := primaryCursor_resize changed cols_pos rows_pos
  rw [CursorFollows, Screen.Follows, ← cursor_eq, ← primary_resize changed, evicted,
    if_neg changed]
  rfl

theorem cursorFollows_iff (cols_pos : 0 < cols) (rows_pos : 0 < rows)
    (on : t.CursorOn first cell) :
    t.CursorFollows cols rows first cell ↔
      t.HasSize cols rows ∨ first = t.primaryCursor.col ∨
        t.primary.NothingShownBefore t.primaryCursor.row first := by
  by_cases same : t.HasSize cols rows
  · exact ⟨fun _ => Or.inl same, fun _ => cursorFollows_of_hasSize same on⟩
  · rw [cursorFollows_iff_follows same cols_pos rows_pos, Screen.follows_iff cols_pos rows_pos on,
      or_iff_right same]

theorem keepsCursorLine_iff (cols_pos : 0 < cols) :
    t.KeepsCursorLine cols rows ↔
      t.HasSize cols rows ∨ writtenIn (t.cursorLineBelow cols rows) = [] := by
  rw [KeepsCursorLine, evicted]
  by_cases same : t.HasSize cols rows
  · rw [if_pos same, resize_of_hasSize same]
    exact ⟨fun _ => Or.inl same, fun _ => t.primary.written_linesDown_prefix _ _⟩
  · rw [if_neg same, primary_resize same, or_iff_right same]
    exact t.primary.keepsLine_iff rows _ _ cols_pos

/-- Rows are lost from the history only when it is full. -/
theorem size_history_of_evicted (lost : t.evicted cols rows ≠ []) :
    (t.resize cols rows).primary.history.size = t.primary.limit := by
  rw [evicted] at lost
  split at lost
  · exact absurd rfl lost
  next changed =>
    rw [primary_resize changed]
    exact t.primary.size_history_of_evicted _ _ _ _ lost

/-- The cursor follows its character through a change of the size when it stands on its first
column, and otherwise only when the size stays the same or nothing that is shown comes before the
character. Its line is kept when nothing of it comes to lie below the last row shown. Rows of the
history are lost only when it is full. -/
theorem cursorFollows_resize_iff (cols_pos : 0 < cols) (rows_pos : 0 < rows)
    (on : t.CursorOn first cell) :
    (t.CursorFollows cols rows first cell ↔
      t.HasSize cols rows ∨ first = t.primaryCursor.col ∨
        t.primary.NothingShownBefore t.primaryCursor.row first) ∧
    (t.KeepsCursorLine cols rows ↔
      t.HasSize cols rows ∨ writtenIn (t.cursorLineBelow cols rows) = []) ∧
    (t.evicted cols rows ≠ [] → (t.resize cols rows).primary.history.size = t.primary.limit) :=
  ⟨cursorFollows_iff cols_pos rows_pos on, keepsCursorLine_iff cols_pos, size_history_of_evicted⟩

/-- A terminal that was given four lines, of which two went into the history. The last one is a wide
character, and the cursor has moved back onto its right half. -/
def onRightHalf : Terminal :=
  ((Emulator.fresh 10 2 5).feed
    (Text.Utf8.encode "a\r\nb\r\nc\r\n\u65E5\x08".toList)).terminal

theorem cursorOn_onRightHalf : onRightHalf.CursorOn 0 { glyph := ['\u65E5'], width := 2 } where
  cell_eq := by decide +kernel
  isWritten := by decide
  column := by decide +kernel

/-- That terminal with eight columns. Something is shown before the character and its line comes to lie
below the screen, so neither condition holds: the cursor is in the corner, on another character, and
the history is back on the screen. -/
theorem cursorFollows_resize_onRightHalf :
    let t := onRightHalf
    let cell : Cell := { glyph := ['\u65E5'], width := 2 }
    t.CursorOn 0 cell ∧
      (t.CursorFollows 8 2 0 cell ↔
        t.HasSize 8 2 ∨ 0 = t.primaryCursor.col ∨
          t.primary.NothingShownBefore t.primaryCursor.row 0) ∧
      (t.KeepsCursorLine 8 2 ↔ t.HasSize 8 2 ∨ writtenIn (t.cursorLineBelow 8 2) = []) ∧
      (t.evicted 8 2 ≠ [] → (t.resize 8 2).primary.history.size = t.primary.limit) ∧
      (t.primaryCursor.row = 1 ∧ t.primaryCursor.col = 1 ∧ t.primary.history.size = 2 ∧
        (t.cursorLineBelow 8 2).map Row.trimmed = [['c'], ['\u65E5']]) ∧
      (t.resize 8 2).primaryCursor.row = 0 ∧ (t.resize 8 2).primaryCursor.col = 0 ∧
      (t.resize 8 2).primary.history.size = 0 ∧ (t.resize 8 2).dump = "a       \nb       ".toList := by
  obtain ⟨follows_iff, keeps_iff, full⟩ :=
    cursorFollows_resize_iff (by decide : 0 < 8) (by decide : 0 < 2) cursorOn_onRightHalf
  exact ⟨cursorOn_onRightHalf, follows_iff, keeps_iff, full, by decide +kernel, by decide +kernel⟩

/-- When its width changes, the cursor does not follow its character, and the line with the character
is lost. -/
theorem cursorFollows_resize_fails :
    onRightHalf.CursorOn 0 { glyph := ['\u65E5'], width := 2 } ∧
      ¬ onRightHalf.CursorFollows 8 2 0 { glyph := ['\u65E5'], width := 2 } ∧
      ¬ onRightHalf.KeepsCursorLine 8 2 := by
  refine ⟨cursorOn_onRightHalf, ?_, ?_⟩
  · rw [cursorFollows_iff (by decide) (by decide) cursorOn_onRightHalf]
    decide +kernel
  · rw [keepsCursorLine_iff (by decide)]
    decide +kernel

end TerminalSession.Terminal
