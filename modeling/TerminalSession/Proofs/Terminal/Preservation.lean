import TerminalSession.Proofs.Terminal.WellFormed
import TerminalSession.Terminal.Resizing

/-!
# Operations keep terminals well-formed

## Main statements

* `Terminal.WellFormed.perform`: every operation keeps the invariant, whatever its arguments
* `Terminal.WellFormed.execute`: so does every token of an output stream
* `Terminal.WellFormed.resize`, `Terminal.WellFormed.scrollWindow`: so do a change of the size and a
  movement of the window

## Design notes

* The only operation that needs an argument about columns is printing: `room_wrapFor` says that
  after a possible wrap a character fits between the cursor and the margin.
-/

namespace TerminalSession.Terminal

/-! ### Where printing writes -/

/-- Going down a row, by a step of the cursor or by scrolling, keeps its column. So a character that
wraps is placed in the column where the carriage return left the cursor. -/
@[simp] theorem col_index (t : Terminal) : t.index.cursor.col = t.cursor.col := by
  unfold index
  split
  · simp [scrollUp]
  · split <;> simp

@[simp] theorem cols_index (t : Terminal) : t.index.cols = t.cols := by
  unfold index
  split
  · simp [scrollUp]
  · split <;> simp

/-- A line feed leaves a cursor in the first column there. -/
theorem col_lineFeed_eq_zero {t : Terminal} (zero : t.cursor.col = 0) :
    t.lineFeed.cursor.col = 0 := by
  unfold lineFeed
  split
  · simp [carriageReturn]
  · rw [col_index, zero]

@[simp] theorem cols_lineFeed (t : Terminal) : t.lineFeed.cols = t.cols := by
  unfold lineFeed
  split <;> simp [carriageReturn]

/-- A wrap moves the cursor and may scroll, and the margin stays where it is. This lets
`room_wrapFor` speak of the columns before the wrap. -/
@[simp] theorem cols_wrapFor (t : Terminal) (width : Nat) : (t.wrapFor width).cols = t.cols := by
  unfold wrapFor
  split
  · split <;> simp [modifyCursorRow, carriageReturn]
  · rfl

/-- After a possible wrap a character fits between the cursor and the margin. Without the mode that
wraps, the cursor is put back to where the character just has room. -/
theorem room_wrapFor (t : Terminal) {width : Nat} (cols_pos : 0 < t.cols)
    (le_two : width ≤ 2) : (t.wrapFor width).cursor.col + width ≤ Cursor.margin t.cols := by
  unfold wrapFor Cursor.margin
  split
  next full =>
    split
    · rw [col_lineFeed_eq_zero (by simp [carriageReturn])]
      split <;> omega
    · simp only [cursor_modifyCursor]
      split <;> omega
  next room =>
    simp only [atMargin, Bool.or_eq_true, Bool.and_eq_true, beq_iff_eq, decide_eq_true_eq,
      not_or, not_and] at room
    split <;> omega

end TerminalSession.Terminal

namespace TerminalSession.Terminal.WellFormed

variable {limit : Nat} {t : Terminal}

/-! ### Motion -/

/-- A motion along the row keeps the invariant if it ends at most one past the last column. All
horizontal motions are instances, with the column computed from the cursor. -/
theorem movedToCol (wf : t.WellFormed limit) {f : Cursor → Nat} (le : f t.cursor ≤ t.cols) :
    (t.modifyCursor fun c => { c with col := f c }).WellFormed limit :=
  wf.modifyCursor fun _ eq inside => inside.movedToCol (eq ▸ le)

/-- A motion to a row of the terminal keeps the invariant. The column stays, so nothing has to be
known of it. -/
theorem movedToRow (wf : t.WellFormed limit) {f : Cursor → Nat} (lt : f t.cursor < t.rows) :
    (t.modifyCursor fun c => { c with row := f c }).WellFormed limit :=
  wf.modifyCursor fun _ eq inside => inside.movedToRow (eq ▸ lt)

theorem carriageReturn (wf : t.WellFormed limit) : t.carriageReturn.WellFormed limit :=
  wf.movedToCol (Nat.zero_le _)

/-- From the margin a step back leads to the last column but one, and from anywhere else to the
left; either way inside. -/
theorem backspace (wf : t.WellFormed limit) : t.backspace.WellFormed limit :=
  wf.movedToCol (by unfold lastCol; omega)

/-- Whatever stop was computed, the cursor ends in the last column at most. So this holds of a stop
that overflowed as well. -/
theorem tab (wf : t.WellFormed limit) : t.tab.WellFormed limit :=
  wf.movedToCol (by unfold lastCol; omega)

/-- The motion stops at the last column, however far it was asked to go. -/
theorem cursorForward (wf : t.WellFormed limit) (n : Nat) : (t.cursorForward n).WellFormed limit :=
  wf.movedToCol (by unfold lastCol; omega)

theorem cursorBackward (wf : t.WellFormed limit) (n : Nat) :
    (t.cursorBackward n).WellFormed limit :=
  wf.movedToCol (by unfold lastCol; omega)

theorem moveToCol (wf : t.WellFormed limit) (col : Nat) : (t.moveToCol col).WellFormed limit :=
  wf.movedToCol (by unfold lastCol; omega)

theorem cursorUp (wf : t.WellFormed limit) (n : Nat) : (t.cursorUp n).WellFormed limit :=
  wf.movedToRow (Nat.lt_of_le_of_lt (Nat.sub_le _ _) wf.cursor_inside.row_lt)

/-- Neither the region nor the margin of the terminal is crossed: the motion stops at the last
row. -/
theorem cursorDown (wf : t.WellFormed limit) (n : Nat) : (t.cursorDown n).WellFormed limit :=
  wf.movedToRow (Nat.lt_of_le_of_lt (Nat.min_le_right _ _) wf.lastRow_lt)

theorem moveToRow (wf : t.WellFormed limit) (row : Nat) : (t.moveToRow row).WellFormed limit :=
  wf.movedToRow (Nat.lt_of_le_of_lt (Nat.min_le_right _ _) wf.lastRow_lt)

/-- A place that lies outside is replaced by the nearest one inside, in both directions at once. -/
theorem moveTo (wf : t.WellFormed limit) (row col : Nat) : (t.moveTo row col).WellFormed limit :=
  wf.modifyCursor fun _ _ inside =>
    inside.moved (Nat.lt_of_le_of_lt (Nat.min_le_right _ _) wf.lastRow_lt)
      (Cursor.le_margin (by unfold lastCol; omega))

/-- What is saved is a place where the cursor stands, so the saved place is inside as well. This
clause of the invariant is what `restoreCursor` uses. -/
theorem saveCursor (wf : t.WellFormed limit) : t.saveCursor.WellFormed limit :=
  wf.modifyCursor fun _ _ inside => inside.save t.style

/-- The saved place was inside when it was saved, and each change of the size since has brought it
inside again. -/
theorem restoreCursor (wf : t.WellFormed limit) : t.restoreCursor.WellFormed limit := by
  unfold Terminal.restoreCursor
  split
  · exact wf
  next saved found =>
    refine withStyle (wf.modifyCursor fun c eq inside => ?_) _
    exact inside.restore (eq ▸ found)

/-! ### Scrolling -/

/-- The region lies on the screen, so each step takes out a row that is there, puts one in, and
remembers at most one. -/
theorem scrollUp (wf : t.WellFormed limit) (n : Nat) : (t.scrollUp n).WellFormed limit := by
  refine wf.modifyScreen fun limit s fits => fits.iterate ?_ _
  intro s fits
  exact fits.scrollUp _ wf.top_lt wf.bottom_lt

/-- The same without a row to remember. -/
theorem scrollDown (wf : t.WellFormed limit) (n : Nat) : (t.scrollDown n).WellFormed limit := by
  refine wf.modifyScreen fun limit s fits => fits.iterate ?_ _
  intro s fits
  exact fits.scrollDown wf.top_lt wf.bottom_lt

/-- Lines are inserted between the row of the cursor and the end of the region. Both are rows of the
terminal; outside the region nothing is done. -/
theorem insertLines (wf : t.WellFormed limit) (n : Nat) : (t.insertLines n).WellFormed limit := by
  unfold Terminal.insertLines
  split
  · refine wf.modifyScreen fun limit s fits => fits.iterate ?_ _
    intro s fits
    exact fits.addLine wf.cursor_inside.row_lt wf.bottom_lt
  · exact wf

theorem deleteLines (wf : t.WellFormed limit) (n : Nat) : (t.deleteLines n).WellFormed limit := by
  unfold Terminal.deleteLines
  split
  · refine wf.modifyScreen fun limit s fits => fits.iterate ?_ _
    intro s fits
    exact fits.dropLine wf.cursor_inside.row_lt wf.bottom_lt
  · exact wf

/-- Either the region scrolls, or the cursor goes down because there is a row below it, or it stands
in the last row under the region and stays. -/
theorem index (wf : t.WellFormed limit) : t.index.WellFormed limit := by
  unfold Terminal.index
  split
  · exact wf.scrollUp 1
  split
  next above =>
    refine wf.movedToRow ?_
    unfold lastRow at above
    omega
  · exact wf

theorem lineFeed (wf : t.WellFormed limit) : t.lineFeed.WellFormed limit := by
  unfold Terminal.lineFeed
  split
  · exact wf.index.carriageReturn
  · exact wf.index

theorem reverseIndex (wf : t.WellFormed limit) : t.reverseIndex.WellFormed limit := by
  unfold Terminal.reverseIndex
  split
  · exact wf.scrollDown 1
  · exact wf.cursorUp 1

/-- A region is accepted only if it has two rows or more, and its end is brought onto the screen
first. Any other request leaves the old region. -/
theorem setRegion (wf : t.WellFormed limit) (top bottom : Nat) :
    (t.setRegion top bottom).WellFormed limit := by
  unfold Terminal.setRegion
  dsimp only
  split
  next ordered =>
    exact { wf with
      top_le_bottom := Nat.le_of_lt ordered
      bottom_lt := Nat.lt_of_le_of_lt (Nat.min_le_right _ _) wf.lastRow_lt }
  · exact wf

/-! ### Editing -/

/-- Cells are replaced in place, whatever part of the row is asked for, so the row keeps its length.
A number that names no part changes nothing. -/
theorem eraseLine (wf : t.WellFormed limit) (mode : Nat) : (t.eraseLine mode).WellFormed limit := by
  refine wf.modifyCursorRow fun old size => ?_
  split <;> simpa using size

/-- Rows are emptied in place. Bounds beyond the last row do no harm, since only rows that are there
are looked at. -/
theorem clearRows (wf : t.WellFormed limit) (first past : Nat) :
    (t.clearRows first past).WellFormed limit := by
  refine wf.modifyScreen fun _ _ fits => fits.mapRows fun i old size => ?_
  split
  · simpa using size
  · exact size

/-- Each part of the display is erased by line and by rows, in one order or the other. The fourth
drops the history, which is allowed to have any size up to its limit. -/
theorem eraseDisplay (wf : t.WellFormed limit) (mode : Nat) :
    (t.eraseDisplay mode).WellFormed limit := by
  unfold Terminal.eraseDisplay
  dsimp only
  split
  · exact (wf.eraseLine 0).clearRows _ _
  · exact (wf.clearRows _ _).eraseLine 1
  · exact wf.clearRows _ _
  · exact wf.modifyScreen fun _ _ fits => fits.forget
  · exact wf

/-- As many cells leave the row at the right as are put in at the cursor. From the margin nothing is
inserted. -/
theorem insertChars (wf : t.WellFormed limit) (n : Nat) : (t.insertChars n).WellFormed limit := by
  refine wf.modifyCursorRow fun old size => ?_
  split
  · exact size
  · exact (Row.size_insertCells _ _ _).trans size

/-- As many empty cells follow at the right as are taken out at the cursor. -/
theorem deleteChars (wf : t.WellFormed limit) (n : Nat) : (t.deleteChars n).WellFormed limit := by
  refine wf.modifyCursorRow fun old size => ?_
  split
  · exact size
  · exact (Row.size_deleteCells _ _ _).trans size

theorem eraseChars (wf : t.WellFormed limit) (n : Nat) : (t.eraseChars n).WellFormed limit :=
  wf.modifyCursorRow fun _ size => (Row.size_eraseRange _ _ _ _).trans size

/-! ### Printing -/

/-- A combining character joins the glyph of a cell that is there already. -/
theorem combine (wf : t.WellFormed limit) (c : Char) : (t.combine c).WellFormed limit :=
  wf.modifyCursorRow fun _ size => (Row.size_combine _ _ _).trans size

/-- The wrap is a carriage return and a line feed after a mark on the row. Without automatic wrap,
the cursor is moved back so that the character ends at the margin. -/
theorem wrapFor (wf : t.WellFormed limit) (width : Nat) : (t.wrapFor width).WellFormed limit := by
  unfold Terminal.wrapFor
  split
  · split
    · have marked := wf.modifyCursorRow (f := fun row => { row with wrapped := true })
        fun _ size => size
      exact marked.carriageReturn.lineFeed
    · exact wf.movedToCol (Nat.sub_le _ _)
  · exact wf

/-- A character for which there is room before the margin can be placed. What has to be shown is
that neither the insertion of cells nor the writing moves the cursor, so that the room is still
there when it advances. -/
theorem place (wf : t.WellFormed limit) (c : Char) {width : Nat}
    (room : t.cursor.col + width ≤ Cursor.margin t.cols) : (t.place c width).WellFormed limit := by
  unfold Terminal.place
  dsimp only
  split
  · exact wf
  -- Insertion moves cells of the row, and neither the cursor nor the margin.
  have shifted : ∀ t' : Terminal, t'.WellFormed limit → t'.cols = t.cols → t'.cursor = t.cursor →
      ((t'.modifyCursorRow fun row => row.write t.cursor.col { glyph := [c], width, style := t'.style
        }).modifyCursor fun cursor => { cursor with col := cursor.col + width }).WellFormed limit := by
    intro t' wf' cols_eq cursor_eq
    have written := wf'.modifyCursorRow
      (f := fun row => row.write t.cursor.col { glyph := [c], width, style := t'.style })
      fun _ size => (Row.size_write _ _ _).trans size
    refine written.modifyCursor fun cursor eq inside => inside.moved inside.row_lt ?_
    simpa [eq, Terminal.modifyCursorRow, cols_eq, cursor_eq] using room
  split
  · exact shifted _ (wf.insertChars width) (by simp [Terminal.insertChars, Terminal.modifyCursorRow])
      (by simp [Terminal.insertChars, Terminal.modifyCursorRow])
  · exact shifted t wf rfl rfl

/-- The wrap makes the room that placing asks for: this is where the width of a character, two at
most, enters. -/
theorem print (wf : t.WellFormed limit) (c : Char) : (t.print c).WellFormed limit := by
  unfold Terminal.print
  split
  · exact wf.combine c
  · refine (wf.wrapFor _).place c ?_
    rw [cols_wrapFor]
    exact t.room_wrapFor wf.cols_pos (Text.charWidth_le_two c)

/-! ### Modes -/

/-- Entering the alternate screen makes a blank one of the size at hand. The window of the primary
screen goes back to the end, where an offset of zero is always allowed. -/
theorem switchScreen (wf : t.WellFormed limit) (toAlternate : Bool) :
    (t.switchScreen toAlternate).WellFormed limit := by
  unfold Terminal.switchScreen
  split
  · exact wf
  · exact { wf with
      primary := wf.primary.withOffset (Nat.zero_le _)
      alternate := by
        dsimp only
        split
        · exact Screen.Fits.blank _ _ 0
        · exact wf.alternate }

/-- A cursor of one's own choice for the alternate screen, as long as it stands inside. -/
theorem withAlternateCursor (wf : t.WellFormed limit) {c : Cursor}
    (inside : c.Inside t.cols t.rows) :
    ({ t with alternateCursor := c } : Terminal).WellFormed limit :=
  { wf with alternateCursor := inside }

/-- The modes that change no more than a flag are immediate. The others save, restore or choose a
screen, and 1049 does two of these in turn, with the cursor at home in between. -/
theorem setPrivateMode (wf : t.WellFormed limit) (mode : Nat) (enable : Bool) :
    (t.setPrivateMode mode enable).WellFormed limit := by
  unfold Terminal.setPrivateMode
  split
  · exact wf.withModes _
  · exact wf.modifyCursor fun _ _ inside => inside.shown enable
  · exact wf.switchScreen enable
  · exact wf.switchScreen enable
  · split
    · exact wf.saveCursor
    · exact wf.restoreCursor
  · split
    · have entered := wf.saveCursor.switchScreen true
      exact entered.withAlternateCursor (Cursor.Inside.home entered.rows_pos)
    · exact (wf.switchScreen false).restoreCursor
  · exact wf

theorem setMode (wf : t.WellFormed limit) (mode : Nat) (enable : Bool) :
    (t.setMode mode enable).WellFormed limit := by
  unfold Terminal.setMode
  split
  · exact wf.withModes _
  · exact wf.withModes _
  · exact wf

/-- Beginning anew keeps the size and the limit, and these are all that a fresh terminal is made
of. -/
theorem reset (wf : t.WellFormed limit) : t.reset.WellFormed limit := by
  unfold Terminal.reset
  rw [wf.primary.limit_eq]
  exact fresh limit wf.cols_pos wf.rows_pos

/-! ### All of them -/

/-- Every operation keeps the invariant, whatever its arguments. There is a lemma for each of them,
so that a change of one leaves the others alone. -/
theorem perform (wf : t.WellFormed limit) (op : Operation) : (op.perform t).WellFormed limit := by
  cases op with
  | print c => exact wf.print c
  | carriageReturn => exact wf.carriageReturn
  | lineFeed => exact wf.lineFeed
  | backspace => exact wf.backspace
  | tab => exact wf.tab
  | index => exact wf.index
  | reverseIndex => exact wf.reverseIndex
  | cursorUp n => exact wf.cursorUp n
  | cursorDown n => exact wf.cursorDown n
  | cursorForward n => exact wf.cursorForward n
  | cursorBackward n => exact wf.cursorBackward n
  | moveTo row col => exact wf.moveTo row col
  | moveToRow row => exact wf.moveToRow row
  | moveToCol col => exact wf.moveToCol col
  | saveCursor => exact wf.saveCursor
  | restoreCursor => exact wf.restoreCursor
  | scrollUp n => exact wf.scrollUp n
  | scrollDown n => exact wf.scrollDown n
  | insertLines n => exact wf.insertLines n
  | deleteLines n => exact wf.deleteLines n
  | insertChars n => exact wf.insertChars n
  | deleteChars n => exact wf.deleteChars n
  | eraseChars n => exact wf.eraseChars n
  | eraseLine mode => exact wf.eraseLine mode
  | eraseDisplay mode => exact wf.eraseDisplay mode
  | setRegion top bottom => exact wf.setRegion top bottom
  | setMode mode enable => exact wf.setMode mode enable
  | setPrivateMode mode enable => exact wf.setPrivateMode mode enable
  | selectRendition params => exact wf.withStyle _
  | setTitle title => exact wf.withTitle title
  | reset => exact wf.reset

/-- So does any list of operations. -/
theorem performAll (wf : t.WellFormed limit) (operations : List Operation) :
    (Operation.performAll t operations).WellFormed limit :=
  Operation.performAll_induction (fun _ op wf => wf.perform op) wf operations

/-- So does every token of an output stream. -/
theorem execute (wf : t.WellFormed limit) (token : Token) : (t.execute token).WellFormed limit := by
  rw [t.execute_eq_performAll token]
  exact wf.performAll _

/-- The window moves within the history. -/
theorem scrollWindow (wf : t.WellFormed limit) (delta : Int) :
    (t.scrollWindow delta).WellFormed limit :=
  wf.modifyScreen fun _ _ fits => fits.moveWindow delta

/-- A change of the size builds the primary screen anew, crops the alternate one, brings both
cursors inside and opens the region, so nothing has to be known but that the history keeps its
limit. -/
theorem resize (wf : t.WellFormed limit) {cols rows : Nat} (cols_pos : 0 < cols)
    (rows_pos : 0 < rows) : (t.resize cols rows).WellFormed limit := by
  unfold Terminal.resize
  split
  · exact wf
  · exact
      { cols_pos := cols_pos
        rows_pos := rows_pos
        primary := wf.primary.limit_eq ▸ Screen.Fits.reflow t.primary cols rows _ _
        alternate := wf.alternate.crop cols rows
        primaryCursor := Cursor.Inside.within _ rows_pos
        alternateCursor := Cursor.Inside.within _ rows_pos
        top_le_bottom := Nat.zero_le _
        bottom_lt := Nat.sub_lt rows_pos Nat.one_pos }

end TerminalSession.Terminal.WellFormed
