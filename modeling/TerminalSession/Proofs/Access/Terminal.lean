import TerminalSession.Proofs.Access.Grid
import TerminalSession.Proofs.Terminal.Preservation
import TerminalSession.Terminal.Window

/-!
# Terminals, access by access

The operations of a terminal with every access to its rows and cells able to fail. None fails on a
well-formed terminal.

## Main definitions

* `Terminal.modifyScreen?`, `Terminal.modifyCursorRow?`: a step that may fail, on the screen in use
* `Operation.perform?`, `Terminal.execute?`: an operation and a token
* `Terminal.resize?`, `Terminal.dump?`: another size, and the text of the window

## Main statements

* `Terminal.WellFormed.perform?_eq_some`: an operation on a well-formed terminal succeeds, with the
  result of the total function
* `Terminal.WellFormed.execute?_eq_some`, `Terminal.WellFormed.resize?_eq_some`,
  `Terminal.dump?_eq_some`: so do a token, a change of the size, and reading the window

## Design notes

* Operations that only move the cursor, or that go through all rows or cells there are, have no
  access that could fail. They are used here as they are.
-/

namespace TerminalSession

open Access (sub iterate)

namespace Terminal

/-! ### Steps that may fail -/

/-- The terminal with the screen in use changed, if the change does not fail. -/
def modifyScreen? (t : Terminal) (f : Screen → Option Screen) : Option Terminal :=
  if t.onAlternate then (f t.alternate).map fun s => { t with alternate := s }
  else (f t.primary).map fun s => { t with primary := s }

/-- The terminal with the cursor's row changed. The cursor has to stand on the screen, even where
the change itself accesses nothing. -/
def modifyCursorRow? (t : Terminal) (f : Row → Option Row) : Option Terminal :=
  let row := t.cursor.row
  t.modifyScreen? fun s => s.modifyRow? row f

/-! ### Scrolling -/

/-- The lines of the region move up, one at a time. The height of the region is a difference that
may fail, and so may each step. -/
def scrollUp? (t : Terminal) (n : Nat) : Option Terminal := do
  let keep := t.remembers
  let cols := t.cols
  let { top, bottom } := t.region
  let height ← sub bottom top
  t.modifyScreen? (iterate (fun s => s.scrollUp? cols top bottom keep) (min n (height + 1)))

/-- The lines of the region move down, one at a time: the last one is taken out, and an empty one
put in at the top. -/
def scrollDown? (t : Terminal) (n : Nat) : Option Terminal := do
  let cols := t.cols
  let { top, bottom } := t.region
  let height ← sub bottom top
  t.modifyScreen? (iterate (fun s => s.replaceLine? cols bottom top) (min n (height + 1)))

/-- From the cursor to the end of the region, if the cursor stands in it. Only then the difference
is taken. -/
def insertLines? (t : Terminal) (n : Nat) : Option Terminal :=
  let row := t.cursor.row
  let cols := t.cols
  let bottom := t.region.bottom
  if t.inRegion then do
    let height ← sub bottom row
    t.modifyScreen? (iterate (fun s => s.replaceLine? cols bottom row) (min n (height + 1)))
  else some t

/-- Lines are taken out where the cursor stands, and empty ones put in at the end of the region.
Outside of the region nothing is done, and no difference is taken. -/
def deleteLines? (t : Terminal) (n : Nat) : Option Terminal :=
  let row := t.cursor.row
  let cols := t.cols
  let bottom := t.region.bottom
  if t.inRegion then do
    let height ← sub bottom row
    t.modifyScreen? (iterate (fun s => s.replaceLine? cols row bottom) (min n (height + 1)))
  else some t

/-- At the end of the region it scrolls; the motion of the cursor accesses nothing. -/
def index? (t : Terminal) : Option Terminal :=
  if t.cursor.row = t.region.bottom then t.scrollUp? 1 else some t.index

def lineFeed? (t : Terminal) : Option Terminal :=
  if t.modes.newLine then t.index?.map carriageReturn else t.index?

def reverseIndex? (t : Terminal) : Option Terminal :=
  if t.cursor.row = t.region.top then t.scrollDown? 1 else some t.reverseIndex

/-! ### Editing -/

/-- A part of the cursor's row is a range of cells. The one up to the cursor ends with the last cell
if the cursor stands at the margin. -/
def eraseLine? (t : Terminal) (mode : Nat) : Option Terminal :=
  let col := t.cursor.col
  let style := t.style
  t.modifyCursorRow? fun row => row.eraseLine? col mode style

/-- The part of the cursor's row is a range that may fail. The rows above and below are gone through
one by one, so they are there. -/
def eraseDisplay? (t : Terminal) (mode : Nat) : Option Terminal :=
  let row := t.cursor.row
  match mode with
  | 0 => (t.eraseLine? 0).map fun t' => t'.clearRows (row + 1) t.screen.rows.size
  | 1 => (t.clearRows 0 row).eraseLine? 1
  | mode => some (t.eraseDisplay mode)

/-- Cells are inserted only left of the margin. -/
def insertChars? (t : Terminal) (n : Nat) : Option Terminal :=
  let col := t.cursor.col
  t.modifyCursorRow? fun row => row.insertCells? col n

/-- Cells are taken out only left of the margin, each of them from a place that has to be there. -/
def deleteChars? (t : Terminal) (n : Nat) : Option Terminal :=
  let col := t.cursor.col
  t.modifyCursorRow? fun row => row.deleteCells? col n

/-- Cells from the cursor on are erased. The cells are counted off, not indexed, so a range that is
longer than the rest of the row ends with it. -/
def eraseChars? (t : Terminal) (n : Nat) : Option Terminal :=
  let col := t.cursor.col
  let style := t.style
  t.modifyCursorRow? fun row => some (row.eraseRange col (col + n) style)

/-! ### Printing -/

/-- The cell that a combining character joins is looked up left of the cursor, in a row that has to
be there. -/
def combine? (t : Terminal) (c : Char) : Option Terminal :=
  let col := t.cursor.col
  t.modifyCursorRow? fun row => row.combine? col c

/-- The mark of a row that goes on is set in the row of the cursor, which has to be there. -/
def wrapFor? (t : Terminal) (width : Nat) : Option Terminal :=
  if t.atMargin width then
    if t.modes.autoWrap then do
      let t ← t.modifyCursorRow? fun row => some { row with wrapped := true }
      t.carriageReturn.lineFeed?
    else some (t.modifyCursor fun c => { c with col := t.cols - width })
  else some t

/-- A character is written where the cursor stands; without automatic wrap and with a cursor at the
margin nothing is done. -/
def place? (t : Terminal) (c : Char) (width : Nat) : Option Terminal :=
  let col := t.cursor.col
  if t.cols ≤ col then some t
  else do
    let shifted := if t.modes.insert then t.insertChars? width else some t
    let t ← shifted
    let style := t.style
    let cols := t.cols
    let t ← t.modifyCursorRow? fun row => row.write? col cols { glyph := [c], width, style }
    some (t.modifyCursor fun cursor => { cursor with col := cursor.col + width })

/-- A character of no width is combined with one before it. Any other is placed after a possible
wrap. -/
def print? (t : Terminal) (c : Char) : Option Terminal :=
  match Text.charWidth c with
  | 0 => t.combine? c
  | width => do
    let t ← t.wrapFor? width
    t.place? c width

end Terminal

/-- The terminal after an operation, if no access fails. Operations that access nothing are taken
over from the total function. -/
def Operation.perform? (t : Terminal) : Operation → Option Terminal
  | .print c => t.print? c
  | .lineFeed => t.lineFeed?
  | .index => t.index?
  | .reverseIndex => t.reverseIndex?
  | .scrollUp n => t.scrollUp? n
  | .scrollDown n => t.scrollDown? n
  | .insertLines n => t.insertLines? n
  | .deleteLines n => t.deleteLines? n
  | .insertChars n => t.insertChars? n
  | .deleteChars n => t.deleteChars? n
  | .eraseChars n => t.eraseChars? n
  | .eraseLine mode => t.eraseLine? mode
  | .eraseDisplay mode => t.eraseDisplay? mode
  | op => some (op.perform t)

namespace Terminal

/-- The terminal after a token, if no access fails in any of its operations. -/
def execute? (t : Terminal) (token : Token) : Option Terminal :=
  (token.operations t.rows).foldlM (fun t op => op.perform? t) t

/-- The terminal at a new size, if no access fails. Only the rows of the primary screen are laid out
anew; those of the alternate screen are cut or filled up. -/
def resize? (t : Terminal) (cols rows : Nat) : Option Terminal :=
  if cols = t.cols ∧ rows = t.rows then some t
  else do
    let (primary, row, col) ←
      t.primary.reflow? cols rows t.primaryCursor.row t.primaryCursor.col
    some
      { t with
        cols, rows, primary
        alternate := t.alternate.crop cols rows
        primaryCursor := { t.primaryCursor with row, col }.within cols rows
        alternateCursor := t.alternateCursor.within cols rows
        region := Region.full rows }

/-- The text of one row of the window, if no access fails. A place that shows no row is as wide as
the others, and blank. -/
def windowRow? (t : Terminal) (place : Nat) : Option Text :=
  (t.screen.look? place).map fun
    | some row => row.render t.cols
    | none => List.replicate t.cols ' '

/-- The text of the window, if no access fails in any of its rows. -/
def dump? (t : Terminal) : Option Text :=
  ((List.range t.rows).mapM t.windowRow?).map ['\n'].intercalate

/-! ### No access fails -/

/-- If a step does not fail on the screen in use, changing this screen does not fail. All functions
that act on a screen are shown not to fail by it. -/
theorem modifyScreen?_eq_some {t : Terminal} {f : Screen → Option Screen} {g : Screen → Screen}
    (step : f t.screen = some (g t.screen)) : t.modifyScreen? f = some (t.modifyScreen g) := by
  unfold modifyScreen? modifyScreen
  unfold screen at step
  split at step
  next on => rw [if_pos on, if_pos on, step, Option.map_some]
  next off => rw [if_neg off, if_neg off, step, Option.map_some]

namespace WellFormed

variable {limit : Nat} {t : Terminal}

/-- A step that is repeated on the screen in use. -/
theorem modifyScreen?_iterate_eq_some (wf : t.WellFormed limit) {f : Screen → Option Screen}
    {g : Screen → Screen}
    (step : ∀ (limit : Nat) (s : Screen), s.Fits t.cols t.rows limit → f s = some (g s))
    (keeps : ∀ (limit : Nat) (s : Screen), s.Fits t.cols t.rows limit →
      (g s).Fits t.cols t.rows limit) (n : Nat) :
    t.modifyScreen? (iterate f n) = some (t.modifyScreen (Nat.repeat g n)) := by
  obtain ⟨limit, fits⟩ := wf.screen_fits
  exact modifyScreen?_eq_some (Access.iterate_eq_some (step limit) (keeps limit) fits n).1

/-- Rows of the screen in use taken out at one place, each with an empty one put in at another. -/
theorem replaceLines?_eq_some (wf : t.WellFormed limit) {out into : Nat} (out_lt : out < t.rows)
    (into_lt : into < t.rows) (n : Nat) :
    t.modifyScreen? (iterate (fun s => s.replaceLine? t.cols out into) n) =
      some (t.modifyScreen (Nat.repeat (fun s => s.dropLine t.cols out into) n)) := by
  refine wf.modifyScreen?_iterate_eq_some ?_ ?_ n
  · intro _ s fits
    exact Screen.replaceLine?_eq_some (fits.size_rows ▸ out_lt) (fits.size_rows ▸ into_lt) _
  · intro _ s fits
    exact fits.dropLine out_lt into_lt

/-- A step on the cursor's row, which is one of the screen and has its width. -/
theorem modifyCursorRow?_eq_some (wf : t.WellFormed limit) {f : Row → Option Row} {g : Row → Row}
    (step : ∀ row : Row, row.cells.size = t.cols → f row = some (g row)) :
    t.modifyCursorRow? f = some (t.modifyCursorRow g) := by
  obtain ⟨limit, fits⟩ := wf.screen_fits
  have row_lt : t.cursor.row < t.screen.rows.size := by
    rw [fits.size_rows]
    exact wf.cursor_inside.row_lt
  have modified : t.screen.modifyRow? t.cursor.row f = some (t.screen.modifyRow t.cursor.row g) :=
    Screen.modifyRow?_eq_some row_lt fun row mem => step row (fits.uniform_rows row mem)
  exact modifyScreen?_eq_some (f := fun s => s.modifyRow? t.cursor.row f)
    (g := fun s => s.modifyRow t.cursor.row g) modified

/-- The region is in order, so its height can be taken. Each step keeps the shape of the screen, so
the next one does not fail either. -/
theorem scrollUp?_eq_some (wf : t.WellFormed limit) (n : Nat) :
    t.scrollUp? n = some (t.scrollUp n) := by
  have top_lt := wf.top_lt
  have bottom_lt := wf.bottom_lt
  unfold scrollUp? Terminal.scrollUp
  dsimp only
  rw [Access.sub_eq_some wf.top_le_bottom]
  refine wf.modifyScreen?_iterate_eq_some ?_ ?_ _
  · intro _ s fits
    exact Screen.scrollUp?_eq_some (fits.size_rows ▸ top_lt) (fits.size_rows ▸ bottom_lt) _ _
  · intro _ s fits
    exact fits.scrollUp _ top_lt bottom_lt

theorem scrollDown?_eq_some (wf : t.WellFormed limit) (n : Nat) :
    t.scrollDown? n = some (t.scrollDown n) := by
  have top_lt := wf.top_lt
  have bottom_lt := wf.bottom_lt
  unfold scrollDown? Terminal.scrollDown
  dsimp only
  rw [Access.sub_eq_some wf.top_le_bottom]
  exact wf.replaceLines?_eq_some bottom_lt top_lt _

/-- A cursor in the region does not stand below its last row. -/
theorem row_le_bottom (inside : t.inRegion = true) : t.cursor.row ≤ t.region.bottom := by
  simp only [inRegion, Bool.and_eq_true, decide_eq_true_eq] at inside
  exact inside.2

/-- Inside the region the cursor is not below its end, so the difference can be taken. -/
theorem insertLines?_eq_some (wf : t.WellFormed limit) (n : Nat) :
    t.insertLines? n = some (t.insertLines n) := by
  have row_lt := wf.cursor_inside.row_lt
  have bottom_lt := wf.bottom_lt
  unfold insertLines? Terminal.insertLines
  dsimp only
  split
  next inside =>
    rw [Access.sub_eq_some (row_le_bottom inside)]
    exact wf.replaceLines?_eq_some bottom_lt row_lt _
  next => rfl

theorem deleteLines?_eq_some (wf : t.WellFormed limit) (n : Nat) :
    t.deleteLines? n = some (t.deleteLines n) := by
  have row_lt := wf.cursor_inside.row_lt
  have bottom_lt := wf.bottom_lt
  unfold deleteLines? Terminal.deleteLines
  dsimp only
  split
  next inside =>
    rw [Access.sub_eq_some (row_le_bottom inside)]
    exact wf.replaceLines?_eq_some row_lt bottom_lt _
  next => rfl

/-- Scrolling by one does not fail, and the motion of the cursor cannot. -/
theorem index?_eq_some (wf : t.WellFormed limit) : t.index? = some t.index := by
  unfold index?
  split
  next last => rw [wf.scrollUp?_eq_some, Terminal.index, if_pos last]
  next => rfl

theorem lineFeed?_eq_some (wf : t.WellFormed limit) : t.lineFeed? = some t.lineFeed := by
  unfold lineFeed? Terminal.lineFeed
  rw [wf.index?_eq_some]
  split <;> rfl

theorem reverseIndex?_eq_some (wf : t.WellFormed limit) :
    t.reverseIndex? = some t.reverseIndex := by
  unfold reverseIndex?
  split
  next first => rw [wf.scrollDown?_eq_some, Terminal.reverseIndex, if_pos first]
  next => rfl

theorem eraseLine?_eq_some (wf : t.WellFormed limit) (mode : Nat) :
    t.eraseLine? mode = some (t.eraseLine mode) :=
  wf.modifyCursorRow?_eq_some fun _ size =>
    Row.eraseLine?_eq_some (by rw [size]; exact wf.cols_pos) _ _ _

/-- The row of the cursor can be accessed before rows are emptied, and after. -/
theorem eraseDisplay?_eq_some (wf : t.WellFormed limit) (mode : Nat) :
    t.eraseDisplay? mode = some (t.eraseDisplay mode) := by
  unfold eraseDisplay?
  split
  · rw [wf.eraseLine?_eq_some]
    rfl
  · exact (wf.clearRows 0 _).eraseLine?_eq_some 1
  · rfl

theorem insertChars?_eq_some (wf : t.WellFormed limit) (n : Nat) :
    t.insertChars? n = some (t.insertChars n) :=
  wf.modifyCursorRow?_eq_some fun row _ => Row.insertCells?_eq_some row _ _

theorem deleteChars?_eq_some (wf : t.WellFormed limit) (n : Nat) :
    t.deleteChars? n = some (t.deleteChars n) :=
  wf.modifyCursorRow?_eq_some fun row _ => Row.deleteCells?_eq_some row _ _

theorem eraseChars?_eq_some (wf : t.WellFormed limit) (n : Nat) :
    t.eraseChars? n = some (t.eraseChars n) :=
  wf.modifyCursorRow?_eq_some fun _ _ => rfl

theorem combine?_eq_some (wf : t.WellFormed limit) (c : Char) :
    t.combine? c = some (t.combine c) :=
  wf.modifyCursorRow?_eq_some fun _ size =>
    Row.combine?_eq_some (by rw [size]; exact wf.cols_pos) _ _

/-- The row that is marked is there, and after the mark the terminal is well-formed again for the
line feed. -/
theorem wrapFor?_eq_some (wf : t.WellFormed limit) (width : Nat) :
    t.wrapFor? width = some (t.wrapFor width) := by
  unfold wrapFor? Terminal.wrapFor
  split
  · split
    · have marked := wf.modifyCursorRow (f := fun row => { row with wrapped := true })
        fun _ size => size
      rw [wf.modifyCursorRow?_eq_some fun _ _ => rfl]
      exact marked.carriageReturn.lineFeed?_eq_some
    · rfl
  · rfl

/-- The column is checked against the margin before anything is accessed, so all accesses lie in the
row. Inserting cells leaves it at its length. -/
theorem place?_eq_some (wf : t.WellFormed limit) (c : Char) (width : Nat) :
    t.place? c width = some (t.place c width) := by
  unfold place? Terminal.place
  dsimp only
  split
  next => rfl
  next inside =>
    -- The cells that insertion moves aside are in the row, and so is the one written into.
    have shifted : (if t.modes.insert then t.insertChars? width else some t) =
        some (if t.modes.insert then t.insertChars width else t) := by
      split
      · exact wf.insertChars?_eq_some width
      · rfl
    have shifted_wf : (if t.modes.insert then t.insertChars width else t).WellFormed limit := by
      split
      · exact wf.insertChars width
      · exact wf
    have cols_eq : (if t.modes.insert then t.insertChars width else t).cols = t.cols := by
      split
      · simp [Terminal.insertChars, Terminal.modifyCursorRow]
      · rfl
    rw [shifted, Option.bind_eq_bind, Option.bind_some]
    rw [shifted_wf.modifyCursorRow?_eq_some fun row size =>
      Row.write?_eq_some size (by rw [cols_eq]; omega) _]
    rfl

/-- The wrap succeeds, and leaves a terminal that is well-formed, on which the character can be
placed. -/
theorem print?_eq_some (wf : t.WellFormed limit) (c : Char) : t.print? c = some (t.print c) := by
  unfold print? Terminal.print
  cases Text.charWidth c with
  | zero => exact wf.combine?_eq_some c
  | succ width =>
    change (t.wrapFor? (width + 1)).bind _ = some ((t.wrapFor (width + 1)).place c (width + 1))
    rw [wf.wrapFor?_eq_some]
    exact (wf.wrapFor _).place?_eq_some c _

/-- An operation on a well-formed terminal succeeds, with the result of the total function. Those
that look at no row and subtract nothing are the total function by definition. -/
theorem perform?_eq_some (wf : t.WellFormed limit) (op : Operation) :
    op.perform? t = some (op.perform t) := by
  cases op with
  | print c => exact wf.print?_eq_some c
  | lineFeed => exact wf.lineFeed?_eq_some
  | index => exact wf.index?_eq_some
  | reverseIndex => exact wf.reverseIndex?_eq_some
  | scrollUp n => exact wf.scrollUp?_eq_some n
  | scrollDown n => exact wf.scrollDown?_eq_some n
  | insertLines n => exact wf.insertLines?_eq_some n
  | deleteLines n => exact wf.deleteLines?_eq_some n
  | insertChars n => exact wf.insertChars?_eq_some n
  | deleteChars n => exact wf.deleteChars?_eq_some n
  | eraseChars n => exact wf.eraseChars?_eq_some n
  | eraseLine mode => exact wf.eraseLine?_eq_some mode
  | eraseDisplay mode => exact wf.eraseDisplay?_eq_some mode
  | _ => rfl

/-- So does a token. -/
theorem execute?_eq_some (wf : t.WellFormed limit) (token : Token) :
    t.execute? token = some (t.execute token) := by
  rw [t.execute_eq_performAll]
  exact (Access.foldlM_eq_some (P := WellFormed limit) (fun _ op wf => wf.perform?_eq_some op)
    (fun _ op wf => wf.perform op) _ wf).1

/-- A change of the size accesses rows in the course of the reflow of the primary screen. The
alternate one is cut and filled up without any access. -/
theorem resize?_eq_some (wf : t.WellFormed limit) (cols rows : Nat) :
    t.resize? cols rows = some (t.resize cols rows) := by
  have rows_pos : 0 < t.primary.rows.size := by
    rw [wf.primary.size_rows]
    exact wf.rows_pos
  unfold resize? Terminal.resize
  split
  · rfl
  · rw [Screen.reflow?_eq_some rows_pos]
    rfl

end WellFormed

/-- A place in the window is looked up in the history or on the screen, after it was compared with
their sizes. So this needs no invariant. -/
theorem windowRow?_eq_some (t : Terminal) (place : Nat) :
    t.windowRow? place = some (t.windowRow place) := by
  unfold windowRow? windowRow
  rw [Screen.look?_eq_some]
  cases t.screen.rowAt? place with
  | none => rfl
  | some row => rfl

/-- Neither does the text of the window, row by row. -/
theorem dump?_eq_some (t : Terminal) : t.dump? = some t.dump := by
  have rows_eq : (List.range t.rows).mapM t.windowRow? =
      some ((List.range t.rows).map t.windowRow) := by
    rw [funext (windowRow?_eq_some t)]
    exact List.mapM_pure
  rw [dump?, rows_eq]
  rfl

end Terminal

end TerminalSession
