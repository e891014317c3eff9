import TerminalSession.Dimensions
import TerminalSession.Proofs.Access.Terminal
import TerminalSession.Proofs.Terminal.Size
import TerminalSession.Terminal.Window

/-!
# Terminals in words

Columns and rows are words of 16 bits. The operations of a terminal are given here so that they fail
where a sum, a difference or a product of columns and rows is no such word. None does in a terminal
that is well-formed, but for a tab in the last columns of the widest ones.

## Main definitions

* `Words.add`, `Words.mul`: sums and products that are words
* `Words.extent`: how many places there are from one to another
* `Words.perform`, `Words.answer`, `Words.cursorReport`: an operation, a reply, and the cursor in the
  window
* `Terminal.InWords`: a terminal with columns and rows that are words
* `Words.lastStop`: the last tab stop that is a word

## Main statements

* `Words.perform_eq`: an operation fails where it overflows, and has the result of the total function
  otherwise
* `Words.performAll_eq`: so does a list of operations
* `Words.answer_eq_some`, `Words.cursorReport_eq_some`: replies and reports do not fail
* `Words.overflows_iff`: what overflows is a tab from the last stop, or from beyond it
* `Words.overflowsAll_eq_false`: nothing overflows unless there are columns after the last tab stop
* `Words.col_of_tab`, `Words.le_col_of_tab`: where a tab leads that does not overflow

## Design notes

* A sum that stops at the greatest word, or a difference that stops at zero, does not fail. Motions of
  the cursor and changes of the size know no others, so they are used here as they are.
* Offsets of the window and counts of cells are words of 64 bits. They are not looked at.
-/

namespace TerminalSession

/-- A terminal with columns and rows that are words. Nothing is asked of the cursor or the region:
that they are words follows, if the terminal is well-formed. -/
structure Terminal.InWords (t : Terminal) : Prop where
  cols_le : t.cols ≤ Dimensions.greatest
  rows_le : t.rows ≤ Dimensions.greatest

/-- Whether a terminal is one of words depends on its size alone. Operations keep that, so they keep
this. -/
theorem Terminal.InWords.of_size_eq {t t' : Terminal} (words : t.InWords) (same : t'.size = t.size) :
    t'.InWords where
  cols_le := by
    rw [cols_eq_of_size_eq same]
    exact words.cols_le
  rows_le := by
    rw [rows_eq_of_size_eq same]
    exact words.rows_le

namespace Words

open Access (sub)

/-! ### Numbers -/

/-- The sum of two words, if it is one. -/
def add (a b : Nat) : Option Nat := if a + b ≤ Dimensions.greatest then some (a + b) else none

/-- The product of two words, if it is one. Only tab stops are computed by it. -/
def mul (a b : Nat) : Option Nat := if a * b ≤ Dimensions.greatest then some (a * b) else none

/-- How many places there are from the first to the last: their difference, which must not be
negative, and one. -/
def extent (first last : Nat) : Option Nat := do
  let distance ← sub last first
  add distance 1

theorem add_eq_some {a b : Nat} (le : a + b ≤ Dimensions.greatest) : add a b = some (a + b) :=
  if_pos le

/-- The last of the places must lie before the greatest word: counted from zero, the number of
places is one more than their distance. -/
theorem extent_eq_some {first last : Nat} (le : first ≤ last) (lt : last < Dimensions.greatest) :
    extent first last = some (last - first + 1) := by
  rw [extent, Access.sub_eq_some le, Option.bind_eq_bind, Option.bind_some, add_eq_some (by omega)]

/-! ### Operations -/

/-- The terminal with the cursor in use changed. -/
def modifyCursor (t : Terminal) (f : Cursor → Option Cursor) : Option Terminal :=
  (f t.cursor).map fun c => t.modifyCursor fun _ => c

/-- To the next tab stop, or to the last column if that comes first. The stop has to be a word
before it is compared with the last column. -/
def tab (t : Terminal) : Option Terminal :=
  modifyCursor t fun c => do
    let stop ← add (c.col / 8) 1
    let col ← mul stop 8
    some { c with col := min col t.lastCol }

/-- A step on the screen, `n` times, or as often as there are places from one to another. -/
def repeatWithin (t : Terminal) (n first last : Nat) (step : Screen → Screen) : Option Terminal := do
  let height ← extent first last
  some (t.modifyScreen (Nat.repeat step (min n height)))

/-- The height of the region is a number of places, and bounds the number of steps. -/
def scrollUp (t : Terminal) (n : Nat) : Option Terminal :=
  let keep := t.remembers
  let cols := t.cols
  let { top, bottom } := t.region
  repeatWithin t n top bottom fun s => s.scrollUp cols top bottom keep

/-- The same downwards. What is repeated differs, and the arithmetic is the same. -/
def scrollDown (t : Terminal) (n : Nat) : Option Terminal :=
  let cols := t.cols
  let { top, bottom } := t.region
  repeatWithin t n top bottom fun s => s.scrollDown cols top bottom

/-- The places from the cursor to the end of the region are counted only if the cursor stands in
it. -/
def insertLines (t : Terminal) (n : Nat) : Option Terminal :=
  let row := t.cursor.row
  let cols := t.cols
  let bottom := t.region.bottom
  if t.inRegion then repeatWithin t n row bottom fun s => s.addLine cols row bottom else some t

def deleteLines (t : Terminal) (n : Nat) : Option Terminal :=
  let row := t.cursor.row
  let cols := t.cols
  let bottom := t.region.bottom
  if t.inRegion then repeatWithin t n row bottom fun s => s.dropLine cols row bottom else some t

/-- A step down is a sum, and is taken only where there is a row below. -/
def index (t : Terminal) : Option Terminal :=
  if t.cursor.row = t.region.bottom then scrollUp t 1
  else if t.cursor.row < t.lastRow then
    modifyCursor t fun c => do
      let row ← add c.row 1
      some { c with row }
  else some t

def lineFeed (t : Terminal) : Option Terminal :=
  if t.modes.newLine then (index t).map Terminal.carriageReturn else index t

/-- A step up stops at the first row by itself. -/
def reverseIndex (t : Terminal) : Option Terminal :=
  if t.cursor.row = t.region.top then scrollDown t 1 else some (t.cursorUp 1)

/-- Whether a character of a width finds no room in the cursor's row. The column after the cursor is
looked at only for a wide character, and only if the cursor is not past the last one. -/
def atMargin (t : Terminal) (width : Nat) : Option Bool :=
  if t.cols ≤ t.cursor.col then some true
  else if width = 2 then do
    let next ← add t.cursor.col 1
    some (t.cols ≤ next && 1 < t.cols)
  else some false

/-- Whether there is room is found out in words. The mark, the return and the line feed follow. -/
def wrapFor (t : Terminal) (width : Nat) : Option Terminal := do
  let full ← atMargin t width
  if full then
    if t.modes.autoWrap then
      lineFeed (t.modifyCursorRow fun row => { row with wrapped := true }).carriageReturn
    else some (t.modifyCursor fun c => { c with col := t.cols - width })
  else some t

/-- After the character is written, its width is added to the column of the cursor. There is no
clamp after that sum. -/
def place (t : Terminal) (c : Char) (width : Nat) : Option Terminal :=
  let col := t.cursor.col
  if t.cols ≤ col then some t
  else
    let t := t.shiftFor width
    let style := t.style
    let t := t.modifyCursorRow fun row => row.write col { glyph := [c], width, style }
    modifyCursor t fun cursor => do
      let col ← add cursor.col width
      some { cursor with col }

/-- A character without width is combined with the one before it, which takes no arithmetic in
columns. -/
def print (t : Terminal) (c : Char) : Option Terminal :=
  match Text.charWidth c with
  | 0 => some (t.combine c)
  | width => do
    let t ← wrapFor t width
    place t c width

/-- The terminal after an operation, if all columns and rows are words. Operations that are not
listed move the cursor with sums and differences that stop, or compute no column at all. -/
def perform (t : Terminal) : Operation → Option Terminal
  | .print c => print t c
  | .lineFeed => lineFeed t
  | .tab => tab t
  | .index => index t
  | .reverseIndex => reverseIndex t
  | .scrollUp n => scrollUp t n
  | .scrollDown n => scrollDown t n
  | .insertLines n => insertLines t n
  | .deleteLines n => deleteLines t n
  | op => some (op.perform t)

/-- The terminal after a list of operations, if all columns and rows are words. -/
def performAll (t : Terminal) (operations : List Operation) : Option Terminal :=
  operations.foldlM perform t

/-- The reply to a function, if its numbers are words. Only the report of the cursor adds to them,
since it counts from one. -/
def answer (t : Terminal) : ControlFunction → Option (Option Reply)
  | .report (some 6) => do
    let row ← add t.cursor.row 1
    let col ← add (min t.cursor.col t.lastCol) 1
    some (some (.cursorPosition row col))
  | f => some (t.answer? f)

/-- Where the cursor is seen in the window, if it is and its numbers are words. Both are counted
from one, so that the last word would have none after it. -/
def cursorReport (t : Terminal) : Option CursorReport :=
  let row := t.cursor.row + t.screen.offset
  if t.cursor.visible && row < t.rows then do
    let col ← add (min t.cursor.col t.lastCol) 1
    let row ← add row 1
    some { col, row, valid := true }
  else some {}

/-! ### Tabs -/

/-- The last tab stop that is a word. The next one would be 2^16. -/
def lastStop : Nat := 65528

/-- The stop after a column is a word just if the column lies before the last one that is. -/
theorem tabOverflows_iff {t : Terminal} : t.tabOverflows = true ↔ lastStop ≤ t.cursor.col := by
  unfold Terminal.tabOverflows Terminal.tabStopAfter lastStop
  rw [decide_eq_true_iff]
  omega

/-- What overflows is a tab from the last stop, or from beyond it. -/
theorem overflows_iff {t : Terminal} {op : Operation} :
    op.overflows t = true ↔ op = .tab ∧ lastStop ≤ t.cursor.col := by
  cases op with
  | tab => simpa [Operation.overflows] using tabOverflows_iff
  | _ => simp [Operation.overflows]

/-- If the new cursor can be computed in words, and is the one that the total function computes,
then so is the terminal. -/
theorem modifyCursor_eq_some {t : Terminal} {f : Cursor → Option Cursor} {g : Cursor → Cursor}
    (step : f t.cursor = some (g t.cursor)) : modifyCursor t f = some (t.modifyCursor g) := by
  rw [modifyCursor, step]
  unfold Terminal.modifyCursor Terminal.cursor
  split <;> rfl

/-- A cursor in the margin of a terminal stands in a column that is a word. -/
theorem margin_le {cols : Nat} (le : cols ≤ Dimensions.greatest) :
    Cursor.margin cols ≤ Dimensions.greatest := by
  unfold Cursor.margin Dimensions.greatest at *
  split <;> omega

section Operations

variable {limit : Nat} {t : Terminal} (wf : t.WellFormed limit) (words : t.InWords)
include wf words

/-- The column of a cursor is a word: it stands in the margin at most, which is a word even in the
widest terminal. -/
theorem col_le : t.cursor.col ≤ Dimensions.greatest :=
  Nat.le_trans wf.cursor_inside.col_le (margin_le words.cols_le)

omit wf words in
/-- A stop that does not overflow is a word, and taking it modulo 2^16 does not change it. -/
theorem tabStopAfter_lt (before : ¬ t.tabOverflows = true) :
    Terminal.tabStopAfter t.cursor.col < 65536 := by
  simpa [Terminal.tabOverflows] using before

/-- The next stop is a word unless the column is one of the last, from the last stop on. Then the
product is no word, although the column that a tab would lead to is one. -/
theorem tab_eq : tab t = if t.tabOverflows then none else some t.tab := by
  have col_le := col_le wf words
  have stop_eq : add (t.cursor.col / 8) 1 = some (t.cursor.col / 8 + 1) :=
    add_eq_some (by unfold Dimensions.greatest at *; omega)
  unfold tab
  split
  next beyond =>
    have no_word : mul (t.cursor.col / 8 + 1) 8 = none :=
      if_neg (Nat.not_le.mpr (of_decide_eq_true beyond))
    rw [modifyCursor, stop_eq, Option.bind_eq_bind, Option.bind_some, no_word]
    rfl
  next before =>
    have stop_lt := tabStopAfter_lt before
    have product_eq : mul (t.cursor.col / 8 + 1) 8 = some (Terminal.nextTabStop t.cursor.col) := by
      rw [Terminal.nextTabStop, Nat.mod_eq_of_lt stop_lt]
      exact if_pos (Nat.le_of_lt_succ stop_lt)
    refine modifyCursor_eq_some ?_
    rw [stop_eq, Option.bind_eq_bind, Option.bind_some, product_eq]
    rfl

/-- The region ends with a row of the terminal, so the places down to there can be counted. -/
theorem repeatWithin_eq_some (n : Nat) {first : Nat} (le : first ≤ t.region.bottom)
    (step : Screen → Screen) :
    repeatWithin t n first t.region.bottom step =
      some (t.modifyScreen (Nat.repeat step (min n (t.region.bottom - first + 1)))) := by
  have bottom_lt := Nat.lt_of_lt_of_le wf.bottom_lt words.rows_le
  rw [repeatWithin, extent_eq_some le bottom_lt]
  rfl

theorem scrollUp_eq_some (n : Nat) : scrollUp t n = some (t.scrollUp n) :=
  repeatWithin_eq_some wf words n wf.top_le_bottom _

theorem scrollDown_eq_some (n : Nat) : scrollDown t n = some (t.scrollDown n) :=
  repeatWithin_eq_some wf words n wf.top_le_bottom _

/-- The cursor is inside the region, so it is not below its end. -/
theorem insertLines_eq_some (n : Nat) : insertLines t n = some (t.insertLines n) := by
  unfold insertLines Terminal.insertLines
  dsimp only
  split
  next inside =>
    exact repeatWithin_eq_some wf words n (Terminal.WellFormed.row_le_bottom inside) _
  · rfl

theorem deleteLines_eq_some (n : Nat) : deleteLines t n = some (t.deleteLines n) := by
  unfold deleteLines Terminal.deleteLines
  dsimp only
  split
  next inside =>
    exact repeatWithin_eq_some wf words n (Terminal.WellFormed.row_le_bottom inside) _
  · rfl

/-- A row below the cursor is a row of the terminal, so its number is a word. -/
theorem index_eq_some : index t = some t.index := by
  unfold index Terminal.index
  split
  · exact scrollUp_eq_some wf words 1
  · split
    next above =>
      have row_le : t.cursor.row + 1 ≤ Dimensions.greatest :=
        Nat.le_trans (Nat.succ_le_of_lt wf.cursor_inside.row_lt) words.rows_le
      refine modifyCursor_eq_some ?_
      rw [add_eq_some row_le]
      rfl
    · rfl

theorem lineFeed_eq_some : lineFeed t = some t.lineFeed := by
  unfold lineFeed Terminal.lineFeed
  rw [index_eq_some wf words]
  split <;> rfl

theorem reverseIndex_eq_some : reverseIndex t = some t.reverseIndex := by
  unfold reverseIndex Terminal.reverseIndex
  rw [scrollDown_eq_some wf words]
  split <;> rfl

omit wf in
/-- The next column is looked at only where the cursor is not past the last one, and then it is at
most the number of columns. -/
theorem atMargin_eq_some (width : Nat) : atMargin t width = some (t.atMargin width) := by
  unfold atMargin Terminal.atMargin
  split
  next past => rw [decide_eq_true past, Bool.true_or]
  next inside =>
    have next_le : t.cursor.col + 1 ≤ Dimensions.greatest :=
      Nat.le_trans (Nat.succ_le_of_lt (Nat.lt_of_not_le inside)) words.cols_le
    rw [decide_eq_false inside, Bool.false_or]
    split
    next wide =>
      rw [add_eq_some next_le, wide]
      rfl
    next narrow => rw [beq_false_of_ne narrow, Bool.false_and, Bool.false_and]

/-- The line feed comes after a mark and a return, which leave the terminal well-formed and of the
same size. -/
theorem wrapFor_eq_some (width : Nat) : wrapFor t width = some (t.wrapFor width) := by
  unfold wrapFor Terminal.wrapFor
  rw [atMargin_eq_some words, Option.bind_eq_bind, Option.bind_some]
  split
  · split
    · have marked := wf.modifyCursorRow (f := fun row => { row with wrapped := true })
        fun _ size => size
      have frame := (Terminal.size_frame t.size).titled
      have same := frame.modifyCursorRow (t := t) rfl fun row => { row with wrapped := true }
      exact lineFeed_eq_some marked.carriageReturn (words.of_size_eq (frame.modifyCursor same _))
    · rfl
  · rfl

omit wf in
/-- The width is added to a column that leaves room for it before the margin. Neither the insertion
of cells nor the writing has moved the cursor by then. -/
theorem place_eq_some (c : Char) {width : Nat}
    (room : t.cursor.col + width ≤ Cursor.margin t.cols) :
    place t c width = some (t.place c width) := by
  have cursor_eq : (t.shiftFor width).cursor = t.cursor := by
    unfold Terminal.shiftFor
    split
    · exact t.cursor_insertChars width
    · rfl
  unfold place
  rw [Terminal.place_eq]
  dsimp only
  split
  · rfl
  · rw [Terminal.put, cursor_eq]
    refine modifyCursor_eq_some ?_
    -- Writing into the row leaves the cursor where it was.
    rw [Terminal.modifyCursorRow, Terminal.cursor_modifyScreen, cursor_eq,
      add_eq_some (Nat.le_trans room (margin_le words.cols_le))]
    rfl

/-- No character is wider than two columns, so after the wrap there is room for it. This is the only
thing that has to be known of the table of widths. -/
theorem print_eq_some (c : Char) : print t c = some (t.print c) := by
  unfold print Terminal.print
  cases width_eq : Text.charWidth c with
  | zero => rfl
  | succ width =>
    have le_two : width + 1 ≤ 2 := width_eq ▸ Text.charWidth_le_two c
    have same : (t.wrapFor (width + 1)).size = t.size :=
      (Terminal.size_frame t.size).titled.wrapFor rfl _
    change (wrapFor t (width + 1)).bind (fun t => place t c (width + 1)) =
      some ((t.wrapFor (width + 1)).place c (width + 1))
    rw [wrapFor_eq_some wf words, Option.bind_some]
    refine place_eq_some (words.of_size_eq same) c ?_
    rw [Terminal.cols_wrapFor]
    exact t.room_wrapFor wf.cols_pos le_two

/-- An operation fails where it overflows, and nowhere else. -/
theorem perform_eq (op : Operation) :
    perform t op = if op.overflows t then none else some (op.perform t) := by
  cases op with
  | print c => exact print_eq_some wf words c
  | lineFeed => exact lineFeed_eq_some wf words
  | index => exact index_eq_some wf words
  | reverseIndex => exact reverseIndex_eq_some wf words
  | scrollUp n => exact scrollUp_eq_some wf words n
  | scrollDown n => exact scrollDown_eq_some wf words n
  | insertLines n => exact insertLines_eq_some wf words n
  | deleteLines n => exact deleteLines_eq_some wf words n
  | tab => exact tab_eq wf words
  | _ => rfl

/-- So does a list of operations. -/
theorem performAll_eq (operations : List Operation) :
    performAll t operations =
      if Operation.overflowsAll t operations then none
      else some (Operation.performAll t operations) := by
  induction operations generalizing t with
  | nil => rfl
  | cons op rest ih =>
    rw [performAll, List.foldlM_cons, perform_eq wf words, Operation.overflowsAll]
    cases op.overflows t with
    | true => rfl
    | false => exact ih (wf.perform op) (words.of_size_eq (t.size_perform op))

omit words in
/-- A terminal without columns after the last stop has no operation that overflows, whatever came
before: its columns stay the same. -/
theorem overflowsAll_eq_false (narrow : t.cols < lastStop) (operations : List Operation) :
    Operation.overflowsAll t operations = false := by
  induction operations generalizing t with
  | nil => rfl
  | cons op rest ih =>
    have col_lt : t.cursor.col < lastStop := by
      have col_le := wf.cursor_inside.col_le
      unfold Cursor.margin at col_le
      unfold lastStop at *
      split at col_le <;> omega
    have fits : op.overflows t = false :=
      Bool.eq_false_iff.mpr fun exceeds => absurd (overflows_iff.mp exceeds).2 (Nat.not_le.mpr col_lt)
    have same := Terminal.cols_eq_of_size_eq (t.size_perform op)
    rw [Operation.overflowsAll, fits, Bool.false_or, ih (wf.perform op) (same.symm ▸ narrow)]

/-! ### Reports -/

/-- The column that is reported is one of the terminal, so it can be counted from 1. -/
theorem shown_col_lt : min t.cursor.col t.lastCol < Dimensions.greatest := by
  have lastCol_lt : t.lastCol < t.cols := Nat.sub_lt wf.cols_pos Nat.one_pos
  exact Nat.lt_of_le_of_lt (Nat.min_le_right _ _) (Nat.lt_of_lt_of_le lastCol_lt words.cols_le)

/-- A reply fits into words. -/
theorem answer_eq_some (f : ControlFunction) : answer t f = some (t.answer? f) := by
  unfold answer
  split
  · have row_lt := Nat.lt_of_lt_of_le wf.cursor_inside.row_lt words.rows_le
    rw [add_eq_some row_lt, Option.bind_eq_bind, Option.bind_some,
      add_eq_some (shown_col_lt wf words)]
    rfl
  · rfl

/-- So does the cursor in the window. -/
theorem cursorReport_eq_some : cursorReport t = some t.cursorReport := by
  unfold cursorReport Terminal.cursorReport
  dsimp only
  split
  next shown =>
    have row_lt : t.cursor.row + t.screen.offset < t.rows :=
      of_decide_eq_true (Bool.and_eq_true_iff.mp shown).2
    rw [add_eq_some (shown_col_lt wf words), Option.bind_eq_bind, Option.bind_some,
      add_eq_some (Nat.lt_of_lt_of_le row_lt words.rows_le)]
    rfl
  · rfl

/-- A tab that has a result in words leads to the next stop, or to the last column. -/
theorem col_of_tab {t' : Terminal} (stops : tab t = some t') :
    t'.cursor.col = min (8 * (t.cursor.col / 8 + 1)) (t.cols - 1) := by
  rw [tab_eq wf words] at stops
  split at stops
  · exact nomatch stops
  next before =>
    obtain rfl := Option.some.inj stops
    rw [Terminal.tab, Terminal.cursor_modifyCursor, Terminal.nextTabStop,
      Nat.mod_eq_of_lt (tabStopAfter_lt before), Nat.mul_comm]
    rfl

/-- Inside the terminal it does not lead to the left. -/
theorem le_col_of_tab {t' : Terminal} (stops : tab t = some t') (inside : t.cursor.col < t.cols) :
    t.cursor.col ≤ t'.cursor.col := by
  rw [col_of_tab wf words stops]
  omega

end Operations

end Words

end TerminalSession
