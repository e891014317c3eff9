import TerminalSession.Proofs.Grid.Remembering
import TerminalSession.Proofs.Terminal.Preservation

/-!
# Rows that operations send into the history

Rows enter the history when the primary screen scrolls from its first row on: on request, by a line
feed in the last row that scrolls, and by a character for which there is no room in that row. Which
rows an operation sends is known before it is performed, and nothing else of the history changes.

## Main definitions

* `Operation.keepsHistory`: the operations that neither erase the history nor leave the primary
  screen
* `Terminal.leaving`, `Terminal.leavingAll`: the rows that an operation, or a list, sends into the
  history
* `Terminal.sentAll`: the number of rows that a list sends
* `Terminal.Records`: a terminal that came from another one by rows entering the history

## Main statements

* `Terminal.WellFormed.records_perform`: an operation sends its rows, and changes nothing else of the
  history and of the window
* `Terminal.WellFormed.records_performAll`: so does a list of operations

## Design notes

* A character that wraps marks the end of its row before the first row of the screen leaves. On a
  screen of one row it is the marked row that leaves.
* Rows count that are sent to a history without room, too: they are lost at once.
* Resetting the mode of an alternate screen while the primary one is in use does not leave it.
-/

namespace TerminalSession

/-- Whether an operation of the primary screen keeps this screen in use and its history as it is, but
for rows that are added. -/
def Operation.keepsHistory : Operation → Bool
  | .eraseDisplay mode => mode != 3
  | .setPrivateMode mode enable => !enable || (mode != 47 && mode != 1047 && mode != 1049)
  | .reset => false
  | _ => true

namespace Terminal

/-! ### The rows that leave -/

/-- The rows that scrolling by `n` sends into the history: as many as move, from the first row of
the screen on, if the terminal remembers at all. -/
def leavingByScroll (t : Terminal) (n : Nat) : List Row :=
  if t.remembers then t.primary.rows.toList.take (min n (t.region.bottom - t.region.top + 1)) else []

/-- The rows that going to the next row sends into the history. -/
def leavingByIndex (t : Terminal) : List Row :=
  if t.cursor.row = t.region.bottom then t.leavingByScroll 1 else []

/-- The rows that an operation sends into the history, as they are when they leave. A character
sends one if it makes the last row of the region go on in a new one. -/
def leaving (t : Terminal) : Operation → List Row
  | .print c =>
    let width := Text.charWidth c
    if width ≠ 0 ∧ t.atMargin width = true ∧ t.modes.autoWrap = true then
      (t.modifyCursorRow fun row => { row with wrapped := true }).leavingByIndex
    else []
  | .lineFeed => t.leavingByIndex
  | .index => t.leavingByIndex
  | .scrollUp n => t.leavingByScroll n
  | _ => []

/-- The rows that the operations of a list send into the history, each at its time. -/
def leavingAll (t : Terminal) : List Operation → List Row
  | [] => []
  | op :: rest => t.leaving op ++ (op.perform t).leavingAll rest

/-- What leaves during a list of operations leaves during its first part, or during the rest after
that. -/
theorem leavingAll_append (t : Terminal) (first rest : List Operation) :
    t.leavingAll (first ++ rest) =
      t.leavingAll first ++ (Operation.performAll t first).leavingAll rest := by
  induction first generalizing t with
  | nil => rfl
  | cons op first ih =>
    rw [List.cons_append, leavingAll, leavingAll, ih, List.append_assoc, Operation.performAll_cons]

/-- The number of rows that the operations of a list send into the history. -/
def sentAll (t : Terminal) (operations : List Operation) : Nat :=
  (t.leavingAll operations).length

/-- So do the numbers add up. -/
theorem sentAll_append (t : Terminal) (first rest : List Operation) :
    t.sentAll (first ++ rest) = t.sentAll first + (Operation.performAll t first).sentAll rest := by
  rw [sentAll, leavingAll_append, List.length_append]
  rfl

/-- No screen changes when a cursor does. -/
theorem primary_modifyCursor (t : Terminal) (f : Cursor → Cursor) :
    (t.modifyCursor f).primary = t.primary := by
  unfold modifyCursor
  split <;> rfl

/-- Returning to the first column makes no difference to what going to the next row sends. -/
theorem leavingByIndex_carriageReturn (t : Terminal) :
    t.carriageReturn.leavingByIndex = t.leavingByIndex := by
  simp [leavingByIndex, leavingByScroll, remembers, carriageReturn, primary_modifyCursor]

/-! ### Terminals that rows have left -/

/-- A terminal that uses its primary screen and came from another one by rows entering the history of
this screen. -/
structure Records (entered : List Row) (t t' : Terminal) : Prop where
  on_primary : t'.onAlternate = false
  past_eq : t'.primary.past = t.primary.past.rememberAll entered

namespace Records

variable {entered more : List Row} {t t' t'' : Terminal}

/-- Nothing enters, and nothing has changed. -/
theorem refl (on_primary : t.onAlternate = false) : Records [] t t where
  on_primary := on_primary
  past_eq := rfl

/-- What entered in two parts entered in one, in this order. -/
theorem trans (records : Records entered t t') (later : Records more t' t'') :
    Records (entered ++ more) t t'' where
  on_primary := later.on_primary
  past_eq := by rw [later.past_eq, records.past_eq, Screen.rememberAll_append]

/-- Whatever leaves the history of the primary screen alone can follow, and no more has entered by
it. -/
theorem modifyCursor (records : Records entered t t') (f : Cursor → Cursor) :
    Records entered t (t'.modifyCursor f) := by
  rw [Terminal.modifyCursor, if_neg (Bool.eq_false_iff.mp records.on_primary)]
  exact ⟨records.on_primary, records.past_eq⟩

/-- A change of the screen that does not concern its past. -/
theorem modifyScreen (records : Records entered t t') {f : Screen → Screen}
    (keeps : ∀ s : Screen, (f s).past = s.past) : Records entered t (t'.modifyScreen f) := by
  rw [Terminal.modifyScreen, if_neg (Bool.eq_false_iff.mp records.on_primary)]
  exact ⟨records.on_primary, (keeps _).trans records.past_eq⟩

/-- A change of the cursor's row concerns the screen and not its history. -/
theorem modifyCursorRow (records : Records entered t t') (f : Row → Row) :
    Records entered t (t'.modifyCursorRow f) := by
  unfold Terminal.modifyCursorRow
  exact records.modifyScreen fun _ => rfl

theorem share (records : Records entered t t') (style : Style) (modes : Modes) (title : Text)
    (region : Region) : Records entered t { t' with style, modes, title, region } :=
  ⟨records.on_primary, records.past_eq⟩

theorem restoreCursor (records : Records entered t t') : Records entered t t'.restoreCursor := by
  unfold Terminal.restoreCursor
  split
  · exact records
  next saved _ => exact (records.modifyCursor _).share saved.style _ _ _

/-- Rows of the screen are cleared without being remembered. -/
theorem clearRows (records : Records entered t t') (first past : Nat) :
    Records entered t (t'.clearRows first past) := by
  unfold Terminal.clearRows
  exact records.modifyScreen fun _ => rfl

/-- Erasing the history is ruled out; the other parts of the display are rows of the screen. -/
theorem eraseDisplay (records : Records entered t t') {mode : Nat}
    (keeps : (Operation.eraseDisplay mode).keepsHistory = true) :
    Records entered t (t'.eraseDisplay mode) := by
  unfold Terminal.eraseDisplay
  dsimp only
  split
  · exact Records.clearRows (records.modifyCursorRow _) _ _
  · exact (records.clearRows _ _).modifyCursorRow _
  · exact records.clearRows _ _
  · exact nomatch keeps
  · exact records

/-- Lines that leave at the end of the region are lost, and never remembered. -/
theorem insertLines (records : Records entered t t') (k : Nat) :
    Records entered t (t'.insertLines k) := by
  unfold Terminal.insertLines
  split
  · exact records.modifyScreen (Screen.past_iterate _ (fun _ => by rfl) _)
  · exact records

theorem deleteLines (records : Records entered t t') (k : Nat) :
    Records entered t (t'.deleteLines k) := by
  unfold Terminal.deleteLines
  split
  · exact records.modifyScreen (Screen.past_iterate _ (fun _ => by rfl) _)
  · exact records

theorem scrollDown (records : Records entered t t') (k : Nat) :
    Records entered t (t'.scrollDown k) := by
  unfold Terminal.scrollDown
  exact records.modifyScreen (Screen.past_iterate _ (fun _ => by rfl) _)

/-- Scrolling down sends no row into the history. -/
theorem reverseIndex (records : Records entered t t') : Records entered t t'.reverseIndex := by
  unfold Terminal.reverseIndex
  split
  · exact records.scrollDown 1
  · exact records.modifyCursor _

theorem setRegion (records : Records entered t t') (top bottom : Nat) :
    Records entered t (t'.setRegion top bottom) := by
  unfold Terminal.setRegion
  dsimp only
  split
  · exact records.share _ _ _ _
  · exact records

theorem setMode (records : Records entered t t') (mode : Nat) (enable : Bool) :
    Records entered t (t'.setMode mode enable) := by
  unfold Terminal.setMode
  split
  · exact records.share _ _ _ _
  · exact records.share _ _ _ _
  · exact records

/-- The primary screen is in use already. -/
theorem switchScreen (records : Records entered t t') :
    Records entered t (t'.switchScreen false) := by
  rwa [Terminal.switchScreen, if_pos records.on_primary.symm]

/-- The alternate screen is not entered. To leave it is no change while the primary screen is in
use, but for the cursor, which one of the modes restores. -/
theorem setPrivateMode (records : Records entered t t') {mode : Nat} {enable : Bool}
    (keeps : (Operation.setPrivateMode mode enable).keepsHistory = true) :
    Records entered t (t'.setPrivateMode mode enable) := by
  unfold Terminal.setPrivateMode
  split
  · exact records.share _ _ _ _
  · exact records.modifyCursor _
  · obtain rfl : enable = false := by simpa [Operation.keepsHistory] using keeps
    exact records.switchScreen
  · obtain rfl : enable = false := by simpa [Operation.keepsHistory] using keeps
    exact records.switchScreen
  · split
    · exact records.modifyCursor _
    · exact records.restoreCursor
  · obtain rfl : enable = false := by simpa [Operation.keepsHistory] using keeps
    exact records.switchScreen.restoreCursor
  · exact records

/-- A character is placed without scrolling. -/
theorem place (records : Records entered t t') (c : Char) (width : Nat) :
    Records entered t (t'.place c width) := by
  rw [place_eq]
  split
  · exact records
  · have shifted : Records entered t (t'.shiftFor width) := by
      unfold shiftFor
      split
      · exact records.modifyCursorRow _
      · exact records
    exact (shifted.modifyCursorRow _).modifyCursor _

end Records

/-! ### What operations send -/

variable {limit : Nat} {t : Terminal}

namespace WellFormed

/-- Scrolling sends the first rows of the screen, if the region begins with the first of them. -/
theorem records_scrollUp (wf : t.WellFormed limit) (on_primary : t.onAlternate = false) (n : Nat) :
    Records (t.leavingByScroll n) t (t.scrollUp n) := by
  change Records _ t (t.modifyScreen fun s =>
    Nat.repeat (fun s => s.scrollUp t.cols t.region.top t.region.bottom t.remembers)
      (min n (t.region.bottom - t.region.top + 1)) s)
  rw [leavingByScroll]
  cases remembers : t.remembers with
  | true =>
    have top_eq : t.region.top = 0 := by simpa [Terminal.remembers, on_primary] using remembers
    rw [Terminal.modifyScreen, if_neg (Bool.eq_false_iff.mp on_primary), top_eq]
    exact ⟨on_primary, Screen.past_iterate_scrollUp wf.primary wf.bottom_lt (by omega)⟩
  | false =>
    exact (Records.refl on_primary).modifyScreen (Screen.past_iterate _ (fun _ => by rfl) _)

/-- Going to the next row scrolls at the end of the region only. -/
theorem records_index (wf : t.WellFormed limit) (on_primary : t.onAlternate = false) :
    Records t.leavingByIndex t t.index := by
  have stays := Records.refl on_primary
  unfold Terminal.index leavingByIndex
  split
  · exact wf.records_scrollUp on_primary 1
  · split
    · exact stays.modifyCursor _
    · exact stays

theorem records_lineFeed (wf : t.WellFormed limit) (on_primary : t.onAlternate = false) :
    Records t.leavingByIndex t t.lineFeed := by
  unfold Terminal.lineFeed
  split
  · exact (wf.records_index on_primary).modifyCursor _
  · exact wf.records_index on_primary

/-- The rows that a line feed sends, when it comes after the end of the row was marked. -/
theorem records_wrap (wf : t.WellFormed limit) (on_primary : t.onAlternate = false) (f : Row → Row)
    (keeps : ∀ old : Row, old.cells.size = t.cols → (f old).cells.size = t.cols) :
    Records (t.modifyCursorRow f).leavingByIndex t
      (t.modifyCursorRow f).carriageReturn.lineFeed := by
  have marked : Records [] t (t.modifyCursorRow f) := (Records.refl on_primary).modifyCursorRow f
  have ready : Records [] t (t.modifyCursorRow f).carriageReturn := marked.modifyCursor _
  have fed := (wf.modifyCursorRow keeps).carriageReturn.records_lineFeed ready.on_primary
  rw [leavingByIndex_carriageReturn] at fed
  exact ready.trans fed

/-- A character for which there is no room marks its row and feeds a line. The row that leaves on a
screen of one row is the marked one. -/
theorem records_print (wf : t.WellFormed limit) (on_primary : t.onAlternate = false) (c : Char) :
    Records (t.leaving (.print c)) t (t.print c) := by
  have stays := Records.refl on_primary
  unfold Terminal.print
  dsimp only [leaving]
  generalize Text.charWidth c = width
  cases width with
  | zero => exact stays.modifyCursorRow _
  | succ width =>
    refine Records.place ?_ c _
    unfold Terminal.wrapFor
    by_cases full : t.atMargin (width + 1) = true
    · rw [if_pos full]
      by_cases wraps : t.modes.autoWrap = true
      · rw [if_pos wraps, if_pos ⟨Nat.succ_ne_zero width, full, wraps⟩]
        exact wf.records_wrap on_primary _ fun _ size => size
      · rw [if_neg wraps, if_neg (fun both => wraps both.2.2)]
        exact stays.modifyCursor _
    · rw [if_neg full, if_neg (fun both => full both.2.1)]
      exact stays

/-- An operation that keeps the history sends its rows there, and changes nothing else of it, nor of
the window. Only four operations can send rows: the others leave the past as it is. -/
theorem records_perform (wf : t.WellFormed limit) (on_primary : t.onAlternate = false)
    {op : Operation} (keeps : op.keepsHistory = true) : Records (t.leaving op) t (op.perform t) := by
  have stays := Records.refl on_primary
  cases op with
  | print c => exact wf.records_print on_primary c
  | lineFeed => exact wf.records_lineFeed on_primary
  | index => exact wf.records_index on_primary
  | scrollUp n => exact wf.records_scrollUp on_primary n
  | reverseIndex => exact stays.reverseIndex
  | restoreCursor => exact stays.restoreCursor
  | scrollDown n => exact stays.scrollDown n
  | insertLines n => exact stays.insertLines n
  | deleteLines n => exact stays.deleteLines n
  | insertChars n => exact stays.modifyCursorRow _
  | deleteChars n => exact stays.modifyCursorRow _
  | eraseChars n => exact stays.modifyCursorRow _
  | eraseLine mode => exact stays.modifyCursorRow _
  | eraseDisplay mode => exact stays.eraseDisplay keeps
  | setRegion top bottom => exact stays.setRegion top bottom
  | setMode mode enable => exact stays.setMode mode enable
  | setPrivateMode mode enable => exact stays.setPrivateMode keeps
  | selectRendition params => exact stays.share _ _ _ _
  | setTitle title => exact stays.share _ _ _ _
  | reset => exact nomatch keeps
  | _ =>
    -- What is left moves the cursor.
    dsimp only [leaving, Operation.perform]
    exact stays.modifyCursor _

/-- So does a list of operations. -/
theorem records_performAll (wf : t.WellFormed limit) (on_primary : t.onAlternate = false)
    {operations : List Operation} (keep : ∀ op ∈ operations, op.keepsHistory = true) :
    Records (t.leavingAll operations) t (Operation.performAll t operations) := by
  induction operations generalizing t with
  | nil => exact Records.refl on_primary
  | cons op rest ih =>
    have first := wf.records_perform on_primary (keep op List.mem_cons_self)
    exact first.trans (ih (wf.perform op) first.on_primary fun other mem =>
      keep other (List.mem_cons_of_mem _ mem))

end WellFormed

end Terminal

end TerminalSession
