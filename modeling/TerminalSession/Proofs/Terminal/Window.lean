import TerminalSession.Proofs.Grid.Window
import TerminalSession.Proofs.Terminal.Preservation
import TerminalSession.Terminal.Window

/-!
# What the window of a terminal shows

The window of a well-formed terminal lies inside its history and its screen, so it shows a row at each
place. It moves by plain clamping, and the cursor is in it as long as its row is.

## Main definitions

* `Terminal.standBack`: the window of the screen in use put at an offset

## Main statements

* `Terminal.WellFormed.rowAt?_eq_some`: there is a row at each place of the window
* `Terminal.WellFormed.windowRows_eq`: the text of the window is that of a stretch of all rows
* `Terminal.scrollWindow_eq`, `Terminal.WellFormed.foldl_scrollWindow`: where the window stands after
  some movements
* `Terminal.WellFormed.scrollWindow_neg_scrollWindow`: a movement that is not cut short is undone by the
  opposite one
* `Terminal.cursorReport_valid_iff`, `Terminal.WellFormed.rowAt?_cursorReport`: the cursor in the window

## Design notes

* Both ways to tell where a row is, from the oldest row and from the first one of the screen, agree only
  if the offset is not beyond the history. That is a part of a well-formed terminal.
-/

namespace TerminalSession.Terminal

variable {limit : Nat} {t : Terminal}

/-! ### Where the window stands -/

/-- The window of the screen in use put at an offset. -/
def standBack (t : Terminal) (offset : Nat) : Terminal :=
  t.modifyScreen fun s => { s with offset }

@[simp] theorem screen_standBack (t : Terminal) (offset : Nat) :
    (t.standBack offset).screen = { t.screen with offset } := screen_modifyScreen t _

theorem standBack_offset (t : Terminal) : t.standBack t.screen.offset = t := by
  have same : t.standBack t.screen.offset = t.modifyScreen id := modifyScreen_congr rfl
  rw [same]
  unfold modifyScreen
  split <;> rfl

/-- A movement of the window by plain clamping. -/
theorem scrollWindow_eq (wf : t.WellFormed limit) (delta : Int) :
    t.scrollWindow delta = t.standBack (t.screen.clampOffset delta) := by
  obtain ⟨_, fits⟩ := wf.screen_fits
  exact modifyScreen_congr (Screen.moveWindow_eq fits.offset_le delta)

/-- The history of the screen in use is within the limit, whichever screen that is. -/
theorem WellFormed.history_le (wf : t.WellFormed limit) : t.screen.history.size ≤ limit := by
  unfold screen
  split
  · exact Nat.le_trans wf.alternate.history_le (Nat.zero_le limit)
  · exact wf.primary.history_le

theorem WellFormed.offset_le (wf : t.WellFormed limit) :
    t.screen.offset ≤ t.screen.history.size := by
  obtain ⟨_, fits⟩ := wf.screen_fits
  exact fits.offset_le

@[simp] theorem standBack_standBack (t : Terminal) (offset offset' : Nat) :
    (t.standBack offset).standBack offset' = t.standBack offset' :=
  modifyScreen_modifyScreen t _ _

/-- After some movements the window stands where clamping step by step puts it, and nothing else has
changed. To clamp their sum once would be another place. -/
theorem WellFormed.foldl_scrollWindow (wf : t.WellFormed limit) (deltas : List Int) :
    let moved := deltas.foldl Terminal.scrollWindow t
    moved = t.standBack moved.screen.offset ∧
      (moved.screen.offset : Int) = deltas.foldl
        (fun (offset delta : Int) => max 0 (min (offset - delta) t.screen.history.size))
        (t.screen.offset : Int) := by
  induction deltas generalizing t with
  | nil => exact ⟨t.standBack_offset.symm, rfl⟩
  | cons delta rest ih =>
    intro moved
    have step : t.scrollWindow delta = t.standBack (t.screen.clampOffset delta) :=
      scrollWindow_eq wf delta
    -- The history is as long as before, so the other movements are clamped to the same range.
    have history_eq : (t.scrollWindow delta).screen.history = t.screen.history := by
      rw [step, screen_standBack]
    have offset_eq : ((t.scrollWindow delta).screen.offset : Int) =
        max 0 (min (t.screen.offset - delta) t.screen.history.size) := by
      rw [step, screen_standBack]
      exact t.screen.coe_clampOffset delta
    obtain ⟨moved_eq, rest_eq⟩ := ih (wf.scrollWindow delta)
    rw [history_eq, offset_eq] at rest_eq
    refine ⟨?_, rest_eq⟩
    calc
      moved = (t.scrollWindow delta).standBack moved.screen.offset := moved_eq
      _ = t.standBack moved.screen.offset := by rw [step, standBack_standBack]

/-- A movement that reaches beyond neither end is undone by the opposite one. At the ends it is cut
short, and the way back is not. -/
theorem WellFormed.scrollWindow_neg_scrollWindow (wf : t.WellFormed limit) {delta : Int}
    (live : 0 ≤ t.screen.offset + delta) (old : t.screen.offset + delta ≤ t.screen.history.size) :
    (t.scrollWindow (-delta)).scrollWindow delta = t := by
  have back := scrollWindow_eq wf (-delta)
  have there : (t.screen.clampOffset (-delta) : Int) = t.screen.offset + delta := by
    rw [Screen.coe_clampOffset]
    omega
  have again : (t.scrollWindow (-delta)).screen.clampOffset delta = t.screen.offset := by
    -- The way back is not cut short either, because the window was inside the history.
    have offset_le := wf.offset_le
    refine Int.ofNat_inj.mp ?_
    rw [Screen.coe_clampOffset, back, screen_standBack]
    dsimp only
    omega
  rw [scrollWindow_eq (wf.scrollWindow (-delta)) delta, again, back, standBack_standBack,
    standBack_offset]

/-! ### What is in the window -/

/-- There is a row at each place of the window. It is as wide as the terminal. -/
theorem WellFormed.rowAt?_eq_some (wf : t.WellFormed limit) {place : Nat} (lt : place < t.rows) :
    ∃ row, t.screen.rowAt? place = some row ∧ row.cells.size = t.cols := by
  obtain ⟨_, fits⟩ := wf.screen_fits
  have size_rows := fits.size_rows
  have offset_le := fits.offset_le
  unfold Screen.rowAt?
  dsimp only
  split
  next old => exact ⟨_, Array.getElem?_eq_getElem old, fits.uniform_history _ (Array.getElem_mem _)⟩
  next live =>
    have bound : t.screen.history.size - t.screen.offset + place - t.screen.history.size <
        t.screen.rows.size := by omega
    exact ⟨_, Array.getElem?_eq_getElem bound, fits.uniform_rows _ (Array.getElem_mem _)⟩

/-- The lines of the window are those of as many rows in a row as the terminal has, counted back
from the live end by the offset, with the history above the screen. -/
theorem WellFormed.windowRows_eq (wf : t.WellFormed limit) :
    (List.range t.rows).map t.windowRow =
      ((t.screen.lines.drop (t.screen.history.size - t.screen.offset)).take t.rows).map
        fun row => row.render t.cols := by
  refine List.ext_getElem? fun place => ?_
  by_cases lt : place < t.rows
  · obtain ⟨row, shown, -⟩ := wf.rowAt?_eq_some lt
    have found := shown
    rw [Screen.rowAt?_eq_lines] at found
    rw [List.getElem?_map, List.getElem?_map, List.getElem?_range lt, List.getElem?_take_of_lt lt,
      List.getElem?_drop, found, Option.map_some, Option.map_some, windowRow, shown]
  · rw [List.getElem?_eq_none (by simpa using lt), List.getElem?_eq_none]
    rw [List.length_map, List.length_take]
    omega

/-! ### The cursor in the window -/

theorem cursorReport_valid_iff :
    t.cursorReport.valid = true ↔
      t.cursor.visible = true ∧ t.cursor.row + t.screen.offset < t.rows := by
  unfold cursorReport
  dsimp only
  split
  next both =>
    rw [Bool.and_eq_true, decide_eq_true_eq] at both
    exact ⟨fun _ => both, fun _ => rfl⟩
  next not_both =>
    rw [Bool.and_eq_true, decide_eq_true_eq] at not_both
    exact ⟨fun eq => absurd eq Bool.false_ne_true, fun both => absurd both not_both⟩

theorem row_cursorReport (valid : t.cursorReport.valid = true) :
    t.cursorReport.row = t.cursor.row + t.screen.offset + 1 := by
  unfold cursorReport at valid ⊢
  dsimp only at valid ⊢
  split
  · rfl
  next invalid =>
    rw [if_neg invalid] at valid
    exact nomatch valid

/-- Where the cursor is seen, the window shows the row that the cursor is in. -/
theorem WellFormed.rowAt?_cursorReport (wf : t.WellFormed limit)
    (valid : t.cursorReport.valid = true) :
    ∃ row, t.screen.rows[t.cursor.row]? = some row ∧
      t.screen.rowAt? (t.cursorReport.row - 1) = some row := by
  obtain ⟨-, in_window⟩ := cursorReport_valid_iff.mp valid
  obtain ⟨row, shown, -⟩ := wf.rowAt?_eq_some in_window
  refine ⟨row, ?_, ?_⟩
  · rw [Screen.rowAt?_eq_rows wf.offset_le (Nat.le_add_left _ _), Nat.add_sub_cancel] at shown
    exact shown
  · rw [row_cursorReport valid, Nat.add_sub_cancel]
    exact shown

end TerminalSession.Terminal
