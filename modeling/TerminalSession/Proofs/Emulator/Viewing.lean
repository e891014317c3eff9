import TerminalSession.Proofs.Access.Emulator
import TerminalSession.Proofs.Terminal.Window

/-!
# The window in every run

Whatever was done to an emulator, its window shows a stretch of the history and of the screen below it.
A viewer can move it to any place and back, and sees the cursor as long as the row of the cursor is in it.

## Main statements

* `Emulator.viewed_run`: what the window shows, where it moves to, and where the cursor is in it
-/

namespace TerminalSession.Emulator

/-- After any run, the window shows as many rows as the terminal has, in a row, of the history and the
screen in use: the first of them is as far from the oldest row as the offset is short of the whole
history. Movements of the window put the offset where clamping it to the history step by step puts it,
and change nothing else. One that reaches beyond neither end is undone by the opposite one; of one to
older rows this asks only that the history has so many. The cursor is reported if it is visible and its
row is in the window, and then that row is the one at the place reported. -/
theorem viewed_run {cols rows : Nat} (cols_pos : 0 < cols) (rows_pos : 0 < rows) (limit : Nat)
    (actions : List Action) :
    let t := ((fresh cols rows limit).run actions).terminal
    let s := t.screen
    let first := s.history.size - s.offset
    s.offset ≤ s.history.size ∧
      (∀ place < t.rows, ∃ row, s.rowAt? place = some row ∧
        (s.history.toList ++ s.rows.toList)[first + place]? = some row) ∧
      t.dump = ['\n'].intercalate ((((s.history.toList ++ s.rows.toList).drop first).take t.rows).map
        fun row => row.render t.cols) ∧
      (∀ deltas : List Int,
        let moved := deltas.foldl Terminal.scrollWindow t
        moved = t.standBack moved.screen.offset ∧
          (moved.screen.offset : Int) = deltas.foldl
            (fun (offset delta : Int) => max 0 (min (offset - delta) s.history.size))
            (s.offset : Int)) ∧
      (∀ delta : Int, 0 ≤ s.offset + delta → s.offset + delta ≤ s.history.size →
        (t.scrollWindow (-delta)).scrollWindow delta = t) ∧
      (t.cursorReport.valid = true ↔
        t.cursor.visible = true ∧ t.cursor.row + s.offset < t.rows) ∧
      (t.cursorReport.valid = true → ∃ row, s.rows[t.cursor.row]? = some row ∧
        s.rowAt? (t.cursorReport.row - 1) = some row) := by
  intro t s first
  have wf : t.WellFormed limit := ((WellFormed.fresh limit cols_pos rows_pos).run actions).terminal
  refine ⟨wf.offset_le, fun place lt => ?_, ?_, wf.foldl_scrollWindow,
    fun _ live old => wf.scrollWindow_neg_scrollWindow live old, Terminal.cursorReport_valid_iff,
    wf.rowAt?_cursorReport⟩
  · obtain ⟨row, shown, -⟩ := wf.rowAt?_eq_some lt
    exact ⟨row, shown, (s.rowAt?_eq_lines place).symm.trans shown⟩
  · rw [Terminal.dump, wf.windowRows_eq]
    rfl

/-- A window that begins in the history and ends on the screen, with the cursor in the second of its
rows. It is moved beyond the oldest row and half the way back. -/
theorem viewed_run_partly_back :
    let t := ((fresh 4 3 5).run
      [.output "a\r\nb\r\nc\r\nd\r\ne\r\nf\x1b[2A".toUTF8.toList, .scroll (-1)]).terminal
    t.dump = "c   \nd   \ne   ".toList ∧
      ((t.scrollWindow (-9)).scrollWindow 2).screen.offset = 1 ∧
      (t.scrollWindow (-2)).scrollWindow 2 = t ∧
      t.cursorReport = { col := 2, row := 2, valid := true } ∧
      t.screen.rowAt? 1 = t.screen.rows[0]? := by
  intro t
  obtain ⟨-, -, -, moves, restores, -, seen⟩ := viewed_run (by decide : 0 < 4) (by decide : 0 < 3) 5
    [.output "a\r\nb\r\nc\r\nd\r\ne\r\nf\x1b[2A".toUTF8.toList, .scroll (-1)]
  have offset_eq := (moves [-9, 2]).2
  have restored := restores 2 (by decide +kernel) (by decide +kernel)
  have report : t.cursorReport = { col := 2, row := 2, valid := true } := by decide +kernel
  obtain ⟨row, at_cursor, in_window⟩ := seen (congrArg CursorReport.valid report)
  have row_eq : t.cursor.row = 0 := by decide +kernel
  refine ⟨by decide +kernel, Int.ofNat_inj.mp (offset_eq.trans (by decide +kernel)), restored,
    report, ?_⟩
  rw [show t.cursorReport.row = 2 from congrArg CursorReport.row report] at in_window
  rw [row_eq] at at_cursor
  exact in_window.trans at_cursor.symm

end TerminalSession.Emulator
