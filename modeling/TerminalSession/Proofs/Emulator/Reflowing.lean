import TerminalSession.Proofs.Access.Emulator
import TerminalSession.Proofs.Emulator.Operations
import TerminalSession.Proofs.Grid.Reflowing
import TerminalSession.Proofs.Terminal.Everywhere

/-!
# Every screen that is reached can be made whole

Nothing that is done to an emulator makes a cell that takes more than two columns. This is all that a
reflow asks of a screen, so each screen that a run leaves, with the halves of wide characters that
editing and printing left in it, is whole after a reflow.

## Main statements

* `Emulator.narrow_run`: after a run no cell takes more than two columns
* `Emulator.whole_reflow_run`: a reflow of either screen makes it whole
-/

namespace TerminalSession

/-- No operation makes a cell of more than two columns. -/
theorem Terminal.Each.perform_le_two {t : Terminal}
    (each : t.Each (Row.All fun cell => cell.width ≤ 2)) (op : Operation) :
    (op.perform t).Each (Row.All fun cell => cell.width ≤ 2) := by
  refine each.perform_cells Cell.common_le_two ?_ ?_
  · intro c _ _ row _ _ old _ le_two
    exact le_two
  · intro c _ _ style
    exact Text.charWidth_le_two c

namespace Emulator

variable {limit : Nat} {e : Emulator}

/-- What is done to an emulator leaves all cells in two columns. -/
theorem narrow_act (wf : e.WellFormed limit)
    (each : e.terminal.Each (Row.All fun cell => cell.width ≤ 2)) (action : Action) :
    (e.act action).terminal.Each (Row.All fun cell => cell.width ≤ 2) := by
  cases action with
  | output bytes =>
    show (e.feed bytes).terminal.Each _
    rw [terminal_feed]
    exact Operation.performAll_induction (fun _ op each => each.perform_le_two op) each _
  | resize cols rows cols_pos rows_pos =>
    exact each.resize_cells Cell.common_le_two cols_pos wf.terminal.alternate.history_eq_empty rows
  | scroll delta => exact each.scrollWindow delta
  | operate op => exact each.perform_le_two op

theorem narrow_run (wf : e.WellFormed limit)
    (each : e.terminal.Each (Row.All fun cell => cell.width ≤ 2)) (actions : List Action) :
    (e.run actions).terminal.Each (Row.All fun cell => cell.width ≤ 2) := by
  induction actions generalizing e with
  | nil => exact each
  | cons action rest ih => exact ih (wf.act action) (narrow_act wf each action)

/-- After any run of an emulator, a reflow to two columns and more makes either screen whole, from
any place of the cursor. -/
theorem whole_reflow_run {cols rows : Nat} (cols_pos : 0 < cols) (rows_pos : 0 < rows) (limit : Nat)
    (actions : List Action) {s : Screen}
    (reached : s = ((fresh cols rows limit).run actions).terminal.primary ∨
      s = ((fresh cols rows limit).run actions).terminal.alternate)
    {newCols newRows : Nat} (two_le : 2 ≤ newCols) (newRows_pos : 0 < newRows) (row col : Nat) :
    let r := s.reflow newCols newRows row col
    r.1.Whole newCols newRows r.2.1 r.2.2 := by
  have blank : (fresh cols rows limit).terminal.Each (Row.All fun cell => cell.width ≤ 2) :=
    Terminal.Each.fresh ((Row.All.lasts Cell.common_le_two).blank cols) rows limit
  have narrow := narrow_run (WellFormed.fresh limit cols_pos rows_pos) blank actions
  rcases reached with rfl | rfl
  · exact Screen.Whole.reflow narrow.primary two_le newRows_pos row col
  · exact Screen.Whole.reflow narrow.alternate two_le newRows_pos row col

/-- The halves that printing left behind are gone afterwards, and a cursor on one of them is in the
corner. -/
theorem whole_reflow_run_overwritten :
    let s := ((fresh 4 1 2).run [.output (Text.Utf8.encode "a\u65E5\r\u672C".toList)]).terminal.primary
    let r := s.reflow 3 2 0 2
    (¬ ∀ row ∈ s.rows, Row.Paired row.cells) ∧ r.2 = (0, 0) ∧ r.1.Whole 3 2 r.2.1 r.2.2 := by
  intro s r
  have cut : ¬ ∀ row ∈ s.rows, Row.Paired row.cells := by decide +kernel
  have corner : r.2 = (0, 0) := by decide +kernel
  have whole : r.1.Whole 3 2 r.2.1 r.2.2 :=
    whole_reflow_run (by decide) Nat.one_pos 2 _ (Or.inl rfl) (by decide) Nat.two_pos 0 2
  exact ⟨cut, corner, whole⟩

end Emulator

end TerminalSession
