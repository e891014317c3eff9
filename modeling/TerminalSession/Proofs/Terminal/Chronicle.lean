import TerminalSession.Proofs.Access.Emulator
import TerminalSession.Proofs.Terminal.Excursion
import TerminalSession.Proofs.Terminal.Remembering

/-!
# The history is the recent past

The history of the primary screen has the latest of all rows that ever left this screen at its top, in
their order and as they left. What happens on the alternate screen, and below the first row, is no part
of it.

## Main definitions

* `Operation.forgets`: the operations that begin the history anew
* `Emulator.leaving`, `Emulator.leavingAll`: the rows that an action, or a run, sends into the history
* `Emulator.keepsPast`, `Emulator.keepsPastAll`: whether an action, or a run, leaves the history to them

## Main statements

* `Terminal.WellFormed.history_perform`: the history after an operation, on either screen
* `Emulator.history_run`: the history after a run

## Design notes

* A run may go to the alternate screen and come back. `Terminal.WellFormed.records_perform` tells the
  whole past of the primary screen, of which the window returns to the live end then. The history is the
  part that such a change leaves alone.
-/

namespace TerminalSession

/-- Whether an operation begins the history anew, on whichever screen: by erasing it, or with all else. -/
def Operation.forgets : Operation → Bool
  | .eraseDisplay mode => mode == 3
  | .reset => true
  | _ => false

/-- An operation that neither forgets nor chooses a screen keeps the history of the primary one. -/
theorem Operation.keepsHistory_of_stays {op : Operation} (stays : op.stays = true)
    (keeps : op.forgets = false) : op.keepsHistory = true := by
  cases op with
  | eraseDisplay mode => simpa [keepsHistory, forgets] using keeps
  | setPrivateMode mode enable =>
    change (_ || _) = true
    rw [Bool.or_eq_true]
    exact .inr stays
  | reset => exact absurd stays Bool.false_ne_true
  | _ => rfl

namespace Terminal

variable {limit : Nat} {t : Terminal}

/-! ### Choosing a screen -/

theorem primary_restoreCursor (t : Terminal) : t.restoreCursor.primary = t.primary := by
  unfold restoreCursor
  split
  · rfl
  · exact primary_modifyCursor _ _

theorem history_switchScreen (t : Terminal) (enable : Bool) :
    (t.switchScreen enable).primary.history = t.primary.history := by
  unfold switchScreen
  split <;> rfl

/-- Choosing a screen leaves the history as it is, and sends no row there: only the window of the
primary screen is moved, and the alternate one is made anew. -/
theorem history_perform_of_chooses {op : Operation} {enable : Bool}
    (chooses : op = .setPrivateMode 47 enable ∨ op = .setPrivateMode 1047 enable ∨
      op = .setPrivateMode 1049 enable) (t : Terminal) :
    (op.perform t).primary.history = t.primary.history ∧ t.leaving op = [] := by
  obtain rfl | rfl | rfl := chooses
  · exact ⟨history_switchScreen t enable, rfl⟩
  · exact ⟨history_switchScreen t enable, rfl⟩
  · refine ⟨?_, rfl⟩
    cases enable with
    | true =>
      change (t.saveCursor.switchScreen true).primary.history = _
      rw [history_switchScreen, saveCursor, primary_modifyCursor]
    | false =>
      change (t.switchScreen false).restoreCursor.primary.history = _
      rw [primary_restoreCursor, history_switchScreen]

/-! ### Operations -/

/-- On the alternate screen no row is sent. That screen has no history, and what scrolls off it is
not remembered by the primary one. -/
theorem leaving_of_onAlternate (away : t.onAlternate = true) (op : Operation) :
    t.leaving op = [] := by
  have by_scroll (t : Terminal) (away : t.onAlternate = true) (n : Nat) :
      t.leavingByScroll n = [] := by
    simp [leavingByScroll, remembers, away]
  have by_index (t : Terminal) (away : t.onAlternate = true) : t.leavingByIndex = [] := by
    rw [leavingByIndex, by_scroll t away, ite_self]
  cases op with
  | print c =>
    dsimp only [leaving]
    split
    · exact by_index _ ((onAlternate_modifyScreen _ _).trans away)
    · rfl
  | lineFeed => exact by_index t away
  | index => exact by_index t away
  | scrollUp n => exact by_scroll t away n
  | _ => rfl

/-- A history that is kept within its limit is the latest part of itself. -/
theorem WellFormed.rtake_history (wf : t.WellFormed limit) :
    t.primary.history.toList.rtake limit = t.primary.history.toList := by
  rw [List.rtake, Array.length_toList, Nat.sub_eq_zero_of_le wf.primary.history_le, List.drop_zero]

/-- After an operation that does not forget, the history has the latest of the rows that it had and of
those that the operation sends. -/
theorem WellFormed.history_perform (wf : t.WellFormed limit) {op : Operation}
    (keeps : op.forgets = false) :
    (op.perform t).primary.history.toList =
      (t.primary.history.toList ++ t.leaving op).rtake limit := by
  obtain stays | rfl | ⟨enable, chooses⟩ := op.stays_or
  · cases away : t.onAlternate with
    | true =>
      have aside : t.Aside t.primary t.primaryCursor := ⟨away, rfl, rfl⟩
      rw [((Aside.frame _ _).perform aside stays).primary_eq, leaving_of_onAlternate away,
        List.append_nil, wf.rtake_history]
    | false =>
      have records := wf.records_perform away (Operation.keepsHistory_of_stays stays keeps)
      have fits := wf.primary
      calc (op.perform t).primary.history.toList
          = (t.primary.past.rememberAll (t.leaving op)).history.toList :=
            congrArg (fun s => s.history.toList) records.past_eq
        _ = (t.primary.history.toList ++ t.leaving op).rtake t.primary.limit :=
            Screen.toList_history_rememberAll
              (s := t.primary.past) (fits.limit_eq.symm ▸ fits.history_le) _
        _ = _ := by rw [fits.limit_eq]
  · exact nomatch keeps
  · obtain ⟨same, none⟩ := history_perform_of_chooses chooses t
    rw [same, none, List.append_nil, wf.rtake_history]

/-- So it has after a list of operations. -/
theorem WellFormed.history_performAll (wf : t.WellFormed limit) {operations : List Operation}
    (keep : operations.all (fun op => !op.forgets) = true) :
    (Operation.performAll t operations).primary.history.toList =
      (t.primary.history.toList ++ t.leavingAll operations).rtake limit := by
  induction operations generalizing t with
  | nil => rw [leavingAll, List.append_nil, wf.rtake_history, Operation.performAll_nil]
  | cons op rest ih =>
    obtain ⟨keeps, rest_keep⟩ := Bool.and_eq_true_iff.mp keep
    rw [Operation.performAll_cons, ih (wf.perform op) rest_keep,
      wf.history_perform (Bool.not_eq_true' _ ▸ keeps), Screen.rtake_rtake_append, leavingAll,
      List.append_assoc]

end Terminal

namespace Emulator

/-! ### Runs -/

/-- The rows that an action sends into the history. Moving the window sends none; of a change of the
size nothing is said here, as it lays out the history anew. -/
def leaving (e : Emulator) : Action → List Row
  | .output bytes => e.terminal.leavingAll (e.operations bytes)
  | .operate op => e.terminal.leaving op
  | .scroll _ => []
  | .resize .. => []

/-- The rows that the actions of a list send into the history, each at its time. -/
def leavingAll (e : Emulator) : List Action → List Row
  | [] => []
  | action :: rest => e.leaving action ++ (e.act action).leavingAll rest

/-- Whether an action changes the history by rows that enter, if at all. A change of the size does not
count, because it lays out the history anew. -/
def keepsPast (e : Emulator) : Action → Bool
  | .output bytes => (e.operations bytes).all fun op => !op.forgets
  | .operate op => !op.forgets
  | .scroll _ => true
  | .resize .. => false

/-- Whether the actions of a list all do so, each at its time. -/
def keepsPastAll (e : Emulator) : List Action → Bool
  | [] => true
  | action :: rest => e.keepsPast action && (e.act action).keepsPastAll rest

variable {e : Emulator} {limit : Nat}

/-- After an action the history has the latest of its rows and of those that left the screen. A
movement of the window sends none, and output sends what its operations do. -/
theorem history_act (wf : e.WellFormed limit) {action : Action}
    (keeps : e.keepsPast action = true) :
    (e.act action).terminal.primary.history.toList =
      (e.terminal.primary.history.toList ++ e.leaving action).rtake limit := by
  cases action with
  | output bytes =>
    have performed := wf.terminal.history_performAll keeps
    rwa [← terminal_feed] at performed
  | resize cols rows _ _ => exact nomatch keeps
  | scroll delta =>
    have same : (e.terminal.scrollWindow delta).primary.history = e.terminal.primary.history := by
      unfold Terminal.scrollWindow Terminal.modifyScreen
      split
      · rfl
      · change (Screen.moveWindow _ _).history = _
        unfold Screen.moveWindow
        split <;> rfl
    change (e.terminal.scrollWindow delta).primary.history.toList = _
    rw [same, leaving, List.append_nil, wf.terminal.rtake_history]
  | operate op => exact wf.terminal.history_perform (Bool.not_eq_true' _ ▸ keeps)

theorem history_run_of_wellFormed (wf : e.WellFormed limit) {actions : List Action}
    (keep : e.keepsPastAll actions = true) :
    (e.run actions).terminal.primary.history.toList =
      (e.terminal.primary.history.toList ++ e.leavingAll actions).rtake limit := by
  induction actions generalizing e with
  | nil => rw [leavingAll, List.append_nil, wf.terminal.rtake_history, run_nil]
  | cons action rest ih =>
    obtain ⟨keeps, rest_keep⟩ := Bool.and_eq_true_iff.mp keep
    rw [run_cons, ih (wf.act action) rest_keep, history_act wf keeps, Screen.rtake_rtake_append,
      leavingAll, List.append_assoc]

/-- In every emulator that can come about, and after any further run in which the size stays and nothing
forgets, the history has the latest of the rows that it had and of those that left the primary screen at
its top. Rows that were in the history before are lost from its old end or are there as they were. -/
theorem history_run {cols rows : Nat} (cols_pos : 0 < cols) (rows_pos : 0 < rows) (limit : Nat)
    (past actions : List Action) :
    let e := (fresh cols rows limit).run past
    let after := e.run actions
    e.keepsPastAll actions = true →
      after.terminal.primary.history.toList =
          (e.terminal.primary.history.toList ++ e.leavingAll actions).rtake limit ∧
        ∃ lost kept entered : List Row,
          e.terminal.primary.history.toList = lost ++ kept ∧
          after.terminal.primary.history.toList = kept ++ entered ∧
          entered <:+ e.leavingAll actions := by
  intro e after keep
  have wf : e.WellFormed limit := (WellFormed.fresh limit cols_pos rows_pos).run past
  have history_eq := history_run_of_wellFormed wf keep
  refine ⟨history_eq, ?_⟩
  rw [history_eq]
  exact Screen.exists_kept_of_rtake _ _ limit

/-- A history of two rows, while a character wraps, a region scrolls that leaves out the first row, the
alternate screen scrolls, and the primary one scrolls by more rows than it has. -/
theorem history_run_crowded :
    let e := (fresh 3 3 2).run [.output "a\r\nb\r\nc\r\nd".toUTF8.toList]
    let actions : List Action := [
      .output "efg\r\n".toUTF8.toList, .scroll (-1), .operate (.setRegion 2 3),
      .output "\x1b[3;1Hk\r\nh\x1b[r\x1b[?1049hv\r\nw\r\nx\r\ny\x1b[2S\x1b[?1049l".toUTF8.toList,
      .operate (.scrollUp 9)]
    let after := e.run actions
    let seen := fun row : Row => (String.ofList row.trimmed, row.wrapped)
    e.keepsPastAll actions = true ∧
      e.terminal.primary.history.toList.map seen = [("a", false)] ∧
      (e.leavingAll actions).map seen =
        [("b", false), ("c", false), ("def", true), ("k", false), ("h", false)] ∧
      after.terminal.primary.history.toList.map seen = [("k", false), ("h", false)] := by
  intro e actions after seen
  have keep : e.keepsPastAll actions = true := by decide +kernel
  have recorded := (history_run (by decide : 0 < 3) (by decide : 0 < 3) 2
    [.output "a\r\nb\r\nc\r\nd".toUTF8.toList] actions keep).1
  refine ⟨keep, by decide +kernel, by decide +kernel, ?_⟩
  rw [recorded]
  decide +kernel

end Emulator

end TerminalSession
