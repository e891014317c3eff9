import TerminalSession.Proofs.Emulator.Operations
import TerminalSession.Proofs.Terminal.Remembering

/-!
# A window over the history

A viewer who has gone back so far that all of the window lies in the history reads on undisturbed,
whatever output arrives, until the rows that are read are lost themselves.

## Main definitions

* `Emulator.sent`: the number of rows that a piece of output sends into the history

## Main statements

* `Terminal.WellFormed.window_performAll`: operations that keep the history move a window that stands
  back along with it, and leave what lies in the history shown as it is
* `Emulator.feed_frozen`: so does output, in every emulator that can come about

## Design notes

* The number of rows is the one of all the rows that enter, so the window stands further from the live
  end by that number even when as many rows are lost at the other end.
-/

namespace TerminalSession

namespace Terminal

variable {limit : Nat} {t t' : Terminal}

/-- The text of the window depends on the size of the terminal and on the rows that are shown. -/
theorem dump_eq_of_rowAt? (size : t'.size = t.size)
    (same : ∀ place < t.rows, t'.screen.rowAt? place = t.screen.rowAt? place) :
    t'.dump = t.dump := by
  unfold dump
  rw [rows_eq_of_size_eq size]
  congr 1
  refine List.map_congr_left fun place mem => ?_
  unfold windowRow
  rw [same place (List.mem_range.mp mem), cols_eq_of_size_eq size]

/-- A window that stands back moves with the rows that operations send into the history, and what
it shows of the history stays, as long as it does not reach beyond the limit. -/
theorem WellFormed.window_performAll (wf : t.WellFormed limit) (on_primary : t.onAlternate = false)
    {operations : List Operation} (keep : ∀ op ∈ operations, op.keepsHistory = true)
    (back : 0 < t.primary.offset) (room : t.primary.offset + t.sentAll operations ≤ limit) :
    let t' := Operation.performAll t operations
    t'.primary.offset = t.primary.offset + t.sentAll operations ∧
      ∀ place < t.primary.offset, t'.primary.rowAt? place = t.primary.rowAt? place := by
  intro t'
  have fits := wf.primary
  have past_eq := (wf.records_performAll on_primary keep).past_eq
  have room_rows :
      t.primary.past.offset + (t.leavingAll operations).length ≤ t.primary.past.limit :=
    fits.limit_eq.symm ▸ room
  have le : t.primary.past.history.size ≤ t.primary.past.limit :=
    fits.limit_eq.symm ▸ fits.history_le
  obtain ⟨offset_eq, shown⟩ := Screen.window_rememberAll le back fits.offset_le room_rows
  rw [← past_eq] at offset_eq shown
  have moved : t'.primary.offset = t.primary.offset + t.sentAll operations := offset_eq
  refine ⟨moved, fun place lt => ?_⟩
  have inside : t'.primary.offset ≤ t'.primary.history.size :=
    (wf.performAll operations).primary.offset_le
  rw [← Screen.rowAt?_past (s := t'.primary) (by omega) inside, shown place lt,
    Screen.rowAt?_past lt fits.offset_le]

end Terminal

namespace Emulator

/-- The number of rows that a piece of output sends into the history. A row counts even if the
history has no room for it. -/
def sent (e : Emulator) (bytes : List UInt8) : Nat :=
  e.terminal.sentAll (e.operations bytes)

/-- A window that lies in the history stays on its rows. Whatever output arrives that neither erases
the history nor leaves the primary screen, the text of the window is the same, and the window stands
further back by just the number of rows that entered the history. This holds as long as the limit of
the history has room for the window, also when older rows are lost. -/
theorem feed_frozen {cols rows : Nat} (cols_pos : 0 < cols) (rows_pos : 0 < rows) (limit : Nat)
    (actions : List Action) (bytes : List UInt8) :
    let e := (fresh cols rows limit).run actions
    e.terminal.onAlternate = false →
    e.terminal.rows ≤ e.terminal.primary.offset →
    (∀ op ∈ e.operations bytes, op.keepsHistory = true) →
    e.terminal.primary.offset + e.sent bytes ≤ limit →
    let after := (e.feed bytes).terminal
    after.dump = e.terminal.dump ∧
      after.primary.offset = e.terminal.primary.offset + e.sent bytes ∧
      ∃ entered : List Row, entered.length = e.sent bytes ∧
        after.primary.past = e.terminal.primary.past.rememberAll entered := by
  intro e on_primary back keep room after
  have wf : e.terminal.WellFormed limit :=
    ((WellFormed.fresh limit cols_pos rows_pos).run actions).terminal
  have after_eq : after = Operation.performAll e.terminal (e.operations bytes) :=
    terminal_feed e bytes
  have records := wf.records_performAll on_primary keep
  obtain ⟨offset_eq, shown⟩ := wf.window_performAll on_primary keep
    (Nat.lt_of_lt_of_le wf.rows_pos back) room
  rw [← after_eq] at records offset_eq shown
  refine ⟨Terminal.dump_eq_of_rowAt? (after_eq ▸ Terminal.size_performAll _ _) ?_, offset_eq,
    e.terminal.leavingAll (e.operations bytes), rfl, records.past_eq⟩
  intro place lt
  rw [Terminal.screen, Terminal.screen, if_neg (Bool.eq_false_iff.mp records.on_primary),
    if_neg (Bool.eq_false_iff.mp on_primary)]
  exact shown place (Nat.lt_of_lt_of_le lt back)

/-- A window on the two youngest rows of a full history, while two more rows enter: the two oldest
are lost, and the window stands at the other end of the history then. -/
theorem feed_frozen_full :
    let e := (fresh 4 2 4).run
      [.output "a\r\nb\r\nc\r\nd\r\ne\r\nf".toUTF8.toList, .scroll (-2)]
    let bytes := "\r\nghijk\x1b[H\x1b[2Jl\x1b[?1049l".toUTF8.toList
    let after := (e.feed bytes).terminal
    e.sent bytes = 2 ∧ e.terminal.primary.history.size = 4 ∧
      e.terminal.dump = "c   \nd   ".toList ∧ after.dump = "c   \nd   ".toList ∧
      after.primary.offset = 4 ∧ after.primary.history.size = 4 := by
  intro e bytes after
  have sent_eq : e.sent bytes = 2 := by decide +kernel
  have offset_eq : e.terminal.primary.offset = 2 := by decide +kernel
  have dump_eq : e.terminal.dump = "c   \nd   ".toList := by decide +kernel
  obtain ⟨shown, moved, -⟩ := feed_frozen (by decide : 0 < 4) (by decide : 0 < 2) 4
    [.output "a\r\nb\r\nc\r\nd\r\ne\r\nf".toUTF8.toList, .scroll (-2)] bytes
    (by decide +kernel) (by decide +kernel) (by decide +kernel) (by decide +kernel)
  refine ⟨sent_eq, by decide +kernel, dump_eq, shown.trans dump_eq, ?_, by decide +kernel⟩
  rw [moved]
  exact congr (congrArg HAdd.hAdd offset_eq) sent_eq

end Emulator

end TerminalSession
