import TerminalSession.Proofs.Access.Emulator
import TerminalSession.Proofs.Emulator.Parameters

/-!
# The reported position of the cursor

A program that asks where the cursor is gets a position back, and can send the cursor there again later
by the same two numbers: the report is a control sequence, and with another final byte it is the one that
moves the cursor.

## Main statements

* `Reply.bytes_cursorPosition`: a report is written as a control sequence with two parameters
* `Emulator.feed_positionRequest`: what is reported, and that nothing else changes
* `Emulator.feed_moveTo`: the cursor is moved to a place that is written in decimal
* `Emulator.feed_reported`: the cursor is moved back to the place that was reported

## Design notes

* A cursor past the last column is reported in the last one, since no position past it can be asked for.
* Positions are counted from 1, so the greatest one that a parameter can carry is in the last row and the
  last column of the largest terminal.
-/

namespace TerminalSession

open ControlSequence (Field fieldBytes spelling)
open Text.Utf8 (encode)

/-- A report is a control sequence with the row and the column for parameters. -/
theorem Reply.bytes_cursorPosition (row col : Nat) :
    (cursorPosition row col).bytes = spelling (fieldBytes [.number 0 row, .number 0 col]) 0x52 :=
  ControlSequence.encode_pair row col (by decide)

/-- The final byte of a sequence can be replaced. -/
theorem ControlSequence.dropLast_spelling (inner : List UInt8) (final other : UInt8) :
    (spelling inner final).dropLast ++ [other] = spelling inner other := by
  have split : spelling inner final = (0x1B :: 0x5B :: inner) ++ [final] := rfl
  rw [split, List.dropLast_concat]
  rfl

namespace Emulator

variable {e : Emulator}

/-- Between two units, a program that asks for the position is told it once, and nothing else changes. -/
theorem feed_positionRequest (between : e.scanner = Scanner.ground) :
    e.feed [0x1B, 0x5B, 0x36, 0x6E] =
      { e with replies := e.replies.push (.cursorPosition (e.terminal.cursor.row + 1)
          (min e.terminal.cursor.col e.terminal.lastCol + 1)) } := by
  have read : e.scanner.run [0x1B, 0x5B, 0x36, 0x6E] =
      (Scanner.ground, [.sequence { params := [6], final := 'n' }]) := by
    rw [between]
    decide
  have function : ({ params := [6], final := 'n' } : ControlSequence).function? =
      some (.report (some 6)) := rfl
  rw [feed_eq_foldl_execute, read, ← between, List.foldl_cons, List.foldl_nil,
    execute_of_function e function]
  rfl

/-- The cursor is moved to a row and a column that are written in decimal, as long as they are no
larger than a parameter can be. This is how a report of the cursor is sent back. -/
theorem feed_moveTo (between : e.scanner = Scanner.ground) {row col : Nat}
    (row_le : row ≤ Scanner.maxParam) (col_le : col ≤ Scanner.maxParam) :
    e.feed (spelling (fieldBytes [.number 0 row, .number 0 col]) 0x48) =
      { e with terminal := e.terminal.moveTo row col } := by
  have ends : Scanner.isFinal 0x48 = true := by decide
  have read : e.scanner.run (spelling (fieldBytes [.number 0 row, .number 0 col]) 0x48) =
      (Scanner.ground, [.sequence { params := [row, col], final := 'H' }]) := by
    rw [between]
    exact Scanner.run_spelling_pair [] row_le col_le ends
  have function : ({ params := [row, col], final := 'H' } : ControlSequence).function? =
      some (.moveTo row col) := rfl
  rw [feed_eq_foldl_execute, read, ← between, List.foldl_cons, List.foldl_nil,
    execute_of_function e function]
  simp [Terminal.call, Terminal.answer?]

/-- After any run, a program that asks for the position of the cursor is told it once, with nothing else
changed. Whatever is done later, as long as the size is the same in the end and the output is between two
units, the same bytes with another final byte put the cursor of the screen in use back into the row and
the column that were reported. A cursor past the last column comes to the last one. -/
theorem feed_reported {cols rows : Nat} (cols_pos : 0 < cols) (rows_pos : 0 < rows) (limit : Nat)
    (actions : List Action) :
    let e := (fresh cols rows limit).run actions
    let row := e.terminal.cursor.row
    let col := min e.terminal.cursor.col e.terminal.lastCol
    let reply := Reply.cursorPosition (row + 1) (col + 1)
    let asked := e.feed [0x1B, 0x5B, 0x36, 0x6E]
    e.scanner = Scanner.ground → e.terminal.cols ≤ 65535 → e.terminal.rows ≤ 65535 →
      asked = { e with replies := e.replies.push reply } ∧
        reply.bytes = 0x1B :: 0x5B :: (encode (Nat.toDigits 10 (row + 1)) ++
          0x3B :: (encode (Nat.toDigits 10 (col + 1)) ++ [0x52])) ∧
        ∀ later : List Action,
          let e' := asked.run later
          let restored := e'.feed (reply.bytes.dropLast ++ [0x48])
          e'.terminal.size = e.terminal.size → e'.scanner = Scanner.ground →
            restored = { e' with
                terminal := e'.terminal.modifyCursor fun c => { c with row, col } } ∧
              restored.terminal.cursor.row = row ∧ restored.terminal.cursor.col = col := by
  intro e row col reply asked between cols_le rows_le
  have wf : e.WellFormed limit := (WellFormed.fresh limit cols_pos rows_pos).run actions
  have row_lt : row < e.terminal.rows := wf.terminal.cursor_inside.row_lt
  have col_lt : col < e.terminal.cols := by
    have cols_pos := wf.terminal.cols_pos
    have col_le : col ≤ e.terminal.cols - 1 := Nat.min_le_right _ _
    omega
  have bytes_eq : reply.bytes = spelling (fieldBytes [.number 0 (row + 1), .number 0 (col + 1)]) 0x52 :=
    Reply.bytes_cursorPosition (row + 1) (col + 1)
  refine ⟨feed_positionRequest between, ?_, ?_⟩
  · rw [bytes_eq, ControlSequence.spelling_pair]
  · intro later e' restored size between'
    have moved : e'.terminal.moveTo (row + 1) (col + 1) =
        e'.terminal.modifyCursor fun c => { c with row, col } := by
      have lastRow_eq : e'.terminal.lastRow = e.terminal.rows - 1 := by
        rw [Terminal.lastRow, Terminal.rows_eq_of_size_eq size]
      have lastCol_eq : e'.terminal.lastCol = e.terminal.cols - 1 := by
        rw [Terminal.lastCol, Terminal.cols_eq_of_size_eq size]
      rw [Terminal.moveTo, lastRow_eq, lastCol_eq, Nat.add_sub_cancel, Nat.add_sub_cancel,
        Nat.min_eq_left (by omega), Nat.min_eq_left (by omega)]
    have restored_eq : restored =
        { e' with terminal := e'.terminal.modifyCursor fun c => { c with row, col } } := by
      show e'.feed (reply.bytes.dropLast ++ [0x48]) = _
      rw [bytes_eq, ControlSequence.dropLast_spelling,
        feed_moveTo between' (Nat.le_trans row_lt rows_le) (Nat.le_trans col_lt cols_le), moved]
    refine ⟨restored_eq, ?_, ?_⟩
    · rw [restored_eq, Terminal.cursor_modifyCursor]
    · rw [restored_eq, Terminal.cursor_modifyCursor]

/-- The position is asked for when the cursor stands past the last column, and the cursor comes back
to the last one after more output, on the other screen. -/
theorem feed_reported_pastMargin :
    let e := (fresh 4 3 5).run [.output "a\r\nbcde".toUTF8.toList]
    let asked := e.feed [0x1B, 0x5B, 0x36, 0x6E]
    let later := asked.run [.output "x\x1b[?1049hy".toUTF8.toList, .scroll (-1)]
    let restored := later.feed "\x1b[2;4H".toUTF8.toList
    e.terminal.cursor.col = 4 ∧ asked.pendingBytes = "\x1b[2;4R".toUTF8.toList ∧
      restored.terminal.cursor.row = 1 ∧ restored.terminal.cursor.col = 3 := by
  intro e asked later restored
  have reported := feed_reported (by decide : 0 < 4) (by decide : 0 < 3) 5
    [.output "a\r\nbcde".toUTF8.toList]
  obtain ⟨-, -, returned⟩ := reported (by decide +kernel) (by decide +kernel) (by decide +kernel)
  obtain ⟨-, row_eq, col_eq⟩ := returned
    [.output "x\x1b[?1049hy".toUTF8.toList, .scroll (-1)] (by decide +kernel) (by decide +kernel)
  have sent : (Reply.cursorPosition (e.terminal.cursor.row + 1)
      (min e.terminal.cursor.col e.terminal.lastCol + 1)).bytes.dropLast ++ [0x48] =
        "\x1b[2;4H".toUTF8.toList := by decide +kernel
  rw [sent] at row_eq col_eq
  have row_was : e.terminal.cursor.row = 1 := by decide +kernel
  have col_was : min e.terminal.cursor.col e.terminal.lastCol = 3 := by decide +kernel
  exact ⟨by decide +kernel, by decide +kernel, row_eq.trans row_was, col_eq.trans col_was⟩

end Emulator

end TerminalSession
