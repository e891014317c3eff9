import TerminalSession.Proofs.Control.Parameters
import TerminalSession.Proofs.Control.Registers
import TerminalSession.Proofs.Emulator.Operations

/-!
# Control sequences with parameters

A program writes the parameters of a control sequence in decimal. The emulator executes the sequence
with the numbers that were written, up to the greatest parameter and to the number of those kept.

## Main statements

* `Emulator.feed_parameters`: the parameters of a control sequence are those that were written
-/

namespace TerminalSession.Emulator

open ControlSequence (Field counted fieldBytes spelling)
open Scanner (charOfByte isFinal maxParam maxParams ofCut)

/-- A sequence that asks for a function is called and answered. -/
theorem execute_of_function (e : Emulator) {sequence : ControlSequence} {f : ControlFunction}
    (function : sequence.function? = some f) :
    e.execute (.sequence sequence) =
      { e with
        terminal := e.terminal.call f
        replies := e.replies ++ (e.terminal.answer? f).toArray } := by
  simp [execute, Terminal.execute, Terminal.reply?, Terminal.overflows, unknown?, function]

/-- A control sequence with parameters in decimal is executed with the numbers that were written: the
first of them, as many as are kept, each as it is or as the greatest parameter. An empty parameter is
zero, and at the end it is none. If the sequence cuts off a character, then that comes before it, and
nothing else is executed. The registers of a scanner come to the same tokens. -/
theorem feed_parameters {e : Emulator} {part : Text.Utf8.Partial} (between : e.scanner = .text part)
    {fields : List Field} (some_field : fields ≠ []) {final : UInt8} (ends : isFinal final = true) :
    let written := (((counted fields).map Field.value).take maxParams).map
      fun value => min value maxParam
    let tokens := ofCut part ++ [.sequence { params := written, final := charOfByte final }]
    e.feed (spelling (fieldBytes fields) final) =
        tokens.foldl execute { e with scanner := Scanner.ground } ∧
      ∀ r : Registers, r.StandFor e.scanner →
        (r.run (spelling (fieldBytes fields) final)).2 = tokens := by
  intro written tokens
  have read : e.scanner.run (spelling (fieldBytes fields) final) = (Scanner.ground, tokens) := by
    rw [between, Scanner.run_spelling_parameters part some_field ends]
  refine ⟨?_, fun r stands => ?_⟩
  · rw [feed_eq_foldl_execute, read]
  · rw [(stands.run _).tokens, read]

/-- The cursor is sent to a row with leading zeros and to a column beyond the greatest parameter, with
more parameters after them than are kept and an empty one at the end. -/
theorem feed_parameters_cursorPosition :
    let e := (fresh 4 3 0).feed [0x61, 0xE2, 0x82]
    let fields :=
      .number 2 3 :: .number 0 70000 :: .empty :: List.replicate 30 (.number 0 7) ++ [.empty]
    let tokens := [.print Text.Utf8.replacement,
      .sequence { params := 3 :: 65535 :: 0 :: List.replicate 29 7, final := 'H' }]
    e.scanner = .text [0xE2, 0x82] ∧ fields ≠ [] ∧ isFinal 0x48 = true ∧
      fieldBytes fields =
        "003;70000;;".toUTF8.toList ++ (List.replicate 30 "7;".toUTF8.toList).flatten ∧
      e.feed (spelling (fieldBytes fields) 0x48) =
        tokens.foldl execute { e with scanner := Scanner.ground } ∧
      (e.feed (spelling (fieldBytes fields) 0x48)).terminal.cursor.row = 2 ∧
      (e.feed (spelling (fieldBytes fields) 0x48)).terminal.cursor.col = 3 := by
  intro e fields tokens
  have between : e.scanner = .text [0xE2, 0x82] := by decide +kernel
  have some_field : fields ≠ [] := List.cons_ne_nil _ _
  have ends : isFinal 0x48 = true := by decide
  have executed := (feed_parameters between some_field ends).1
  exact ⟨between, some_field, ends, by decide +kernel, executed, by decide +kernel, by decide +kernel⟩

end TerminalSession.Emulator
