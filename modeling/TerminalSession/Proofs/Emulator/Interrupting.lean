import TerminalSession.Proofs.Control.Interrupting
import TerminalSession.Proofs.Emulator.Operations

/-!
# Control characters that interrupt a sequence

A program may send a line feed while another part of it is in the middle of a sequence. The emulator
comes to the same state as if the line feed had been sent before the sequence.

## Main statements

* `Emulator.feed_interrupted`: a control character and the sequence that it interrupts can be exchanged
-/

namespace TerminalSession.Emulator

open Scanner (actsAtOnce isControlByte)

/-- A control character that neither begins nor abandons a sequence can be exchanged with the part of a
sequence before it, as long as the sequence is not over: the emulator comes to the same state, whatever
follows and even if the sequence or the control character cuts off a character. So do the registers of a
scanner, and it reads the same tokens. -/
theorem feed_interrupted {e : Emulator} {part : Text.Utf8.Partial} (between : e.scanner = .text part)
    {begun : List UInt8} (graphic : ∀ b ∈ begun, isControlByte b = false)
    (unfinished : (e.feed (0x1B :: begun)).scanner.inSequence = true) {c : UInt8}
    (acts : actsAtOnce c = true) (rest : List UInt8) :
    e.feed (0x1B :: begun ++ c :: rest) = e.feed (c :: (0x1B :: begun ++ rest)) ∧
      ∀ r : Registers, r.StandFor e.scanner →
        r.run (0x1B :: begun ++ c :: rest) = r.run (c :: (0x1B :: begun ++ rest)) := by
  rw [scanner_feed, between] at unfinished
  refine ⟨?_, fun r stands => ?_⟩
  · rw [feed_eq_foldl_execute, feed_eq_foldl_execute e (c :: _), between,
      Scanner.run_interrupted graphic unfinished acts]
  · rw [between] at stands
    exact Registers.run_interrupted stands graphic unfinished acts rest

/-- A line feed between the parameters of a sequence that cuts off a character. The replacement is
in the first row, and the sequence still moves the cursor where it was to go. -/
theorem feed_interrupted_lineFeed :
    let e := (fresh 4 3 0).feed [0x61, 0xE2, 0x82]
    let begun := "[1;3".toUTF8.toList
    let rest := "H\x1b[6nz".toUTF8.toList
    e.scanner = .text [0xE2, 0x82] ∧ (∀ b ∈ begun, isControlByte b = false) ∧
      (e.feed (0x1B :: begun)).scanner.inSequence = true ∧ actsAtOnce 0x0A = true ∧
      e.feed (0x1B :: begun ++ 0x0A :: rest) = e.feed (0x0A :: (0x1B :: begun ++ rest)) ∧
      (e.feed (0x1B :: begun ++ 0x0A :: rest)).terminal.dump =
        "a\uFFFDz \n    \n    ".toList ∧
      (e.feed (0x1B :: begun ++ 0x0A :: rest)).replies = #[.cursorPosition 1 3] := by
  intro e begun rest
  have between : e.scanner = .text [0xE2, 0x82] := by decide +kernel
  have graphic : ∀ b ∈ begun, isControlByte b = false := by decide +kernel
  have unfinished : (e.feed (0x1B :: begun)).scanner.inSequence = true := by decide +kernel
  have acts : actsAtOnce 0x0A = true := by decide
  have exchanged := feed_interrupted between graphic unfinished acts rest
  exact ⟨between, graphic, unfinished, acts, exchanged.1, by decide +kernel, by decide +kernel⟩

end TerminalSession.Emulator
