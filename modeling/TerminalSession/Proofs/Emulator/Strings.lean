import TerminalSession.Proofs.Control.Strings
import TerminalSession.Proofs.Engine.Resetting

/-!
# Output around strings

A command that is cut short by an escape sequence is executed, and the sequence is read as if `BEL` had
ended the command before it. A string that is skipped leaves the emulator as it was.

## Main statements

* `Emulator.feed_cutShort`: what becomes of the escape sequence that cuts a command short
* `Emulator.feed_skipped`: what becomes of the output after a string that is skipped

## Design notes

* Both have an exception. A control character after `ESC` in a command takes the `ESC` with it, so that a
  sequence after them is printed. And if an odd number of `ESC` stands before the terminator of a string
  that is skipped, then the terminator is skipped and the string goes on.
-/

namespace TerminalSession.Emulator

open Scanner (isSwallowed escapesAtEnd skippedOpeners)

variable {e : Emulator}

/-! ### Commands -/

section Commands

variable {payload : Array UInt8} {b : UInt8}

/-- The emulator after a command that is over, at some place of the stream. -/
def afterCommand (e : Emulator) (payload : Array UInt8) (s : Scanner) : Emulator :=
  { e.execute (.command payload) with scanner := s }

theorem feed_bel (inside : e.scanner = .command payload) (rest : List UInt8) :
    e.feed (0x07 :: rest) = (e.afterCommand payload Scanner.ground).feed rest := by
  obtain ⟨terminal, scanner, replies, unknown, overflowed⟩ := e
  obtain rfl : scanner = .command payload := inside
  rfl

/-- A command that is cut short is executed before the byte after `ESC` is read. -/
theorem feed_escape (inside : e.scanner = .command payload) (other : b ≠ 0x5C) (rest : List UInt8) :
    e.feed (0x1B :: b :: rest) = ((Scanner.afterEscape b).2.foldl execute
      (e.afterCommand payload (Scanner.afterEscape b).1)).feed rest := by
  obtain ⟨terminal, scanner, replies, unknown, overflowed⟩ := e
  obtain rfl : scanner = .command payload := inside
  have step_eq : (Scanner.commandEscape payload).step b =
      ((Scanner.afterEscape b).1, .command payload :: (Scanner.afterEscape b).2) :=
    if_neg other
  change (feedByte ⟨terminal, .commandEscape payload, replies, unknown, overflowed⟩ b).feed rest = _
  rw [feedByte, step_eq]
  rfl

/-- A short escape whose final character is a control character has no effect, and it is not noted
as unknown either: nothing tells that it came. -/
theorem execute_escape_of_isControlByte (e : Emulator) (control : Scanner.isControlByte b = true) :
    e.execute (.escape (Scanner.charOfByte b)) = e := by
  have other : ∀ c : Char, 0x20 ≤ c.toNat → c.toNat < 0x7F → Scanner.charOfByte b ≠ c := by
    rintro c low high rfl
    rw [Scanner.isControlByte_iff, ← Scanner.toNat_charOfByte] at control
    omega
  have terminal_eq : e.terminal.escape (Scanner.charOfByte b) = e.terminal := by
    unfold Terminal.escape
    split
    -- The six finals that have an effect are no control characters.
    iterate 6 next known => exact absurd known (other _ (by decide) (by decide))
    rfl
  change Emulator.mk (e.terminal.escape (Scanner.charOfByte b)) e.scanner (e.replies ++ #[])
    (e.unknown ++ #[]) e.overflowed = e
  rw [terminal_eq, Array.append_empty, Array.append_empty]

/-- A control character after `ESC` in a command is swallowed, and the `ESC` is as well. -/
theorem feed_swallowed (inside : e.scanner = .command payload)
    (control : Scanner.isControlByte b = true) (rest : List UInt8) :
    e.feed (0x1B :: b :: rest) = e.feed (0x07 :: rest) := by
  have other : b ≠ 0x5C := Scanner.ne_of_isControlByte control (by decide)
  rw [feed_escape inside other, Scanner.afterEscape_of_isControlByte control, List.foldl_cons,
    execute_escape_of_isControlByte _ control, feed_bel inside]
  rfl

/-- After `BEL` and `ESC` a byte is read as anywhere after `ESC`. -/
theorem feed_bel_escape (inside : e.scanner = .command payload) (rest : List UInt8) :
    e.feed (0x07 :: 0x1B :: rest) = (e.afterCommand payload .escape).feed rest :=
  feed_bel inside (0x1B :: rest)

/-- An escape sequence that cuts a command short is read as if `BEL` had ended the command before it,
with the same state of the emulator after any further output. Only if a control character comes directly
after the `ESC`, and neither `CAN` nor `SUB` does, is it otherwise: then both are swallowed, and what
follows is read as text. -/
theorem feed_cutShort (inside : e.scanner = .command payload) (other : b ≠ 0x5C) :
    ((∀ rest, e.feed (0x1B :: b :: rest) = e.feed (0x07 :: 0x1B :: b :: rest)) ↔
        isSwallowed b = false) ∧
      (isSwallowed b = true → ∀ rest, e.feed (0x1B :: b :: rest) = e.feed (0x07 :: rest)) := by
  refine ⟨⟨fun agree => ?lost, fun heard rest => ?heard⟩, fun swallowed =>
    feed_swallowed inside (Scanner.isSwallowed_iff.mp swallowed).1⟩
  case lost =>
    -- The bracket is text on one side and begins a control sequence on the other.
    rw [Bool.eq_false_iff]
    intro swallowed
    have place := congrArg Emulator.scanner (agree [0x5B])
    rw [feed_swallowed inside (Scanner.isSwallowed_iff.mp swallowed).1, feed_bel inside,
      feed_bel_escape inside, scanner_feed, scanner_feed] at place
    change Scanner.ground = ((Scanner.escape.step b).1.step 0x5B).1 at place
    rw [Scanner.step_escape_of_isSwallowed swallowed] at place
    exact nomatch place
  case heard =>
    rw [feed_bel_escape inside]
    cases control : Scanner.isControlByte b with
    | false =>
      rw [feed_escape inside other, ← Scanner.step_escape_of_graphic control]
      rfl
    | true =>
      rw [feed_swallowed inside control, feed_bel inside, feed_cons, feedByte]
      change _ = (List.foldl execute (e.afterCommand payload (Scanner.escape.step b).1)
        (Scanner.escape.step b).2).feed rest
      rw [Scanner.step_escape_of_abandons control heard]
      rfl

/-- A title that a colour cuts short. -/
theorem feed_cutShort_color :
    let e := (fresh 10 2 5).feed "\x1b]0;t".toUTF8.toList
    let rest := "31mx".toUTF8.toList
    e.scanner = .command "0;t".toUTF8.data ∧ isSwallowed 0x5B = false ∧
      e.feed (0x1B :: 0x5B :: rest) = e.feed (0x07 :: 0x1B :: 0x5B :: rest) ∧
      (e.feed (0x1B :: 0x5B :: rest)).terminal.title = ['t'] ∧
      (e.feed (0x1B :: 0x5B :: rest)).terminal.dump = "x         \n          ".toList := by
  intro e rest
  have inside : e.scanner = .command "0;t".toUTF8.data := by decide +kernel
  have heard : isSwallowed 0x5B = false := by decide
  have framed := feed_cutShort inside (by decide : (0x5B : UInt8) ≠ 0x5C)
  exact ⟨inside, heard, framed.1.mpr heard rest, by decide +kernel, by decide +kernel⟩

/-- It is otherwise after a second `ESC`: the control sequence that follows it is printed. -/
theorem feed_cutShort_fails :
    ¬ ∀ (cols rows limit : Nat) (past rest : List UInt8) (payload : Array UInt8) (b : UInt8),
      let e := (fresh cols rows limit).feed past
      e.scanner = .command payload → b ≠ 0x5C →
        (e.feed (0x1B :: b :: rest)).terminal.dump =
          (e.feed (0x07 :: 0x1B :: b :: rest)).terminal.dump := by
  intro all
  have agree := all 10 2 5 "\x1b]0;t".toUTF8.toList "[31mx".toUTF8.toList "0;t".toUTF8.data 0x1B
    (by decide +kernel) (by decide)
  exact absurd agree (by decide +kernel)

end Commands

/-! ### Strings that are skipped -/

/-- A string that is skipped leaves the emulator as it was, and its terminator is the end of it, if the
number of `ESC` directly before the terminator is even. If it is odd the terminator is skipped as well:
the emulator is as it was, but still in the string. -/
theorem feed_skipped (between : e.scanner = Scanner.ground) {opener : UInt8}
    (opens : opener ∈ skippedOpeners) {payload : List UInt8} (silent : 0x07 ∉ payload)
    (unended : ¬ [0x1B, 0x5C] <:+: payload) {terminator : List UInt8}
    (ends : terminator = [0x1B, 0x5C] ∨ terminator = [0x07]) :
    let bytes := 0x1B :: opener :: (payload ++ terminator)
    (Even (escapesAtEnd payload) → ∀ more, e.feed (bytes ++ more) = e.feed more) ∧
      (¬ Even (escapesAtEnd payload) → e.feed bytes = { e with scanner := .ignored }) := by
  intro bytes
  have skipped : e.feed bytes =
      { e with scanner := if Even (escapesAtEnd payload) then Scanner.ground else .ignored } := by
    rw [feed_eq_foldl_execute, between, Scanner.run_skipped opens silent unended ends]
    rfl
  refine ⟨fun even more => ?ended, fun odd => ?unfinished⟩
  case ended =>
    have same : e.feed bytes = e := by
      rw [skipped, if_pos even, ← between]
    rw [feed_append, same]
  case unfinished =>
    rw [skipped, if_neg odd]

/-- A device control string with two `ESC` before its terminator. The second of them takes back the
first, so that the one of the terminator counts and the text after it is shown. -/
theorem feed_skipped_twoEscapes :
    let e := (fresh 4 1 0).feed "a".toUTF8.toList
    let bytes := "\x1bPq\x1b\x1b\x1b\\".toUTF8.toList
    e.scanner = Scanner.ground ∧
      e.feed (bytes ++ "ok".toUTF8.toList) = e.feed "ok".toUTF8.toList ∧
      (e.feed (bytes ++ "ok".toUTF8.toList)).terminal.dump = "aok ".toList := by
  intro e bytes
  have between : e.scanner = Scanner.ground := by decide +kernel
  have bytes_eq : bytes = 0x1B :: 0x50 :: ([0x71, 0x1B, 0x1B] ++ [0x1B, 0x5C]) := by decide +kernel
  have whole := (feed_skipped between (by decide : 0x50 ∈ skippedOpeners)
    (by decide : (0x07 : UInt8) ∉ [0x71, 0x1B, 0x1B]) (by decide) (.inl rfl)).1 (by decide)
    "ok".toUTF8.toList
  rw [← bytes_eq] at whole
  exact ⟨between, whole, by decide +kernel⟩

/-- After one `ESC` the terminator is missed, and the output that follows is not shown. -/
theorem feed_skipped_fails :
    ¬ ∀ (cols rows limit : Nat) (past : List UInt8) (opener : UInt8) (payload more : List UInt8),
      let e := (fresh cols rows limit).feed past
      e.scanner = Scanner.ground → opener ∈ skippedOpeners → 0x07 ∉ payload →
        ¬ [0x1B, 0x5C] <:+: payload →
          (e.feed (0x1B :: opener :: (payload ++ [0x1B, 0x5C] ++ more))).terminal.dump =
            (e.feed more).terminal.dump := by
  intro all
  have shown := all 10 2 5 [] 0x50 [0x71, 0x1B] "ok".toUTF8.toList rfl (by decide) (by decide)
    (by decide)
  exact absurd shown (by decide +kernel)

end TerminalSession.Emulator
