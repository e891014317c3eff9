import TerminalSession.Proofs.Control.Framing

/-!
# Control sequences that arrive whole

Between `ESC` and its final byte a control sequence has the attention of the emulator, and nothing of it
is shown. A sequence that is not one family of markers followed by parameters has no effect at all.

## Main statements

* `Emulator.execute_of_no_function`: a sequence without a function has no effect
* `Emulator.feed_spelling`: what arrives between `ESC [` and a final byte

## Design notes

* Such a sequence is still noted as unknown. The notices are the only part of the emulator that it
  changes.
-/

namespace TerminalSession.Emulator

open ControlSequence (isInner isFamily isWellShaped spelling)

/-- A sequence without a function has no effect. -/
theorem execute_of_no_function (e : Emulator) {sequence : ControlSequence}
    (no_function : sequence.function? = none) :
    (e.execute (.sequence sequence)).terminal = e.terminal ∧
      (e.execute (.sequence sequence)).replies = e.replies := by
  simp [execute, Terminal.execute, Terminal.reply?, no_function]

/-- Sequences without a function leave the terminal as it is and ask for no reply, however many
there are. They are noted as unknown at most. -/
theorem foldl_execute_of_no_function {tokens : List Token}
    (no_function : ∀ token ∈ tokens,
      ∃ sequence, token = .sequence sequence ∧ sequence.function? = none) (e : Emulator) :
    (tokens.foldl execute e).terminal = e.terminal ∧
      (tokens.foldl execute e).replies = e.replies := by
  induction tokens generalizing e with
  | nil => exact ⟨rfl, rfl⟩
  | cons token rest ih =>
    obtain ⟨sequence, rfl, unknown⟩ := no_function token List.mem_cons_self
    obtain ⟨terminal_eq, replies_eq⟩ := e.execute_of_no_function unknown
    obtain ⟨terminal_eq', replies_eq'⟩ :=
      ih (fun other mem => no_function other (List.mem_cons_of_mem _ mem))
        (e.execute (.sequence sequence))
    exact ⟨terminal_eq'.trans terminal_eq, replies_eq'.trans replies_eq⟩

/-- A control sequence is read from `ESC` to its final byte, whatever stands between: the emulator is
in text again after the final byte and not before, and prints nothing of it. If markers of one family
and parameters stand there, the sequence is executed with these markers. If anything else does, the
terminal stays as it is and nothing is replied. -/
theorem feed_spelling {e : Emulator} (between : e.scanner = Scanner.ground) {inner : List UInt8}
    (middle : ∀ b ∈ inner, isInner b = true) {final : UInt8}
    (ends : Scanner.isFinal final = true) :
    let bytes := spelling inner final
    (e.feed bytes).scanner = Scanner.ground ∧
      (∀ n, 0 < n → n < bytes.length → ∀ part, (e.feed (bytes.take n)).scanner ≠ .text part) ∧
      (∀ c, Operation.print c ∉ e.operations bytes) ∧
      (isWellShaped inner = true → ∃ params, (e.scanner.run bytes).2 =
        [.sequence { intermediates := inner.takeWhile isFamily, params,
                     final := Scanner.charOfByte final }]) ∧
      (isWellShaped inner = false →
        (e.feed bytes).terminal = e.terminal ∧ (e.feed bytes).replies = e.replies) := by
  intro bytes
  refine ⟨?ended, ?unfinished, ?hidden, ?wellShaped, ?malformed⟩
  case ended =>
    rw [scanner_feed, between]
    exact Scanner.run_spelling_fst middle ends
  case unfinished =>
    intro n begun unfinished part
    rw [scanner_feed, between]
    exact Scanner.run_take_spelling_ne_text middle begun unfinished part
  case hidden =>
    intro c printed
    obtain ⟨token, token_mem, mem⟩ := List.mem_flatMap.mp printed
    rw [Token.eq_print_of_mem_operations mem, between] at token_mem
    exact Scanner.print_not_mem_run_spelling middle c token_mem
  case wellShaped =>
    intro shape
    rw [between]
    exact Scanner.run_spelling shape ends
  case malformed =>
    intro malformed
    rw [feed_eq_foldl_execute, between]
    exact foldl_execute_of_no_function
      (fun token mem => Scanner.function?_of_mem_run_spelling middle ends malformed mem) _

/-- A request for the attributes, with both markers: `ESC [ ? > c`. -/
theorem feed_spelling_mixed :
    let e := (fresh 3 1 0).feed "ab".toUTF8.toList
    let bytes := spelling [0x3F, 0x3E] 0x63
    e.scanner = Scanner.ground ∧ isWellShaped [0x3F, 0x3E] = false ∧
      (e.feed bytes).scanner = Scanner.ground ∧ (e.feed bytes).terminal = e.terminal ∧
      (e.feed bytes).replies = e.replies := by
  intro e bytes
  have between : e.scanner = Scanner.ground := by decide +kernel
  have malformed : isWellShaped [0x3F, 0x3E] = false := by decide
  have framed := feed_spelling between (by simp [isInner] : ∀ b ∈ [0x3F, 0x3E], isInner b = true)
    (by decide : Scanner.isFinal 0x63 = true)
  exact ⟨between, malformed, framed.1, framed.2.2.2.2 malformed⟩

end TerminalSession.Emulator
