import TerminalSession.Proofs.Control.Recovery
import TerminalSession.Proofs.Control.Registers
import TerminalSession.Proofs.Emulator.Operations

/-!
# Text is shown whole

Text that arrives is shown character by character. If a character before it is cut off, this is shown by
one replacement; damage before the text never reaches into the text.

## Main statements

* `Emulator.operations_text`: what a text asks for, whatever bytes came before it
* `Emulator.operations_recover`: so it is after damage
-/

namespace TerminalSession.Emulator

open Text.Utf8 (Partial encode replacement)

variable {e : Emulator} {part : Partial} {text : Text}

/-- A text asks for its characters to be printed, after a replacement if a character is cut off. An
empty text cuts nothing off, and leaves the bytes that arrived to wait for more. -/
theorem operations_text (cut : e.scanner = .text part)
    (shown : ∀ c ∈ text, 0x20 ≤ c.toNat ∧ c.toNat ≠ 0x7F) :
    e.operations (encode text) =
        ((if part = [] ∨ text = [] then [] else [replacement]) ++ text).map .print ∧
      (e.feed (encode text)).scanner = .text (if text = [] then part else []) := by
  have plain : ∀ c ∈ text, c.toNat ≠ 0x1B ∧ c.toNat ≠ 0x18 ∧ c.toNat ≠ 0x1A := by
    intro c mem
    have graphic := shown c mem
    omega
  rw [operations, scanner_feed, cut, Scanner.run_encode_text part plain]
  by_cases none : text = []
  · simp [none]
  · have is_shown : ∀ c ∈ text, Token.ofChar c = .print c := by
      intro c mem
      have graphic := shown c mem
      exact if_neg (by omega)
    have printed := flatMap_operations_ofChar is_shown e.terminal.rows
    by_cases whole : part = []
    · simp [none, whole, printed, Scanner.ground]
    · simp [none, whole, printed, Scanner.ground, Scanner.ofCut_of_ne_nil whole, Token.operations]

/-- Text is shown whole, whatever bytes from 0x80 on came before it: if they end in a character that
is cut off, one replacement comes before the text, and none comes otherwise. The same holds of a
scanner with registers, where a character that is not complete is met in text only. -/
theorem operations_recover (begun : e.scanner = .text part) {damaged : List UInt8}
    (high : ∀ b ∈ damaged, 0x80 ≤ b) (shown : ∀ c ∈ text, 0x20 ≤ c.toNat ∧ c.toNat ≠ 0x7F) :
    (∃ cut, (e.feed damaged).scanner = .text cut ∧
      e.operations (damaged ++ encode text) = e.operations damaged ++
        ((if cut = [] ∨ text = [] then [] else [replacement]) ++ text).map .print ∧
      (e.feed (damaged ++ encode text)).scanner = .text (if text = [] then cut else [])) ∧
    ∀ bytes, (Registers.new.run bytes).2 = (Scanner.ground.run bytes).2 ∧
      ((Registers.new.run bytes).1.part ≠ [] → (Registers.new.run bytes).1.mode = .text) := by
  refine ⟨?_, fun bytes => ?_⟩
  · obtain ⟨cut, read⟩ := Scanner.exists_run_of_high high part
    have cut_eq : (e.feed damaged).scanner = .text cut := by rw [scanner_feed, begun, read]
    obtain ⟨printed, place⟩ := operations_text cut_eq shown
    exact ⟨cut, cut_eq, by rw [operations_append, printed], by rw [feed_append, place]⟩
  · have agree := Registers.agree_run_new bytes
    exact ⟨agree.tokens, agree.place.mode_eq_text⟩

/-- A character of four bytes of which three arrived, damage that begins another one, and a text.
There is one replacement for each of the two characters that were begun, and the text is whole. -/
theorem operations_recover_twice :
    let e := (fresh 8 1 0).feed [0xF0, 0x9F, 0x98]
    let bytes := [0xFF, 0xE2, 0x82] ++ encode "né".toList
    e.scanner = .text [0xF0, 0x9F, 0x98] ∧
      e.operations bytes =
        [.print replacement, .print replacement, .print 'n', .print 'é'] ∧
      (e.feed bytes).scanner = Scanner.ground := by
  intro e bytes
  have begun : e.scanner = .text [0xF0, 0x9F, 0x98] := by decide +kernel
  obtain ⟨⟨cut, cut_eq, printed, place⟩, -⟩ := operations_recover begun
    (by simp : ∀ b ∈ [0xFF, 0xE2, 0x82], (0x80 : UInt8) ≤ b)
    (by simp : ∀ c ∈ "né".toList, 0x20 ≤ c.toNat ∧ c.toNat ≠ 0x7F)
  obtain rfl : [0xE2, 0x82] = cut := by
    have cut_eq' : (e.feed [0xFF, 0xE2, 0x82]).scanner = .text [0xE2, 0x82] := by decide +kernel
    exact Scanner.text.inj (cut_eq'.symm.trans cut_eq)
  exact ⟨begun, printed.trans (by decide +kernel), place⟩

end TerminalSession.Emulator
