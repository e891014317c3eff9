import TerminalSession.Proofs.Control.Scanner

/-!
# Text after a character that is cut off

The first byte of a character is no byte that continues another one. So a character that is cut off is
told by the next one, which is itself read whole.

## Main definitions

* `Scanner.ofCut`: what is told of a character that is cut off

## Main statements

* `Scanner.run_encodeChar_of_cut`: what is cut off is replaced, and does not matter to what follows
* `Scanner.run_encode_text`: the tokens of a text, whatever came before it
* `Scanner.exists_run_of_high`: bytes from 0x80 on leave the scanner in text

## Design notes

* A replacement is made when the next byte arrives, and not when the character is cut off. A text
  without characters has no next byte.
-/

namespace TerminalSession

namespace Text.Utf8

variable {c : Char} {lead b : UInt8} {tail : List UInt8}

/-- A lead byte is no byte that continues a character. -/
theorem Spells.isContinuation_lead (spells : Spells c lead tail) :
    isContinuation lead = false := by
  have announced := spells.length_eq
  rw [← UInt8.ofNat_toNat (x := lead), length?_ofNat lead.toNat_lt] at announced
  have le : 194 ≤ lead.toNat := by
    refine Nat.le_of_not_lt fun less => ?_
    rw [if_neg (by omega), if_neg (by omega), if_neg (by omega)] at announced
    exact nomatch announced
  simp only [isContinuation, Bool.and_eq_false_iff, decide_eq_false_iff_not, UInt8.lt_iff_toNat_lt]
  exact .inr (Nat.not_lt.mpr (Nat.le_trans (by decide) le))

/-- A byte that does not continue the character that is cut off makes a replacement, and is read as
the first one of the next character. -/
theorem Partial.push_of_cut {part : Partial} (cut : part ≠ [])
    (breaks : isContinuation b = false) : part.push b = ((start b).1, some replacement) := by
  cases part with
  | nil => exact absurd rfl cut
  | cons lead seen => simp [push, breaks]

end Text.Utf8

namespace Scanner

open Text.Utf8 (Partial Spells encode replacement)

/-- The token that tells of a character that is cut off. -/
def ofCut (part : Partial) : List Token :=
  if part = [] then [] else [.print replacement]

@[simp] theorem ofCut_nil : ofCut [] = [] := rfl

theorem ofCut_of_ne_nil {part : Partial} (cut : part ≠ []) : ofCut part = [.print replacement] :=
  if_neg cut

variable {part : Partial} {b : UInt8}

/-- A byte below 0x80 is read after the replacement. -/
theorem step_text_of_lt (part : Partial) (low : b < 0x80) :
    (text part).step b = ((ground.step b).1, ofCut part ++ (ground.step b).2) := by
  change inText part b = ((inText [] b).1, ofCut part ++ (inText [] b).2)
  simp only [inText, if_pos low]
  cases part <;> rfl

/-- `ESC` begins a sequence after the replacement. -/
theorem step_text_escape (part : Partial) : (text part).step 0x1B = (.escape, ofCut part) := by
  cases part <;> rfl

/-- The first byte of a longer character is read after the replacement, too. -/
theorem step_text_of_spells {c : Char} {lead : UInt8} {tail : List UInt8} (part : Partial)
    (spells : Spells c lead tail) :
    (text part).step lead = ((ground.step lead).1, ofCut part ++ (ground.step lead).2) := by
  have high : ¬ lead < 0x80 := spells.wide lead List.mem_cons_self
  change inText part lead = ((inText [] lead).1, ofCut part ++ (inText [] lead).2)
  unfold inText
  rw [if_neg high, if_neg high, Partial.push_nil, Partial.start_of_spells spells]
  by_cases cut : part = []
  · rw [cut, Partial.push_nil, Partial.start_of_spells spells]
    rfl
  · rw [Partial.push_of_cut cut spells.isContinuation_lead, Partial.start_of_spells spells,
      ofCut_of_ne_nil cut]
    rfl

/-- What is cut off is replaced, and does not matter to the character that follows: its first byte
is read as on the ground, and from then on nothing is left of what came before. -/
theorem run_encodeChar_of_cut (part : Partial) {c : Char}
    (plain : c.toNat ≠ 0x1B ∧ c.toNat ≠ 0x18 ∧ c.toNat ≠ 0x1A) :
    (text part).run (String.utf8EncodeChar c) = (ground, ofCut part ++ [Token.ofChar c]) := by
  have whole := run_encodeChar plain
  obtain ⟨first, rest, bytes_eq, step_eq⟩ : ∃ first rest,
      String.utf8EncodeChar c = first :: rest ∧ (text part).step first =
        ((ground.step first).1, ofCut part ++ (ground.step first).2) := by
    rcases Nat.lt_or_ge c.toNat 0x80 with ascii | wide
    · have low : UInt8.ofNat c.toNat < 0x80 :=
        UInt8.lt_iff_toNat_lt.mpr (by rw [Text.Utf8.toNat_ofNat (by omega)]; exact ascii)
      exact ⟨_, _, Text.Utf8.encodeChar_of_lt ascii, step_text_of_lt part low⟩
    · obtain ⟨lead, tail, bytes_eq, -, spells⟩ := Text.Utf8.exists_spells wide
      exact ⟨lead, tail, bytes_eq, step_text_of_spells part spells⟩
  rw [bytes_eq, run_cons, Prod.mk.injEq] at whole
  rw [bytes_eq, run_cons, step_eq, List.append_assoc]
  dsimp only
  rw [whole.1, whole.2]

/-- The tokens of a text, whatever came before it. -/
theorem run_encode_text (part : Partial) {chars : Text}
    (plain : ∀ c ∈ chars, c.toNat ≠ 0x1B ∧ c.toNat ≠ 0x18 ∧ c.toNat ≠ 0x1A) :
    (text part).run (encode chars) =
      if chars = [] then (text part, []) else (ground, ofCut part ++ chars.map Token.ofChar) := by
  cases chars with
  | nil => rfl
  | cons c rest =>
    rw [if_neg (List.cons_ne_nil c rest), Text.Utf8.encode_cons, run_append,
      run_encodeChar_of_cut part (plain c List.mem_cons_self),
      run_encode fun other mem => plain other (List.mem_cons_of_mem c mem), List.append_assoc]
    rfl

/-- Bytes from 0x80 on leave the scanner in text. -/
theorem exists_run_of_high {bytes : List UInt8} (high : ∀ b ∈ bytes, 0x80 ≤ b) (part : Partial) :
    ∃ cut, ((text part).run bytes).1 = text cut := by
  induction bytes generalizing part with
  | nil => exact ⟨part, rfl⟩
  | cons b rest ih =>
    have step_eq : ((text part).step b).1 = text (part.push b).1 := by
      have not_low : ¬ b < 0x80 := UInt8.not_lt.mpr (high b List.mem_cons_self)
      change (inText part b).1 = _
      rw [inText, if_neg not_low]
    rw [run_cons, step_eq]
    exact ih (fun other mem => high other (List.mem_cons_of_mem b mem)) (part.push b).1

end Scanner

end TerminalSession
