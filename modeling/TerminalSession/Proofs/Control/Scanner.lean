import TerminalSession.Control.Scanner
import TerminalSession.Proofs.Text.Utf8

/-!
# Scanning text

Text that contains no sequences is scanned character by character.

## Main definitions

* `Token.ofChar`: the token of a character of text

## Main statements

* `Scanner.run_encode`: the tokens of a text
* `Scanner.of_mem_run`: what is known of the tokens of one byte is known of those of a stream

## Design notes

* The control characters that steer the reading of sequences are left out, because they are not
  tokens. They are `ESC`, `CAN` and `SUB`.
-/

namespace TerminalSession

/-- The token of a character of text: those below the space and `DEL` are control characters. -/
def Token.ofChar (c : Char) : Token :=
  if c.toNat < 0x20 ∨ c.toNat = 0x7F then .control (UInt8.ofNat c.toNat) else .print c

namespace Scanner

open Text.Utf8 (Spells)

variable {c : Char}

/-! ### Ranges of bytes -/

section Ranges

variable {b : UInt8}

theorem isControlByte_iff : isControlByte b = true ↔ b.toNat < 0x20 ∨ b.toNat = 0x7F := by
  simp [isControlByte, UInt8.lt_iff_toNat_lt, ← UInt8.toNat_inj]

theorem isIntermediate_iff : isIntermediate b = true ↔ 0x20 ≤ b.toNat ∧ b.toNat ≤ 0x2F := by
  simp [isIntermediate, UInt8.le_iff_toNat_le]

theorem isFinal_iff : isFinal b = true ↔ 0x40 ≤ b.toNat ∧ b.toNat ≤ 0x7E := by
  simp [isFinal, UInt8.le_iff_toNat_le]

theorem isMarker_iff :
    isMarker b = true ↔ b.toNat = 0x21 ∨ 0x3C ≤ b.toNat ∧ b.toNat ≤ 0x3F := by
  simp only [isMarker, Bool.or_eq_true, beq_iff_eq, ← UInt8.toNat_inj]
  change ((((b.toNat = 0x21 ∨ b.toNat = 0x3C) ∨ b.toNat = 0x3D) ∨ b.toNat = 0x3E) ∨
    b.toNat = 0x3F) ↔ _
  omega

theorem isSome_digit?_iff : (digit? b).isSome = true ↔ 0x30 ≤ b.toNat ∧ b.toNat ≤ 0x39 := by
  unfold digit?
  split <;> simp_all [UInt8.le_iff_toNat_le]

@[simp] theorem toNat_charOfByte (b : UInt8) : (charOfByte b).toNat = b.toNat :=
  Text.Utf8.toNat_charOfNat b

end Ranges

/-! ### Streams -/

/-- What an invariant tells of the tokens of one byte, it tells of those of a stream. -/
theorem of_mem_run {I : Scanner → Prop} {P : Token → Prop}
    (keeps : ∀ (s : Scanner) (b : UInt8), I s → I (s.step b).1)
    (reads : ∀ (s : Scanner) (b : UInt8), I s → ∀ token ∈ (s.step b).2, P token) {s : Scanner}
    (start : I s) {bytes : List UInt8} : ∀ token ∈ (s.run bytes).2, P token := by
  induction bytes generalizing s with
  | nil => exact fun _ mem => absurd mem List.not_mem_nil
  | cons b rest ih =>
    intro token mem
    rw [run_cons] at mem
    obtain now | later := List.mem_append.mp mem
    · exact reads s b start token now
    · exact ih (keeps s b start) token later

/-! ### Characters -/

/-- The continuation bytes that are left of a character complete it. -/
theorem run_spells {lead : UInt8} {seen rest : List UInt8} (spells : Spells c lead (seen ++ rest))
    (more : rest ≠ []) : (text (lead :: seen)).run rest = (ground, [.print c]) := by
  induction rest generalizing seen with
  | nil => exact absurd rfl more
  | cons b rest ih =>
    have step_eq : (text (lead :: seen)).step b =
        (text (Text.Utf8.Partial.push (lead :: seen) b).1,
          ((Text.Utf8.Partial.push (lead :: seen) b).2.map Token.print).toList) :=
      if_neg (spells.wide b (by simp))
    rw [run_cons, step_eq]
    by_cases last : rest = []
    · subst last
      rw [Text.Utf8.Partial.push_last spells]
      rfl
    · rw [Text.Utf8.Partial.push_of_more spells last]
      rw [List.append_cons] at spells
      rw [ih spells last]
      rfl

/-- A byte below 0x80 is a character by itself. -/
theorem step_ground_of_lt (ascii : c.toNat < 0x80)
    (plain : c.toNat ≠ 0x1B ∧ c.toNat ≠ 0x18 ∧ c.toNat ≠ 0x1A) :
    ground.step (UInt8.ofNat c.toNat) = (ground, [Token.ofChar c]) := by
  have byte : (UInt8.ofNat c.toNat).toNat = c.toNat := Text.Utf8.toNat_ofNat (by omega)
  have low : UInt8.ofNat c.toNat < 0x80 := UInt8.lt_iff_toNat_lt.mpr (by rw [byte]; exact ascii)
  have control_iff := isControlByte_iff (b := UInt8.ofNat c.toNat)
  rw [byte] at control_iff
  have acts : control ground (UInt8.ofNat c.toNat) =
      (ground, [.control (UInt8.ofNat c.toNat)]) := by
    simp [control, ← UInt8.toNat_inj, byte, plain]
  have char : charOfByte (UInt8.ofNat c.toNat) = c := by
    rw [charOfByte, byte, Char.ofNat_toNat]
  change inText [] (UInt8.ofNat c.toNat) = _
  simp only [inText, if_pos low, control_iff, acts, char, Token.ofChar]
  split <;> rfl

/-- A character is one token. -/
theorem run_encodeChar (plain : c.toNat ≠ 0x1B ∧ c.toNat ≠ 0x18 ∧ c.toNat ≠ 0x1A) :
    ground.run (String.utf8EncodeChar c) = (ground, [Token.ofChar c]) := by
  rcases Nat.lt_or_ge c.toNat 0x80 with ascii | wide
  · rw [Text.Utf8.encodeChar_of_lt ascii, run_cons, step_ground_of_lt ascii plain]
    rfl
  · obtain ⟨lead, tail, bytes_eq, more, spells⟩ := Text.Utf8.exists_spells wide
    have printed : Token.ofChar c = .print c := if_neg (by omega)
    have begun : ground.step lead = (text [lead], []) := by
      change inText [] lead = _
      rw [inText, if_neg (spells.wide lead List.mem_cons_self), Text.Utf8.Partial.push_nil,
        Text.Utf8.Partial.start_of_spells spells]
      rfl
    rw [bytes_eq, run_cons, begun, printed]
    have none_seen : Spells c lead ([] ++ tail) := spells
    exact run_spells none_seen more

/-- A text is the tokens of its characters. -/
theorem run_encode {chars : Text}
    (plain : ∀ c ∈ chars, c.toNat ≠ 0x1B ∧ c.toNat ≠ 0x18 ∧ c.toNat ≠ 0x1A) :
    ground.run (Text.Utf8.encode chars) = (ground, chars.map Token.ofChar) := by
  induction chars with
  | nil => rfl
  | cons c rest ih =>
    rw [Text.Utf8.encode_cons, run_append, run_encodeChar (plain c List.mem_cons_self),
      ih fun other mem => plain other (List.mem_cons_of_mem _ mem)]
    rfl

end Scanner

end TerminalSession
