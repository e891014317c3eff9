import TerminalSession.Proofs.Control.Recovery
import TerminalSession.Proofs.Control.Registers

/-!
# Control characters inside sequences

A control character in the middle of a sequence acts at once, and the sequence goes on as if nothing had
come in between. So it makes no difference whether it comes in the sequence or before it.

## Main definitions

* `Scanner.actsAtOnce`: the control characters that neither begin nor abandon a sequence
* `Scanner.inSequence`: the places from `ESC` on at which a sequence is not over
* `Scanner.isApart`: the places that only `ESC` can lead from into a sequence

## Main statements

* `Scanner.run_of_inSequence`: as long as a sequence is not over, nothing is known of it
* `Scanner.run_interrupted`, `Registers.run_interrupted`: a control character in a sequence is read as
  if it had come before the sequence

## Design notes

* It is enough to know that a sequence is not over after all of its bytes, for without `ESC` no way leads
  back into it.
* A character that is not complete is cut off by the sequence or by the control character, whichever
  comes first. It is told of before anything else in both cases.
-/

namespace TerminalSession

open Text.Utf8 (Partial)

namespace Scanner

/-- Whether a control character acts without beginning or abandoning a sequence. -/
def actsAtOnce (b : UInt8) : Bool :=
  isControlByte b && b != 0x1B && b != 0x18 && b != 0x1A

/-- Whether a sequence was begun by `ESC` and is not over; strings are not meant. At these places a
control character is carried out and the sequence goes on. -/
def inSequence : Scanner → Bool
  | .escape => true
  | .escapeIntermediate => true
  | .sequenceStart _ => true
  | .sequenceParams _ _ _ => true
  | .sequenceIntermediate _ _ => true
  | .sequenceIgnored => true
  | _ => false

/-- Whether the place is in text or in a string, and not after `ESC` in it. There a byte of a
sequence has no meaning of its own. -/
def isApart : Scanner → Bool
  | .text _ => true
  | .command _ => true
  | .ignored => true
  | _ => false

variable {s : Scanner} {b c : UInt8}

theorem actsAtOnce_iff :
    actsAtOnce c = true ↔ isControlByte c = true ∧ c ≠ 0x1B ∧ c ≠ 0x18 ∧ c ≠ 0x1A := by
  simp [actsAtOnce, and_assoc]

theorem isControlByte_of_actsAtOnce (acts : actsAtOnce c = true) : isControlByte c = true :=
  (actsAtOnce_iff.mp acts).1

theorem lt_of_isControlByte (is_control : isControlByte c = true) : c < 0x80 := by
  rw [isControlByte_iff] at is_control
  refine UInt8.lt_iff_toNat_lt.mpr ?_
  change c.toNat < 0x80
  omega

/-! ### In a sequence -/

/-- Wherever control characters are heard, such a one leaves the place as it is. -/
theorem control_of_actsAtOnce (acts : actsAtOnce c = true) (s : Scanner) :
    s.control c = (s, [.control c]) := by
  obtain ⟨-, not_escape, not_cancel, not_substitute⟩ := actsAtOnce_iff.mp acts
  simp [control, not_escape, not_cancel, not_substitute]

/-- In a sequence it acts, and the sequence goes on. -/
theorem step_of_actsAtOnce (inside : s.inSequence = true) (acts : actsAtOnce c = true) :
    s.step c = (s, [.control c]) := by
  have is_control := isControlByte_of_actsAtOnce acts
  have heard := control_of_actsAtOnce acts s
  cases s with
  | text part => exact nomatch inside
  | command payload => exact nomatch inside
  | commandEscape payload => exact nomatch inside
  | ignored => exact nomatch inside
  | ignoredEscape => exact nomatch inside
  | _ => rw [step, if_pos is_control, heard]

/-- In text it acts after what it cuts off. -/
theorem step_text_of_actsAtOnce (part : Partial) (acts : actsAtOnce c = true) :
    (text part).step c = (ground, ofCut part ++ [.control c]) := by
  have is_control := isControlByte_of_actsAtOnce acts
  have low := lt_of_isControlByte is_control
  have between : ground.step c = (ground, [.control c]) := by
    change inText [] c = _
    rw [inText, if_pos low, if_pos is_control, control_of_actsAtOnce acts]
    rfl
  rw [step_text_of_lt part low, between]

/-! ### Until a sequence is over -/

theorem inSequence_of_isApart (apart : s.isApart = true) : s.inSequence = false := by
  cases s <;> first | rfl | exact nomatch apart

/-- Without a control character no way leads from there into a sequence: text stays text, and a
string stays a string until the character that ends it. -/
theorem isApart_step (apart : s.isApart = true) (graphic : isControlByte b = false) :
    (s.step b).1.isApart = true := by
  have not_bel : b ≠ 0x07 := by
    rintro rfl
    exact nomatch graphic
  have not_escape : b ≠ 0x1B := by
    rintro rfl
    exact nomatch graphic
  cases s with
  | text part =>
    change (inText part b).1.isApart = true
    unfold inText
    split
    · rw [graphic]
      rfl
    · rfl
  | command payload =>
    change (inCommand payload b).1.isApart = true
    rw [inCommand, if_neg not_bel, if_neg not_escape]
    split <;> rfl
  | ignored => simp [step, not_bel, not_escape, isApart]
  | _ => exact nomatch apart

theorem isApart_run {bytes : List UInt8} (apart : s.isApart = true)
    (graphic : ∀ b ∈ bytes, isControlByte b = false) : (s.run bytes).1.isApart = true := by
  induction bytes generalizing s with
  | nil => exact apart
  | cons b rest ih =>
    exact ih (isApart_step apart (graphic b List.mem_cons_self))
      fun other mem => graphic other (List.mem_cons_of_mem b mem)

/-- What a byte in a sequence comes to: the sequence goes on without a token, or is over. -/
def GoesOnOrEnds (read : Scanner × List Token) : Prop :=
  read.1.inSequence = true ∧ read.2 = [] ∨ read.1.isApart = true

theorem goesOnOrEnds_afterEscape (b : UInt8) : GoesOnOrEnds (afterEscape b) := by
  unfold afterEscape
  split
  · exact .inl ⟨rfl, rfl⟩
  split
  · exact .inr rfl
  split
  · exact .inr rfl
  split
  · exact .inl ⟨rfl, rfl⟩
  · exact .inr rfl

/-- At its beginning a sequence goes on with a marker, a parameter or an intermediate, and with any
byte that is none of these and not final; a final byte ends it. -/
theorem goesOnOrEnds_inStart (intermediates : List UInt8) (b : UInt8) :
    GoesOnOrEnds (inStart intermediates b) := by
  unfold inStart
  split
  · exact .inl ⟨rfl, rfl⟩
  split
  · exact .inl ⟨rfl, rfl⟩
  split
  · exact .inl ⟨rfl, rfl⟩
  split
  · exact .inl ⟨rfl, rfl⟩
  split
  · exact .inr rfl
  · exact .inl ⟨rfl, rfl⟩

theorem goesOnOrEnds_inParams (intermediates : List UInt8) (params : List Nat)
    (current : Option Nat) (b : UInt8) :
    GoesOnOrEnds (inParams intermediates params current b) := by
  unfold inParams
  split
  · exact .inl ⟨rfl, rfl⟩
  split
  · exact .inl ⟨rfl, rfl⟩
  split
  · exact .inl ⟨rfl, rfl⟩
  split
  · exact .inr rfl
  · exact .inl ⟨rfl, rfl⟩

theorem goesOnOrEnds_inIntermediate (intermediates : List UInt8) (params : List Nat) (b : UInt8) :
    GoesOnOrEnds (inIntermediate intermediates params b) := by
  unfold inIntermediate
  split
  · exact .inl ⟨rfl, rfl⟩
  split
  · exact .inr rfl
  · exact .inl ⟨rfl, rfl⟩

/-- A byte that is no control character either ends a sequence or is collected. Only where it ends
one can there be a token. -/
theorem goesOnOrEnds_step (inside : s.inSequence = true) (graphic : isControlByte b = false) :
    GoesOnOrEnds (s.step b) := by
  have not_control : ¬ isControlByte b = true := Bool.eq_false_iff.mp graphic
  cases s with
  | escape =>
    rw [step, if_neg not_control]
    exact goesOnOrEnds_afterEscape b
  | escapeIntermediate =>
    rw [step, if_neg not_control]
    split
    · exact .inl ⟨rfl, rfl⟩
    · exact .inr rfl
  | sequenceStart intermediates =>
    rw [step, if_neg not_control]
    exact goesOnOrEnds_inStart intermediates b
  | sequenceParams intermediates params current =>
    rw [step, if_neg not_control]
    exact goesOnOrEnds_inParams intermediates params current b
  | sequenceIntermediate intermediates params =>
    rw [step, if_neg not_control]
    exact goesOnOrEnds_inIntermediate intermediates params b
  | sequenceIgnored =>
    rw [step, if_neg not_control]
    cases isFinal b with
    | true => exact .inr rfl
    | false => exact .inl ⟨rfl, rfl⟩
  | _ => exact nomatch inside

/-- A sequence that is not over after some bytes has not been over before, and has no token yet:
once out of it, the scanner would not have come back without a control character. -/
theorem run_of_inSequence {bytes : List UInt8} (inside : s.inSequence = true)
    (graphic : ∀ b ∈ bytes, isControlByte b = false)
    (unfinished : (s.run bytes).1.inSequence = true) : (s.run bytes).2 = [] := by
  induction bytes generalizing s with
  | nil => rfl
  | cons b rest ih =>
    have graphic_rest : ∀ b ∈ rest, isControlByte b = false :=
      fun other mem => graphic other (List.mem_cons_of_mem b mem)
    rw [run_cons] at unfinished ⊢
    obtain ⟨goes_on, no_token⟩ | ended := goesOnOrEnds_step inside (graphic b List.mem_cons_self)
    · rw [no_token, ih goes_on graphic_rest unfinished]
      rfl
    · rw [inSequence_of_isApart (isApart_run ended graphic_rest)] at unfinished
      exact nomatch unfinished

/-! ### The same in a sequence and before it -/

section Interrupted

variable {part : Partial} {begun : List UInt8}
  (graphic : ∀ b ∈ begun, isControlByte b = false)
  (unfinished : ((text part).run (0x1B :: begun)).1.inSequence = true)
  (acts : actsAtOnce c = true)
include graphic unfinished

/-- What was read of a sequence that is not over. -/
theorem run_escape_of_inSequence :
    (escape.run begun).1.inSequence = true ∧ (escape.run begun).2 = [] := by
  rw [run_cons, step_text_escape] at unfinished
  exact ⟨unfinished, run_of_inSequence rfl graphic unfinished⟩

include acts

/-- A control character in a sequence is read as if it had come before the sequence. Either way the
scanner is where it is after the bytes of the sequence alone, and the only token so far is that of
the control character, after what was cut off. -/
theorem run_interrupted (rest : List UInt8) :
    (text part).run (0x1B :: begun ++ c :: rest) =
      (text part).run (c :: (0x1B :: begun ++ rest)) := by
  obtain ⟨inside, no_token⟩ := run_escape_of_inSequence graphic unfinished
  have within : (text part).run (0x1B :: begun ++ c :: rest) =
      (((escape.run begun).1.run rest).1,
        ofCut part ++ (.control c :: ((escape.run begun).1.run rest).2)) := by
    rw [List.cons_append, run_cons, step_text_escape, run_append, no_token, run_cons,
      step_of_actsAtOnce inside acts]
    rfl
  have before : (text part).run (c :: (0x1B :: begun ++ rest)) =
      (((escape.run begun).1.run rest).1,
        ofCut part ++ [.control c] ++ ((escape.run begun).1.run rest).2) := by
    have escaped : ground.step 0x1B = (.escape, []) := step_text_escape []
    rw [run_cons, step_text_of_actsAtOnce part acts, List.cons_append, run_cons, escaped, run_append,
      no_token]
    rfl
  rw [within, before, List.append_assoc]
  rfl

end Interrupted

end Scanner

namespace Registers

open Scanner (actsAtOnce ofCut)

variable {r : Registers} {s : Scanner} {c : UInt8}

/-- In a sequence no character is incomplete, and control characters are heard. -/
theorem StandFor.outside_of_inSequence (stands : r.StandFor s) (inside : s.inSequence = true) :
    r.inString = false ∧ r.part = [] := by
  cases stands <;> first | exact ⟨rfl, rfl⟩ | exact nomatch inside

theorem control_of_actsAtOnce (acts : actsAtOnce c = true) (r : Registers) :
    r.control c = (r, [.control c]) := by
  obtain ⟨-, not_escape, not_cancel, not_substitute⟩ := Scanner.actsAtOnce_iff.mp acts
  simp [control, not_escape, not_cancel, not_substitute]

/-- Where control characters are heard, such a one leaves all registers as they are. -/
theorem step_of_actsAtOnce (outside : r.inString = false) (whole : r.part = [])
    (acts : actsAtOnce c = true) : r.step c = (r, [.control c]) := by
  have is_control := Scanner.isControlByte_of_actsAtOnce acts
  rw [StandFor.step_of_whole whole, is_control, outside]
  exact control_of_actsAtOnce acts r

theorem step_escape (outside : r.inString = false) (whole : r.part = []) :
    r.step 0x1B = (r.beginEscape, []) := by
  rw [StandFor.step_of_whole whole, outside]
  rfl

/-- A byte below 0x80 is read after what it cuts off. -/
theorem step_of_lt_ofCut {b : UInt8} (low : b < 0x80) :
    r.step b = (({ r with part := [] }.step b).1, ofCut r.part ++ ({ r with part := [] }.step b).2) := by
  rw [StandFor.step_of_lt low, ofCut]
  cases r.part <;> rfl

/-- A control character in a sequence is read as if it had come before the sequence. The sequence
clears the registers that it uses, and the control character changes none. -/
theorem run_interrupted {part : Partial} (stands : r.StandFor (.text part)) {begun : List UInt8}
    (graphic : ∀ b ∈ begun, Scanner.isControlByte b = false)
    (unfinished : ((Scanner.text part).run (0x1B :: begun)).1.inSequence = true)
    (acts : actsAtOnce c = true) (rest : List UInt8) :
    r.run (0x1B :: begun ++ c :: rest) = r.run (c :: (0x1B :: begun ++ rest)) := by
  let whole : Registers := { r with part := [] }
  have outside : whole.inString = false := by cases stands; rfl
  have low := Scanner.lt_of_isControlByte (Scanner.isControlByte_of_actsAtOnce acts)
  have escaped : r.step 0x1B = (whole.beginEscape, ofCut r.part ++ []) := by
    rw [step_of_lt_ofCut (by decide), step_escape outside rfl]
  have heard : r.step c = (whole, ofCut r.part ++ [.control c]) := by
    rw [step_of_lt_ofCut low, step_of_actsAtOnce outside rfl acts]
  obtain ⟨inside, no_token⟩ := Scanner.run_escape_of_inSequence graphic unfinished
  have agree : Agree (whole.beginEscape.run begun) (Scanner.escape.run begun) := by
    have begun_stands := (stands.step 0x1B).place
    rw [escaped, Scanner.step_text_escape] at begun_stands
    exact begun_stands.run begun
  have no_token' : (whole.beginEscape.run begun).2 = [] := agree.tokens.trans no_token
  obtain ⟨outside', whole'⟩ := agree.place.outside_of_inSequence inside
  have within : r.run (0x1B :: begun ++ c :: rest) =
      (((whole.beginEscape.run begun).1.run rest).1,
        ofCut r.part ++ (.control c :: ((whole.beginEscape.run begun).1.run rest).2)) := by
    rw [List.cons_append, run_cons, escaped, run_append, no_token', run_cons,
      step_of_actsAtOnce outside' whole' acts, List.append_nil]
    rfl
  have before : r.run (c :: (0x1B :: begun ++ rest)) =
      (((whole.beginEscape.run begun).1.run rest).1,
        ofCut r.part ++ [.control c] ++ ((whole.beginEscape.run begun).1.run rest).2) := by
    rw [run_cons, heard, List.cons_append, run_cons, step_escape outside rfl, run_append, no_token']
    rfl
  rw [within, before, List.append_assoc]
  rfl

end Registers

end TerminalSession
