import TerminalSession.Control.Registers
import TerminalSession.Proofs.Access.Emulator
import TerminalSession.Proofs.Control.Scanner

/-!
# What registers stand for

A scanner with registers reads the tokens that a scanner without them reads. What is left in its
registers of a unit that is over is of no consequence.

## Main definitions

* `Registers.StandFor`: what the registers hold at a place of the stream

## Main statements

* `Registers.StandFor.step`, `Registers.StandFor.run`: both scanners read the same tokens, and are at
  the same place afterwards
* `Registers.agree_run_new`: so they are from the first byte on

## Design notes

* The registers that do not belong to a place are empty, except in text and in an ignored sequence.
  There the registers of sequences hold what came before.
-/

namespace TerminalSession.Registers

open Text.Utf8 (Partial)

/-- What the registers hold at a place: the parts of the unit that is being read. Nothing is said of
registers that the unit does not use, which is why a reset can leave them as they are. -/
inductive StandFor : Registers → Scanner → Prop
  | text {intermediates params current part} (few : params.length ≤ Scanner.maxParams)
      (room : part.length < Partial.bufferSize) :
      StandFor { mode := .text, intermediates, params, current, part } (.text part)
  | escape : StandFor { mode := .escape } .escape
  | escapeIntermediate {intermediates} :
      StandFor { mode := .escapeIntermediate, intermediates } .escapeIntermediate
  | sequenceStart {intermediates} :
      StandFor { mode := .sequenceStart, intermediates } (.sequenceStart intermediates)
  | sequenceParams {intermediates params current} (few : params.length ≤ Scanner.maxParams) :
      StandFor { mode := .sequenceParams, intermediates, params, current }
        (.sequenceParams intermediates params current)
  | sequenceIntermediate {intermediates params} (few : params.length ≤ Scanner.maxParams) :
      StandFor { mode := .sequenceIntermediate, intermediates, params }
        (.sequenceIntermediate intermediates params)
  | sequenceIgnored {intermediates params current} (few : params.length ≤ Scanner.maxParams) :
      StandFor { mode := .sequenceIgnored, intermediates, params, current } .sequenceIgnored
  | command {payload} (short : payload.size ≤ Scanner.maxPayload) :
      StandFor { mode := .command, payload } (.command payload)
  | commandEscape {payload} (short : payload.size ≤ Scanner.maxPayload) :
      StandFor { mode := .commandEscape, payload } (.commandEscape payload)
  | ignored : StandFor { mode := .ignored } .ignored
  | ignoredEscape : StandFor { mode := .ignoredEscape } .ignoredEscape

/-- Both scanners have read the same tokens, and are at the same place. It is kept by every byte, so
it holds after any output if it held before. -/
structure Agree (read : Registers × List Token) (read' : Scanner × List Token) : Prop where
  place : StandFor read.1 read'.1
  tokens : read.2 = read'.2

theorem bufferSize_pos : 0 < Partial.bufferSize := by decide

theorem standFor_new : StandFor new Scanner.ground := .text (Nat.zero_le _) bufferSize_pos

/-- Between two units the registers of sequences may hold anything. -/
theorem standFor_ground {intermediates : List UInt8} {params : List Nat} {current : Option Nat}
    (few : params.length ≤ Scanner.maxParams) :
    StandFor { mode := .text, intermediates, params, current } Scanner.ground :=
  .text few bufferSize_pos

theorem length_addParam_le {params : List Nat} (few : params.length ≤ Scanner.maxParams)
    (param : Nat) : (Scanner.addParam params param).length ≤ Scanner.maxParams := by
  unfold Scanner.addParam
  split
  · rw [List.length_append]
    assumption
  · exact few

theorem length_closeParams_le {params : List Nat} (few : params.length ≤ Scanner.maxParams)
    (current : Option Nat) : (Scanner.closeParams params current).length ≤ Scanner.maxParams := by
  cases current with
  | none => exact few
  | some param => exact length_addParam_le few param

/-! ### The registers at a place -/

namespace StandFor

variable {r : Registers} {s : Scanner}

theorem length_params_le (stands : StandFor r s) : r.params.length ≤ Scanner.maxParams := by
  cases stands <;> first | assumption | exact Nat.zero_le _

theorem size_payload_le (stands : StandFor r s) : r.payload.size ≤ Scanner.maxPayload := by
  cases stands <;> first | assumption | exact Nat.zero_le _

theorem length_part_lt (stands : StandFor r s) : r.part.length < Partial.bufferSize := by
  cases stands <;> first | assumption | exact bufferSize_pos

/-- Only text has characters that are not complete. -/
theorem mode_eq_text (stands : StandFor r s) (cut : r.part ≠ []) : r.mode = .text := by
  cases stands <;> first | rfl | exact absurd rfl cut

/-- Only a command has a payload. -/
theorem payload_eq (stands : StandFor r s) (outside : r.inString = false) : r.payload = #[] := by
  cases stands <;> first | rfl | cases outside

/-- A string leaves nothing in the registers of sequences. -/
theorem cleared (stands : StandFor r s) (inside : r.inString = true) :
    r.params = [] ∧ r.intermediates = [] := by
  cases stands <;> first | exact ⟨rfl, rfl⟩ | cases inside

end StandFor

/-! ### The same tokens -/

theorem agree_afterEscape (b : UInt8) :
    Agree (afterEscape { mode := .escape } b) (Scanner.afterEscape b) := by
  unfold afterEscape Scanner.afterEscape
  split
  · exact ⟨.sequenceStart, rfl⟩
  split
  · exact ⟨.command (Nat.zero_le _), rfl⟩
  split
  · exact ⟨.ignored, rfl⟩
  split
  · exact ⟨.escapeIntermediate, rfl⟩
  · exact ⟨standFor_new, rfl⟩

theorem agree_inStart (intermediates : List UInt8) (b : UInt8) :
    Agree (inStart { mode := .sequenceStart, intermediates } b)
      (Scanner.inStart intermediates b) := by
  have one : (Scanner.addParam [] 0).length ≤ Scanner.maxParams :=
    length_addParam_le (Nat.zero_le _) 0
  unfold inStart Scanner.inStart
  cases Scanner.digit? b with
  | some digit => exact ⟨.sequenceParams (Nat.zero_le _), rfl⟩
  | none =>
    dsimp only
    split
    · exact ⟨.sequenceParams one, rfl⟩
    split
    · exact ⟨.sequenceStart, rfl⟩
    split
    · exact ⟨.sequenceIntermediate (Nat.zero_le _), rfl⟩
    split
    · exact ⟨standFor_ground (Nat.zero_le _), rfl⟩
    · exact ⟨.sequenceIgnored (Nat.zero_le _), rfl⟩

theorem agree_inParams {intermediates : List UInt8} {params : List Nat} {current : Option Nat}
    (few : params.length ≤ Scanner.maxParams) (b : UInt8) :
    Agree (inParams { mode := .sequenceParams, intermediates, params, current } b)
      (Scanner.inParams intermediates params current b) := by
  unfold inParams Scanner.inParams
  cases Scanner.digit? b with
  | some digit => exact ⟨.sequenceParams few, rfl⟩
  | none =>
    dsimp only
    split
    · exact ⟨.sequenceParams (length_addParam_le few _), rfl⟩
    split
    · exact ⟨.sequenceIntermediate (length_closeParams_le few _), rfl⟩
    split
    · exact ⟨standFor_ground (length_closeParams_le few _), rfl⟩
    · exact ⟨.sequenceIgnored few, rfl⟩

theorem agree_inIntermediate {intermediates : List UInt8} {params : List Nat}
    (few : params.length ≤ Scanner.maxParams) (b : UInt8) :
    Agree (inIntermediate { mode := .sequenceIntermediate, intermediates, params } b)
      (Scanner.inIntermediate intermediates params b) := by
  unfold inIntermediate Scanner.inIntermediate
  split
  · exact ⟨.sequenceIntermediate few, rfl⟩
  split
  · exact ⟨standFor_ground few, rfl⟩
  · exact ⟨.sequenceIgnored few, rfl⟩

theorem agree_inCommand {payload : Array UInt8} (short : payload.size ≤ Scanner.maxPayload)
    (b : UInt8) :
    Agree (inCommand { mode := .command, payload } b) (Scanner.inCommand payload b) := by
  unfold inCommand Scanner.inCommand
  split
  · exact ⟨standFor_new, rfl⟩
  split
  · exact ⟨.commandEscape short, rfl⟩
  dsimp only
  split
  next room => exact ⟨.command (by rw [Array.size_push]; exact room), rfl⟩
  · exact ⟨.command short, rfl⟩

theorem agree_inCommandEscape (payload : Array UInt8) (b : UInt8) :
    Agree (inCommandEscape { mode := .commandEscape, payload } b)
      (Scanner.inCommandEscape payload b) := by
  unfold inCommandEscape Scanner.inCommandEscape
  split
  · exact ⟨standFor_new, rfl⟩
  · have agree := agree_afterEscape b
    exact ⟨agree.place, congrArg (Token.command payload :: ·) agree.tokens⟩

namespace StandFor

variable {r : Registers} {s : Scanner}

/-- A control character outside of strings, where no character is incomplete. -/
theorem control (stands : StandFor r s) (outside : r.inString = false) (whole : r.part = [])
    (b : UInt8) : Agree (r.control b) (s.control b) := by
  have payload_eq := stands.payload_eq outside
  have begun : StandFor r.beginEscape .escape := by
    rw [beginEscape, payload_eq, whole]
    exact .escape
  have abandoned : StandFor { r with mode := .text } Scanner.ground := by
    rw [payload_eq, whole]
    exact standFor_ground stands.length_params_le
  unfold Registers.control Scanner.control
  split
  · exact ⟨begun, rfl⟩
  split
  · exact ⟨abandoned, rfl⟩
  · exact ⟨stands, rfl⟩

/-- Where no character is incomplete, a byte is a control character or is read. -/
theorem step_of_whole (whole : r.part = []) (b : UInt8) :
    r.step b =
      if Scanner.isControlByte b && !r.inString then r.control b else r.read b := by
  unfold Registers.step
  rw [cutOff, whole]
  rfl

/-- Where a string does not shield it, a control character comes before what else a byte may be. -/
theorem step_outside (stands : StandFor r s) (outside : r.inString = false) (whole : r.part = [])
    {b : UInt8} {read : Scanner × List Token} (agree : Agree (r.read b) read) :
    Agree (r.step b) (if Scanner.isControlByte b then s.control b else read) := by
  rw [step_of_whole whole, outside, Bool.not_false, Bool.and_true]
  split
  · exact stands.control outside whole b
  · exact agree

/-- In a string a byte is read, whatever it is. -/
theorem step_inside (inside : r.inString = true) (whole : r.part = []) {b : UInt8}
    {read : Scanner × List Token} (agree : Agree (r.read b) read) : Agree (r.step b) read := by
  rw [step_of_whole whole, inside, Bool.not_true, Bool.and_false]
  exact agree

/-- A byte below 0x80 is read as if no character was incomplete, after the one that it cuts off. -/
theorem step_of_lt {b : UInt8} (low : b < 0x80) :
    r.step b = (({ r with part := [] }.step b).1,
      (if r.part.isEmpty then [] else [.print Text.Utf8.replacement]) ++
        ({ r with part := [] }.step b).2) := by
  obtain ⟨mode, intermediates, params, current, payload, part⟩ := r
  cases part with
  | nil => rfl
  | cons lead rest =>
    rw [step_of_whole (r := { mode, intermediates, params, current, payload }) rfl]
    unfold Registers.step cutOff
    rw [if_pos (by simpa using low)]
    rfl

/-- A byte from 0x80 on is no control character. -/
theorem isControlByte_of_not_lt {b : UInt8} (high : ¬ b < 0x80) :
    Scanner.isControlByte b = false := by
  have le : 0x80 ≤ b.toNat := UInt8.not_lt.mp high
  rw [Bool.eq_false_iff, ne_eq, Scanner.isControlByte_iff]
  omega

/-- A byte of text, which a character that is not complete may precede. -/
theorem step_text {intermediates : List UInt8} {params : List Nat} {current : Option Nat}
    {part : Partial} (few : params.length ≤ Scanner.maxParams) (b : UInt8) :
    Agree (Registers.step { mode := .text, intermediates, params, current, part } b)
      (Scanner.inText part b) := by
  unfold Scanner.inText
  by_cases low : b < 0x80
  · have ended : StandFor { mode := .text, intermediates, params, current } Scanner.ground :=
      standFor_ground few
    have shown : Agree (Registers.read { mode := .text, intermediates, params, current } b)
        (Scanner.ground, [.print (Scanner.charOfByte b)]) := by
      unfold Registers.read Registers.inText
      dsimp only
      rw [if_pos low]
      exact ⟨ended, rfl⟩
    have agree := ended.step_outside rfl rfl shown
    rw [if_pos low, step_of_lt low]
    refine ⟨agree.place, ?_⟩
    dsimp only
    rw [agree.tokens]
    cases part <;> rfl
  · rw [if_neg low]
    unfold Registers.step cutOff
    dsimp only
    rw [decide_eq_false low, Bool.and_false, isControlByte_of_not_lt low, Bool.false_and]
    unfold Registers.read Registers.inText
    dsimp only
    simp only [Bool.false_eq_true, if_false, if_neg low]
    exact ⟨.text few (Partial.length_push_lt part b), rfl⟩

/-- A byte is the same to both scanners. -/
theorem step (stands : StandFor r s) (b : UInt8) : Agree (r.step b) (s.step b) := by
  cases stands with
  | text few => exact step_text few b
  | escape => exact StandFor.escape.step_outside rfl rfl (agree_afterEscape b)
  | escapeIntermediate =>
    refine StandFor.escapeIntermediate.step_outside rfl rfl ?_
    unfold Registers.read
    dsimp only
    split
    · exact ⟨.escapeIntermediate, rfl⟩
    · exact ⟨standFor_ground (Nat.zero_le _), rfl⟩
  | sequenceStart => exact StandFor.sequenceStart.step_outside rfl rfl (agree_inStart _ b)
  | sequenceParams few =>
    exact (StandFor.sequenceParams few).step_outside rfl rfl (agree_inParams few b)
  | sequenceIntermediate few =>
    exact (StandFor.sequenceIntermediate few).step_outside rfl rfl (agree_inIntermediate few b)
  | sequenceIgnored few =>
    refine (StandFor.sequenceIgnored few).step_outside rfl rfl ⟨?_, rfl⟩
    unfold Registers.read
    dsimp only
    split
    · exact standFor_ground few
    · exact .sequenceIgnored few
  | command short => exact step_inside rfl rfl (agree_inCommand short b)
  | commandEscape short => exact step_inside rfl rfl (agree_inCommandEscape _ b)
  | ignored =>
    refine step_inside rfl rfl ⟨?_, rfl⟩
    unfold Registers.read Scanner.step
    dsimp only
    split
    · exact .ignoredEscape
    split
    · exact standFor_new
    · exact .ignored
  | ignoredEscape =>
    refine step_inside rfl rfl ⟨?_, rfl⟩
    unfold Registers.read Scanner.step
    dsimp only
    split
    · exact standFor_new
    · exact .ignored

/-- So is a stream. -/
theorem run (stands : StandFor r s) (bytes : List UInt8) : Agree (r.run bytes) (s.run bytes) := by
  induction bytes generalizing r s with
  | nil => exact ⟨stands, rfl⟩
  | cons b rest ih =>
    have first := stands.step b
    have later := ih first.place
    refine ⟨later.place, ?_⟩
    rw [Registers.run_cons, Scanner.run_cons, first.tokens, later.tokens]

end StandFor

/-- So they are from the first byte on. -/
theorem agree_run_new (bytes : List UInt8) : Agree (new.run bytes) (Scanner.ground.run bytes) :=
  standFor_new.run bytes

end TerminalSession.Registers
