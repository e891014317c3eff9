import Mathlib.Algebra.Group.Nat.Even
import Mathlib.Data.List.DropRight
import TerminalSession.Proofs.Control.Scanner
import TerminalSession.Proofs.Control.Steering

/-!
# Where strings end

`BEL` ends a string, and so do `ESC` and a backslash. Any other byte after `ESC` is the first one of an
escape sequence if the string is a command, and is skipped if the string is.

## Main definitions

* `Scanner.HasPlainPayload`: no byte of the payload of a command ends it
* `Scanner.isSwallowed`: the control characters that do not act after `ESC` in a command
* `Scanner.skippedOpeners`: the bytes that begin a string that is skipped
* `Scanner.escapesAtEnd`: how many `ESC` stand at the end of a payload

## Main statements

* `Scanner.plain_of_mem_run`: so is the payload of every command that is read
* `Scanner.run_payload`, `Scanner.run_command`: a command is read whole, but for what is past its room
* `Scanner.afterEscape_of_isControlByte`: a control character is taken for a final one
* `Scanner.run_ignored`, `Scanner.run_skipped`: where a string that is skipped ends

## Design notes

* A byte after `ESC` in a command goes past the reading of control characters. `CAN` and `SUB` would
  only abandon the sequence there, so it makes no difference to them.
* In a string that is skipped the byte after `ESC` is skipped with it, another `ESC` as well. So an
  `ESC` stands for itself or for the second one of two, which the number of those before it decides.
-/

namespace TerminalSession.Scanner

variable {b : UInt8}

/-! ### Payloads -/

/-- The payload of the command that is being read has neither `BEL` nor `ESC`. Either would have
ended the command. -/
def HasPlainPayload : Scanner → Prop
  | .command payload => 0x07 ∉ payload ∧ 0x1B ∉ payload
  | .commandEscape payload => 0x07 ∉ payload ∧ 0x1B ∉ payload
  | _ => True

theorem HasPlainPayload.of_isBare {s : Scanner} (bare : s.isBare = true) : s.HasPlainPayload := by
  cases s with
  | command payload =>
    obtain rfl : payload = #[] := Array.isEmpty_iff.mp bare
    exact ⟨Array.not_mem_empty _, Array.not_mem_empty _⟩
  | commandEscape payload => exact nomatch bare
  | _ => trivial

theorem HasPlainPayload.inCommand {payload : Array UInt8} (plain : (command payload).HasPlainPayload)
    (b : UInt8) : (inCommand payload b).1.HasPlainPayload := by
  unfold Scanner.inCommand
  split
  · trivial
  next ne_bel =>
    split
    · exact plain
    next ne_escape =>
      split
      · refine ⟨fun mem => ?_, fun mem => ?_⟩
        · exact (Array.mem_push.mp mem).elim plain.1 fun eq => ne_bel eq.symm
        · exact (Array.mem_push.mp mem).elim plain.2 fun eq => ne_escape eq.symm
      · exact plain

/-- A byte that ends a command is no part of it. -/
theorem HasPlainPayload.step {s : Scanner} (plain : s.HasPlainPayload) (b : UInt8) :
    (s.step b).1.HasPlainPayload := by
  cases s with
  | text part =>
    change (inText part b).1.HasPlainPayload
    unfold inText
    split
    · dsimp only
      split
      · exact .of_isBare (steers_control rfl b).bare
      · trivial
    · trivial
  | command payload => exact plain.inCommand b
  | commandEscape payload =>
    change (inCommandEscape payload b).1.HasPlainPayload
    unfold inCommandEscape
    split
    · trivial
    · exact .of_isBare (steers_afterEscape b).bare
  | _ => exact .of_isBare (steers_step rfl b).bare

theorem Steers.command_not_mem {read : Scanner × List Token} (steers : Steers read)
    (payload : Array UInt8) : Token.command payload ∉ read.2 :=
  fun mem => Bool.false_ne_true (steers.tokens _ mem)

/-- A command is executed with the payload that was read. -/
theorem plain_of_mem_step {s : Scanner} (plain : s.HasPlainPayload) {payload : Array UInt8}
    (executed : Token.command payload ∈ (s.step b).2) : 0x07 ∉ payload ∧ 0x1B ∉ payload := by
  cases s with
  | text part =>
    obtain steers | ⟨_, print, -⟩ := steers_or_shown_of_mem_inText executed
    · exact absurd steers Bool.false_ne_true
    · exact Token.noConfusion print
  | command payload' =>
    change _ ∈ (inCommand payload' b).2 at executed
    unfold inCommand at executed
    split at executed
    · obtain rfl := Token.command.inj (List.mem_singleton.mp executed)
      exact plain
    split at executed
    · exact absurd executed List.not_mem_nil
    · split at executed <;> exact absurd executed List.not_mem_nil
  | commandEscape payload' =>
    change _ ∈ (inCommandEscape payload' b).2 at executed
    have first : Token.command payload = .command payload' := by
      unfold inCommandEscape at executed
      split at executed
      · exact List.mem_singleton.mp executed
      · exact (List.mem_cons.mp executed).resolve_right
          ((steers_afterEscape b).command_not_mem payload)
    obtain rfl := Token.command.inj first
    exact plain
  | _ => exact absurd executed ((steers_step rfl b).command_not_mem payload)

/-- So is every command of a stream. -/
theorem plain_of_mem_run {s : Scanner} (plain : s.HasPlainPayload) {bytes : List UInt8}
    {payload : Array UInt8} (executed : Token.command payload ∈ (s.run bytes).2) :
    0x07 ∉ payload ∧ 0x1B ∉ payload :=
  of_mem_run (I := HasPlainPayload)
    (P := fun token => token = .command payload → 0x07 ∉ payload ∧ 0x1B ∉ payload)
    (fun _ b plain => plain.step b)
    (fun _ _ plain _ mem eq => plain_of_mem_step plain (eq ▸ mem)) plain _ executed rfl

/-! ### Commands -/

/-- A byte that does not end a command is kept as long as there is room. -/
theorem step_command {payload : Array UInt8} (ne_bel : b ≠ 0x07) (ne_escape : b ≠ 0x1B) :
    (command payload).step b =
      (command (if payload.size < maxPayload then payload.push b else payload), []) := by
  change inCommand payload b = _
  rw [inCommand, if_neg ne_bel, if_neg ne_escape]
  split <;> rfl

/-- The first bytes of a payload are kept, as many as there is room for. -/
theorem run_payload {bytes : List UInt8} (silent : 0x07 ∉ bytes) (unescaped : 0x1B ∉ bytes)
    (payload : Array UInt8) :
    (command payload).run bytes =
      (command (payload ++ (bytes.take (maxPayload - payload.size)).toArray), []) := by
  induction bytes generalizing payload with
  | nil => simp
  | cons b rest ih =>
    have ne_bel : b ≠ 0x07 := fun eq => silent (eq ▸ List.mem_cons_self)
    have ne_escape : b ≠ 0x1B := fun eq => unescaped (eq ▸ List.mem_cons_self)
    rw [run_cons, step_command ne_bel ne_escape,
      ih (fun mem => silent (List.mem_cons_of_mem b mem))
        (fun mem => unescaped (List.mem_cons_of_mem b mem))]
    split
    next room =>
      obtain ⟨left, left_eq⟩ : ∃ left, maxPayload - payload.size = left + 1 :=
        ⟨maxPayload - payload.size - 1, by omega⟩
      have after : maxPayload - (payload.push b).size = left := by
        rw [Array.size_push]
        omega
      rw [after, left_eq, List.take_succ_cons]
      simp
    next full =>
      have none_left : maxPayload - payload.size = 0 := by omega
      rw [none_left, List.take_zero, List.take_zero]
      rfl

/-- A command is executed once, at either terminator, and the stream is between two units then. -/
theorem run_command {bytes : List UInt8} (silent : 0x07 ∉ bytes) (unescaped : 0x1B ∉ bytes)
    {terminator : List UInt8} (ends : terminator = [0x07] ∨ terminator = [0x1B, 0x5C]) :
    ground.run (0x1B :: 0x5D :: (bytes ++ terminator)) =
      (ground, [.command (bytes.take maxPayload).toArray]) := by
  have opened : (ground.step 0x1B).1.step 0x5D = (command #[], []) := rfl
  rw [run_cons, run_cons, opened, run_append, run_payload silent unescaped, Array.size_empty,
    Nat.sub_zero, Array.empty_append]
  obtain rfl | rfl := ends <;> rfl

/-- The control characters that act after `ESC`, but not after `ESC` in a command. -/
def isSwallowed (b : UInt8) : Bool := isControlByte b && b != 0x18 && b != 0x1A

theorem isSwallowed_iff :
    isSwallowed b = true ↔ isControlByte b = true ∧ b ≠ 0x18 ∧ b ≠ 0x1A := by
  simp [isSwallowed, and_assoc]

theorem ne_of_isControlByte (control : isControlByte b = true) {code : UInt8}
    (graphic : isControlByte code = false) : b ≠ code := by
  rintro rfl
  exact Bool.false_ne_true (graphic.symm.trans control)

/-- A control character is taken for the final one of a short escape. -/
theorem afterEscape_of_isControlByte (control : isControlByte b = true) :
    afterEscape b = (ground, [.escape (charOfByte b)]) := by
  have other : ∀ code, isControlByte code = false → b ≠ code :=
    fun _ graphic => ne_of_isControlByte control graphic
  have not_intermediate : isIntermediate b = false := by
    rw [isControlByte_iff] at control
    rw [Bool.eq_false_iff, ne_eq, isIntermediate_iff]
    omega
  simp [afterEscape, not_intermediate, other 0x5B (by decide), other 0x5D (by decide),
    other 0x50 (by decide), other 0x58 (by decide), other 0x5E (by decide), other 0x5F (by decide)]

theorem step_escape_of_graphic (graphic : isControlByte b = false) :
    Scanner.escape.step b = afterEscape b := by
  change (if isControlByte b then control .escape b else afterEscape b) = _
  rw [graphic]
  rfl

theorem step_escape_of_isControlByte (is_control : isControlByte b = true) :
    Scanner.escape.step b = control .escape b :=
  if_pos is_control

/-- `CAN` and `SUB` abandon the escape sequence. -/
theorem step_escape_of_abandons (is_control : isControlByte b = true)
    (abandons : isSwallowed b = false) : Scanner.escape.step b = (ground, []) := by
  have is_cancel : b = 0x18 ∨ b = 0x1A := by
    by_contra other
    rw [not_or] at other
    exact Bool.false_ne_true (abandons.symm.trans (isSwallowed_iff.mpr ⟨is_control, other⟩))
  obtain rfl | rfl := is_cancel <;> rfl

/-- All others act, and the escape sequence goes on. -/
theorem step_escape_of_isSwallowed (swallowed : isSwallowed b = true) :
    (Scanner.escape.step b).1 = .escape := by
  obtain ⟨is_control, ne_cancel, ne_substitute⟩ := isSwallowed_iff.mp swallowed
  rw [step_escape_of_isControlByte is_control, control]
  split
  · rfl
  · rw [if_neg (by simp [ne_cancel, ne_substitute])]

/-! ### Strings that are skipped -/

/-- The bytes that begin a string that is skipped: `P`, `X`, `^` and `_`, after `ESC`. -/
def skippedOpeners : List UInt8 := [0x50, 0x58, 0x5E, 0x5F]

/-- The number of `ESC` at the end of a payload, up to the last byte that is none. -/
def escapesAtEnd (payload : List UInt8) : Nat := (payload.rtakeWhile (· == 0x1B)).length

@[simp] theorem escapesAtEnd_nil : escapesAtEnd [] = 0 := rfl

theorem escapesAtEnd_concat_escape (payload : List UInt8) :
    escapesAtEnd (payload ++ [0x1B]) = escapesAtEnd payload + 1 := by
  rw [escapesAtEnd, List.rtakeWhile_concat_pos _ _ _ rfl, List.length_append]
  rfl

theorem escapesAtEnd_concat_of_ne {payload : List UInt8} (other : b ≠ 0x1B) :
    escapesAtEnd (payload ++ [b]) = 0 := by
  rw [escapesAtEnd, List.rtakeWhile_concat_neg _ _ _ (by simpa using other)]
  rfl

/-- A payload with an `ESC` at its end goes on to the next one. -/
theorem exists_concat_of_escapesAtEnd {payload : List UInt8} (ends : escapesAtEnd payload ≠ 0) :
    ∃ before, payload = before ++ [0x1B] := by
  cases payload using List.reverseRecOn with
  | nil => exact absurd rfl ends
  | append_singleton before b =>
    by_cases escape : b = 0x1B
    · exact ⟨before, by rw [escape]⟩
    · exact absurd (escapesAtEnd_concat_of_ne escape) ends

theorem step_ground_escape : ground.step 0x1B = (.escape, []) := rfl

theorem step_escape_of_opens (opens : b ∈ skippedOpeners) :
    Scanner.escape.step b = (.ignored, []) := by
  simp only [skippedOpeners, List.mem_cons, List.not_mem_nil, or_false] at opens
  obtain rfl | rfl | rfl | rfl := opens <;> rfl

/-- A payload without a terminator is skipped, and then `ESC` is pending or not, as the number of
those at its end is odd or even. -/
theorem run_ignored {payload : List UInt8} (silent : 0x07 ∉ payload)
    (unended : ¬ [0x1B, 0x5C] <:+: payload) :
    Scanner.ignored.run payload =
      (if Even (escapesAtEnd payload) then .ignored else .ignoredEscape, []) := by
  induction payload using List.reverseRecOn with
  | nil => rfl
  | append_singleton payload b ih =>
    have ne_bel : b ≠ 0x07 := by
      rintro rfl
      exact silent (List.mem_append_right payload (List.mem_singleton_self _))
    rw [run_append, ih (fun mem => silent (List.mem_append_left _ mem))
      (fun inside => unended (inside.trans (List.prefix_append payload [b]).isInfix))]
    by_cases escape : b = 0x1B
    · rw [escape, escapesAtEnd_concat_escape]
      by_cases even : Even (escapesAtEnd payload)
      · rw [if_pos even, if_neg (Nat.even_add_one.not.mpr (not_not.mpr even))]
        rfl
      · rw [if_neg even, if_pos (Nat.even_add_one.mpr even)]
        rfl
    · rw [escapesAtEnd_concat_of_ne escape, if_pos Even.zero]
      by_cases even : Even (escapesAtEnd payload)
      · rw [if_pos even]
        simp [step, escape, ne_bel]
      · -- An `ESC` is pending, and the backslash would have ended the string inside of the payload.
        have ne_backslash : b ≠ 0x5C := by
          rintro rfl
          have pending : escapesAtEnd payload ≠ 0 := fun none => even (none ▸ Even.zero)
          obtain ⟨before, rfl⟩ := exists_concat_of_escapesAtEnd pending
          exact unended ⟨before, [], by simp⟩
        rw [if_neg even]
        simp [step, ne_backslash]

/-- A string that is skipped is over at its terminator, unless `ESC` is pending there: then it goes on. -/
theorem run_skipped {opener : UInt8} (opens : opener ∈ skippedOpeners) {payload : List UInt8}
    (silent : 0x07 ∉ payload) (unended : ¬ [0x1B, 0x5C] <:+: payload) {terminator : List UInt8}
    (ends : terminator = [0x1B, 0x5C] ∨ terminator = [0x07]) :
    ground.run (0x1B :: opener :: (payload ++ terminator)) =
      (if Even (escapesAtEnd payload) then ground else .ignored, []) := by
  rw [run_cons, step_ground_escape, run_cons, step_escape_of_opens opens, run_append,
    run_ignored silent unended]
  by_cases even : Even (escapesAtEnd payload)
  · rw [if_pos even, if_pos even]
    obtain rfl | rfl := ends <;> rfl
  · rw [if_neg even, if_neg even]
    obtain rfl | rfl := ends <;> rfl

end TerminalSession.Scanner
