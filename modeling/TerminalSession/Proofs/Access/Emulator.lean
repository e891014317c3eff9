import TerminalSession.Proofs.Access.Terminal
import TerminalSession.Proofs.Control.Steering
import TerminalSession.Proofs.Emulator.Run

/-!
# Emulators, access by access

Output is scanned and executed with every access able to fail. None fails in a run of an emulator
that starts fresh.

## Main definitions

* `Text.Utf8.Partial.push?`, `Scanner.step?`: the buffer of a character that is not complete
* `Emulator.feed?`, `Emulator.act?`, `Emulator.run?`: output, an action and a run
* `Emulator.WellFormed`: the invariant of emulators

## Main statements

* `Emulator.WellFormed.act`, `Emulator.WellFormed.act?_eq_some`: an action keeps the invariant, and
  succeeds where it holds
* `Emulator.run?_fresh`: the run of a fresh emulator

## Design notes

* A scanner holds the bytes of a character in a buffer of four places. The longest character has
  four bytes, and it is complete when its last byte arrives, so three bytes wait at most.
* Parameters and payloads are appended to and never indexed; the value of a digit is taken only of
  bytes that are digits.
-/

namespace TerminalSession

open Access (set slice)

/-! ### Scanning -/

namespace Text.Utf8.Partial

/-- The places for the bytes of a character. -/
def bufferSize : Nat := 4

/-- The buffer with the bytes that have arrived. -/
def buffer (part : Partial) : Array UInt8 :=
  (part ++ List.replicate (bufferSize - part.length) 0).toArray

/-- `Partial.push`, where the byte has to find a place in the buffer. -/
def push? (part : Partial) (b : UInt8) : Option (Partial × Option Char) := do
  let bytes ← set part.buffer part.length b
  let _ ← slice bytes 0 (part.length + 1)
  some (part.push b)

theorem size_buffer {part : Partial} (room : part.length < bufferSize) :
    part.buffer.size = bufferSize := by
  simp only [buffer, List.size_toArray, List.length_append, List.length_replicate]
  omega

theorem push?_eq_some {part : Partial} (room : part.length < bufferSize) (b : UInt8) :
    part.push? b = some (part.push b) := by
  have bound : part.length < part.buffer.size := by
    rw [size_buffer room]
    exact room
  rw [push?, Access.set_eq_some bound, Option.bind_eq_bind, Option.bind_some,
    Access.slice_eq_some (Nat.zero_le _) (by rw [Array.size_setIfInBounds]; exact bound)]
  rfl

theorem length_getD_le (lead : UInt8) : (length? lead).getD 0 ≤ bufferSize := by
  unfold length? bufferSize
  split
  · decide
  split
  · decide
  split <;> decide

theorem length_start_lt (b : UInt8) : (start b).1.length < bufferSize := by
  unfold start
  split <;> simp [bufferSize]

/-- After a byte there is room for another one. -/
theorem length_push_lt (part : Partial) (b : UInt8) : (part.push b).1.length < bufferSize := by
  unfold push
  split
  · exact length_start_lt b
  next lead rest =>
    split
    · dsimp only
      split
      next more => exact Nat.lt_of_lt_of_le more (length_getD_le lead)
      · simp [bufferSize]
    · exact length_start_lt b

end Text.Utf8.Partial

namespace Scanner

open Text.Utf8 (Partial)

/-- The bytes that wait leave room for another one. Only in text do bytes wait in a buffer of fixed
size; everything else grows or is cut. -/
def HasRoom : Scanner → Prop
  | .text part => part.length < Partial.bufferSize
  | _ => True

/-- `Scanner.step`, where a byte of a character has to find a place in the buffer. At any other
place a byte is compared and kept, or forgotten; nothing is indexed. -/
def step? (s : Scanner) (b : UInt8) : Option (Scanner × List Token) :=
  match s with
  | .text part =>
    if b < 0x80 then some (inText part b) else (part.push? b).map fun _ => inText part b
  | s => some (s.step b)

theorem step?_eq_some {s : Scanner} (room : s.HasRoom) (b : UInt8) :
    s.step? b = some (s.step b) := by
  unfold step?
  split
  next part =>
    split
    · rfl
    · rw [Partial.push?_eq_some room]
      rfl
  next => rfl

theorem hasRoom_ground : ground.HasRoom := by
  show 0 < Partial.bufferSize
  decide

/-- Where no byte waits there is room. -/
theorem HasRoom.of_isBare {s : Scanner} (bare : s.isBare = true) : s.HasRoom := by
  cases s with
  | text part =>
    obtain rfl : part = [] := List.isEmpty_iff.mp bare
    exact hasRoom_ground
  | _ => trivial

theorem hasRoom_inText (part : Partial) (b : UInt8) : (inText part b).1.HasRoom := by
  unfold inText
  split
  · dsimp only
    split
    · exact .of_isBare (steers_control rfl b).bare
    · exact hasRoom_ground
  · exact Partial.length_push_lt part b

theorem hasRoom_inCommand (payload : Array UInt8) (b : UInt8) :
    (inCommand payload b).1.HasRoom := by
  unfold inCommand
  split
  · exact hasRoom_ground
  split
  · trivial
  split <;> trivial

theorem hasRoom_inCommandEscape (payload : Array UInt8) (b : UInt8) :
    (inCommandEscape payload b).1.HasRoom := by
  unfold inCommandEscape
  split
  · exact hasRoom_ground
  · exact .of_isBare (steers_afterEscape b).bare

/-- After every byte there is room for another one. -/
theorem hasRoom_step (s : Scanner) (b : UInt8) : (s.step b).1.HasRoom := by
  cases s with
  | text part => exact hasRoom_inText part b
  | command payload => exact hasRoom_inCommand payload b
  | commandEscape payload => exact hasRoom_inCommandEscape payload b
  | _ => exact .of_isBare (steers_step rfl b).bare

end Scanner

/-! ### Running -/

namespace Emulator

/-- One token is executed, if no access fails. -/
def execute? (e : Emulator) (token : Token) : Option Emulator :=
  (e.terminal.execute? token).map (e.execute token).withTerminal

/-- One byte of output, if no access fails: neither where the byte is kept, nor in any operation of
the tokens that it completes. -/
def feedByte? (e : Emulator) (b : UInt8) : Option Emulator := do
  let (scanner, tokens) ← e.scanner.step? b
  tokens.foldlM execute? { e with scanner }

/-- Output arrives, if no access fails. The first access that does ends it. -/
def feed? (e : Emulator) (bytes : List UInt8) : Option Emulator :=
  bytes.foldlM feedByte? e

/-- The emulator after an action, if no access fails in it. Moving the window compares and subtracts
with a bound only, so that it cannot fail. -/
def act? (e : Emulator) : Action → Option Emulator
  | .output bytes => e.feed? bytes
  | .resize cols rows _ _ => (e.terminal.resize? cols rows).map e.withTerminal
  | .scroll delta => some (e.withTerminal (e.terminal.scrollWindow delta))
  | .operate op => (op.perform? e.terminal).map (e.perform op).withTerminal

/-- The emulator after a list of actions, if no access fails. That it has a result is what makes the
total functions the program: nothing was papered over. -/
def run? (e : Emulator) (actions : List Action) : Option Emulator :=
  actions.foldlM act? e

/-- The invariant of an emulator with room for `limit` rows of history: that of its terminal, and
that the scanner keeps its place within the room of its buffers. -/
structure WellFormed (limit : Nat) (e : Emulator) : Prop where
  terminal : e.terminal.WellFormed limit
  scanner : e.scanner.HasRoom

namespace WellFormed

variable {limit : Nat} {e : Emulator}

theorem fresh {cols rows : Nat} (limit : Nat) (cols_pos : 0 < cols) (rows_pos : 0 < rows) :
    (Emulator.fresh cols rows limit).WellFormed limit where
  terminal := Terminal.WellFormed.fresh limit cols_pos rows_pos
  scanner := Scanner.hasRoom_ground

theorem withTerminal (wf : e.WellFormed limit) {t : Terminal} (terminal : t.WellFormed limit) :
    (e.withTerminal t).WellFormed limit where
  terminal := terminal
  scanner := wf.scanner

theorem execute (wf : e.WellFormed limit) (token : Token) : (e.execute token).WellFormed limit where
  terminal := wf.terminal.execute token
  scanner := wf.scanner

theorem execute?_eq_some (wf : e.WellFormed limit) (token : Token) :
    e.execute? token = some (e.execute token) := by
  rw [execute?, wf.terminal.execute?_eq_some]
  rfl

/-- A byte succeeds, and keeps the invariant. -/
theorem feedByte?_eq_some (wf : e.WellFormed limit) (b : UInt8) :
    e.feedByte? b = some (e.feedByte b) ∧ (e.feedByte b).WellFormed limit := by
  have scanned : ({ e with scanner := (e.scanner.step b).1 } : Emulator).WellFormed limit :=
    { terminal := wf.terminal, scanner := Scanner.hasRoom_step e.scanner b }
  unfold feedByte?
  rw [Scanner.step?_eq_some wf.scanner]
  exact Access.foldlM_eq_some (P := WellFormed limit) (fun _ token wf => wf.execute?_eq_some token)
    (fun _ token wf => wf.execute token) _ scanned

/-- So does output. -/
theorem feed?_eq_some (wf : e.WellFormed limit) (bytes : List UInt8) :
    e.feed? bytes = some (e.feed bytes) ∧ (e.feed bytes).WellFormed limit :=
  Access.foldlM_eq_some (P := WellFormed limit) (fun _ b wf => (wf.feedByte?_eq_some b).1)
    (fun _ b wf => (wf.feedByte?_eq_some b).2) bytes wf

/-- An action keeps the invariant. -/
theorem act (wf : e.WellFormed limit) (action : Action) : (e.act action).WellFormed limit := by
  cases action with
  | output bytes => exact (wf.feed?_eq_some bytes).2
  | resize cols rows cols_pos rows_pos =>
    exact wf.withTerminal (wf.terminal.resize cols_pos rows_pos)
  | scroll delta => exact wf.withTerminal (wf.terminal.scrollWindow delta)
  | operate op => exact { terminal := wf.terminal.perform op, scanner := wf.scanner }

/-- So does a run. -/
theorem run (wf : e.WellFormed limit) (actions : List Action) :
    (e.run actions).WellFormed limit := by
  induction actions generalizing e with
  | nil => exact wf
  | cons action rest ih => exact ih (wf.act action)

/-- An action succeeds where the invariant holds. -/
theorem act?_eq_some (wf : e.WellFormed limit) (action : Action) :
    e.act? action = some (e.act action) := by
  cases action with
  | output bytes => exact (wf.feed?_eq_some bytes).1
  | resize cols rows _ _ => rw [act?, wf.terminal.resize?_eq_some, Option.map_some, Emulator.act]
  | scroll delta => rfl
  | operate op =>
    rw [act?, wf.terminal.perform?_eq_some]
    rfl

end WellFormed

/-- In a run of an emulator that starts fresh no access fails: neither an index nor a range is ever
out of bounds, and no number is taken from a smaller one. Both screens keep the size of the
terminal, the cursors and the region that scrolls stay inside it, the history of the primary screen
stays within its limit, and the alternate screen has none. -/
theorem run?_fresh {cols rows : Nat} (cols_pos : 0 < cols) (rows_pos : 0 < rows) (limit : Nat)
    (actions : List Action) :
    let e := (fresh cols rows limit).run actions
    (fresh cols rows limit).run? actions = some e ∧
      e.terminal.dump? = some e.terminal.dump ∧
      e.terminal.WellFormed limit ∧
      e.terminal.alternate.history = #[] := by
  intro e
  obtain ⟨succeeds, wf⟩ := Access.foldlM_eq_some (P := WellFormed limit)
    (fun _ action wf => wf.act?_eq_some action) (fun _ action wf => wf.act action) actions
    (WellFormed.fresh limit cols_pos rows_pos)
  exact ⟨succeeds, e.terminal.dump?_eq_some, wf.terminal, wf.terminal.alternate.history_eq_empty⟩

/-- A run through the margin of a single column, another size, an operation with a count that is beyond
every size, and back over the history. The two characters come together in one row again. -/
theorem run?_fresh_single_column :
    let actions := [Action.output (Text.Utf8.encode "a\u65E5\r\nb".toList),
      .resize 3 2 (by decide) (by decide), .operate (.insertLines 70000), .scroll (-5)]
    let e := (fresh 1 1 10).run actions
    (fresh 1 1 10).run? actions = some e ∧
      e.terminal.dump? = some "a\u65E5\n   ".toList ∧
      e.terminal.WellFormed 10 ∧
      e.terminal.alternate.history = #[] ∧
      e.terminal.cursor.row = 1 ∧ e.terminal.cursor.col = 1 := by
  intro actions
  obtain ⟨succeeds, shown, wf, none⟩ := run?_fresh Nat.one_pos Nat.one_pos 10 actions
  have dump_eq : ((fresh 1 1 10).run actions).terminal.dump = "a\u65E5\n   ".toList := by
    decide +kernel
  exact ⟨succeeds, shown.trans (congrArg some dump_eq), wf, none, by decide +kernel⟩

end Emulator

end TerminalSession
