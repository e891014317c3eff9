import TerminalSession.Proofs.Access.Emulator
import TerminalSession.Proofs.Control.Scanner
import TerminalSession.Proofs.Terminal.Size
import TerminalSession.Proofs.Text.Utf8

/-!
# The operations that output asks for

A piece of output is a list of operations on the terminal. None of the control characters of one byte is
printed by them.

## Main definitions

* `Emulator.operations`: the operations that a piece of output asks for
* `Operation.carriesText`: the operations that have text of the output in them

## Main statements

* `Emulator.feed_eq_foldl_execute`: feeding output is executing its tokens
* `Emulator.terminal_feed`: feeding output is performing its operations
* `Emulator.overflowed_feed`: output overflows where one of its operations does
* `Emulator.print_mem_operations`, `Emulator.setTitle_mem_operations`: which tokens print a character
  and set a title
* `Scanner.graphic_of_print`, `Emulator.graphic_of_print`: what is printed is none of the control
  characters of one byte

## Design notes

* A token may ask for the last row, so its operations depend on the number of rows. Output does not
  change that, so the operations are known before any of them is performed.
-/

namespace TerminalSession

/-! ### Decoding -/

namespace Text.Utf8.Partial

/-- A byte of 0x80 or more does not stand for a character of the first 128, whether it begins a
character or is damaged. -/
theorem le_toNat_of_start {b : UInt8} {c : Char} (shown : (start b).2 = some c) :
    0x80 ≤ c.toNat := by
  unfold start at shown
  split at shown
  · exact nomatch shown
  · obtain rfl := Option.some.inj shown
    exact le_toNat_replacement

/-- Neither do the bytes of a character, complete or damaged. Complete ones are decoded to a
character that needs several bytes; damaged ones are replaced. -/
theorem le_toNat_of_push {part : Partial} (room : part.length < bufferSize) {b : UInt8} {c : Char}
    (shown : (part.push b).2 = some c) : 0x80 ≤ c.toNat := by
  unfold push at shown
  split at shown
  · exact le_toNat_of_start shown
  next lead rest =>
    split at shown
    · dsimp only at shown
      split at shown
      · exact nomatch shown
      next complete =>
        obtain rfl := Option.some.inj shown
        simp only [bufferSize, List.length_cons] at room
        refine le_toNat_of_getD ?_ ?_
        · simp
        · simp only [List.length_append, List.length_cons, List.length_nil]
          omega
    · obtain rfl := Option.some.inj shown
      exact le_toNat_replacement

end Text.Utf8.Partial

/-! ### Scanning -/

namespace Scanner

variable {c : Char} {b : UInt8}

/-- What steers the terminal prints nothing. -/
theorem Steers.print_not_mem {read : Scanner × List Token} (steers : Steers read) :
    Token.print c ∉ read.2 :=
  fun mem => Bool.false_ne_true (steers.tokens _ mem)

/-- The bytes of a command are collected, and not printed. -/
theorem print_not_mem_inCommand (payload : Array UInt8) (b : UInt8) :
    Token.print c ∉ (inCommand payload b).2 := by
  unfold inCommand
  repeat' split
  all_goals simp

theorem print_not_mem_inCommandEscape (payload : Array UInt8) (b : UInt8) :
    Token.print c ∉ (inCommandEscape payload b).2 := by
  unfold inCommandEscape
  split
  · simp
  · simpa using (steers_afterEscape b).print_not_mem

/-- Nothing is printed in the middle of a sequence. -/
theorem print_not_mem_step {s : Scanner} (outside : ∀ part, s ≠ .text part) (b : UInt8) :
    Token.print c ∉ (s.step b).2 := by
  cases s with
  | text part => exact absurd rfl (outside part)
  | command payload => exact print_not_mem_inCommand payload b
  | commandEscape payload => exact print_not_mem_inCommandEscape payload b
  | _ => exact (steers_step rfl b).print_not_mem

/-- A byte that is no control character is one of a character that is none. -/
theorem graphic_charOfByte (shown : isControlByte b = false) :
    0x20 ≤ (charOfByte b).toNat ∧ (charOfByte b).toNat ≠ 0x7F := by
  rw [Bool.eq_false_iff, ne_eq, isControlByte_iff] at shown
  rw [toNat_charOfByte]
  omega

/-- What is printed is none of the control characters of one byte. -/
theorem graphic_of_print {s : Scanner} (room : s.HasRoom)
    (printed : Token.print c ∈ (s.step b).2) : 0x20 ≤ c.toNat ∧ c.toNat ≠ 0x7F := by
  have of_le (le : 0x80 ≤ c.toNat) : 0x20 ≤ c.toNat ∧ c.toNat ≠ 0x7F := by omega
  cases s with
  | text part =>
    obtain steers | ⟨_, print, shown⟩ := steers_or_shown_of_mem_inText printed
    · exact absurd steers Bool.false_ne_true
    obtain rfl := Token.print.inj print
    cases shown with
    | single graphic => exact graphic_charOfByte graphic
    | completed pushed => exact of_le (Text.Utf8.Partial.le_toNat_of_push room pushed)
    | cut => exact of_le Text.Utf8.le_toNat_replacement
  | _ => exact absurd printed (print_not_mem_step (by simp) b)

/-- So what is printed along any output is no control character of one byte. The text that is cut
off in the middle of a character is shown by a replacement. -/
theorem graphic_of_mem_run {s : Scanner} (room : s.HasRoom) {bytes : List UInt8}
    (printed : Token.print c ∈ (s.run bytes).2) : 0x20 ≤ c.toNat ∧ c.toNat ≠ 0x7F :=
  of_mem_run (I := HasRoom) (P := fun token => token = .print c → 0x20 ≤ c.toNat ∧ c.toNat ≠ 0x7F)
    (fun s b _ => hasRoom_step s b)
    (fun _ _ room _ mem eq => graphic_of_print room (eq ▸ mem)) room _ printed rfl

end Scanner

/-! ### Feeding -/

namespace Emulator

/-- The operations that a piece of output asks for, in order. They depend on the place in the stream
and on the number of rows, and not on what is on the screen. -/
def operations (e : Emulator) (bytes : List UInt8) : List Operation :=
  (e.scanner.run bytes).2.flatMap (Token.operations e.terminal.rows)

/-- Bytes are read one after the other, and each adds the operations of its tokens. -/
theorem operations_cons (e : Emulator) (b : UInt8) (rest : List UInt8) :
    e.operations (b :: rest) =
      (e.scanner.step b).2.flatMap (Token.operations e.terminal.rows) ++
        ((e.scanner.step b).1.run rest).2.flatMap (Token.operations e.terminal.rows) := by
  simp [operations]

/-- To execute tokens does not move the place in the stream. -/
theorem scanner_foldl_execute (tokens : List Token) (e : Emulator) :
    (tokens.foldl execute e).scanner = e.scanner := by
  induction tokens generalizing e with
  | nil => rfl
  | cons token rest ih => exact ih (e.execute token)

theorem scanner_feedByte (e : Emulator) (b : UInt8) :
    (e.feedByte b).scanner = (e.scanner.step b).1 :=
  scanner_foldl_execute (e.scanner.step b).2 { e with scanner := (e.scanner.step b).1 }

/-- Executing tokens does not ask where the stream is. -/
theorem foldl_execute_scanner (tokens : List Token) (e : Emulator) (s : Scanner) :
    tokens.foldl execute { e with scanner := s } = { tokens.foldl execute e with scanner := s } := by
  induction tokens generalizing e with
  | nil => rfl
  | cons token rest ih => exact ih (e.execute token)

/-- Feeding output is reading all of it, and then executing the tokens. -/
theorem feed_eq_foldl_execute (e : Emulator) (bytes : List UInt8) :
    e.feed bytes =
      (e.scanner.run bytes).2.foldl execute { e with scanner := (e.scanner.run bytes).1 } := by
  induction bytes generalizing e with
  | nil => rfl
  | cons b rest ih =>
    have read : { e.feedByte b with scanner := ((e.scanner.step b).1.run rest).1 } =
        (e.scanner.step b).2.foldl execute
          { e with scanner := ((e.scanner.step b).1.run rest).1 } :=
      (foldl_execute_scanner _ { e with scanner := (e.scanner.step b).1 } _).symm
    rw [feed_cons, ih, scanner_feedByte, read, Scanner.run_cons, List.foldl_append]

/-- The place in the stream depends on the bytes alone, and not on the terminal. -/
theorem scanner_feed (e : Emulator) (bytes : List UInt8) :
    (e.feed bytes).scanner = (e.scanner.run bytes).1 := by
  rw [feed_eq_foldl_execute, scanner_foldl_execute]

/-- Tokens do to the terminal what their operations do. The number of rows, on which these depend,
stays the same along the way. -/
theorem terminal_foldl_execute (tokens : List Token) (e : Emulator) :
    (tokens.foldl execute e).terminal =
      Operation.performAll e.terminal (tokens.flatMap (Token.operations e.terminal.rows)) := by
  induction tokens generalizing e with
  | nil => rfl
  | cons token rest ih =>
    have rows_eq : (e.execute token).terminal.rows = e.terminal.rows :=
      Terminal.rows_eq_of_size_eq (e.terminal.size_execute token)
    rw [List.foldl_cons, ih, rows_eq, List.flatMap_cons, Operation.performAll_append,
      ← Terminal.execute_eq_performAll]
    rfl

/-- Feeding output is performing its operations. -/
theorem terminal_feed (e : Emulator) (bytes : List UInt8) :
    (e.feed bytes).terminal = Operation.performAll e.terminal (e.operations bytes) := by
  induction bytes generalizing e with
  | nil => rfl
  | cons b rest ih =>
    have terminal_eq : (e.feedByte b).terminal = Operation.performAll e.terminal
        ((e.scanner.step b).2.flatMap (Token.operations e.terminal.rows)) :=
      terminal_foldl_execute (e.scanner.step b).2 { e with scanner := (e.scanner.step b).1 }
    have rows_eq : (e.feedByte b).terminal.rows = e.terminal.rows := by
      rw [terminal_eq]
      exact Terminal.rows_eq_of_size_eq (e.terminal.size_performAll _)
    rw [feed_cons, ih, operations_cons, Operation.performAll_append, ← terminal_eq, operations,
      scanner_feedByte, rows_eq]

/-- Tokens overflow if one of their operations does, in its turn. An overflow before them stays
known, so that a run tells of it at its end. -/
theorem overflowed_foldl_execute (tokens : List Token) (e : Emulator) :
    (tokens.foldl execute e).overflowed =
      (Operation.overflowsAll e.terminal (tokens.flatMap (Token.operations e.terminal.rows)) ||
        e.overflowed) := by
  induction tokens generalizing e with
  | nil => rfl
  | cons token rest ih =>
    have rows_eq : (e.execute token).terminal.rows = e.terminal.rows :=
      Terminal.rows_eq_of_size_eq (e.terminal.size_execute token)
    have after : (e.execute token).terminal =
        Operation.performAll e.terminal (token.operations e.terminal.rows) :=
      e.terminal.execute_eq_performAll token
    have head : (e.execute token).overflowed =
        (Operation.overflowsAll e.terminal (token.operations e.terminal.rows) || e.overflowed) :=
      congrArg (· || e.overflowed) (e.terminal.overflows_eq_overflowsAll token)
    rw [List.foldl_cons, ih, rows_eq, after, head, List.flatMap_cons,
      Operation.overflowsAll_append, ← Bool.or_assoc, Bool.or_comm (Operation.overflowsAll _ _)]

/-- Output overflows where one of its operations does, and an overflow before it stays known. -/
theorem overflowed_feed (e : Emulator) (bytes : List UInt8) :
    (e.feed bytes).overflowed =
      (Operation.overflowsAll e.terminal (e.operations bytes) || e.overflowed) := by
  rw [feed_eq_foldl_execute]
  exact overflowed_foldl_execute _ { e with scanner := (e.scanner.run bytes).1 }

/-- Output in two pieces is one list of operations, followed by the one that the second piece has
after the first. -/
theorem operations_append (e : Emulator) (bytes more : List UInt8) :
    e.operations (bytes ++ more) = e.operations bytes ++ (e.feed bytes).operations more := by
  have rows_eq : (e.feed bytes).terminal.rows = e.terminal.rows := by
    rw [terminal_feed]
    exact Terminal.rows_eq_of_size_eq (e.terminal.size_performAll _)
  rw [operations, operations, operations, Scanner.run_append, List.flatMap_append, scanner_feed,
    rows_eq]

/-! ### Printing -/

/-- Tokens of text ask for the characters to be printed. -/
theorem flatMap_operations_ofChar {text : Text}
    (printed : ∀ c ∈ text, Token.ofChar c = .print c) (rows : Nat) :
    (text.map Token.ofChar).flatMap (Token.operations rows) = text.map Operation.print := by
  induction text with
  | nil => rfl
  | cons c rest ih =>
    rw [List.map_cons, List.flatMap_cons, printed c List.mem_cons_self,
      ih fun other mem => printed other (List.mem_cons_of_mem c mem)]
    rfl

end Emulator

/-- Whether an operation carries text of the output: a character to print, or a title. -/
def Operation.carriesText : Operation → Bool
  | .print _ => true
  | .setTitle _ => true
  | _ => false

/-- Control characters, escape sequences and functions move, erase and scroll. None of them carries
text. -/
theorem Operation.carriesText_ofControl (code : UInt8) :
    ∀ op ∈ Operation.ofControl code, op.carriesText = false := by
  unfold Operation.ofControl
  repeat' split
  all_goals simp [carriesText]

theorem Operation.carriesText_ofEscape (final : Char) :
    ∀ op ∈ Operation.ofEscape final, op.carriesText = false := by
  unfold Operation.ofEscape
  split <;> simp [carriesText]

/-- The functions of control sequences carry numbers. -/
theorem ControlFunction.carriesText_operations (f : ControlFunction) (rows : Nat) :
    ∀ op ∈ f.operations rows, op.carriesText = false := by
  cases f <;> simp [ControlFunction.operations, Operation.carriesText]

/-- A token that steers asks for nothing that carries text. -/
theorem Token.carriesText_of_steers {token : Token} (steers : token.steers = true) (rows : Nat) :
    ∀ op ∈ token.operations rows, op.carriesText = false := by
  cases token with
  | print c => exact absurd steers Bool.false_ne_true
  | control code => exact Operation.carriesText_ofControl code
  | escape final => exact Operation.carriesText_ofEscape final
  | sequence s =>
    simp only [Token.operations]
    cases function : s.function? with
    | none => simp
    | some f => exact f.carriesText_operations rows
  | command payload => exact absurd steers Bool.false_ne_true

/-- A command sets the title or does nothing. -/
theorem Token.mem_operations_command {rows : Nat} {payload : Array UInt8} {op : Operation} :
    op ∈ Token.operations rows (.command payload) ↔
      ∃ title, Terminal.titleOf? payload.toList = some title ∧ op = .setTitle title := by
  simp only [Token.operations]
  cases Terminal.titleOf? payload.toList <;> simp

/-- Nothing but a character asks to be printed. -/
theorem Token.eq_print_of_mem_operations {rows : Nat} {token : Token} {c : Char}
    (mem : Operation.print c ∈ token.operations rows) : token = .print c := by
  cases token with
  | print c' => simpa [Token.operations, eq_comm] using mem
  | command payload =>
    obtain ⟨_, -, eq⟩ := Token.mem_operations_command.mp mem
    exact Operation.noConfusion eq
  | _ => exact absurd (Token.carriesText_of_steers rfl rows _ mem).symm Bool.false_ne_true

/-- Nothing but a command asks for a title. -/
theorem Token.eq_command_of_mem_operations {rows : Nat} {token : Token} {title : Text}
    (mem : Operation.setTitle title ∈ token.operations rows) :
    ∃ payload, token = .command payload ∧ Terminal.titleOf? payload.toList = some title := by
  cases token with
  | print c => simp [Token.operations] at mem
  | command payload =>
    obtain ⟨_, set, eq⟩ := Token.mem_operations_command.mp mem
    exact ⟨payload, rfl, (Operation.setTitle.inj eq) ▸ set⟩
  | _ => exact absurd (Token.carriesText_of_steers rfl rows _ mem).symm Bool.false_ne_true

namespace Emulator

variable {e : Emulator} {bytes : List UInt8}

/-- So what an output prints is what its tokens print. -/
theorem print_mem_operations {c : Char} :
    Operation.print c ∈ e.operations bytes ↔ Token.print c ∈ (e.scanner.run bytes).2 := by
  refine ⟨fun printed => ?_, fun token_mem => ?_⟩
  · obtain ⟨token, token_mem, mem⟩ := List.mem_flatMap.mp printed
    exact Token.eq_print_of_mem_operations mem ▸ token_mem
  · exact List.mem_flatMap.mpr ⟨_, token_mem, List.mem_singleton_self _⟩

/-- A title is set by a command of the output, and by nothing else. -/
theorem setTitle_mem_operations {title : Text} :
    Operation.setTitle title ∈ e.operations bytes ↔
      ∃ payload, Token.command payload ∈ (e.scanner.run bytes).2 ∧
        Terminal.titleOf? payload.toList = some title := by
  refine ⟨fun set => ?_, fun ⟨payload, token_mem, title_eq⟩ => ?_⟩
  · obtain ⟨token, token_mem, mem⟩ := List.mem_flatMap.mp set
    obtain ⟨payload, rfl, title_eq⟩ := Token.eq_command_of_mem_operations mem
    exact ⟨payload, token_mem, title_eq⟩
  · exact List.mem_flatMap.mpr
      ⟨_, token_mem, Token.mem_operations_command.mpr ⟨title, title_eq, rfl⟩⟩

/-- What output prints is none of the control characters of one byte. -/
theorem graphic_of_print (room : e.scanner.HasRoom) {c : Char}
    (printed : Operation.print c ∈ e.operations bytes) : 0x20 ≤ c.toNat ∧ c.toNat ≠ 0x7F :=
  Scanner.graphic_of_mem_run room (print_mem_operations.mp printed)

end Emulator

end TerminalSession
