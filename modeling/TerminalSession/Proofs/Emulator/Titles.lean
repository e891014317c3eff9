import TerminalSession.Proofs.Control.Strings
import TerminalSession.Proofs.Emulator.Operations
import TerminalSession.Proofs.Terminal.Title

/-!
# Setting the title

A title that is sent in an operating system command is the title afterwards, and nothing else changes.
Every byte but those that end the command is part of it: control characters, semicolons, and bytes that
would be control characters from U+0080 on if they stood alone.

## Main statements

* `Emulator.foldl_feed`: output that arrives in several pieces
* `Emulator.feed_command`: a command is executed once, whichever terminator ends it
* `Emulator.feed_title`: the title that output sets, and all that it leaves alone

## Design notes

* A command has room for 4096 bytes, two of which are the code and the semicolon. What comes after them
  is dropped before the title is read as text, so the last character may be cut in the middle.
-/

namespace TerminalSession.Emulator

variable {e : Emulator}

/-- Output may be cut into pieces in any way. -/
theorem foldl_feed (e : Emulator) (calls : List (List UInt8)) :
    calls.foldl feed e = e.feed calls.flatten := by
  induction calls generalizing e with
  | nil => rfl
  | cons call rest ih => rw [List.foldl_cons, ih, List.flatten_cons, feed_append]

/-- A command is executed once, whichever terminator ends it. -/
theorem feed_command (between : e.scanner = Scanner.ground) {bytes : List UInt8}
    (silent : 0x07 ∉ bytes) (unescaped : 0x1B ∉ bytes) {terminator : List UInt8}
    (ends : terminator = [0x07] ∨ terminator = [0x1B, 0x5C]) :
    e.feed (0x1B :: 0x5D :: (bytes ++ terminator)) =
      e.execute (.command (bytes.take Scanner.maxPayload).toArray) := by
  rw [feed_eq_foldl_execute, between, Scanner.run_command silent unescaped ends, ← between]
  rfl

/-- The bytes that can end a command are not in it, if their characters are not in the title: a byte
below 0x80 is always a character by itself, and the code and the semicolon are others. -/
theorem not_mem_encode {code : Char} (known : code ∈ ['0', '1', '2']) {title : Text} {c : Char}
    (ends : c = '\x07' ∨ c = '\x1b') (absent : c ∉ title) :
    UInt8.ofNat c.toNat ∉ Text.Utf8.encode (code :: ';' :: title) := by
  intro mem
  have lt : c.toNat < 0x80 := by
    obtain rfl | rfl := ends <;> decide
  have byte : (UInt8.ofNat c.toNat).toNat = c.toNat := Text.Utf8.toNat_ofNat (by omega)
  obtain ⟨other, other_mem, toNat_eq⟩ :=
    Text.Utf8.exists_of_mem_encode mem (by rw [byte]; exact lt)
  obtain rfl : other = c := Char.toNat_inj.mp (toNat_eq.trans byte)
  rcases List.mem_cons.mp other_mem with rfl | other_mem
  · revert known
    obtain rfl | rfl := ends <;> decide
  rcases List.mem_cons.mp other_mem with rfl | other_mem
  · obtain eq | eq := ends <;> exact absurd eq (by decide)
  · exact absent other_mem

/-- Between two units, a command that sets a title makes it the title, if its bytes are 4094 or fewer.
Of a longer one the first 4094 bytes make the title, read as text with a replacement for a character
that is cut off. Nothing else changes, the output may arrive in any number of pieces, and it is between
two units again afterwards. -/
theorem feed_title (between : e.scanner = Scanner.ground) {code : Char}
    (known : code ∈ ['0', '1', '2']) {title : Text} (silent : '\x07' ∉ title)
    (unescaped : '\x1b' ∉ title) {terminator : List UInt8}
    (ends : terminator = [0x07] ∨ terminator = [0x1B, 0x5C]) {calls : List (List UInt8)}
    (sent : calls.flatten =
      0x1B :: 0x5D :: (Text.Utf8.encode (code :: ';' :: title) ++ terminator)) :
    let bytes := Text.Utf8.encode title
    let read := if bytes.length ≤ 4094 then title else Text.Utf8.lossy (bytes.take 4094)
    calls.foldl feed e = { e with terminal := { e.terminal with title := read } } := by
  intro bytes read
  have read_eq : Text.Utf8.lossy (bytes.take 4094) = read := by
    by_cases fits : bytes.length ≤ 4094
    · rw [List.take_of_length_le fits, Text.Utf8.lossy_encode]
      exact (if_pos fits).symm
    · exact (if_neg fits).symm
  have kept : (Text.Utf8.encode (code :: ';' :: title)).take Scanner.maxPayload =
      Text.Utf8.encode [code, ';'] ++ bytes.take 4094 := by
    simp only [List.mem_cons, List.not_mem_nil, or_false] at known
    obtain rfl | rfl | rfl := known <;> rfl
  have title_eq : Terminal.titleOf?
      ((Text.Utf8.encode (code :: ';' :: title)).take Scanner.maxPayload) = some read := by
    rw [kept, Terminal.titleOf?_encode known, read_eq]
  have terminal_eq : e.terminal.execute (.command
      ((Text.Utf8.encode (code :: ';' :: title)).take Scanner.maxPayload).toArray) =
        { e.terminal with title := read } := by
    unfold Terminal.execute
    dsimp only
    rw [title_eq]
  rw [foldl_feed, sent, feed_command between (not_mem_encode known (.inl rfl) silent)
    (not_mem_encode known (.inr rfl) unescaped) ends, execute, terminal_eq]
  simp [Terminal.reply?, Terminal.overflows, unknown?]

/-- A title with a semicolon, a line feed and U+009C in it, which arrives in two pieces that a character
is cut into. -/
theorem feed_title_cut :
    let e := (fresh 4 2 5).feed "ab".toUTF8.toList
    let calls := ["\x1b]2;a;\n".toUTF8.toList ++ [0xC2], 0x9C :: "\u65E5\x1b\\".toUTF8.toList]
    e.scanner = Scanner.ground ∧
      calls.foldl feed e = { e with terminal := { e.terminal with title := "a;\n\u009C\u65E5".toList } } := by
  intro e calls
  have between : e.scanner = Scanner.ground := by decide +kernel
  have sent : calls.flatten = 0x1B :: 0x5D ::
      (Text.Utf8.encode ('2' :: ';' :: "a;\n\u009C\u65E5".toList) ++ [0x1B, 0x5C]) := by decide +kernel
  have fits : (Text.Utf8.encode "a;\n\u009C\u65E5".toList).length ≤ 4094 := by decide +kernel
  have set := feed_title between (by decide : '2' ∈ ['0', '1', '2']) (by decide +kernel)
    (by decide +kernel) (.inr rfl) sent
  dsimp only at set
  rw [if_pos fits] at set
  exact ⟨between, set⟩

end TerminalSession.Emulator
