import TerminalSession.Engine.Builtin
import TerminalSession.Proofs.Control.Strings
import TerminalSession.Proofs.Display.Console
import TerminalSession.Proofs.Emulator.Columns
import TerminalSession.Proofs.Terminal.Characters
import TerminalSession.Proofs.Terminal.Title

/-!
# Control characters on the way to a console

A console that draws a frame would act on a control character in it. None of those of one byte is in the
lines of the window, however the output is made. The title is the text of a command, which may have
them, but not the two that end a command.

## Main statements

* `Emulator.shown_of_mem_lines`: what the lines of the window are made of
* `Emulator.title_feed`: where the title comes from
* `Emulator.controls_feed`: both, and what a console makes of them
* `Emulator.controls_feed_fails`: outputs with a control character in the title and in a line

## Design notes

* Output comes to the console as text by three ways: as a character, as a mark on one, and as a title.
  The first two are one way here, since either begins with a character that is printed.
-/

namespace TerminalSession.Emulator

variable {cols rows : Nat}

/-- Output that reaches an emulator of two columns and more leaves one line for each row. -/
theorem lines_dump_feed (two_le : 2 ≤ cols) (rows_pos : 0 < rows) (limit : Nat)
    (bytes : List UInt8) :
    Text.lines ((fresh cols rows limit).feed bytes).terminal.dump =
      (List.range rows).map ((fresh cols rows limit).feed bytes).terminal.windowRow := by
  have outer : (Action.output bytes).isOuter = true := rfl
  have sound := ((Sound.fresh limit two_le rows_pos).act outer).1.terminal
  have rows_eq : ((fresh cols rows limit).act (.output bytes)).terminal.rows = rows :=
    congrArg Prod.snd ((fresh cols rows limit).size_act (.output bytes))
  have lines_eq := sound.lines_dump
  rw [rows_eq] at lines_eq
  exact lines_eq

/-- The lines of the window are made of spaces and of characters that were printed, none of which is a
control character of one byte. -/
theorem shown_of_mem_lines (two_le : 2 ≤ cols) (rows_pos : 0 < rows) {limit : Nat}
    {bytes : List UInt8} {line : Text}
    (line_mem : line ∈ Text.lines ((fresh cols rows limit).feed bytes).terminal.dump) {c : Char}
    (mem : c ∈ line) :
    (0x20 ≤ c.toNat ∧ c.toNat ≠ 0x7F) ∧
      (c = ' ' ∨ .print c ∈ (Scanner.ground.run bytes).2) := by
  rw [lines_dump_feed two_le rows_pos] at line_mem
  obtain ⟨place, -, rfl⟩ := List.mem_map.mp line_mem
  rw [terminal_feed] at mem
  obtain rfl | printed := Terminal.eq_space_or_print_of_mem mem
  · exact ⟨by decide, .inl rfl⟩
  · exact ⟨graphic_of_print Scanner.hasRoom_ground printed, .inr (print_mem_operations.mp printed)⟩

/-- The title of an emulator that began without one is empty or the title of a command, and the
characters that end a command are not in it. -/
theorem title_feed (cols rows limit : Nat) (bytes : List UInt8) :
    let title := ((fresh cols rows limit).feed bytes).terminal.title
    ('\x07' ∉ title ∧ '\x1b' ∉ title) ∧
      (title = [] ∨ ∃ payload, .command payload ∈ (Scanner.ground.run bytes).2 ∧
        Terminal.titleOf? payload.toList = some title) := by
  intro title
  have origin := Terminal.title_performAll (fresh cols rows limit).terminal
    ((fresh cols rows limit).operations bytes)
  rw [← terminal_feed] at origin
  have none_or_set : title = [] ∨ ∃ payload, .command payload ∈ (Scanner.ground.run bytes).2 ∧
      Terminal.titleOf? payload.toList = some title := by
    obtain begun | none | set := origin
    · exact .inl begun
    · exact .inl none
    · exact .inr (setTitle_mem_operations.mp set)
  refine ⟨?_, none_or_set⟩
  obtain none | ⟨payload, executed, title_eq⟩ := none_or_set
  · rw [none]
    exact ⟨List.not_mem_nil, List.not_mem_nil⟩
  · obtain ⟨no_bel, no_escape⟩ := Scanner.plain_of_mem_run (s := .ground) trivial executed
    refine ⟨fun mem => no_bel ?_, fun mem => no_escape ?_⟩
    · exact Array.mem_toList_iff.mp
        (Terminal.byte_mem_of_mem_title (b := 0x07) title_eq (by decide) mem)
    · exact Array.mem_toList_iff.mp
        (Terminal.byte_mem_of_mem_title (b := 0x1B) title_eq (by decide) mem)

/-- The lines of the window have spaces and printed characters, but no control character of one byte.
The title is what a command has set, without `BEL` and `ESC`. So a console that draws them is handed
rows without control characters of one byte, and those in its status line are from the title. -/
theorem controls_feed (two_le : 2 ≤ cols) (rows_pos : 0 < rows) (limit : Nat)
    (bytes : List UInt8) :
    let e := (fresh cols rows limit).feed bytes
    let tokens := (Scanner.ground.run bytes).2
    let lines := Text.lines (Engine.dump e)
    lines.length = rows ∧
      (∀ line ∈ lines, ∀ c ∈ line,
        (0x20 ≤ c.toNat ∧ c.toNat ≠ 0x7F) ∧ (c = ' ' ∨ .print c ∈ tokens)) ∧
      (∀ title, Engine.title e = some title →
        ('\x07' ∉ title ∧ '\x1b' ∉ title) ∧
          ∃ payload, .command payload ∈ tokens ∧
            Terminal.titleOf? payload.toList = some title) ∧
      ∀ (console : Console) (frame : Frame),
        frame.text = Engine.dump e → frame.title = Engine.title e →
          console.frameText frame =
              console.framed frame.cursor (console.gridLines frame) (Console.statusLine frame) ∧
            (∀ line ∈ console.gridLines frame, ∀ c ∈ line, 0x20 ≤ c.toNat ∧ c.toNat ≠ 0x7F) ∧
            ∀ c ∈ Console.statusLine frame, Text.isControl c = true →
              ∃ title, Engine.title e = some title ∧ c ∈ title := by
  intro e tokens lines
  have shown : ∀ line ∈ lines, ∀ c ∈ line,
      (0x20 ≤ c.toNat ∧ c.toNat ≠ 0x7F) ∧ (c = ' ' ∨ .print c ∈ tokens) :=
    fun line line_mem c mem => shown_of_mem_lines two_le rows_pos line_mem mem
  refine ⟨?count, shown, ?title, fun console frame text_eq title_eq =>
    ⟨console.frameText_eq frame, ?grid, ?status⟩⟩
  case count =>
    have lines_eq : lines = (List.range rows).map e.terminal.windowRow :=
      lines_dump_feed two_le rows_pos limit bytes
    rw [lines_eq, List.length_map, List.length_range]
  case title =>
    intro title found
    obtain ⟨plain, origin⟩ := title_feed cols rows limit bytes
    change e.title? = some title at found
    unfold title? at found
    split at found
    · exact nomatch found
    next titled =>
      obtain rfl := Option.some.inj found
      exact ⟨plain, origin.resolve_left fun none => titled (List.isEmpty_iff.mpr none)⟩
  case grid =>
    intro line line_mem c mem
    obtain rfl | line_mem := Console.mem_lines_of_mem_gridLines line_mem
    · exact absurd mem List.not_mem_nil
    · rw [text_eq] at line_mem
      exact (shown line line_mem c mem).1
  case status =>
    intro c mem control
    rw [← title_eq]
    exact Console.mem_title_of_mem_statusLine mem control

/-- A title with a carriage return, on a console with a row for it. The lines of the grid are free
of control characters, and the one in the status line is that of the title. -/
theorem controls_feed_carriageReturn :
    let e := (fresh 10 2 0).feed "ok\x1b]0;a\rb\x07".toUTF8.toList
    let frame : Frame := { text := Engine.dump e, title := Engine.title e }
    let console : Console := { chromeRows := 1, cols := 10, rows := 3 }
    2 ≤ 10 ∧ 0 < 2 ∧ (Text.lines (Engine.dump e)).length = 2 ∧
      console.gridLines frame = ["ok        ".toList, "          ".toList] ∧
      (∀ line ∈ console.gridLines frame, ∀ c ∈ line, 0x20 ≤ c.toNat ∧ c.toNat ≠ 0x7F) ∧
      Console.statusLine frame = "a\rb".toList ∧
      ∃ title, Engine.title e = some title ∧ '\r' ∈ title := by
  intro e frame console
  obtain ⟨count, -, -, drawn⟩ := controls_feed (by decide : 2 ≤ 10) Nat.two_pos 0
    "ok\x1b]0;a\rb\x07".toUTF8.toList
  obtain ⟨-, grid, status⟩ := drawn console frame rfl rfl
  have status_eq : Console.statusLine frame = "a\rb".toList := by decide +kernel
  exact ⟨by decide, Nat.two_pos, count, by decide +kernel, grid, status_eq,
    status '\r' (by rw [status_eq]; decide) (by decide)⟩

/-- Other control characters come through: those of a title, and those of several bytes in a line.
So the statement above cannot be made for all of them. -/
theorem controls_feed_fails :
    (¬ ∀ (cols rows limit : Nat) (bytes : List UInt8), 2 ≤ cols → 2 ≤ rows →
      ∀ title, Engine.title ((fresh cols rows limit).feed bytes) = some title →
        ∀ c ∈ title, Text.isControl c = false) ∧
    ¬ ∀ (cols rows limit : Nat) (bytes : List UInt8), 2 ≤ cols → 2 ≤ rows →
      ∀ line ∈ Text.lines (Engine.dump ((fresh cols rows limit).feed bytes)),
        ∀ c ∈ line, Text.isControl c = false := by
  refine ⟨fun all => ?title, fun all => ?line⟩
  case title =>
    have graphic := all 10 2 0 "\x1b]0;a\rb\x07".toUTF8.toList (by decide) (by decide)
      "a\rb".toList (by decide +kernel) '\r' (by decide)
    exact absurd graphic (by decide)
  case line =>
    have graphic := all 10 2 0 "a\u009B31m".toUTF8.toList (by decide) (by decide)
      "a\u009B31m      ".toList (by decide +kernel) '\u009B' (by decide)
    exact absurd graphic (by decide)

end TerminalSession.Emulator
