import TerminalSession.Display.Surface
import TerminalSession.Text.Lines
import TerminalSession.Text.Message

/-!
# Consoles

A surface that draws into another console with control sequences. A glyph is one cell, and the rows
at the bottom that the host keeps hold a status line.

## Main definitions

* `Console`: the size, the rows kept for the host, and what was written
* `Console.takeOver`, `Console.giveBack`: the console is taken over and given back
* `Console.rowText`: one row, filled to its width
* `Console.frameText`, `Console.messageText`: what a frame and a message write

## Design notes

* Every row is written over its whole width, so nothing of an earlier frame shines through and the
  console need not be cleared.
* A frame is put between the sequences for a synchronized update, so it appears at once.
* Positions are words of 16 bits, counted from one on the wire.
-/

namespace TerminalSession

/-- A console that is drawn into. What is drawn is text with control sequences, which waits in
`output` until it is taken; nothing is known of what the console shows. -/
structure Console where
  /-- The rows at the bottom that are kept for the status line. -/
  chromeRows : Nat
  cols : Nat
  rows : Nat
  /-- The console was taken over and not given back. -/
  taken : Bool := false
  /-- What was written and not taken yet. -/
  output : Text := []
  deriving DecidableEq, Repr, Inhabited

namespace Console

/-! ### Sequences -/

/-- `ESC [` and the rest of a control sequence, which is not looked at. -/
def sequence (rest : Text) : Text := '\x1b' :: '[' :: rest

/-- A number in decimal. -/
def decimal (n : Nat) : Text := Nat.toDigits 10 n

/-- A private mode is set. -/
def setMode (n : Nat) : Text := sequence ('?' :: decimal n ++ ['h'])

/-- A private mode is reset. -/
def resetMode (n : Nat) : Text := sequence ('?' :: decimal n ++ ['l'])

/-- The cursor goes to a cell; column and row are counted from zero here, and from one in what is
written. -/
def moveTo (col row : Nat) : Text :=
  sequence (decimal ((row + 1) % 65536) ++ ';' :: decimal ((col + 1) % 65536) ++ ['H'])

/-- The modes of mouse reports, in the order in which they are set. -/
def mouseModes : List Nat := [1000, 1002, 1003, 1015, 1006]

/-- The cursor is shown. -/
def showCursor : Text := setMode 25

/-- The cursor is hidden. -/
def hideCursor : Text := resetMode 25

/-- The whole screen is cleared. -/
def clearAll : Text := sequence ['2', 'J']

/-- Colours are swapped from here on. -/
def reverseVideo : Text := sequence ['7', 'm']

/-- The plain rendition from here on. -/
def plainVideo : Text := sequence ['0', 'm']

/-- What takes over a console: the alternate screen, mouse reports, bracketed paste, no wrapping. -/
def takeOverText : Text :=
  setMode 1049 ++ mouseModes.flatMap setMode ++ setMode 2004 ++ resetMode 7 ++ clearAll ++
    moveTo 0 0

/-- What gives a console back. -/
def giveBackText : Text :=
  plainVideo ++ plainVideo ++ showCursor ++ setMode 7 ++ resetMode 2004 ++
    mouseModes.reverse.flatMap resetMode ++ resetMode 1049

/-! ### Drawing -/

/-- One row of the console, drawn over its whole width: a text that is too long is cut, and a short
one is followed by spaces. -/
def rowText (row : Nat) (text : Text) (width : Nat) : Text :=
  moveTo 0 row ++ Text.fillRow width text

/-- What the status line tells: the title, and how far the window stands back. -/
def statusLine (frame : Frame) : Text :=
  frame.title.getD "termsession".toList ++
    if 0 < frame.offset then "  [\u2191 ".toList ++ decimal frame.offset ++ " lines]".toList else []

/-- The rows from `row` on, as many as `count`, with the lines of a text as far as there are. Rows
without a line are written as well, so that nothing old is left in them. -/
def gridText (width : Nat) (row : Nat) : Nat → List Text → Text
  | 0, _ => []
  | count + 1, lines =>
    rowText row (lines.head?.getD []) width ++ gridText width (row + 1) count lines.tail

/-- The rows above the status line, if there are any. -/
def gridRows (c : Console) : Nat := c.rows - c.chromeRows

/-- What a frame writes: its rows, the status line in reverse if there is a row for it, and the
cursor, all held back by the console until the end of the frame. -/
def frameText (c : Console) (frame : Frame) : Text :=
  setMode 2026 ++ hideCursor ++ gridText c.cols 0 c.gridRows (Text.lines frame.text) ++
    (if c.gridRows < c.rows then
      reverseVideo ++ rowText c.gridRows (statusLine frame) c.cols ++ plainVideo
    else []) ++
    (match frame.cursor with
      | some point => moveTo point.x.toUInt16.toNat point.y.toUInt16.toNat ++ showCursor
      | none => []) ++
    resetMode 2026

/-- What a message in the middle of the console writes. -/
def messageText (c : Console) (message : Text) : Text :=
  hideCursor ++ clearAll ++ moveTo ((c.cols - Text.textWidth message) / 2) (c.rows / 2) ++ message

/-! ### Operations -/

/-- Text goes to the console. -/
def write (c : Console) (text : Text) : Console :=
  { c with output := c.output ++ text }

/-- The console is taken over. What that takes is written, and that it has to be given back is kept
in mind. -/
def takeOver (c : Console) : Console :=
  { c.write takeOverText with taken := true }

/-- The console is given back, if it was taken over. What was set is reset in the opposite order,
the alternate screen last. -/
def giveBack (c : Console) : Console :=
  if c.taken then { c.write giveBackText with taken := false } else c

/-- The console has another size, which is all that it has to know of a change. -/
def setSize (c : Console) (cols rows : Nat) : Console :=
  { c with cols, rows }

/-- What was written, which is then taken. -/
def takeOutput (c : Console) : Console × Text :=
  ({ c with output := [] }, c.output)

instance : Surface Console where
  metrics c :=
    { width := c.cols.toFloat, height := c.rows.toFloat, glyphWidth := 1.0, glyphHeight := 1.0
      chromeHeight := c.chromeRows.toFloat }
  present c frame := (c.write (c.frameText frame), none)
  showMessage c message := (c.write (c.messageText message.toList), none)

end Console

end TerminalSession
