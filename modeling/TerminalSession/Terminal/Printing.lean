import TerminalSession.Terminal.Editing
import TerminalSession.Text.Width

/-!
# Printing

Putting a character on the screen.

## Main definitions

* `Terminal.combine`: a character without width joins the one before the cursor
* `Terminal.wrapFor`: makes room when the cursor has reached the margin
* `Terminal.place`: writes into the cursor's cell and moves on
* `Terminal.print`: all of it

## Design notes

* The margin is reached by a cursor past the last column, and for a wide character already in the
  last column, unless that is the only one.
-/

namespace TerminalSession.Terminal

/-- A character without width joins the character before the cursor. It does so with any character
for which no width is known, too. -/
def combine (t : Terminal) (c : Char) : Terminal :=
  let col := t.cursor.col
  t.modifyCursorRow fun row => row.combine col c

/-- Whether a character of a width finds no room in the cursor's row. In a single column a wide
character has as much room as any other. -/
def atMargin (t : Terminal) (width : Nat) : Bool :=
  t.cols ≤ t.cursor.col || (width == 2 && t.cols ≤ t.cursor.col + 1 && 1 < t.cols)

/-- Makes room for a character at the margin: on the next row with automatic wrap, and otherwise
over the last characters of the row. -/
def wrapFor (t : Terminal) (width : Nat) : Terminal :=
  if t.atMargin width then
    if t.modes.autoWrap then
      (t.modifyCursorRow fun row => { row with wrapped := true }).carriageReturn.lineFeed
    else t.modifyCursor fun c => { c with col := t.cols - width }
  else t

/-- Writes a character into the cursor's cell and moves past it. In the mode that inserts, room is
made first. A cursor at the margin, where no wrap has made room, writes nothing. -/
def place (t : Terminal) (c : Char) (width : Nat) : Terminal :=
  let col := t.cursor.col
  if t.cols ≤ col then t
  else
    let t := if t.modes.insert then t.insertChars width else t
    let style := t.style
    let t := t.modifyCursorRow fun row => row.write col { glyph := [c], width, style }
    t.modifyCursor fun cursor => { cursor with col := cursor.col + width }

/-- Prints a character: one that has a width after a possible wrap, and any other on the character
before it. -/
def print (t : Terminal) (c : Char) : Terminal :=
  match Text.charWidth c with
  | 0 => t.combine c
  | width => (t.wrapFor width).place c width

end TerminalSession.Terminal
