import TerminalSession.Terminal.Motion

/-!
# Scrolling

Functions that move whole rows: scrolling the region, inserting and deleting rows, and the line
feeds that scroll at the end of the region.

## Main definitions

* `Terminal.scrollUp`, `Terminal.scrollDown`: move the rows of the region
* `Terminal.insertLines`, `Terminal.deleteLines`: the same from the cursor's row on
* `Terminal.lineFeed`, `Terminal.index`, `Terminal.reverseIndex`: to the next or previous row
* `Terminal.setRegion`: choose the rows that scroll

## Design notes

* Rows are moved one at a time, so that each row that leaves at the top of the primary screen enters
  the history by itself. Moving more rows than the region has moves all of them.
-/

namespace TerminalSession.Terminal

/-- Whether rows that leave the region at its top become history. Those of the alternate screen do
not, and neither do those of a region that begins below the first row. -/
def remembers (t : Terminal) : Bool :=
  !t.onAlternate && t.region.top == 0

/-- The rows of the region move up by `n`, and no further than it is high. The cursor stays where it
is. Rows that leave the primary screen are remembered if the region begins with its first row. -/
def scrollUp (t : Terminal) (n : Nat) : Terminal :=
  let keep := t.remembers
  let cols := t.cols
  let { top, bottom } := t.region
  t.modifyScreen fun s =>
    Nat.repeat (fun s => s.scrollUp cols top bottom keep) (min n (bottom - top + 1)) s

/-- The rows of the region move down by `n`. Those that leave are lost, and none comes back out of
the history. -/
def scrollDown (t : Terminal) (n : Nat) : Terminal :=
  let cols := t.cols
  let { top, bottom } := t.region
  t.modifyScreen fun s =>
    Nat.repeat (fun s => s.scrollDown cols top bottom) (min n (bottom - top + 1)) s

/-- Whether the cursor stands in the region, without regard to its column. -/
def inRegion (t : Terminal) : Bool :=
  t.region.top ≤ t.cursor.row && t.cursor.row ≤ t.region.bottom

/-- Empty rows come in at the cursor; rows at the end of the region are lost. Outside the region
nothing happens. -/
def insertLines (t : Terminal) (n : Nat) : Terminal :=
  let row := t.cursor.row
  let cols := t.cols
  let bottom := t.region.bottom
  if t.inRegion then
    t.modifyScreen fun s =>
      Nat.repeat (fun s => s.addLine cols row bottom) (min n (bottom - row + 1)) s
  else t

/-- Rows at the cursor are taken out; empty rows come in at the end of the region. They are not
remembered, and outside the region nothing happens. -/
def deleteLines (t : Terminal) (n : Nat) : Terminal :=
  let row := t.cursor.row
  let cols := t.cols
  let bottom := t.region.bottom
  if t.inRegion then
    t.modifyScreen fun s =>
      Nat.repeat (fun s => s.dropLine cols row bottom) (min n (bottom - row + 1)) s
  else t

/-- To the next row in the same column; the region scrolls when the cursor stands at its end. In the
last row below a region nothing happens. -/
def index (t : Terminal) : Terminal :=
  if t.cursor.row = t.region.bottom then t.scrollUp 1
  else if t.cursor.row < t.lastRow then t.modifyCursor fun c => { c with row := c.row + 1 }
  else t

/-- A line feed: to the next row, and in new-line mode to its first column. -/
def lineFeed (t : Terminal) : Terminal :=
  if t.modes.newLine then t.index.carriageReturn else t.index

/-- To the previous row; the region scrolls when the cursor stands at its start. -/
def reverseIndex (t : Terminal) : Terminal :=
  if t.cursor.row = t.region.top then t.scrollDown 1 else t.cursorUp 1

/-- The rows from `top` to `bottom`, counted from 1, scroll from now on. A region of fewer than two
rows is not accepted. -/
def setRegion (t : Terminal) (top bottom : Nat) : Terminal :=
  let region : Region := { top := min (top - 1) t.lastRow, bottom := min (bottom - 1) t.lastRow }
  if region.top < region.bottom then { t with region } else t

end TerminalSession.Terminal
