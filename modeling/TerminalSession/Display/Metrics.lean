import TerminalSession.Dimensions
import TerminalSession.Terminal.Window

/-!
# Metrics

The geometry of a drawing area, and how cells lie in it.

## Main definitions

* `Metrics`: the area, the size of a glyph, and the height kept for the host
* `Metrics.dimensions`: the grid that fits
* `Metrics.cursorOrigin?`: where the cursor is drawn

## Design notes

* The unit is the area's own: pixels of a window, or cells of a console.
* A measure that makes no sense gives the smallest grid, so a session can always be started.
-/

namespace TerminalSession

/-- A point of a drawing area, from its top left corner, in the units in which glyphs are
measured. -/
structure Point where
  x : Float
  y : Float
  deriving Inhabited

/-- The geometry of a drawing area. The number of columns and rows is what fits of glyphs into it,
less the height that the host keeps for itself. -/
structure Metrics where
  width : Float
  height : Float
  glyphWidth : Float
  glyphHeight : Float
  /-- The part of the height that the host keeps for itself. -/
  chromeHeight : Float
  deriving Inhabited

namespace Metrics

/-- How many whole glyphs fit into an extent. Where the numbers make no sense it is the fewest that
a session can use. -/
def cellCount (extent glyph : Float) : Int :=
  if glyph > 0.0 && extent.isFinite then (extent / glyph).floor.toInt64.toInt
  else Dimensions.least

/-- The grid that fits, in the range of sizes that a session can use. The height that the host keeps
is taken off first. -/
def dimensions (m : Metrics) : Dimensions :=
  Dimensions.clamped (cellCount m.width m.glyphWidth)
    (cellCount (m.height - m.chromeHeight) m.glyphHeight)

/-- The top left corner of the cell in which the cursor is seen, if it is seen at all. Columns and
rows of a report are counted from one. -/
def cursorOrigin? (m : Metrics) (cursor : CursorReport) : Option Point :=
  if !cursor.valid || cursor.col == 0 || cursor.row == 0 then none
  else
    some
      { x := (cursor.col - 1).toFloat * m.glyphWidth
        y := (cursor.row - 1).toFloat * m.glyphHeight }

end Metrics

end TerminalSession
