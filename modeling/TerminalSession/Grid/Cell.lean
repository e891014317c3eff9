import TerminalSession.Grid.Style
import TerminalSession.Text.CodeRange

/-!
# Cells

One place of the grid.

## Main definitions

* `Cell`: the characters shown at a place, the columns they take, and their style
* `Cell.erased`, `Cell.space`, `Cell.rightHalf`: the cells that terminal functions leave behind

## Design notes

* A wide character is a cell of width 2 followed by a cell of width 0, its right half. The right
  half shows nothing, so a row is read by leaving the right halves out.
* A cell that was never written and a cell that was erased show no character at all; they are drawn
  as a space.
-/

namespace TerminalSession

/-- One place of the grid. The glyph is a character and the marks that combine with it. A wide
character has width 2 and is followed by a right half, which has width 0 and is left out when a row
is read. -/
structure Cell where
  glyph : Text := []
  width : Nat := 1
  style : Style := {}
  deriving DecidableEq, Repr, Inhabited

namespace Cell

/-- A cell that was never written: no glyph, one column, the plain style. -/
def empty : Cell := {}

/-- A cell whose content was erased in the given style. -/
def erased (style : Style) : Cell := { style }

/-- The space that is left of a wide character when its other half is written over. -/
def space (style : Style) : Cell := { glyph := [' '], style }

/-- The right half of a wide character, in its style. It has no glyph and no width of its own. -/
def rightHalf (style : Style) : Cell := { width := 0, style }

/-- Whether the cell is the right half of the wide character before it. -/
def isRightHalf (cell : Cell) : Bool := cell.width == 0

/-- Whether the cell looks as if it was never written. -/
def isBlank (cell : Cell) : Bool :=
  (cell.glyph == [] || cell.glyph == [' ']) && cell.width == 1 && cell.style == {}

/-- What is drawn for the cell. -/
def shown (cell : Cell) : Text :=
  if cell.glyph.isEmpty then [' '] else cell.glyph

@[simp] theorem isBlank_empty : empty.isBlank = true := rfl

@[simp] theorem isRightHalf_rightHalf (style : Style) : (rightHalf style).isRightHalf = true := rfl

@[simp] theorem isRightHalf_empty : empty.isRightHalf = false := rfl

@[simp] theorem width_erased (style : Style) : (erased style).width = 1 := rfl

@[simp] theorem width_space (style : Style) : (space style).width = 1 := rfl

end Cell

end TerminalSession
