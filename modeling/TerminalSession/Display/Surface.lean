import TerminalSession.Display.Metrics

/-!
# Surfaces

What a view needs of the place where it draws.

## Main definitions

* `Frame`: one drawing of the grid
* `SurfaceFault`: why nothing could be drawn
* `Surface`: the operations of a drawing area

## Design notes

* An operation that fails may still have changed the surface, so it gives back the surface in any
  case.
-/

namespace TerminalSession

/-- One drawing of the grid: all that a surface is told of a session at that moment. -/
structure Frame where
  /-- The rows of the window, with a line feed between them. -/
  text : Text
  /-- Where the cursor is drawn; it is hidden when there is no place. -/
  cursor : Option Point := none
  title : Option Text := none
  /-- Rows above the live end; none while the end is followed. -/
  offset : Nat := 0
  deriving Inhabited

/-- Why nothing could be drawn, in words of the surface. -/
structure SurfaceFault where
  reason : String
  deriving DecidableEq, Repr, Inhabited

/-- The operations of a drawing area. Each hands back the area, and drawing may fail without harm to
the session that is drawn. -/
class Surface (σ : Type) where
  /-- The geometry at this moment. -/
  metrics : σ → Metrics
  /-- A frame is drawn. -/
  present : σ → Frame → σ × Option SurfaceFault
  /-- A message takes the place of the grid. -/
  showMessage : σ → String → σ × Option SurfaceFault

end TerminalSession
