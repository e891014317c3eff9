/-!
# Following and scrolling back

Whether a display follows the live end of the output, and how far it was scrolled back otherwise.

## Main definitions

* `ScrollCommand`: what a user can ask for
* `Viewport`: follows or not, the estimated offset, and what is left of the wheel
* `Viewport.apply`, `Viewport.wheel`: a command or a wheel movement, with the lines by which the
  engine has to move
* `Viewport.sync`: the engine tells its offset

## Design notes

* The viewport does not know how long the history is. It moves on its own estimate, and it sends a
  jump of the greatest possible length where it has to be certain of the end.
* Offsets are words of 64 bits and saturate.
-/

namespace TerminalSession

/-- A movement of the window that a user asks for. Negative lines go to older output. -/
inductive ScrollCommand where
  | lines (n : Int)
  | top
  | bottom
  deriving DecidableEq, Repr, Inhabited

/-- Whether a display follows the live end, and how far it was scrolled back. It moves before the
engine is asked to, so its offset is an estimate until the engine has told its own. -/
structure Viewport where
  following : Bool := true
  /-- Rows above the live end. It is an estimate until the engine tells its own offset. -/
  offset : Nat := 0
  /-- Pixels of wheel movement that do not make up a line yet. -/
  remainder : Float := 0.0
  deriving Inhabited

namespace Viewport

/-- The greatest offset. It stands for the oldest row of any history, as long as the engine has not
told which offset that is. -/
def maxOffset : Nat := 18446744073709551615

/-- The greatest number of lines in one movement. A jump is one of so many lines, so it reaches as
far as any history of no more rows. -/
def maxLines : Nat := 2147483647

/-- The movement that reaches the oldest row of any history. -/
def jumpToTop : Int := -(maxLines : Int)

/-- The movement that reaches the live end from anywhere. -/
def jumpToBottom : Int := maxLines

/-- To the oldest row. The end is no longer followed, even where there is no history. -/
def toTop (v : Viewport) : Viewport × Int :=
  ({ v with following := false, offset := maxOffset }, jumpToTop)

/-- To the live end, which is followed again. The engine is told to move whether or not its window
stands back. -/
def toBottom (v : Viewport) : Viewport × Int :=
  ({ v with following := true, offset := 0 }, jumpToBottom)

/-- By a signed number of lines. Towards older output the end is no longer followed; when the
estimate says that the end is reached again, a jump makes sure. -/
def scrollLines (v : Viewport) (n : Int) : Viewport × Option Int :=
  if n < 0 then
    ({ v with following := false, offset := min (v.offset + n.natAbs) maxOffset }, some n)
  else if n = 0 || v.following then (v, none)
  else
    let v := { v with offset := v.offset - n.natAbs }
    if v.offset = 0 then
      let (v, delta) := v.toBottom
      (v, some delta)
    else (v, some n)

/-- A command: the viewport after it, and the lines by which the engine has to move. To the top and
to the bottom the engine is always asked. -/
def apply (v : Viewport) : ScrollCommand → Viewport × Option Int
  | .lines n => v.scrollLines n
  | .top =>
    let (v, delta) := v.toTop
    (v, some delta)
  | .bottom =>
    let (v, delta) := v.toBottom
    (v, some delta)

/-- A number without its fraction, whatever its sign. -/
def truncate (x : Float) : Float :=
  if x < 0.0 then x.ceil else x.floor

/-- A whole number of lines, within what one movement can have. What is no number counts as none. -/
def lineCount (x : Float) : Int :=
  if x.isNaN then 0
  else if x < -2147483647.0 then -(maxLines : Int)
  else if x > 2147483647.0 then maxLines
  else x.toInt32.toInt

/-- A wheel movement in pixels, towards newer output when positive. It moves the engine once it
makes up a line; the rest is kept. -/
def wheel (v : Viewport) (deltaY glyphHeight : Float) : Viewport × Option Int :=
  if !deltaY.isFinite || glyphHeight ≤ 0.0 then (v, none)
  else
    let total := v.remainder + deltaY
    let lines := truncate (total / glyphHeight)
    if lines == 0.0 then ({ v with remainder := total }, none)
    else { v with remainder := total - lines * glyphHeight }.scrollLines (lineCount lines)

/-- The engine tells its offset. A window that stands at the live end is followed again. -/
def sync (v : Viewport) (actual : Nat) : Viewport :=
  if v.following then v else { v with offset := actual, following := actual == 0 }

end Viewport

end TerminalSession
