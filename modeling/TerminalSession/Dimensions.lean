/-!
# Dimensions

## Main definitions

* `Dimensions`: the size of a grid in cells
* `Dimensions.clamped`: a size made from any two numbers

## Design notes

* A session never uses fewer than two columns or rows: a wide character needs two columns. Sizes are
  words of 16 bits for the process that runs in the terminal.
-/

namespace TerminalSession

/-- The size of a grid in cells. Nothing is asked of the two numbers here: a session clamps what it
is given by `Dimensions.clamped`, and an engine refuses a size without columns or rows. -/
structure Dimensions where
  cols : Nat
  rows : Nat
  deriving DecidableEq, Repr, Inhabited

namespace Dimensions

/-- The fewest columns or rows of a session. An engine can have one; a session keeps room for a wide
character. -/
def least : Nat := 2

/-- The most columns or rows of a session, which is the greatest word of 16 bits. -/
def greatest : Nat := 65535

/-- A number brought into the range of columns and rows. A number inside it stays as it is. -/
def clampSide (n : Int) : Nat :=
  (max (least : Int) (min n greatest)).toNat

/-- The nearest size that a session can use. -/
def clamped (cols rows : Int) : Dimensions :=
  { cols := clampSide cols, rows := clampSide rows }

theorem least_le_clampSide (n : Int) : least ≤ clampSide n := by
  unfold clampSide least greatest
  omega

/-- A size as a reader sees it, such as `80x24`. -/
def describe (d : Dimensions) : String :=
  toString d.cols ++ "x" ++ toString d.rows

end Dimensions

end TerminalSession
