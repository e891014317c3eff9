import TerminalSession.Control.Token

/-!
# Functions of control sequences

What a control sequence asks a terminal to do.

## Main definitions

* `ControlFunction`: the functions that a terminal knows
* `ControlSequence.isForeign`: sequences of other families, told by their intermediates
* `ControlSequence.function?`: the function that a sequence asks for

## Design notes

* A sequence without a marker, with the marker `?` and with the marker `>` belongs to three
  different families of functions. Any other marker or intermediate makes it foreign, even if its
  final character is known.
* A count that is missing or 0 means 1.
-/

namespace TerminalSession

/-- What a terminal can be asked to do by a control sequence. Counts and positions are those of the
sequence, with the defaults put in for parameters that were left out; whether they make sense at the
size of the terminal is for the terminal to decide. -/
inductive ControlFunction where
  | cursorUp (n : Nat)
  | cursorDown (n : Nat)
  | cursorForward (n : Nat)
  | cursorBackward (n : Nat)
  | nextLine (n : Nat)
  | previousLine (n : Nat)
  | moveToCol (col : Nat)
  | moveToRow (row : Nat)
  | moveTo (row col : Nat)
  | eraseDisplay (mode : Nat)
  | eraseLine (mode : Nat)
  | insertLines (n : Nat)
  | deleteLines (n : Nat)
  | insertChars (n : Nat)
  | deleteChars (n : Nat)
  | eraseChars (n : Nat)
  | scrollUp (n : Nat)
  | scrollDown (n : Nat)
  /-- The rows that scroll; without a bottom, down to the last row. -/
  | setRegion (top : Nat) (bottom : Option Nat)
  | selectRendition (params : List Nat)
  | saveCursor
  | restoreCursor
  /-- A report, 5 of the status and 6 of the cursor position. -/
  | report (kind : Option Nat)
  | identify
  | identifySecondary
  | setModes (modes : List Nat) (enable : Bool)
  | setPrivateModes (modes : List Nat) (enable : Bool)
  deriving DecidableEq, Repr, Inhabited

namespace ControlSequence

/-- Whether the marker `?` came. -/
def isPrivate (s : ControlSequence) : Bool := s.intermediates.contains 0x3F

/-- Whether the marker `>` came. -/
def isSecondary (s : ControlSequence) : Bool := s.intermediates.contains 0x3E

/-- Whether another marker or an intermediate came. Such a sequence belongs to a family of which
nothing is known. -/
def isForeign (s : ControlSequence) : Bool := s.intermediates.any fun b => b != 0x3F && b != 0x3E

/-- The first parameter as a count. Zero and a parameter that is left out count as one, so that no
function is asked to do nothing. -/
def count (s : ControlSequence) : Nat :=
  match s.params with
  | [] => 1
  | n :: _ => if n = 0 then 1 else n

/-- The functions of sequences without a marker, by their final character. A count that is left out
or zero means one. The parts to erase are numbered from zero, and the lower end of a region that is
left out or zero is the end of the screen. -/
def standard? (s : ControlSequence) : Option ControlFunction :=
  match s.final with
  | 'A' => some (.cursorUp s.count)
  | 'B' => some (.cursorDown s.count)
  | 'e' => some (.cursorDown s.count)
  | 'C' => some (.cursorForward s.count)
  | 'a' => some (.cursorForward s.count)
  | 'D' => some (.cursorBackward s.count)
  | 'E' => some (.nextLine s.count)
  | 'F' => some (.previousLine s.count)
  | 'G' => some (.moveToCol s.count)
  | '\x60' => some (.moveToCol s.count)
  | 'H' => some (.moveTo (s.params[0]?.getD 1) (s.params[1]?.getD 1))
  | 'f' => some (.moveTo (s.params[0]?.getD 1) (s.params[1]?.getD 1))
  | 'd' => some (.moveToRow s.count)
  | 'J' => some (.eraseDisplay (s.params[0]?.getD 0))
  | 'K' => some (.eraseLine (s.params[0]?.getD 0))
  | 'L' => some (.insertLines s.count)
  | 'M' => some (.deleteLines s.count)
  | '@' => some (.insertChars s.count)
  | 'P' => some (.deleteChars s.count)
  | 'X' => some (.eraseChars s.count)
  | 'S' => some (.scrollUp s.count)
  | 'T' => some (.scrollDown s.count)
  | 'r' => some (.setRegion s.count (s.params[1]?.filter (· != 0)))
  | 'm' => some (.selectRendition s.params)
  | 's' => some .saveCursor
  | 'u' => some .restoreCursor
  | 'n' => some (.report s.params[0]?)
  | 'c' => some .identify
  | 'h' => some (.setModes s.params true)
  | 'l' => some (.setModes s.params false)
  | _ => none

/-- The function that a sequence asks for, if the terminal knows it. The markers decide which family
it is looked up in. -/
def function? (s : ControlSequence) : Option ControlFunction :=
  if s.isForeign then none
  else if s.isPrivate then
    if s.isSecondary then none
    else match s.final with
      | 'h' => some (.setPrivateModes s.params true)
      | 'l' => some (.setPrivateModes s.params false)
      | _ => none
  else if s.isSecondary then (if s.final = 'c' then some .identifySecondary else none)
  else s.standard?

end ControlSequence

end TerminalSession
