import TerminalSession.Terminal.Motion

/-!
# Private modes and the alternate screen

## Main definitions

* `Terminal.switchScreen`: use the alternate or the primary screen
* `Terminal.setPrivateMode`: the modes that programs set and reset by number
-/

namespace TerminalSession.Terminal

/-- Uses the alternate screen or the primary one. Entering the alternate screen clears it, and
either way the window of the primary screen returns to the live end. -/
def switchScreen (t : Terminal) (toAlternate : Bool) : Terminal :=
  if toAlternate = t.onAlternate then t
  else
    { t with
      alternate := if toAlternate then Screen.blank t.cols t.rows 0 else t.alternate
      primary := { t.primary with offset := 0 }
      onAlternate := toAlternate }

/-- Sets or resets a private mode: 7 automatic wrap, 25 visible cursor, 47 and 1047 alternate
screen, 1048 saved cursor, 1049 alternate screen with a new cursor and the old one saved. -/
def setPrivateMode (t : Terminal) (mode : Nat) (enable : Bool) : Terminal :=
  match mode with
  | 7 => { t with modes := { t.modes with autoWrap := enable } }
  | 25 => t.modifyCursor fun c => { c with visible := enable }
  | 47 => t.switchScreen enable
  | 1047 => t.switchScreen enable
  | 1048 => if enable then t.saveCursor else t.restoreCursor
  | 1049 =>
    if enable then { t.saveCursor.switchScreen true with alternateCursor := {} }
    else (t.switchScreen false).restoreCursor
  | _ => t

/-- Sets or resets a mode: 4 insertion, 20 new line. Others are not known, and setting them changes
nothing. -/
def setMode (t : Terminal) (mode : Nat) (enable : Bool) : Terminal :=
  match mode with
  | 4 => { t with modes := { t.modes with insert := enable } }
  | 20 => { t with modes := { t.modes with newLine := enable } }
  | _ => t

end TerminalSession.Terminal
