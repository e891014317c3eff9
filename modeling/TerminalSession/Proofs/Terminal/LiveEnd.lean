import TerminalSession.Proofs.Emulator.Run
import TerminalSession.Proofs.Terminal.Frame

/-!
# Terminals at the live end

A window that stands at the live end stays there, whatever the terminal does. Output that grows,
empties or replaces the history, a change of the screen and a change of the size move a window only
if it stands back.

## Main definitions

* `Screen.AtEnd`, `Terminal.AtEnd`: the window stands at the live end

## Main statements

* `Terminal.AtEnd.perform`: every operation leaves the window at the live end
* `Terminal.AtEnd.feed`, `Terminal.AtEnd.resize`: so do output and a change of the size

## Design notes

* The two screens have an offset each. Entering the alternate screen makes it anew and leaving it
  resets the primary one, so it is enough to speak of the screen in use.
* That operations leave a window at the live end is shown with what else they leave alone, in
  `Terminal.Frame`. Only choosing a screen, beginning anew and a change of the size are looked at here.
-/

namespace TerminalSession

namespace Screen

/-- The window of a screen stands at the live end, and shows the screen and no row of its
history. -/
def AtEnd (s : Screen) : Prop := s.offset = 0

namespace AtEnd

variable {s : Screen}

/-- A window is brought within the history that is left, and the live end is always within it. -/
theorem crop (at_end : s.AtEnd) (cols rows : Nat) : (s.crop cols rows).AtEnd := by
  show min s.offset s.history.size = 0
  rw [show s.offset = 0 from at_end, Nat.zero_min]

/-- The same after a reflow, where the history is another one. -/
theorem reflow (at_end : s.AtEnd) (cols rows row col : Nat) :
    (s.reflow cols rows row col).1.AtEnd := by
  show min s.offset _ = 0
  rw [show s.offset = 0 from at_end, Nat.zero_min]

end AtEnd

end Screen

namespace Terminal

/-- The window of the screen in use stands at the live end. -/
def AtEnd (t : Terminal) : Prop := t.screen.AtEnd

namespace AtEnd

variable {t : Terminal}

/-- A window at the live end is nothing that an operation can change, as long as the same screen stays
in use. -/
theorem frame : Frame AtEnd where
  modifyScreen {t} at_end f tame := by
    show (t.modifyScreen f).screen.AtEnd
    rw [screen_modifyScreen]
    exact tame.offset_eq_zero _ at_end
  modifyCursor {t} at_end f := by
    show (t.modifyCursor f).screen.AtEnd
    rw [screen_modifyCursor]
    exact at_end
  share at_end _ _ _ _ := at_end

/-- Either screen has its window at the live end when it comes into use. -/
theorem switchScreen (at_end : t.AtEnd) (toAlternate : Bool) :
    (t.switchScreen toAlternate).AtEnd := by
  unfold Terminal.switchScreen
  split
  · exact at_end
  · cases toAlternate with
    | true => rfl
    | false => rfl

/-- Every operation leaves a window at the live end there, whatever its arguments. -/
theorem perform (at_end : t.AtEnd) (op : Operation) : (op.perform t).AtEnd := by
  by_cases begun : op = .reset
  · rw [begun]
    rfl
  · exact frame.perform_of_switches switchScreen at_end begun

/-- So does every token of an output stream. -/
theorem execute (at_end : t.AtEnd) (token : Token) : (t.execute token).AtEnd := by
  rw [t.execute_eq_performAll token]
  exact Operation.performAll_induction (fun _ op at_end => at_end.perform op) at_end _

/-- A stream of output leaves a window at the live end there. -/
theorem feed {e : Emulator} (at_end : e.terminal.AtEnd) (bytes : List UInt8) :
    (e.feed bytes).terminal.AtEnd :=
  Emulator.feed_induction (fun _ token at_end => at_end.execute token) at_end bytes

/-- So does a change of the size. -/
theorem resize (at_end : t.AtEnd) (cols rows : Nat) : (t.resize cols rows).AtEnd := by
  unfold Terminal.resize
  split
  · exact at_end
  -- One screen is cropped and the other one reflowed; only the one in use is known to be at the end.
  · by_cases on : t.onAlternate = true
    · have cropped : t.alternate.AtEnd := by simpa [AtEnd, Terminal.screen, on] using at_end
      simpa [AtEnd, Terminal.screen, on] using cropped.crop cols rows
    · have reflowed : t.primary.AtEnd := by simpa [AtEnd, Terminal.screen, on] using at_end
      simpa [AtEnd, Terminal.screen, on] using reflowed.reflow cols rows _ _

end AtEnd

end Terminal

end TerminalSession
