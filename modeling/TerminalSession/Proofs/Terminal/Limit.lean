import TerminalSession.Proofs.Terminal.Frame
import TerminalSession.Terminal.Resizing

/-!
# The room for history

How many rows of history a terminal keeps is settled when it is made. Nothing that is done to it
afterwards changes that, whatever its size.

## Main statements

* `Terminal.limit_frame`: the room for history is a property that operations leave alone
* `Terminal.limit_perform`, `Terminal.limit_performAll`: so operations keep the limit
* `Terminal.limit_resize`, `Terminal.limit_scrollWindow`: so do a change of the size and a movement of
  the window

## Design notes

* The limit of the alternate screen is no part of this: that screen is made anew, without history,
  each time it is entered.
* A terminal that is well-formed has the limit it was made with by definition. What is shown here needs
  no such terminal, and so holds of one without columns or rows, too.
-/

namespace TerminalSession.Terminal

/-- If the alternate screen is in use, the primary one is not changed at all; otherwise the change
keeps its limit. -/
theorem limit_modifyScreen (t : Terminal) {f : Screen → Screen}
    (keeps : ∀ s : Screen, (f s).limit = s.limit) :
    (t.modifyScreen f).primary.limit = t.primary.limit := by
  unfold modifyScreen
  split
  · rfl
  · exact keeps t.primary

/-- The limit of the primary screen is not changed by what operations do to the screen in use, to the
cursor in use and to what both screens share. -/
theorem limit_frame (limit : Nat) : Frame fun t => t.primary.limit = limit where
  modifyScreen {t} same _ tame := (t.limit_modifyScreen tame.limit_eq).trans same
  modifyCursor same f := by
    unfold modifyCursor
    split <;> exact same
  share same _ _ _ _ := same

/-- Choosing a screen replaces the alternate one, or moves the window of the primary one. Neither
concerns the room for history. -/
theorem limit_switchScreen (t : Terminal) (toAlternate : Bool) :
    (t.switchScreen toAlternate).primary.limit = t.primary.limit := by
  unfold switchScreen
  split <;> rfl

/-- No operation changes the room for history, and beginning anew keeps it. -/
theorem limit_perform (t : Terminal) (op : Operation) :
    (op.perform t).primary.limit = t.primary.limit := by
  by_cases begun : op = .reset
  · rw [begun]
    rfl
  · have switches {t' : Terminal} (same : t'.primary.limit = t.primary.limit) (enable : Bool) :
        (t'.switchScreen enable).primary.limit = t.primary.limit :=
      (limit_switchScreen t' enable).trans same
    exact (limit_frame t.primary.limit).perform_of_switches switches rfl begun

/-- Nor does a list of them, and so no output that is read as such a list. -/
theorem limit_performAll (t : Terminal) (operations : List Operation) :
    (Operation.performAll t operations).primary.limit = t.primary.limit :=
  Operation.performAll_induction (P := fun t' => t'.primary.limit = t.primary.limit)
    (fun t' op same => (limit_perform t' op).trans same) rfl operations

/-- A change of the size lays the history out anew, within the same number of rows. -/
theorem limit_resize (t : Terminal) (cols rows : Nat) :
    (t.resize cols rows).primary.limit = t.primary.limit := by
  unfold resize
  split <;> rfl

/-- The window moves over the history and leaves it as it is. -/
theorem limit_scrollWindow (t : Terminal) (delta : Int) :
    (t.scrollWindow delta).primary.limit = t.primary.limit := by
  refine t.limit_modifyScreen fun s => ?_
  unfold Screen.moveWindow
  split <;> rfl

end TerminalSession.Terminal
