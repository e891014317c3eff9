import TerminalSession.Proofs.Terminal.Frame

/-!
# The size of a terminal

Output never changes the size of a terminal: only `Terminal.resize` does.

## Main definitions

* `Terminal.size`: the columns and rows

## Main statements

* `Terminal.size_perform`, `Terminal.size_execute`: operations and tokens keep the size
* `Terminal.size_resize`: a change of the size gives the one that was asked for
-/

namespace TerminalSession.Terminal

/-- The columns and rows of a terminal. -/
def size (t : Terminal) : Nat × Nat := (t.cols, t.rows)

theorem cols_eq_of_size_eq {t t' : Terminal} (same : t'.size = t.size) : t'.cols = t.cols :=
  congrArg Prod.fst same

theorem rows_eq_of_size_eq {t t' : Terminal} (same : t'.size = t.size) : t'.rows = t.rows :=
  congrArg Prod.snd same

/-- The size is no part of a screen, of a cursor or of what both screens share. -/
theorem size_frame (size : Nat × Nat) : Frame fun t => t.size = size where
  modifyScreen same _ _ := by
    rw [Terminal.size, cols_modifyScreen, rows_modifyScreen]
    exact same
  modifyCursor same f := by
    rw [Terminal.size, cols_modifyCursor, rows_modifyCursor]
    exact same
  share same _ _ _ _ := same

theorem size_switchScreen (t : Terminal) (toAlternate : Bool) :
    (t.switchScreen toAlternate).size = t.size := by
  unfold switchScreen
  split <;> rfl

/-- No operation changes the size of a terminal. -/
theorem size_perform (t : Terminal) (op : Operation) : (op.perform t).size = t.size := by
  by_cases begun : op = .reset
  · rw [begun]
    rfl
  · have switches {t' : Terminal} (same : t'.size = t.size) (enable : Bool) :
        (t'.switchScreen enable).size = t.size := (size_switchScreen t' enable).trans same
    exact (size_frame t.size).perform_of_switches switches rfl begun

theorem size_performAll (t : Terminal) (operations : List Operation) :
    (Operation.performAll t operations).size = t.size :=
  Operation.performAll_induction (P := fun t' => t'.size = t.size)
    (fun t' op same => (size_perform t' op).trans same) rfl operations

/-- Nor does any token of an output stream. -/
@[simp] theorem size_execute (t : Terminal) (token : Token) : (t.execute token).size = t.size := by
  rw [execute_eq_performAll]
  exact t.size_performAll _

@[simp] theorem size_scrollWindow (t : Terminal) (delta : Int) :
    (t.scrollWindow delta).size = t.size := by
  rw [scrollWindow, size, cols_modifyScreen, rows_modifyScreen]
  rfl

@[simp] theorem size_resize (t : Terminal) (cols rows : Nat) :
    (t.resize cols rows).size = (cols, rows) := by
  unfold resize
  split
  next same => simp [size, same]
  · rfl

end TerminalSession.Terminal
