import TerminalSession.Proofs.Terminal.Excursion
import TerminalSession.Proofs.Terminal.Following

/-!
# Changes of the size during an excursion

While a program uses the alternate screen, the size may change. The primary screen is reflowed all
the same, so its rows and its history become what they would have become without the excursion. The
place that was saved for its cursor does not follow the text: it is only brought inside the new size,
and this is where the cursor returns to.

## Main definitions

* `Terminal.resizeAway`: a change of the size during an excursion
* `Terminal.primaryPlace`: where the primary cursor stands

## Main statements

* `Terminal.Aside.resize`: what is put aside is reflowed
* `Terminal.resizeAway_eq`: the primary screen and its cursor after the excursion
* `Terminal.resizeAway_agrees_iff`: when the excursion makes no difference
* `Terminal.resizeAway_loses_cursor`: an excursion after which the cursor stands in another row
-/

namespace TerminalSession

/-- A reflow does not see the window, and leaves one at the live end there. -/
theorem Screen.reflow_live (s : Screen) (cols rows row col : Nat) :
    ({ s with offset := 0 } : Screen).reflow cols rows row col =
      ({ (s.reflow cols rows row col).1 with offset := 0 }, (s.reflow cols rows row col).2) := by
  simp [Screen.reflow, Screen.logicalLines, Screen.usedRows]

namespace Terminal

variable {t : Terminal} {primary : Screen} {cursor : Cursor} {cols rows : Nat}

/-- Where the primary cursor stands, by row and column. -/
def primaryPlace (t : Terminal) : Nat × Nat := (t.primaryCursor.row, t.primaryCursor.col)

/-- Where a reflow to a size takes the primary cursor. -/
def reflowedPlace (t : Terminal) (cols rows : Nat) : Nat × Nat :=
  (t.primary.reflow cols rows t.primaryCursor.row t.primaryCursor.col).2

/-- Where the primary cursor stands when it is only brought inside a size. -/
def placeWithin (t : Terminal) (cols rows : Nat) : Nat × Nat :=
  (min t.primaryCursor.row (rows - 1), min t.primaryCursor.col (cols - 1))

/-- The size changes while the alternate screen is in use. -/
def resizeAway (t : Terminal) (cols rows : Nat) : Terminal :=
  ((t.setPrivateMode 1049 true).resize cols rows).setPrivateMode 1049 false

/-- What is put aside is reflowed. -/
theorem Aside.resize (aside : t.Aside primary cursor) (changed : ¬ t.HasSize cols rows) :
    let reflowed := primary.reflow cols rows cursor.row cursor.col
    (t.resize cols rows).Aside reflowed.1
      (({ cursor with row := reflowed.2.1, col := reflowed.2.2 } : Cursor).within cols rows) := by
  obtain ⟨onAlternate, rfl, rfl⟩ := aside
  unfold HasSize at changed
  rw [Terminal.resize, if_neg changed]
  exact ⟨onAlternate, rfl, rfl⟩

/-- Entering the alternate screen does not change the size. -/
theorem hasSize_enter : (t.setPrivateMode 1049 true).HasSize cols rows ↔ t.HasSize cols rows := by
  have size_eq := t.size_perform (.setPrivateMode 1049 true)
  have cols_eq : (t.setPrivateMode 1049 true).cols = t.cols := cols_eq_of_size_eq size_eq
  have rows_eq : (t.setPrivateMode 1049 true).rows = t.rows := rows_eq_of_size_eq size_eq
  rw [HasSize, cols_eq, rows_eq, HasSize]

/-- After an excursion with a change of the size the primary screen is what the change alone makes of
it, with its window at the live end. The cursor is where it stood, as far as the new size reaches. -/
theorem resizeAway_eq (on_primary : t.onAlternate = false) (cols rows : Nat) :
    (t.resizeAway cols rows).primary = { (t.resize cols rows).primary with offset := 0 } ∧
      (t.resizeAway cols rows).primaryPlace =
        if t.HasSize cols rows then t.primaryPlace else t.placeWithin cols rows := by
  have aside := aside_of_enter on_primary
  unfold resizeAway
  by_cases same : t.HasSize cols rows
  · rw [resize_of_hasSize same, resize_of_hasSize (hasSize_enter.mpr same), if_pos same]
    obtain ⟨-, primary_eq, cursor_eq, -⟩ := aside.leave rfl
    rw [primary_eq, primaryPlace, cursor_eq]
    exact ⟨rfl, rfl⟩
  · obtain ⟨-, primary_eq, cursor_eq, -⟩ := (aside.resize (mt hasSize_enter.mp same)).leave rfl
    rw [primary_eq, primaryPlace, cursor_eq, primary_resize same, Screen.reflow_live, if_neg same]
    exact ⟨rfl, rfl⟩

/-- A change of the size alone takes the cursor where the reflow finds it. -/
theorem primaryPlace_resize (changed : ¬ t.HasSize cols rows) :
    (t.resize cols rows).primaryPlace = t.reflowedPlace cols rows := by
  unfold HasSize at changed
  rw [resize, if_neg changed]
  simp only [primaryPlace, reflowedPlace, Cursor.within, Screen.reflow]
  rw [Nat.min_assoc, Nat.min_self, Nat.min_assoc, Nat.min_self]

/-- A change of the size during an excursion leaves the same rows and the same history as without
the excursion. It leaves the cursor in the same place exactly when the size stays the same, or the
reflow finds the cursor where it stood, as far as the new size reaches. -/
theorem resizeAway_agrees_iff {t : Terminal} (on_primary : t.onAlternate = false)
    (cols rows : Nat) :
    let away := t.resizeAway cols rows
    let direct := t.resize cols rows
    away.primary.rows = direct.primary.rows ∧
      away.primary.history = direct.primary.history ∧
      (away.primaryPlace = direct.primaryPlace ↔
        t.HasSize cols rows ∨ t.reflowedPlace cols rows = t.placeWithin cols rows) := by
  intro away direct
  obtain ⟨primary_eq, place_eq⟩ : _ ∧ away.primaryPlace = _ := resizeAway_eq on_primary cols rows
  refine ⟨by rw [primary_eq], by rw [primary_eq], ?_⟩
  rw [place_eq]
  by_cases same : t.HasSize cols rows
  · have direct_eq : direct = t := resize_of_hasSize same
    simp [same, direct_eq]
  · have direct_eq : direct.primaryPlace = t.reflowedPlace cols rows := primaryPlace_resize same
    rw [if_neg same, direct_eq, or_iff_right same]
    exact eq_comm

/-- A line of eight columns, and the cursor in the line below it. -/
def belowLongLine : Emulator := (Emulator.fresh 10 3 5).run
  [.output (Text.Utf8.encode "abcdefgh\r\nxy".toList)]

/-- That terminal and not half the columns. The rows are the same in both ways, but the reflow finds the
cursor below the two rows of the long line, and clamping leaves it in the second one. -/
theorem resizeAway_agrees_belowLongLine :
    let t := belowLongLine.terminal
    let away := t.resizeAway 4 3
    let direct := t.resize 4 3
    t.onAlternate = false ∧ away.primary.rows = direct.primary.rows ∧
      away.primary.history = direct.primary.history ∧
      (away.primaryPlace = direct.primaryPlace ↔
        t.HasSize 4 3 ∨ t.reflowedPlace 4 3 = t.placeWithin 4 3) ∧
      (t.reflowedPlace 4 3 = (2, 2) ∧ t.placeWithin 4 3 = (1, 2)) ∧
      (direct.primaryPlace = (2, 2) ∧ away.primaryPlace = (1, 2)) ∧
      away.primary.rows.toList.map Row.trimmed =
        ["abcd".toList, "efgh".toList, "xy".toList] := by
  have on_primary : belowLongLine.terminal.onAlternate = false := by decide +kernel
  obtain ⟨rows_eq, history_eq, place_iff⟩ := resizeAway_agrees_iff on_primary 4 3
  exact ⟨on_primary, rows_eq, history_eq, place_iff, by decide +kernel, by decide +kernel,
    by decide +kernel⟩

/-- The line above takes two rows then. The reflow moves the cursor down with its text, and after an
excursion it stands in the row above, in the middle of the long line. -/
theorem resizeAway_loses_cursor :
    ¬ ∀ (cols rows limit : Nat) (actions : List Emulator.Action) (cols' rows' : Nat),
      0 < cols → 0 < rows → 0 < cols' → 0 < rows' →
      let t := ((Emulator.fresh cols rows limit).run actions).terminal
      t.onAlternate = false → t.primary.offset = 0 → t.primaryCursor.col < t.cols →
        (t.resizeAway cols' rows').primaryPlace = (t.resize cols' rows').primaryPlace := by
  intro all
  have agrees := all 10 3 5 [.output (Text.Utf8.encode "abcdefgh\r\nxy".toList)] 4 3 (by decide)
    (by decide) (by decide) (by decide) (by decide +kernel) (by decide +kernel) (by decide +kernel)
  have direct : (belowLongLine.terminal.resize 4 3).primaryPlace = (2, 2) := by decide +kernel
  have away : (belowLongLine.terminal.resizeAway 4 3).primaryPlace = (1, 2) := by decide +kernel
  exact absurd (away.symm.trans (agrees.trans direct)) (by decide)

end Terminal

end TerminalSession
