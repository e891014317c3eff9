import TerminalSession.Proofs.Grid.Regions
import TerminalSession.Proofs.Terminal.Remembering

/-!
# Operations that move rows

Scrolling, inserting rows and deleting rows go row by row. Each of them comes to one movement of the
rows of a region, by as many places as were asked for or as the region has rows.

## Main definitions

* `Terminal.regionSteps`, `Terminal.cursorSteps`: by how many places rows move, in the region that
  scrolls and from the cursor's row on

## Main statements

* `Terminal.WellFormed.scrollUp_eq` and its companions: what each operation comes to
* `Terminal.WellFormed.moves_at_once`: all of them, and what each row is then

## Design notes

* An equation with `Terminal.modifyScreen` says what becomes of the screen in use, and that the other
  screen, both cursors and all that the screens share stay as they are. The movement itself leaves the
  history and the window alone, so these change only by the rows that enter the history.
-/

namespace TerminalSession.Terminal

variable {limit : Nat} {t : Terminal}

/-- By how many places the rows of the region move when `n` are asked for. -/
def regionSteps (t : Terminal) (n : Nat) : Nat := min n (t.region.bottom - t.region.top + 1)

/-- By how many places the rows from the cursor's row to the end of the region move. -/
def cursorSteps (t : Terminal) (n : Nat) : Nat := min n (t.region.bottom - t.cursor.row + 1)

theorem leavingByScroll_of_not_remembers (forgets : t.remembers = false) (n : Nat) :
    t.leavingByScroll n = [] :=
  if_neg (Bool.eq_false_iff.mp forgets)

namespace WellFormed

theorem bottom_lt_screen (wf : t.WellFormed limit) : t.region.bottom < t.screen.rows.size := by
  obtain ⟨_, fits⟩ := wf.screen_fits
  rw [fits.size_rows]
  exact wf.bottom_lt

/-- Scrolling up moves the rows of the region at once, and those that leave it enter the history one
after the other if they are remembered at all. -/
theorem scrollUp_eq (wf : t.WellFormed limit) (n : Nat) :
    t.scrollUp n = t.modifyScreen fun s =>
      (s.shiftUp t.cols t.region.top t.region.bottom (t.regionSteps n)).rememberAll
        (t.leavingByScroll n) := by
  refine modifyScreen_congr ?_
  cases remembers : t.remembers with
  | true =>
    obtain ⟨on_primary, top_eq⟩ : t.onAlternate = false ∧ t.region.top = 0 := by
      simpa [Terminal.remembers] using remembers
    have screen_eq : t.screen = t.primary := if_neg (Bool.eq_false_iff.mp on_primary)
    rw [leavingByScroll, if_pos remembers, regionSteps, top_eq, screen_eq]
    exact Screen.iterate_scrollUp_remembering wf.primary wf.bottom_lt (by omega)
  | false =>
    rw [leavingByScroll_of_not_remembers remembers, Screen.rememberAll_nil]
    exact Screen.iterate_scrollUp wf.top_le_bottom wf.bottom_lt_screen (Nat.min_le_right _ _)

theorem scrollDown_eq (wf : t.WellFormed limit) (n : Nat) :
    t.scrollDown n = t.modifyScreen fun s =>
      s.shiftDown t.cols t.region.top t.region.bottom (t.regionSteps n) :=
  modifyScreen_congr
    (Screen.iterate_addLine wf.top_le_bottom wf.bottom_lt_screen (Nat.min_le_right _ _))

theorem insertLines_eq (wf : t.WellFormed limit) (n : Nat) :
    t.insertLines n =
      if t.region.top ≤ t.cursor.row ∧ t.cursor.row ≤ t.region.bottom then
        t.modifyScreen fun s =>
          s.shiftDown t.cols t.cursor.row t.region.bottom (t.cursorSteps n)
      else t := by
  simp only [Terminal.insertLines, inRegion, Bool.and_eq_true, decide_eq_true_eq]
  split
  next inside =>
    exact modifyScreen_congr
      (Screen.iterate_addLine inside.2 wf.bottom_lt_screen (Nat.min_le_right _ _))
  · rfl

theorem deleteLines_eq (wf : t.WellFormed limit) (n : Nat) :
    t.deleteLines n =
      if t.region.top ≤ t.cursor.row ∧ t.cursor.row ≤ t.region.bottom then
        t.modifyScreen fun s => s.shiftUp t.cols t.cursor.row t.region.bottom (t.cursorSteps n)
      else t := by
  simp only [Terminal.deleteLines, inRegion, Bool.and_eq_true, decide_eq_true_eq]
  split
  next inside =>
    exact modifyScreen_congr
      (Screen.iterate_dropLine inside.2 wf.bottom_lt_screen (Nat.min_le_right _ _))
  · rfl

/-- Scrolling, inserting rows and deleting rows come to one movement of rows in the screen in use, and
leave everything else as it is. The rows that scroll up enter the history only when they leave the first
row of the primary screen. Inserting and deleting does nothing when the cursor stands outside the region
that scrolls. At last it is said what each row is when the rows from one to the end of that region move
up or down, and that this is all that changes in the screen. -/
theorem moves_at_once (wf : t.WellFormed limit) (n : Nat) :
    let top := t.region.top
    let bottom := t.region.bottom
    let row := t.cursor.row
    (t.scrollUp n = t.modifyScreen fun s =>
        (s.shiftUp t.cols top bottom (t.regionSteps n)).rememberAll (t.leavingByScroll n)) ∧
      (t.onAlternate = true ∨ top ≠ 0 →
        t.scrollUp n = t.modifyScreen fun s => s.shiftUp t.cols top bottom (t.regionSteps n)) ∧
      (t.scrollDown n = t.modifyScreen fun s => s.shiftDown t.cols top bottom (t.regionSteps n)) ∧
      (t.insertLines n = if top ≤ row ∧ row ≤ bottom then
          t.modifyScreen fun s => s.shiftDown t.cols row bottom (t.cursorSteps n)
        else t) ∧
      (t.deleteLines n = if top ≤ row ∧ row ≤ bottom then
          t.modifyScreen fun s => s.shiftUp t.cols row bottom (t.cursorSteps n)
        else t) ∧
      ∀ first k, first ≤ bottom → k ≤ bottom - first + 1 →
        let up := t.screen.shiftUp t.cols first bottom k
        let down := t.screen.shiftDown t.cols first bottom k
        up.past = t.screen.past ∧ down.past = t.screen.past ∧
          ∀ i : Nat,
            (up.rows[i]? =
              if i < first ∨ bottom < i then t.screen.rows[i]?
              else if i + k ≤ bottom then t.screen.rows[i + k]?
              else some (Row.blank t.cols)) ∧
            (down.rows[i]? =
              if i < first ∨ bottom < i then t.screen.rows[i]?
              else if first + k ≤ i then t.screen.rows[i - k]?
              else some (Row.blank t.cols)) := by
  refine ⟨wf.scrollUp_eq n, fun forgets => ?_, wf.scrollDown_eq n, wf.insertLines_eq n,
    wf.deleteLines_eq n, fun first k first_le k_le => ⟨rfl, rfl, fun i => ⟨?_, ?_⟩⟩⟩
  · have forgets : t.remembers = false := by
      obtain alternate | below := forgets
      · simp [Terminal.remembers, alternate]
      · simp [Terminal.remembers, below]
    rw [wf.scrollUp_eq n, leavingByScroll_of_not_remembers forgets]
    rfl
  · rw [Screen.getElem?_rows_shiftUp first_le wf.bottom_lt_screen k_le]
    simp only [← Nat.not_le, ite_not]
  · rw [Screen.getElem?_rows_shiftDown first_le wf.bottom_lt_screen k_le]
    simp only [← Nat.not_le, ite_not]

/-- Six rows, of which the second to the fifth scroll, with the cursor in the third. More lines than
there is room for below the cursor are as many as there is room for. -/
theorem moves_at_once_sixRows :
    let t := Operation.performAll (Terminal.fresh 2 6 3)
      [.print 'a', .moveTo 2 1, .print 'b', .moveTo 3 1, .print 'c', .moveTo 4 1, .print 'd',
        .moveTo 5 1, .print 'e', .moveTo 6 1, .print 'f', .setRegion 2 5, .moveTo 3 2]
    t.WellFormed 3 ∧
      (t.scrollUp 2 = t.modifyScreen fun s => s.shiftUp 2 1 4 2) ∧
      (t.insertLines 7 = t.modifyScreen fun s => s.shiftDown 2 2 4 3) ∧
      ((t.scrollUp 2).screen.rows.map Row.trimmed = #[['a'], ['d'], ['e'], [], [], ['f']]) ∧
      ((t.scrollDown 1).screen.rows.map Row.trimmed = #[['a'], [], ['b'], ['c'], ['d'], ['f']]) ∧
      ((t.insertLines 7).screen.rows.map Row.trimmed = #[['a'], ['b'], [], [], [], ['f']]) ∧
      ((t.deleteLines 1).screen.rows.map Row.trimmed = #[['a'], ['b'], ['d'], ['e'], [], ['f']]) := by
  intro t
  have wf : t.WellFormed 3 := (WellFormed.fresh 3 (by decide) (by decide)).performAll _
  have cols_eq : t.cols = 2 := by decide +kernel
  have region_eq : t.region = { top := 1, bottom := 4 } := by decide +kernel
  have row_eq : t.cursor.row = 2 := by decide +kernel
  have up := (wf.moves_at_once 2).2.1
  have insert := (wf.moves_at_once 7).2.2.2.1
  simp only [regionSteps, cursorSteps, cols_eq, region_eq, row_eq] at up insert
  exact ⟨wf, up (.inr (by decide)), insert, by decide +kernel, by decide +kernel, by decide +kernel,
    by decide +kernel⟩

end WellFormed

end TerminalSession.Terminal
