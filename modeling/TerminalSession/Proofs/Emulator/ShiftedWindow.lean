import TerminalSession.Proofs.Emulator.FrozenWindow
import TerminalSession.Proofs.Grid.Shifting
import TerminalSession.Proofs.Text.Lines

/-!
# A window over a region that scrolls

A viewer who has gone back sees rows of the history, and below them rows of the screen. When the region
scrolls from the first row on, the window moves with the rows of the history and of the region. It takes
no account of rows below the region, which stand still.

## Main definitions

* `Terminal.windowRowAfter`: what is in a row of the window once some rows have entered the history

## Main statements

* `Terminal.WellFormed.window_scrollUp`: where the window stands then, and what each of its rows shows
* `Emulator.window_scrollUp_run`: so it is in every emulator that can come about, and the text of the
  window is the same if no row below the region is in the window

## Design notes

* Whether the window shows the same is said in full, for the history may be full and rows may be alike.
* A text is told from another one by its lines, and that is possible only if no line has a line feed in
  it. A caller of the operations can put one there; output cannot.
-/

namespace TerminalSession

theorem Row.text_blank (cols : Nat) : (Row.blank cols).text = List.replicate cols ' ' := by
  simp [Row.text, Row.blank, Cell.shown, Cell.empty, Cell.isRightHalf, List.flatMap_replicate]

theorem Row.columns_blank (cols : Nat) : (Row.blank cols).columns = cols := by
  unfold Row.columns Row.blank
  rw [← Array.foldr_toList, Array.toList_replicate]
  induction cols with
  | zero => rfl
  | succ cols ih =>
    rw [List.replicate_succ, List.foldr_cons, ih, Nat.add_comm]
    rfl

/-- A row that was never written shows blanks. -/
theorem Row.render_blank (cols : Nat) : (Row.blank cols).render cols = List.replicate cols ' ' := by
  rw [Row.render, Row.text_blank, Row.columns_blank, Nat.sub_self, List.replicate_zero,
    List.append_nil]

namespace Terminal

variable {limit : Nat} {t : Terminal}

/-- What is in a row of the window once `k` rows of the region have entered the history: what was there
as far as the end of the region, then blank rows, then what was further up. -/
def windowRowAfter (t : Terminal) (k place : Nat) : Text :=
  if place ≤ t.screen.offset + t.region.bottom then t.windowRow place
  else if place ≤ t.screen.offset + t.region.bottom + k then List.replicate t.cols ' '
  else t.windowRow (place - k)

theorem screen_scrollUp (on_primary : t.onAlternate = false) (top_eq : t.region.top = 0) (n : Nat) :
    (t.scrollUp n).screen =
      Nat.repeat (fun s => s.scrollUp t.cols 0 t.region.bottom true)
        (min n (t.region.bottom + 1)) t.screen := by
  have remembers : t.remembers = true := by
    rw [Terminal.remembers, on_primary, top_eq]
    rfl
  unfold scrollUp
  dsimp only
  rw [screen_modifyScreen, remembers, top_eq]
  rfl

theorem size_scrollUp (t : Terminal) (n : Nat) : (t.scrollUp n).size = t.size :=
  size_perform t (.scrollUp n)

/-- Where a window that stands back is, and what each of its rows shows, after the region has scrolled
from the first row on. -/
theorem WellFormed.window_scrollUp (wf : t.WellFormed limit) (on_primary : t.onAlternate = false)
    (top_eq : t.region.top = 0) (back : 0 < t.screen.offset) (n : Nat) :
    let k := min n (t.region.bottom + 1)
    t.screen.offset + k ≤ limit →
      (t.scrollUp n).screen.offset = t.screen.offset + k ∧
        ∀ place, (t.scrollUp n).windowRow place = t.windowRowAfter k place := by
  intro k room
  have screen_eq : t.screen = t.primary := if_neg (Bool.eq_false_iff.mp on_primary)
  have fits : t.screen.Fits t.cols t.rows limit := screen_eq.symm ▸ wf.primary
  have le : k ≤ t.region.bottom + 1 := Nat.min_le_right _ _
  have scrolled := screen_scrollUp on_primary top_eq n
  refine ⟨?_, fun place => ?_⟩
  · rw [scrolled]
    exact Screen.offset_iterate_scrollUp fits wf.bottom_lt le back room
  · have shown := Screen.rowAt?_iterate_scrollUp fits wf.bottom_lt le back room place
    rw [← scrolled] at shown
    have cols_eq : (t.scrollUp n).cols = t.cols := cols_eq_of_size_eq (t.size_scrollUp n)
    unfold windowRowAfter
    by_cases kept : place ≤ t.screen.offset + t.region.bottom
    · rw [if_pos kept] at shown ⊢
      unfold windowRow
      rw [shown, cols_eq]
    · rw [if_neg kept] at shown ⊢
      by_cases empty : place ≤ t.screen.offset + t.region.bottom + k
      · rw [if_pos empty] at shown ⊢
        unfold windowRow
        rw [shown, cols_eq]
        exact Row.render_blank t.cols
      · rw [if_neg empty] at shown ⊢
        unfold windowRow
        rw [shown, cols_eq]

theorem dump_eq_of_windowRow {t' : Terminal} (size : t'.size = t.size)
    (same : ∀ place < t.rows, t'.windowRow place = t.windowRow place) : t'.dump = t.dump := by
  unfold dump
  rw [rows_eq_of_size_eq size,
    List.map_congr_left fun place mem => same place (List.mem_range.mp mem)]

/-- The text of the window is told from another one by its rows. Rows contain no line feed, so the
text can be cut into them again. -/
theorem dump_eq_iff {t' : Terminal} (size : t'.size = t.size) (rows_pos : 0 < t.rows)
    (one_line : ∀ place < t.rows, '\n' ∉ t.windowRow place)
    (one_line' : ∀ place < t.rows, '\n' ∉ t'.windowRow place) :
    t'.dump = t.dump ↔ ∀ place < t.rows, t'.windowRow place = t.windowRow place := by
  have rows_eq : t'.rows = t.rows := rows_eq_of_size_eq size
  have lines_eq {u : Terminal} (no_feed : ∀ place < t.rows, '\n' ∉ u.windowRow place) :
      Text.lines (['\n'].intercalate ((List.range t.rows).map u.windowRow)) =
        (List.range t.rows).map u.windowRow := by
    refine Text.lines_intercalate ?_ ?_
    · simpa using rows_pos.ne'
    · intro text mem
      obtain ⟨place, in_range, rfl⟩ := List.mem_map.mp mem
      exact no_feed place (List.mem_range.mp in_range)
  refine ⟨fun same => ?_, dump_eq_of_windowRow size⟩
  unfold dump at same
  have same_lines := congrArg Text.lines same
  rw [rows_eq, lines_eq one_line, lines_eq one_line'] at same_lines
  exact fun place lt => List.map_inj_left.mp same_lines place (List.mem_range.mpr lt)

end Terminal

namespace Emulator

/-- In every emulator that can come about, a window that stands back moves by the rows that enter the
history when the region scrolls from the first row on, if the limit has room for it.

The rows of the history and of the region stay where they are in the window. If these are all, the text
of the window is the same. Rows below the region do not: as many blank rows come in above them as have
entered the history, and they are that much further down. The text is the same only if this makes no
difference. -/
theorem window_scrollUp_run {cols rows : Nat} (cols_pos : 0 < cols) (rows_pos : 0 < rows)
    (limit : Nat) (actions : List Action) (n : Nat) :
    let t := ((fresh cols rows limit).run actions).terminal
    let k := min n (t.region.bottom + 1)
    t.onAlternate = false → t.region.top = 0 → 0 < t.screen.offset → t.screen.offset + k ≤ limit →
      (t.scrollUp n).screen.offset = t.screen.offset + k ∧
        (∀ place, (t.scrollUp n).windowRow place = t.windowRowAfter k place) ∧
        (t.rows ≤ t.screen.offset + t.region.bottom + 1 → (t.scrollUp n).dump = t.dump) ∧
        ((∀ place < t.rows, '\n' ∉ t.windowRow place) →
          ((t.scrollUp n).dump = t.dump ↔
            ∀ place < t.rows, t.windowRowAfter k place = t.windowRow place)) := by
  intro t k on_primary top_eq back room
  have wf : t.WellFormed limit :=
    ((WellFormed.fresh limit cols_pos rows_pos).run actions).terminal
  obtain ⟨offset_eq, shown⟩ := wf.window_scrollUp on_primary top_eq back n room
  have size := t.size_scrollUp n
  refine ⟨offset_eq, shown, fun covered => ?_, fun one_line => ?_⟩
  · refine Terminal.dump_eq_of_windowRow size fun place lt => ?_
    rw [shown, Terminal.windowRowAfter, if_pos (by omega)]
  · have one_line' : ∀ place < t.rows, '\n' ∉ (t.scrollUp n).windowRow place := by
      intro place lt
      rw [shown, Terminal.windowRowAfter]
      split
      · exact one_line place lt
      · split
        · exact fun mem => absurd (List.eq_of_mem_replicate mem) (by decide)
        · exact one_line (place - k) (by omega)
    rw [Terminal.dump_eq_iff size wf.rows_pos one_line one_line']
    exact forall₂_congr fun place _ => by rw [shown]

/-- One row of the region leaves while the history is full. The row below the region is just outside
the window, and the oldest row that is lost is above it, so the window shows the same text. -/
theorem window_scrollUp_run_full :
    let actions := [.output "a\r\nb\r\nc\r\nd\r\ne".toUTF8.toList, .scroll (-1),
      .operate (.setRegion 1 2)]
    let t := ((fresh 2 3 2).run actions).terminal
    t.screen.history.size = 2 ∧ t.screen.offset = 1 ∧ t.dump = "b \nc \nd ".toList ∧
      (t.scrollUp 1).screen.offset = 2 ∧ (t.scrollUp 1).dump = "b \nc \nd ".toList := by
  intro actions t
  have offset_eq : t.screen.offset = 1 := by decide +kernel
  have dump_eq : t.dump = "b \nc \nd ".toList := by decide +kernel
  have sent_eq : min 1 (t.region.bottom + 1) = 1 := by decide +kernel
  obtain ⟨moved, -, shown, -⟩ := window_scrollUp_run (by decide : 0 < 2) (by decide : 0 < 3) 2 actions 1
    (by decide +kernel) (by decide +kernel) (by decide +kernel) (by decide +kernel)
  refine ⟨by decide +kernel, offset_eq, dump_eq, ?_, (shown (by decide +kernel)).trans dump_eq⟩
  rw [moved]
  exact congr (congrArg HAdd.hAdd offset_eq) sent_eq

/-- Two rows of the screen are below the region, and one of them is in the window. A blank row comes in
above it. -/
theorem not_kept_scrollUp :
    ¬ ∀ (cols rows limit : Nat) (actions : List Action) (n : Nat), 0 < cols → 0 < rows →
      let t := ((fresh cols rows limit).run actions).terminal
      t.onAlternate = false → t.region.top = 0 → 0 < t.screen.offset →
        t.screen.offset + min n (t.region.bottom + 1) ≤ limit → (t.scrollUp n).dump = t.dump := by
  intro kept
  have same := kept 2 4 5 [.output "a\r\nb\r\nc\r\nd\r\ne".toUTF8.toList, .scroll (-1),
    .operate (.setRegion 1 2)] 1 (by decide) (by decide) (by decide +kernel) (by decide +kernel)
    (by decide +kernel) (by decide +kernel)
  exact absurd same (by decide +kernel)

end Emulator

end TerminalSession
