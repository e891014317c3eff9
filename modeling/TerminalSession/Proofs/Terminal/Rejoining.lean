import TerminalSession.Proofs.Grid.Rejoining
import TerminalSession.Proofs.Terminal.Following
import TerminalSession.Proofs.Terminal.Typing

/-!
# Text after a change of the size

Lines of text that were written to a terminal are joined from their rows when its size changes, and
are laid out again.

## Main statements

* `Terminal.Displays.logicalLines_typed`: the lines that the rows are joined to
* `Terminal.Displays.map_trimmed_resize_iff`: when each row shows its line after a change of the size
* `Terminal.Displays.evicted_eq_nil`: when no row is lost then

## Design notes

* Rows that were lost from the history are counted with the others, so nothing has to be said about
  the limit of the history or about the number of rows.
-/

namespace TerminalSession.Terminal

variable {limit cols : Nat} {t : Terminal} {above : List Row} {row : Row} {layout : Layout}

namespace Holds

/-- The rows below the cursor are blank. -/
theorem drop_rows (holds : t.Holds limit cols above row) :
    t.primary.rows.toList.drop (t.primaryCursor.row + 1) =
      List.replicate (t.rows - 1 - t.primaryCursor.row) (Row.blank cols) := by
  have all_eq := congrArg (List.drop (above.length + 1)) holds.rows_eq
  rw [List.drop_length_add_append, holds.length_eq, Nat.add_assoc, Screen.allRows,
    ← Array.length_toList, List.drop_length_add_append] at all_eq
  exact all_eq

/-- No row below the cursor is used. -/
theorem usedRows_eq (holds : t.Holds limit cols above row) :
    t.primary.usedRows t.primaryCursor.row = t.primaryCursor.row + 1 := by
  have row_lt := holds.wellFormed.primaryCursor.row_lt
  have size_eq := holds.wellFormed.primary.size_rows
  have blank_below : t.rows - 1 - t.primaryCursor.row ≤
      (t.primary.rows.toList.reverse.takeWhile Row.isBlank).length := by
    rw [← List.take_append_drop (t.primaryCursor.row + 1) t.primary.rows.toList, holds.drop_rows,
      List.reverse_append, List.reverse_replicate,
      List.takeWhile_append_of_pos (by simp [Row.isBlank_blank])]
    simp
  unfold Screen.usedRows
  omega

/-- The lines that the rows are joined to: those of the rows above the cursor, and of its own. -/
theorem logicalLines_eq (holds : t.Holds limit cols above row) (col : Nat) :
    t.primary.logicalLines t.primaryCursor.row col =
      LogicalLine.join (LogicalLine.unmarked above ++ [(row, some col)]) := by
  have lt : above.length < (above ++ [row]).length := by simp
  have marked := Screen.map_zipIdx_eq (above ++ [row]) lt col
  rw [List.take_left, List.getElem_concat_length rfl, List.drop_eq_nil_of_le (by simp)] at marked
  rw [Screen.logicalLines, holds.usedRows_eq, holds.rowsToCursor, ← holds.length_eq, marked]
  rfl

end Holds

namespace Displays

/-- The lines that the rows of a text are joined to. -/
theorem logicalLines_typed {init : List Text} {final : Text}
    (placeable : ∀ text ∈ init ++ [final], text.Placeable cols)
    (visible : ∀ text ∈ init ++ [final], ∀ c ∈ text, Text.isSpace c = false)
    (displays : t.Displays limit cols (Layout.typed cols init final)) :
    t.primary.logicalLines t.primaryCursor.row t.primaryCursor.col =
      init.map (LogicalLine.typed cols) ++ [LogicalLine.typedToCursor cols final] := by
  rw [displays.holds.logicalLines_eq, displays.col_eq]
  exact LogicalLine.join_typed placeable visible

/-- What is laid out when the size changes: these lines. -/
theorem laidOut_typed {init : List Text} {final : Text}
    (placeable : ∀ text ∈ init ++ [final], text.Placeable cols)
    (visible : ∀ text ∈ init ++ [final], ∀ c ∈ text, Text.isSpace c = false)
    (displays : t.Displays limit cols (Layout.typed cols init final)) (width : Nat) :
    t.primary.laidOut width t.primaryCursor.row t.primaryCursor.col =
      Layout.lines width
        (init.map (LogicalLine.typed cols) ++ [LogicalLine.typedToCursor cols final]) := by
  rw [Screen.laidOut, displays.logicalLines_typed placeable visible]

/-- After a change of the size to rows that are wide enough for every line, the rows show these lines
one by one, and nothing below them, just when no column was left over at the end of a row. -/
theorem map_trimmed_resize_iff {init : List Text} {final : Text}
    (placeable : ∀ text ∈ init ++ [final], text.Placeable cols)
    (visible : ∀ text ∈ init ++ [final], ∀ c ∈ text, Text.isSpace c = false)
    (displays : t.Displays limit cols (Layout.typed cols init final)) {width height : Nat}
    (height_pos : 0 < height) (room : ∀ text ∈ init ++ [final], text.columns ≤ width) :
    (∃ below : List Text, (∀ text ∈ below, text = []) ∧
      (t.evicted width height ++ (t.resize width height).primary.allRows).map Row.trimmed =
        (init ++ [final]) ++ below) ↔
      ∀ text ∈ init ++ [final], Text.gaps cols 0 text = 0 := by
  by_cases same : t.HasSize width height
  · -- Nothing happens, and every line has room in its row already.
    have width_eq : width = cols := same.1.trans displays.holds.cols_eq
    subst width_eq
    have none : ∀ text ∈ init ++ [final], Text.gaps width 0 text = 0 := fun text mem =>
      Text.gaps_of_room (by rw [Nat.zero_add]; exact room text mem)
    refine iff_of_true ⟨List.replicate (t.rows - 1 - t.primaryCursor.row) [], ?_, ?_⟩ none
    · exact fun text mem => List.eq_of_mem_replicate mem
    · rw [evicted, if_pos same, resize_of_hasSize same, List.nil_append,
        displays.allRows_eq, Layout.endRow_typed init (placeable final (by simp)), List.map_append,
        Layout.map_trimmed_lines (fun text mem c c_mem =>
          ⟨(placeable text mem c c_mem).1, visible text mem c c_mem⟩) room,
        List.map_replicate, Row.trimmed_blank]
  · have laid_eq := displays.laidOut_typed placeable visible width
    obtain ⟨col, cursor_eq⟩ := Layout.cursor_lines_of_last width (init.map (LogicalLine.typed cols))
      (Layout.cursor_typedToCursor cols final)
    have all : (t.primary.laidOut width t.primaryCursor.row t.primaryCursor.col).rows.size ≤
        t.primary.firstShown width height t.primaryCursor.row t.primaryCursor.col + height := by
      rw [Screen.firstShown, laid_eq, cursor_eq, Option.getD_some]
      dsimp only
      omega
    obtain ⟨n, all_eq⟩ := Screen.evicted_append_allRows_reflow _ _ _ _ _ all
    rw [evicted, if_neg same, primary_resize same, all_eq, laid_eq]
    exact Layout.map_trimmed_lines_iff placeable visible room n

/-- No row is lost then if there are as many rows as lines, and one more if the last line fills its
row. The cursor behind it needs that row. -/
theorem evicted_eq_nil {init : List Text} {final : Text}
    (placeable : ∀ text ∈ init ++ [final], text.Placeable cols)
    (visible : ∀ text ∈ init ++ [final], ∀ c ∈ text, Text.isSpace c = false)
    (displays : t.Displays limit cols (Layout.typed cols init final)) {width height : Nat}
    (room : ∀ text ∈ init ++ [final], text.columns ≤ width)
    (none : ∀ text ∈ init ++ [final], Text.gaps cols 0 text = 0)
    (enough : (init.length + if final.columns < width then 1 else 2) ≤ height) :
    t.evicted width height = [] := by
  unfold evicted
  split
  · rfl
  · have le := Nat.le_trans (Layout.size_rows_typed_le placeable visible room none) enough
    rw [← displays.laidOut_typed placeable visible width] at le
    rw [Screen.evicted, Screen.firstShown, Nat.sub_eq_zero_of_le le, Nat.zero_min, Nat.zero_sub]
    rfl

end Displays

end TerminalSession.Terminal
