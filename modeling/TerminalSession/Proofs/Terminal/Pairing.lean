import TerminalSession.Proofs.Grid.Cutting
import TerminalSession.Proofs.Grid.Moving
import TerminalSession.Proofs.Terminal.Columns

/-!
# Whether printing keeps wide characters whole

Printing repairs the wide character that it covers in part. On a screen that shows all wide characters
whole this is enough, unless the row is cut in the middle of one: by a wide character that covers the
left half of the next one too, or in insert mode by the room that is made and by the margin. Which of
the two it is can be told before the character is printed.

## Main definitions

* `Terminal.Paired`: all wide characters on the screen in use are whole
* `Terminal.printsWhole`: whether a character can be printed without leaving a half

## Main statements

* `Terminal.Paired.wrapFor`: making room at the margin leaves wide characters whole
* `Terminal.WellFormed.paired_print_iff`: printing leaves them whole exactly when it cuts none

## Design notes

* Only the rows of the screen in use are looked at. Those of the history and of the other screen may
  have halves, as they do after a screen was cropped.
-/

namespace TerminalSession

/-- When the rows of a screen have a property, the changed row decides whether they have it still. -/
theorem Row.Each.modify_iff {R : Row → Prop} {rows : Array Row} (each : Row.Each R rows) {i : Nat}
    {row : Row} (found : rows[i]? = some row) (f : Row → Row) :
    Row.Each R (rows.modify i f) ↔ R (f row) := by
  constructor
  · intro changed
    refine changed.getElem? (i := i) ?_
    rw [Array.getElem?_modify, if_pos rfl, found, Option.map_some]
  · intro holds
    refine each.modify fun old old_found _ => ?_
    rw [found, Option.some_inj] at old_found
    rwa [← old_found]

namespace Terminal

variable {limit : Nat} {t : Terminal} {c : Char}

/-- All wide characters on the screen in use are whole. -/
def Paired (t : Terminal) : Prop :=
  Row.Each (fun row => Row.Paired row.cells) t.screen.rows

instance (t : Terminal) : Decidable t.Paired :=
  inferInstanceAs (Decidable (∀ row ∈ t.screen.rows, Row.Paired row.cells))

/-- Whether printing a character cuts no wide character in half. A character without width cuts none,
and any other one cuts where it is put after a possible wrap. -/
def printsWhole (t : Terminal) (c : Char) : Bool :=
  let width := Text.charWidth c
  let ready := t.wrapFor width
  width == 0 || ready.sparesRow (Row.putCuts ready.cols ready.modes.insert ready.cursor.col width)

/-! ### Making room at the margin -/

namespace Paired

/-- The rows decide, and not the cursor. -/
theorem of_rows_eq {t' : Terminal} (paired : t.Paired) (eq : t'.screen.rows = t.screen.rows) :
    t'.Paired := by
  show Row.Each _ t'.screen.rows
  rw [eq]
  exact paired

theorem modifyCursor (paired : t.Paired) (f : Cursor → Cursor) : (t.modifyCursor f).Paired :=
  paired.of_rows_eq (by rw [screen_modifyCursor])

/-- A row of empty cells comes in for the one that leaves. -/
theorem scrollUp (paired : t.Paired) (n : Nat) : (t.scrollUp n).Paired := by
  show Row.Each _ (t.modifyScreen _).screen.rows
  rw [screen_modifyScreen]
  refine Screen.iterate_induction (P := fun s => Row.Each (fun row => Row.Paired row.cells) s.rows)
    (fun s each => ?_) paired _
  rw [Screen.rows_scrollUp]
  exact (each.eraseIdxIfInBounds _).insertIdxIfInBounds (Row.Paired.blank t.cols) _

theorem lineFeed (paired : t.Paired) : t.lineFeed.Paired := by
  have indexed : t.index.Paired := by
    unfold Terminal.index
    split
    · exact paired.scrollUp 1
    split
    · exact paired.modifyCursor _
    · exact paired
  unfold Terminal.lineFeed
  split
  · exact indexed.modifyCursor _
  · exact indexed

theorem modifyCursorRow (paired : t.Paired) {f : Row → Row}
    (keeps : ∀ row : Row, Row.Paired row.cells → Row.Paired (f row).cells) :
    (t.modifyCursorRow f).Paired := by
  show Row.Each _ (t.modifyScreen _).screen.rows
  rw [screen_modifyScreen]
  exact Row.Each.modify paired fun row _ => keeps row

/-- Making room for a character leaves wide characters whole. -/
theorem wrapFor (paired : t.Paired) (width : Nat) : (t.wrapFor width).Paired := by
  unfold Terminal.wrapFor
  split
  · split
    · have marked := paired.modifyCursorRow (f := fun row => { row with wrapped := true })
        fun _ whole => whole
      exact (marked.modifyCursor _).lineFeed
    · exact paired.modifyCursor _
  · exact paired

end Paired

/-! ### Putting the character there -/

/-- A character with width that finds room in the row of the cursor leaves the screen whole exactly
when it cuts no character of this row. -/
theorem WellFormed.paired_place_iff (wf : t.WellFormed limit) (paired : t.Paired) {width : Nat}
    (width_eq : Text.charWidth c = width) (shown : width ≠ 0) (room : t.cursor.col + width ≤ t.cols) :
    (t.place c width).Paired ↔
      t.sparesRow (Row.putCuts t.cols t.modes.insert t.cursor.col width) = true := by
  have row_lt : t.cursor.row < t.screen.rows.size := by
    obtain ⟨_, fits⟩ := wf.screen_fits
    rw [fits.size_rows]
    exact wf.cursor_inside.row_lt
  obtain ⟨row, found⟩ : ∃ row, t.screen.rows[t.cursor.row]? = some row :=
    ⟨_, Array.getElem?_eq_getElem row_lt⟩
  have size : row.cells.size = t.cols := wf.size_cursorRow found
  have le_two : width ≤ 2 := by
    rw [← width_eq]
    exact Text.charWidth_le_two c
  have whole : Row.Paired row.cells := paired row (Array.mem_of_getElem? found)
  let cell : Cell := { glyph := [c], width, style := t.style }
  have put_iff : Row.Paired (row.put t.modes.insert t.cursor.col cell).cells ↔
      row.spares (Row.putCuts row.cells.size t.modes.insert t.cursor.col width) = true :=
    whole.put_iff shown le_two (by rw [size]; exact room)
  rw [size] at put_iff
  have rows_eq : (t.place c width).screen.rows =
      t.screen.rows.modify t.cursor.row fun row => row.put t.modes.insert t.cursor.col cell := by
    rw [place_eq_put, if_neg (by omega), screen_modifyCursor,
      Terminal.modifyCursorRow, screen_modifyScreen]
    rfl
  show Row.Each _ (t.place c width).screen.rows ↔ _
  rw [rows_eq, Row.Each.modify_iff paired found, put_iff, sparesRow, cursorRow?, found,
    Option.all_some]

/-- Printing a character leaves all wide characters of the screen whole exactly when it is not put
where it cuts one. -/
theorem WellFormed.paired_print_iff (wf : t.WellFormed limit) (two_le : 2 ≤ t.cols)
    (paired : t.Paired) (c : Char) : (t.print c).Paired ↔ t.printsWhole c = true := by
  unfold Terminal.print printsWhole
  rcases width_eq : Text.charWidth c with _ | width
  · -- A mark joins a character and changes no width.
    have combined : (t.combine c).Paired := paired.modifyCursorRow fun row whole => whole.combine _ c
    exact iff_of_true combined rfl
  · have shown : width + 1 ≠ 0 := Nat.succ_ne_zero width
    have room := t.room_wrapFor wf.cols_pos (Text.charWidth_le_two c)
    rw [width_eq, Cursor.margin, if_neg (by omega), ← cols_wrapFor t (width + 1)] at room
    have placed := (wf.wrapFor (width + 1)).paired_place_iff (paired.wrapFor (width + 1)) width_eq
      shown room
    show ((t.wrapFor (width + 1)).place c (width + 1)).Paired ↔ _
    rw [placed]
    dsimp only
    rw [beq_eq_false_iff_ne.mpr shown, Bool.false_or]

/-- In insert mode a wide character pushes another one to the margin, which has room for it. -/
theorem WellFormed.paired_print_pushed :
    let t := Operation.performAll (Terminal.fresh 5 1 0)
      [.print 'a', .print '\u65E5', .carriageReturn, .setMode 4 true]
    t.Paired ∧ (t.print '\u672C').Paired := by
  intro t
  have blank : (Terminal.fresh 5 1 0).WellFormed 0 := WellFormed.fresh 0 (by decide) Nat.one_pos
  have wf : t.WellFormed 0 := blank.performAll _
  have paired : t.Paired := by decide +kernel
  have whole : t.printsWhole '\u672C' = true := by decide +kernel
  exact ⟨paired, (wf.paired_print_iff (by decide +kernel) paired '\u672C').mpr whole⟩

/-- A wide character that covers the left half of the next one leaves the right half of that one. -/
theorem WellFormed.not_paired_print_overlapping :
    ¬ ∀ (limit : Nat) (t : Terminal) (c : Char), t.WellFormed limit → 2 ≤ t.cols → t.Paired →
      (t.print c).Paired := by
  intro all
  have blank : (Terminal.fresh 4 1 0).WellFormed 0 := WellFormed.fresh 0 (by decide) Nat.one_pos
  have wf := blank.performAll [.print 'a', .print '\u65E5', .carriageReturn]
  have whole := all 0 _ '\u672C' wf (by decide +kernel) (by decide +kernel)
  exact absurd whole (by decide +kernel)

end Terminal

end TerminalSession
