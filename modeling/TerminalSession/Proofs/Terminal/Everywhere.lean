import TerminalSession.Proofs.Grid.Everywhere
import TerminalSession.Proofs.Terminal.Operation
import TerminalSession.Terminal.Resizing

/-!
# Properties of all rows of a terminal

Most operations move rows, clear them or leave them alone. Those that do more do it in the row of
the cursor, so what all rows of a terminal have is kept if this one row keeps it.

## Main definitions

* `Terminal.Each`: all rows of both screens and of their histories have a property
* `Operation.edits`: the operations that change cells in the row of the cursor
* `Terminal.cursorRow?`: this row

## Main statements

* `Terminal.Each.perform`: an operation that edits no row keeps what all rows have
* `Terminal.Each.print`, `Terminal.Each.eraseLine` and their companions: what an operation that edits
  a row has to keep
* `Terminal.Each.resize`: a change of the size

## Design notes

* What is known about the edited row is that it is the cursor's, so a property may be kept for a
  reason that lies in this row and the place of the cursor, and not in all rows.
-/

namespace TerminalSession

/-- The operations that change cells in the row of the cursor. All others move rows, empty them, or
leave them alone. -/
def Operation.edits : Operation → Bool
  | .print _ => true
  | .insertChars _ => true
  | .deleteChars _ => true
  | .eraseChars _ => true
  | .eraseLine _ => true
  | .eraseDisplay _ => true
  | _ => false

namespace Terminal

/-- All rows of both screens and of their histories have a property. -/
structure Each (R : Row → Prop) (t : Terminal) : Prop where
  primary : t.primary.Each R
  alternate : t.alternate.Each R

/-- The row of the cursor, if the cursor stands on the screen. -/
def cursorRow? (t : Terminal) : Option Row := t.screen.rows[t.cursor.row]?

/-- Two changes of the cursor's row are one. The first does not move the cursor, so the second finds
the same row. -/
theorem modifyCursorRow_modifyCursorRow (t : Terminal) (f g : Row → Row) :
    (t.modifyCursorRow f).modifyCursorRow g = t.modifyCursorRow fun row => g (f row) := by
  have rows_eq (rows : Array Row) (i : Nat) :
      (rows.modify i f).modify i g = rows.modify i fun row => g (f row) := by
    refine Array.ext (by simp) fun j _ _ => ?_
    simp only [Array.getElem_modify]
    split <;> rfl
  have screen_eq (s : Screen) (i : Nat) :
      (s.modifyRow i f).modifyRow i g = s.modifyRow i fun row => g (f row) := by
    simp only [Screen.modifyRow, rows_eq]
  unfold modifyCursorRow
  dsimp only
  rw [cursor_modifyScreen]
  unfold modifyScreen
  split <;> simp only [*]

/-- Printing a character edits the row of the cursor once: making room for it and writing it are one
change of the row, followed by a movement of the cursor. -/
theorem place_eq_put (t : Terminal) (c : Char) (width : Nat) :
    t.place c width =
      if t.cols ≤ t.cursor.col then t
      else (t.modifyCursorRow fun row =>
        row.put t.modes.insert t.cursor.col { glyph := [c], width, style := t.style }).modifyCursor
          fun cursor => { cursor with col := cursor.col + width } := by
  unfold place Row.put
  dsimp only
  split
  · rfl
  cases inserts : t.modes.insert with
  | true =>
    have shifted : t.insertChars width = t.modifyCursorRow fun row =>
      row.makeRoom t.cursor.col width := rfl
    have style_eq : (t.insertChars width).style = t.style := style_modifyScreen t _
    rw [if_pos rfl, style_eq, shifted, modifyCursorRow_modifyCursorRow]
    rfl
  | false => rfl

/-- Erasing rows above the cursor leaves its row as it is. -/
theorem cursorRow?_clearRows (t : Terminal) (first : Nat) :
    (t.clearRows first t.cursor.row).cursorRow? = t.cursorRow? := by
  unfold cursorRow? clearRows
  simp

namespace Each

variable {R : Row → Prop} {t : Terminal}

/-- What follows from the property for a single row, all rows have as well. -/
theorem imp {R' : Row → Prop} (each : t.Each R) (imp : ∀ row, R row → R' row) : t.Each R' where
  primary := each.primary.imp imp
  alternate := each.alternate.imp imp

theorem and {R' : Row → Prop} (each : t.Each R) (each' : t.Each R') :
    t.Each fun row => R row ∧ R' row where
  primary := each.primary.and each'.primary
  alternate := each.alternate.and each'.alternate

/-- The screen in use is one of the two. -/
theorem screen (each : t.Each R) : t.screen.Each R := by
  unfold Terminal.screen
  split
  · exact each.alternate
  · exact each.primary

/-- A fresh terminal has empty rows on both screens, and no history. -/
theorem fresh {cols : Nat} (blank : R (Row.blank cols)) (rows limit : Nat) :
    (Terminal.fresh cols rows limit).Each R where
  primary := Screen.Each.blank blank rows limit
  alternate := Screen.Each.blank blank rows 0

/-- A change of the screen in use has to keep the property on this screen. That it is the screen in
use may be used, as the place of the cursor refers to it. -/
theorem modifyScreen (each : t.Each R) {f : Screen → Screen}
    (keeps : ∀ s : Screen, s = t.screen → s.Each R → (f s).Each R) : (t.modifyScreen f).Each R := by
  have changed := keeps t.screen rfl each.screen
  unfold Terminal.screen at changed
  unfold Terminal.modifyScreen
  split
  next on =>
    rw [if_pos on] at changed
    exact ⟨each.primary, changed⟩
  next off =>
    rw [if_neg off] at changed
    exact ⟨changed, each.alternate⟩

/-- The cursor is no matter of the rows. -/
theorem modifyCursor (each : t.Each R) (f : Cursor → Cursor) : (t.modifyCursor f).Each R := by
  unfold Terminal.modifyCursor
  split <;> exact ⟨each.primary, each.alternate⟩

/-- A change of the cursor's row has to keep the property of this row. -/
theorem modifyCursorRow (each : t.Each R) {f : Row → Row}
    (keeps : ∀ row : Row, t.cursorRow? = some row → R row → R (f row)) :
    (t.modifyCursorRow f).Each R :=
  each.modifyScreen fun _ eq screen => screen.modifyRow fun row found =>
    keeps row (eq ▸ found : t.screen.rows[t.cursor.row]? = some row)

/-! ### Moving rows -/

/-- The cursor is no matter of the rows, and neither is the style. -/
theorem restoreCursor (each : t.Each R) : t.restoreCursor.Each R := by
  unfold Terminal.restoreCursor
  split
  · exact each
  · exact ⟨(each.modifyCursor _).primary, (each.modifyCursor _).alternate⟩

/-- Rows move up, an empty one comes in, and the one that leaves may go into the history with its
property. -/
theorem scrollUp (each : t.Each R) (lasts : Row.Lasts R) (n : Nat) : (t.scrollUp n).Each R :=
  each.modifyScreen fun _ _ screen =>
    screen.iterate (fun _ screen => screen.scrollUp (lasts.blank t.cols) _ _ _) _

theorem scrollDown (each : t.Each R) (lasts : Row.Lasts R) (n : Nat) : (t.scrollDown n).Each R :=
  each.modifyScreen fun _ _ screen =>
    screen.iterate (fun _ screen => screen.addLine (lasts.blank t.cols) _ _) _

/-- Empty lines come in at the cursor, and rows leave at the end of the region. -/
theorem insertLines (each : t.Each R) (lasts : Row.Lasts R) (n : Nat) :
    (t.insertLines n).Each R := by
  unfold Terminal.insertLines
  split
  · exact each.modifyScreen fun _ _ screen =>
      screen.iterate (fun _ screen => screen.addLine (lasts.blank t.cols) _ _) _
  · exact each

theorem deleteLines (each : t.Each R) (lasts : Row.Lasts R) (n : Nat) :
    (t.deleteLines n).Each R := by
  unfold Terminal.deleteLines
  split
  · exact each.modifyScreen fun _ _ screen =>
      screen.iterate (fun _ screen => screen.dropLine (lasts.blank t.cols) _ _) _
  · exact each

/-- Either the region scrolls, or only the cursor moves. -/
theorem index (each : t.Each R) (lasts : Row.Lasts R) : t.index.Each R := by
  unfold Terminal.index
  split
  · exact each.scrollUp lasts 1
  split
  · exact each.modifyCursor _
  · exact each

theorem lineFeed (each : t.Each R) (lasts : Row.Lasts R) : t.lineFeed.Each R := by
  unfold Terminal.lineFeed
  split
  · exact (each.index lasts).modifyCursor _
  · exact each.index lasts

theorem reverseIndex (each : t.Each R) (lasts : Row.Lasts R) : t.reverseIndex.Each R := by
  unfold Terminal.reverseIndex
  split
  · exact each.scrollDown lasts 1
  · exact each.modifyCursor _

theorem setRegion (each : t.Each R) (top bottom : Nat) : (t.setRegion top bottom).Each R := by
  unfold Terminal.setRegion
  dsimp only
  split
  · exact ⟨each.primary, each.alternate⟩
  · exact each

/-- Rows that are cleared are empty rows of some style. -/
theorem clearRows (each : t.Each R) (lasts : Row.Lasts R) (first past : Nat) :
    (t.clearRows first past).Each R := by
  refine each.modifyScreen fun _ _ screen => screen.mapRows fun i old holds => ?_
  split
  · exact lasts.clear old t.style holds
  · exact holds

/-- The mark on a row that goes on is no part of what lasts. -/
theorem wrapFor (each : t.Each R) (lasts : Row.Lasts R) (width : Nat) :
    (t.wrapFor width).Each R := by
  unfold Terminal.wrapFor
  split
  · split
    · have marked := each.modifyCursorRow (f := fun row => { row with wrapped := true })
        fun row _ holds => lasts.wrap row true holds
      exact (marked.modifyCursor _).lineFeed lasts
    · exact each.modifyCursor _
  · exact each

/-! ### Modes -/

/-- The alternate screen that comes into use is empty. -/
theorem switchScreen (each : t.Each R) (lasts : Row.Lasts R) (toAlternate : Bool) :
    (t.switchScreen toAlternate).Each R := by
  unfold Terminal.switchScreen
  split
  · exact each
  · refine ⟨each.primary.withOffset 0, ?_⟩
    dsimp only
    split
    · exact Screen.Each.blank (lasts.blank t.cols) _ 0
    · exact each.alternate

/-- A private mode keeps what all rows have, too. Those that choose a screen bring in a blank one at
most, with the cursor saved or restored around it. -/
theorem setPrivateMode (each : t.Each R) (lasts : Row.Lasts R) (mode : Nat) (enable : Bool) :
    (t.setPrivateMode mode enable).Each R := by
  unfold Terminal.setPrivateMode
  split
  · exact ⟨each.primary, each.alternate⟩
  · exact each.modifyCursor _
  · exact each.switchScreen lasts enable
  · exact each.switchScreen lasts enable
  · split
    · exact each.modifyCursor _
    · exact each.restoreCursor
  · split
    · have entered := switchScreen (each.modifyCursor fun c =>
        { c with saved := some { row := c.row, col := c.col, style := t.style } }) lasts true
      exact ⟨entered.primary, entered.alternate⟩
    · exact (each.switchScreen lasts false).restoreCursor
  · exact each

theorem setMode (each : t.Each R) (mode : Nat) (enable : Bool) :
    (t.setMode mode enable).Each R := by
  unfold Terminal.setMode
  split <;> exact ⟨each.primary, each.alternate⟩

/-- An operation that edits no row keeps what all rows have, as long as it is of the kind that
lasts. Rows are moved, dropped, cleared and made blank, but not changed in part. -/
theorem perform (each : t.Each R) (lasts : Row.Lasts R) {op : Operation}
    (plain : op.edits = false) : (op.perform t).Each R := by
  cases op with
  | print c => exact nomatch plain
  | insertChars n => exact nomatch plain
  | deleteChars n => exact nomatch plain
  | eraseChars n => exact nomatch plain
  | eraseLine mode => exact nomatch plain
  | eraseDisplay mode => exact nomatch plain
  | lineFeed => exact each.lineFeed lasts
  | index => exact each.index lasts
  | reverseIndex => exact each.reverseIndex lasts
  | restoreCursor => exact each.restoreCursor
  | scrollUp n => exact each.scrollUp lasts n
  | scrollDown n => exact each.scrollDown lasts n
  | insertLines n => exact each.insertLines lasts n
  | deleteLines n => exact each.deleteLines lasts n
  | setRegion top bottom => exact each.setRegion top bottom
  | setMode mode enable => exact each.setMode mode enable
  | setPrivateMode mode enable => exact each.setPrivateMode lasts mode enable
  | selectRendition params => exact ⟨each.primary, each.alternate⟩
  | setTitle title => exact ⟨each.primary, each.alternate⟩
  | reset => exact fresh (lasts.blank t.cols) _ _
  | _ =>
    -- What is left moves the cursor.
    dsimp only [Operation.perform]
    exact each.modifyCursor _

/-! ### Editing -/

/-- Cells that come in at the cursor are one of five edits. What has to be shown about it concerns
the row of the cursor, and there the column and the number of cells. -/
theorem insertChars (each : t.Each R) {n : Nat}
    (keeps : ∀ row : Row, t.cursorRow? = some row → R row → R (row.makeRoom t.cursor.col n)) :
    (t.insertChars n).Each R := each.modifyCursorRow keeps

/-- Cells that are taken out at the cursor. -/
theorem deleteChars (each : t.Each R) {n : Nat}
    (keeps : ∀ row : Row, t.cursorRow? = some row → R row → R (row.takeOut t.cursor.col n)) :
    (t.deleteChars n).Each R := each.modifyCursorRow keeps

/-- A part of the cursor's row, by its number. -/
theorem eraseLine (each : t.Each R) {mode : Nat}
    (keeps : ∀ row : Row, t.cursorRow? = some row → R row →
      R (row.erase mode t.cursor.col t.style)) :
    (t.eraseLine mode).Each R := each.modifyCursorRow keeps

/-- Cells from the cursor on, in the present style. -/
theorem eraseChars (each : t.Each R) {n : Nat}
    (keeps : ∀ row : Row, t.cursorRow? = some row → R row →
      R (row.eraseRange t.cursor.col (t.cursor.col + n) t.style)) :
    (t.eraseChars n).Each R := each.modifyCursorRow keeps

/-- Erasing on the screen edits the row of the cursor as erasing in this row does. The rows above or
below become blank, so that they need not be looked at. -/
theorem eraseDisplay (each : t.Each R) (lasts : Row.Lasts R) {mode : Nat}
    (keeps : mode ≤ 1 → ∀ row : Row, t.cursorRow? = some row → R row →
      R (row.erase mode t.cursor.col t.style)) :
    (t.eraseDisplay mode).Each R := by
  unfold Terminal.eraseDisplay
  dsimp only
  split
  · exact (each.eraseLine (keeps (Nat.zero_le _))).clearRows lasts _ _
  · have cursor_eq : (t.clearRows 0 t.cursor.row).cursor = t.cursor := cursor_modifyScreen t _
    have style_eq : (t.clearRows 0 t.cursor.row).style = t.style := style_modifyScreen t _
    refine (each.clearRows lasts 0 t.cursor.row).eraseLine fun row found holds => ?_
    rw [cursorRow?_clearRows] at found
    rw [cursor_eq, style_eq]
    exact keeps (Nat.le_refl _) row found holds
  · exact each.clearRows lasts _ _
  · exact each.modifyScreen fun _ _ screen => screen.forget
  · exact each

/-- A character is put into the row only if the cursor is not past the last column. -/
theorem place (each : t.Each R) {c : Char} {width : Nat}
    (keeps : t.cursor.col < t.cols → ∀ row : Row, t.cursorRow? = some row → R row →
      R (row.put t.modes.insert t.cursor.col { glyph := [c], width, style := t.style })) :
    (t.place c width).Each R := by
  rw [place_eq_put]
  split
  · exact each
  next room => exact (each.modifyCursorRow (keeps (Nat.lt_of_not_le room))).modifyCursor _

/-- Printing edits the row of the cursor as it is after a possible wrap. -/
theorem print (each : t.Each R) (lasts : Row.Lasts R) {c : Char}
    (combined : Text.charWidth c = 0 → ∀ row : Row, t.cursorRow? = some row → R row →
      R (row.combine t.cursor.col c))
    (placed : Text.charWidth c ≠ 0 → let t' := t.wrapFor (Text.charWidth c)
      t'.cursor.col < t'.cols → ∀ row : Row, t'.cursorRow? = some row → R row →
        R (row.put t'.modes.insert t'.cursor.col
          { glyph := [c], width := Text.charWidth c, style := t'.style })) :
    (t.print c).Each R := by
  unfold Terminal.print
  split
  next none => exact each.modifyCursorRow (combined none)
  next some => exact (each.wrapFor lasts _).place (placed some)

/-! ### Window and size -/

/-- The window shows rows and changes none. -/
theorem scrollWindow (each : t.Each R) (delta : Int) : (t.scrollWindow delta).Each R :=
  each.modifyScreen fun _ _ screen => screen.moveWindow delta

/-- A change of the size lays out the rows of the primary screen anew, and brings those of the
alternate screen to the new width. -/
theorem resize {P : Cell → Prop} {Q : Array Cell → Prop} (each : t.Each R) (lasts : Row.Lasts R)
    (all : t.primary.Each (Row.All P)) {cols : Nat} (fills : Layout.Fills cols P Q R)
    (cols_pos : 0 < cols) (empty : P Cell.empty) (fit : ∀ row : Row, R row → R (row.fit cols))
    (no_history : t.alternate.history = #[]) (rows : Nat) : (t.resize cols rows).Each R := by
  unfold Terminal.resize
  split
  · exact each
  · exact
      { primary := all.reflow fills cols_pos empty (lasts.blank cols) rows _ _
        alternate := each.alternate.crop (lasts.blank cols) fit rows no_history }

/-! ### Cells -/

variable {P : Cell → Prop}

/-- What all cells have, they keep when what is printed has it: a character alone in its cell, or
one more mark in a cell that had it. What is erased or made room for is common to all such
properties. -/
theorem perform_cells (each : t.Each (Row.All P)) (common : Cell.Common P) {op : Operation}
    (marked : ∀ c : Char, op = .print c → Text.charWidth c = 0 → ∀ row : Row,
      t.cursorRow? = some row → t.cursor.col ≠ 0 → ∀ old : Cell,
      row.cells[row.markTarget t.cursor.col]? = some old → P old →
        P { old with glyph := old.glyph ++ [c] })
    (printed : ∀ c : Char, op = .print c → Text.charWidth c ≠ 0 → ∀ style : Style,
      P { glyph := [c], width := Text.charWidth c, style }) : (op.perform t).Each (Row.All P) := by
  have lasts := Row.All.lasts common
  cases op with
  | print c =>
    refine each.print lasts (fun none row found all => ?_) fun some _ row _ all => ?_
    · exact all.combine (marked c rfl none row found)
    · exact all.put common _ _ (printed c rfl some _)
  | insertChars n => exact each.insertChars fun _ _ all => all.makeRoom common _ _
  | deleteChars n => exact each.deleteChars fun _ _ all => all.takeOut common _ _
  | eraseChars n => exact each.eraseChars fun _ _ all => all.eraseRange common _ _ _
  | eraseLine mode => exact each.eraseLine fun _ _ all => all.erase common _ _ _
  | eraseDisplay mode => exact each.eraseDisplay lasts fun _ _ _ all => all.erase common _ _ _
  | _ => exact each.perform lasts rfl

/-- What all cells have that empty cells and right halves have, they keep when the size changes. -/
theorem resize_cells (each : t.Each (Row.All P)) (common : Cell.Common P) {cols : Nat}
    (cols_pos : 0 < cols) (no_history : t.alternate.history = #[]) (rows : Nat) :
    (t.resize cols rows).Each (Row.All P) :=
  each.resize (Row.All.lasts common) each.primary (Layout.Fills.all cols common) cols_pos
    common.empty (fun _ all => all.fit common cols) no_history rows

end Each

end Terminal

end TerminalSession
