import TerminalSession.Proofs.Grid.Columns
import TerminalSession.Proofs.Terminal.Everywhere
import TerminalSession.Proofs.Terminal.Preservation
import TerminalSession.Proofs.Terminal.Size
import TerminalSession.Proofs.Terminal.Window

/-!
# The columns of the window

The window of a terminal has a line for each row. How many columns a line takes is known from the
cells of its row, and it is the number of columns of the terminal as long as all rows are full.

## Main definitions

* `Terminal.Sound`: a well-formed terminal all of whose cells are sound
* `Terminal.spares`: whether an operation cuts no wide character in half and marks no empty cell
* `Terminal.sparesAll`: the same for a list of operations, each at the time it is performed

## Main statements

* `Terminal.Sound.perform`, `Terminal.Sound.resize`: cells stay sound, whatever is done
* `Terminal.Sound.full_perform`, `Terminal.Sound.full_resize`: rows stay full, if they are spared
* `Terminal.Sound.lines_dump`, `Terminal.Sound.columns_windowRow`: the lines of the window, and the
  columns that each one takes

## Design notes

* Which columns an operation cuts at is known before it is performed. Printing cuts the row in which
  the cursor stands after a possible wrap.
* A change of the size needs no condition: rows that are laid out anew have all wide characters
  whole, and rows that are cropped lose the one that is cut in half.
-/

namespace TerminalSession

namespace Terminal

/-! ### Operations that spare characters -/

/-- Whether no column of a list is in the middle of a wide character in the row of the cursor. -/
def sparesRow (t : Terminal) (cuts : List Nat) : Bool :=
  t.cursorRow?.all fun row => row.spares cuts

/-- Whether an operation cuts no wide character in half and puts no mark on an empty cell. -/
def spares (t : Terminal) : Operation → Bool
  | .print c =>
    let width := Text.charWidth c
    if width = 0 then t.cursorRow?.all fun row => row.marksCharacter t.cursor.col
    else
      let t := t.wrapFor width
      t.sparesRow (Row.putCuts t.cols t.modes.insert t.cursor.col width)
  | .insertChars n => t.sparesRow (Row.insertCuts t.cols t.cursor.col n)
  | .deleteChars n => t.sparesRow (Row.rangeCuts t.cursor.col n)
  | .eraseChars n => t.sparesRow (Row.rangeCuts t.cursor.col n)
  | .eraseLine mode => t.sparesRow (Row.eraseCuts mode t.cursor.col)
  | .eraseDisplay mode => t.sparesRow (Row.eraseCuts mode t.cursor.col)
  | _ => true

/-- Whether the operations of a list all spare characters, each at the time it is performed. -/
def sparesAll (t : Terminal) : List Operation → Bool
  | [] => true
  | op :: rest => t.spares op && (op.perform t).sparesAll rest

theorem spares_of_sparesRow {t : Terminal} {cuts : List Nat} (spares : t.sparesRow cuts = true)
    {row : Row} (found : t.cursorRow? = some row) : row.spares cuts = true := by
  simpa [sparesRow, found] using spares

variable {limit : Nat} {t : Terminal}

theorem WellFormed.size_cursorRow (wf : t.WellFormed limit) {row : Row}
    (found : t.cursorRow? = some row) : row.cells.size = t.cols := by
  obtain ⟨_, fits⟩ := wf.screen_fits
  exact fits.uniform_rows row (Array.mem_of_getElem? found)

/-! ### Whole characters -/

/-- An operation that spares characters leaves them whole. Six of them edit a row, and each does so
at columns that `spares` asks to begin a character; the others move whole rows. -/
theorem Each.perform_paired (each : t.Each fun row => Row.Paired row.cells)
    (wf : t.WellFormed limit) (two_le : 2 ≤ t.cols) {op : Operation}
    (spares : t.spares op = true) : (op.perform t).Each fun row => Row.Paired row.cells := by
  have lasts := Row.Paired.lasts
  cases op with
  | print c =>
    refine each.print lasts (fun _ row _ paired => paired.combine _ _) ?_
    intro some t' inside row found paired
    have size : row.cells.size = t'.cols := (wf.wrapFor _).size_cursorRow found
    have room : t'.cursor.col + Text.charWidth c ≤ t'.cols := by
      have room := t.room_wrapFor wf.cols_pos (Text.charWidth_le_two c)
      rw [Cursor.margin, if_neg (by omega)] at room
      rw [show t'.cols = t.cols from cols_wrapFor t _]
      exact room
    have spares : t'.sparesRow (Row.putCuts t'.cols t'.modes.insert t'.cursor.col
        (Text.charWidth c)) = true := by
      dsimp only [Terminal.spares] at spares
      rwa [if_neg some] at spares
    refine paired.put some (Text.charWidth_le_two c) (by rw [size]; exact room) ?_
    rw [size]
    exact spares_of_sparesRow spares found
  | insertChars n =>
    refine each.insertChars fun row found paired => paired.makeRoom ?_
    rw [wf.size_cursorRow found]
    exact spares_of_sparesRow spares found
  | deleteChars n =>
    exact each.deleteChars fun row found paired =>
      paired.takeOut (spares_of_sparesRow spares found)
  | eraseChars n =>
    refine each.eraseChars fun row found paired => ?_
    obtain ⟨border, past_border⟩ := Row.spares_pair.mp (spares_of_sparesRow spares found)
    exact paired.eraseRange border past_border _
  | eraseLine mode =>
    exact each.eraseLine fun row found paired =>
      paired.erase (spares_of_sparesRow spares found) _
  | eraseDisplay mode =>
    exact each.eraseDisplay lasts fun _ row found paired =>
      paired.erase (spares_of_sparesRow spares found) _
  | _ => exact each.perform lasts rfl

/-! ### Shown characters -/

/-- An operation that spares characters leaves no cell bare. -/
theorem Each.perform_shown (each : t.Each (Row.All fun cell => cell.isBare = false))
    {op : Operation} (spares : t.spares op = true) :
    (op.perform t).Each (Row.All fun cell => cell.isBare = false) := by
  refine each.perform_cells Cell.common_not_isBare ?_ ?_
  · rintro c rfl none row found other old target shown
    have marks : row.marksCharacter t.cursor.col = true := by
      simpa [Terminal.spares, none, found] using spares
    exact Cell.isBare_combine none (Row.glyph_ne_nil_of_marksCharacter marks other target) shown
  · rintro c rfl some style
    exact Cell.isBare_print some

/-! ### Sound terminals -/

/-- A terminal of two columns and more in which all cells are sound. With one column a wide
character would be squeezed into it, and show more than there is room for. -/
structure Sound (limit : Nat) (t : Terminal) : Prop where
  wellFormed : t.WellFormed limit
  two_le : 2 ≤ t.cols
  cells : t.Each (Row.All Cell.Sound)

namespace Sound

theorem fresh {cols rows : Nat} (limit : Nat) (two_le : 2 ≤ cols) (rows_pos : 0 < rows) :
    (Terminal.fresh cols rows limit).Sound limit where
  wellFormed := WellFormed.fresh limit (Nat.lt_of_lt_of_le Nat.two_pos two_le) rows_pos
  two_le := two_le
  cells := Each.fresh ((Row.All.lasts Cell.common_sound).blank cols) rows limit

/-- Cells stay sound, unless a line feed is printed. -/
theorem perform (sound : t.Sound limit) {op : Operation} (one_line : op ≠ .print '\n') :
    (op.perform t).Sound limit where
  wellFormed := sound.wellFormed.perform op
  two_le := by
    rw [cols_eq_of_size_eq (t.size_perform op)]
    exact sound.two_le
  cells := by
    refine sound.cells.perform_cells Cell.common_sound ?_ ?_
    · rintro c rfl none row found other old target old_sound
      exact old_sound.combine none fun eq => one_line (by rw [eq])
    · rintro c rfl some style
      exact Cell.Sound.print fun eq => one_line (by rw [eq])

theorem scrollWindow (sound : t.Sound limit) (delta : Int) : (t.scrollWindow delta).Sound limit where
  wellFormed := sound.wellFormed.scrollWindow delta
  two_le := by
    rw [cols_eq_of_size_eq (t.size_scrollWindow delta)]
    exact sound.two_le
  cells := sound.cells.scrollWindow delta

theorem resize (sound : t.Sound limit) {cols rows : Nat} (two_le : 2 ≤ cols)
    (rows_pos : 0 < rows) : (t.resize cols rows).Sound limit where
  wellFormed := sound.wellFormed.resize (Nat.lt_of_lt_of_le Nat.two_pos two_le) rows_pos
  two_le := by
    have cols_eq : (t.resize cols rows).cols = cols := congrArg Prod.fst (t.size_resize cols rows)
    rw [cols_eq]
    exact two_le
  cells := sound.cells.resize_cells Cell.common_sound (Nat.lt_of_lt_of_le Nat.two_pos two_le)
    sound.wellFormed.alternate.history_eq_empty rows

/-! ### Full rows -/

/-- Rows stay full when they are spared. -/
theorem full_perform (sound : t.Sound limit) (full : t.Each Row.Full) {op : Operation}
    (spares : t.spares op = true) : (op.perform t).Each Row.Full := by
  have paired := (full.imp fun _ full => full.paired).perform_paired sound.wellFormed sound.two_le
    spares
  have shown := (full.imp fun _ full => full.shown).perform_shown spares
  exact (paired.and shown).imp fun _ both => ⟨both.1, both.2⟩

/-- Rows stay full when the size changes. -/
theorem full_resize (sound : t.Sound limit) (full : t.Each Row.Full) {cols : Nat}
    (two_le : 2 ≤ cols) (rows : Nat) : (t.resize cols rows).Each Row.Full := by
  have cols_pos := Nat.lt_of_lt_of_le Nat.two_pos two_le
  have no_history := sound.wellFormed.alternate.history_eq_empty
  have paired := (full.imp fun _ full => full.paired).resize Row.Paired.lasts
    (sound.cells.primary.imp fun _ all cell mem => (all cell mem).le_two)
    (Layout.Fills.paired two_le) cols_pos (Nat.le_succ 1) (fun _ paired => paired.fit cols)
    no_history rows
  have shown := (full.imp fun _ full => full.shown).resize_cells Cell.common_not_isBare cols_pos
    no_history rows
  exact (paired.and shown).imp fun _ both => ⟨both.1, both.2⟩

/-- Operations keep cells sound, and rows full that they spare. -/
theorem performAll (sound : t.Sound limit) {operations : List Operation}
    (one_line : Operation.print '\n' ∉ operations) :
    (Operation.performAll t operations).Sound limit ∧
      (t.Each Row.Full → t.sparesAll operations = true →
        (Operation.performAll t operations).Each Row.Full) := by
  induction operations generalizing t with
  | nil => exact ⟨sound, fun full _ => full⟩
  | cons op rest ih =>
    have op_ne : op ≠ .print '\n' := fun eq => one_line (eq ▸ List.mem_cons_self)
    have after := ih (sound.perform op_ne) fun mem => one_line (List.mem_cons_of_mem _ mem)
    refine ⟨after.1, fun full spares => ?_⟩
    obtain ⟨spares, rest_spares⟩ := Bool.and_eq_true_iff.mp spares
    exact after.2 (sound.full_perform full spares) rest_spares

/-! ### The window -/

/-- The columns that a line of the window takes. -/
theorem columns_windowRow (sound : t.Sound limit) {place : Nat} (lt : place < t.rows) :
    ∃ row, t.screen.rowAt? place = some row ∧
      Text.columns (t.windowRow place) + row.bare = t.cols + (row.wide - row.halves) := by
  obtain ⟨row, shown, size⟩ := sound.wellFormed.rowAt?_eq_some lt
  refine ⟨row, shown, ?_⟩
  rw [windowRow, shown]
  exact Row.columns_render (sound.cells.screen.rowAt? shown) size

/-- A line of the window that shows a full row takes the columns of the terminal. -/
theorem columns_windowRow_of_full (sound : t.Sound limit) (full : t.Each Row.Full) {place : Nat}
    (lt : place < t.rows) : Text.columns (t.windowRow place) = t.cols := by
  obtain ⟨row, shown, size⟩ := sound.wellFormed.rowAt?_eq_some lt
  rw [windowRow, shown]
  exact (full.screen.rowAt? shown).columns_render (sound.cells.screen.rowAt? shown) size

/-- The text of the window has a line for each row. -/
theorem lines_dump (sound : t.Sound limit) :
    Text.lines t.dump = (List.range t.rows).map t.windowRow := by
  have rows_pos := sound.wellFormed.rows_pos
  refine Text.lines_intercalate (by simp; omega) fun text mem => ?_
  obtain ⟨place, place_mem, rfl⟩ := List.mem_map.mp mem
  obtain ⟨row, shown, -⟩ := sound.wellFormed.rowAt?_eq_some (List.mem_range.mp place_mem)
  rw [windowRow, shown]
  exact Row.one_line_render (sound.cells.screen.rowAt? shown) t.cols

end Sound

end Terminal

end TerminalSession
