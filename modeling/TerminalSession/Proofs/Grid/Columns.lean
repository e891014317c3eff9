import TerminalSession.Proofs.Grid.Pairing
import TerminalSession.Proofs.Text.Lines
import TerminalSession.Text.Lines

/-!
# The columns that a row shows

A row is shown without its right halves, and filled up with spaces. It takes the columns of the
screen, if all its wide characters are whole and every cell shows a character; what it takes
otherwise is a matter of counting cells.

## Main definitions

* `Row.wide`, `Row.halves`, `Row.bare`: the wide characters of a row, the right halves, and the
  cells that show nothing in the column they take
* `Cell.Sound`: what printing leaves in cells
* `Row.Full`: all wide characters are whole, and no cell is bare

## Main statements

* `Row.columns_render`: the columns that a row shows
* `Row.Paired.wide_eq_halves`: in a row that is whole there is one right half for each wide
  character
* `Row.Full.columns_render`: a full row shows as many columns as the screen has

## Design notes

* A cell becomes bare when a mark is added to an empty one: it then shows the mark in place of the
  space.
-/

namespace TerminalSession

/-! ### Cells -/

namespace Cell

/-- Whether a cell shows nothing in the column that it takes, as a mark does that has no character
to join. -/
def isBare (cell : Cell) : Bool :=
  cell.width == 1 && Text.columns cell.shown == 0

/-- What a cell shows is in one line. It takes the columns of the cell, or the cell is bare, with
marks and no character to carry them. -/
structure Sound (cell : Cell) : Prop where
  one_line : '\n' ∉ cell.glyph
  le_two : cell.width ≤ 2
  columns : cell.width ≠ 0 → cell.isBare = false → Text.columns cell.shown = cell.width

/-- A bare cell has a mark and no character to carry it. It takes a column of the row and none of
the text. -/
theorem columns_of_isBare {cell : Cell} (bare : cell.isBare = true) :
    cell.width = 1 ∧ Text.columns cell.shown = 0 := by
  simpa [isBare] using bare

/-- A cell without glyph shows a space. -/
theorem columns_shown_of_nil {cell : Cell} (empty : cell.glyph = []) :
    Text.columns cell.shown = 1 := by
  rw [shown, empty]
  rfl

/-- Any other cell shows its glyph. -/
theorem shown_eq_glyph {cell : Cell} (ne_nil : cell.glyph ≠ []) : cell.shown = cell.glyph := by
  simp [shown, ne_nil]

theorem isBare_of_nil {cell : Cell} (empty : cell.glyph = []) : cell.isBare = false := by
  simp [isBare, columns_shown_of_nil empty]

/-- None of the cells that terminal functions leave behind is bare. -/
theorem common_not_isBare : Common fun cell => cell.isBare = false where
  erased style := isBare_of_nil rfl
  space style := by
    have narrow : Text.columns (Cell.space style).shown = 1 := rfl
    simp [isBare, narrow]
  rightHalf style := isBare_of_nil rfl

/-- All of them are sound: the ones that are no right halves show a space, and take one column. -/
theorem common_sound : Common Sound where
  erased style := ⟨List.not_mem_nil, Nat.le_succ 1, fun _ _ => rfl⟩
  space style := ⟨by simp [space], Nat.le_succ 1, fun _ _ => rfl⟩
  rightHalf style := ⟨List.not_mem_nil, Nat.zero_le 2, fun shown => absurd rfl shown⟩

/-! #### Printing -/

variable {c : Char} {style : Style}

/-- A cell that is printed shows as many columns as its character has. -/
theorem columns_shown_print : Text.columns
    ({ glyph := [c], width := Text.charWidth c, style } : Cell).shown = Text.charWidth c := by
  simp [shown]

/-- So it is not bare, as a character without width is not printed to a cell of its own. -/
theorem isBare_print (some : Text.charWidth c ≠ 0) :
    ({ glyph := [c], width := Text.charWidth c, style } : Cell).isBare = false := by
  simp [isBare, columns_shown_print, some]

/-- It is sound if the character is no line feed, which would begin another line of the text. -/
theorem Sound.print (one_line : c ≠ '\n') :
    ({ glyph := [c], width := Text.charWidth c, style } : Cell).Sound where
  one_line := by simpa using one_line.symm
  le_two := Text.charWidth_le_two c
  columns _ _ := columns_shown_print

/-! #### Marks -/

variable {cell : Cell} {mark : Char}

/-- The cell with a mark added. -/
def combine (cell : Cell) (mark : Char) : Cell := { cell with glyph := cell.glyph ++ [mark] }

/-- A mark adds no column to a cell that shows a character. Joined to a cell without glyph it takes
the place of the space, and the column is gone. -/
theorem columns_shown_combine (none : Text.charWidth mark = 0) :
    Text.columns (cell.combine mark).shown =
      if cell.glyph = [] then 0 else Text.columns cell.shown := by
  have glyph_ne_nil : (cell.combine mark).glyph ≠ [] := by simp [combine]
  rw [shown_eq_glyph glyph_ne_nil, combine, Text.columns_append]
  split
  next empty => simp [empty, none]
  next full => simp [shown_eq_glyph full, none]

/-- So a cell that has a glyph does not become bare by a mark. -/
theorem isBare_combine (none : Text.charWidth mark = 0) (full : cell.glyph ≠ [])
    (shown : cell.isBare = false) : (cell.combine mark).isBare = false := by
  rw [isBare, columns_shown_combine none, if_neg full]
  exact shown

/-- Nor does it become unsound: a mark takes no column, and an empty cell that gets one stays a cell
in which nothing takes a column. -/
theorem Sound.combine (sound : cell.Sound) (none : Text.charWidth mark = 0)
    (one_line : mark ≠ '\n') : (cell.combine mark).Sound where
  one_line := by
    intro mem
    obtain mem | mem := List.mem_append.mp mem
    · exact sound.one_line mem
    · exact one_line (List.mem_singleton.mp mem).symm
  le_two := sound.le_two
  columns := by
    intro shown not_bare
    rw [columns_shown_combine none]
    rw [isBare, columns_shown_combine none] at not_bare
    split
    next empty =>
      -- A mark on an empty cell leaves it bare, and a wide character is never empty.
      have columns := sound.columns shown (isBare_of_nil empty)
      rw [columns_shown_of_nil empty] at columns
      have narrow : (cell.combine mark).width = 1 := columns.symm
      simp [narrow, empty] at not_bare
    next full =>
      rw [if_neg full] at not_bare
      exact sound.columns shown not_bare

end Cell

/-! ### Counting -/

namespace Row

/-- The number of wide characters in a row, whole or not. -/
def wide (row : Row) : Nat := row.cells.countP fun cell => cell.width == 2

/-- The number of right halves in a row, whole or not. -/
def halves (row : Row) : Nat := row.cells.countP Cell.isRightHalf

/-- The number of cells that show nothing in the column they take. Each makes the text of the row
one column shorter. -/
def bare (row : Row) : Nat := row.cells.countP Cell.isBare

variable {row : Row} {cols : Nat}

/-- The columns that a row takes: one for each cell, one more for each wide character, and none for
a right half. The right halves stand on the other side, where nothing has to be subtracted. -/
theorem columns_add_halves (le_two : row.All fun cell => cell.width ≤ 2) :
    row.columns + row.halves = row.cells.size + row.wide := by
  replace le_two : ∀ cell ∈ row.cells.toList, cell.width ≤ 2 :=
    fun cell mem => le_two cell (Array.mem_toList_iff.mp mem)
  simp only [columns, halves, wide, ← Array.foldr_toList, ← Array.countP_toList]
  rw [← Array.length_toList]
  generalize row.cells.toList = cells at le_two ⊢
  induction cells with
  | nil => rfl
  | cons cell rest ih =>
    have rest_eq := ih fun other mem => le_two other (List.mem_cons_of_mem _ mem)
    have le_two := le_two cell List.mem_cons_self
    rw [List.foldr_cons, List.countP_cons, List.countP_cons, List.length_cons]
    obtain width | width | width : cell.width = 0 ∨ cell.width = 1 ∨ cell.width = 2 := by omega
    · have half : cell.isRightHalf = true := by simp [Cell.isRightHalf, width]
      simp [half, width]
      omega
    · have whole : cell.isRightHalf = false := by simp [Cell.isRightHalf, width]
      simp [whole, width]
      omega
    · have whole : cell.isRightHalf = false := by simp [Cell.isRightHalf, width]
      simp [whole, width]
      omega

/-- What a row shows takes the columns of the row, without those in which nothing is shown. A right
half shows nothing and takes nothing; every other cell shows what is as wide as it is, or is
bare. -/
theorem columns_text_add_bare (sound : row.All Cell.Sound) :
    Text.columns row.text + row.bare = row.columns := by
  replace sound : ∀ cell ∈ row.cells.toList, cell.Sound :=
    fun cell mem => sound cell (Array.mem_toList_iff.mp mem)
  simp only [columns, text, bare, ← Array.foldr_toList, ← Array.countP_toList]
  generalize row.cells.toList = cells at sound ⊢
  induction cells with
  | nil => rfl
  | cons cell rest ih =>
    have rest_eq := ih fun other mem => sound other (List.mem_cons_of_mem _ mem)
    have columns := (sound cell List.mem_cons_self).columns
    rw [List.flatMap_cons, Text.columns_append, List.countP_cons, List.foldr_cons]
    cases bare : cell.isBare with
    | true =>
      obtain ⟨width, columns⟩ := Cell.columns_of_isBare bare
      have whole : cell.isRightHalf = false := by simp [Cell.isRightHalf, width]
      simp [whole, width, columns]
      omega
    | false =>
      cases half : cell.isRightHalf with
      | true => simpa using rest_eq
      | false =>
        have shown : cell.width ≠ 0 := by simpa [Cell.isRightHalf] using half
        simp [columns shown bare]
        omega

/-- The columns that a row shows on a screen that is as wide. -/
theorem columns_render (sound : row.All Cell.Sound) (size : row.cells.size = cols) :
    Text.columns (row.render cols) + row.bare = cols + (row.wide - row.halves) := by
  have taken := columns_add_halves fun cell mem => (sound cell mem).le_two
  have shown := columns_text_add_bare sound
  rw [render, Text.columns_append, Text.columns_replicate_space]
  omega

/-- What a row shows is in one line. -/
theorem one_line_render (sound : row.All Cell.Sound) (cols : Nat) : '\n' ∉ row.render cols := by
  intro mem
  obtain space | ⟨cell, cell_mem, mem⟩ := mem_render mem
  · exact absurd space (by decide)
  · exact (sound cell cell_mem).one_line mem

/-! ### Full rows -/

/-- Every right half but one in the first column follows a wide character, so the counts differ by
that one at most. -/
theorem countP_halves (cells : List Cell)
    (next : ∀ col : Nat, (cells[col]?.map Cell.width).getD 1 = 2 ↔
      (cells[col + 1]?.map Cell.width).getD 1 = 0) :
    cells.countP Cell.isRightHalf = cells.countP (fun cell => cell.width == 2) +
      if (cells[0]?.map Cell.width).getD 1 = 0 then 1 else 0 := by
  induction cells with
  | nil => rfl
  | cons cell rest ih =>
    have rest_eq := ih fun col => next (col + 1)
    have first_iff := next 0
    simp only [List.countP_cons, List.getElem?_cons_zero, List.getElem?_cons_succ, Option.map_some,
      Option.getD_some, Cell.isRightHalf, beq_iff_eq, Nat.zero_add] at first_iff rest_eq ⊢
    rw [rest_eq]
    simp only [← first_iff]

/-- In a row that is whole there is one right half for each wide character. -/
theorem Paired.wide_eq_halves (paired : Paired row.cells) : row.wide = row.halves := by
  have counted := countP_halves row.cells.toList fun col => by
    simpa [widthAt] using paired.next col
  have first : (row.cells.toList[0]?.map Cell.width).getD 1 ≠ 0 := by
    simpa [widthAt] using paired.first
  rw [if_neg first, Nat.add_zero, Array.countP_toList, Array.countP_toList] at counted
  exact counted.symm

/-- A row that is whole takes a column for each of its cells. -/
theorem Paired.columns_eq (paired : Paired row.cells) (le_two : row.All fun cell => cell.width ≤ 2) :
    row.columns = row.cells.size := by
  have taken := columns_add_halves le_two
  rw [paired.wide_eq_halves] at taken
  exact Nat.add_right_cancel taken

/-- All wide characters of a row are whole, and no cell is bare. -/
structure Full (row : Row) : Prop where
  paired : Paired row.cells
  shown : row.All fun cell => cell.isBare = false

/-- Rows stay whole as long as no cell is edited. -/
theorem Paired.lasts : Lasts fun row => Paired row.cells where
  blank := Paired.blank
  clear row style _ := Paired.clear row style
  wrap _ _ paired := paired

/-- A blank row shows a space in each column. -/
theorem Full.blank (cols : Nat) : (Row.blank cols).Full where
  paired := Paired.blank cols
  shown := (All.lasts Cell.common_not_isBare).blank cols

/-- Whether a mark that comes before a column joins a character, and no empty cell. -/
def marksCharacter (row : Row) (col : Nat) : Bool :=
  col == 0 || row.cells[row.markTarget col]?.all fun cell => !cell.glyph.isEmpty

/-- Where a mark joins a character, the cell it joins has a glyph. -/
theorem glyph_ne_nil_of_marksCharacter {col : Nat} (marks : row.marksCharacter col = true)
    (other : col ≠ 0) {cell : Cell} (found : row.cells[row.markTarget col]? = some cell) :
    cell.glyph ≠ [] := by
  simpa [marksCharacter, other, found] using marks

/-- A full row shows as many columns as the screen has. -/
theorem Full.columns_render (full : row.Full) (sound : row.All Cell.Sound)
    (size : row.cells.size = cols) : Text.columns (row.render cols) = cols := by
  have counted := Row.columns_render sound size
  have bare : row.bare = 0 := Array.countP_eq_zero.mpr fun cell mem => by simp [full.shown cell mem]
  rw [bare, full.paired.wide_eq_halves, Nat.sub_self] at counted
  exact counted

end Row

end TerminalSession
