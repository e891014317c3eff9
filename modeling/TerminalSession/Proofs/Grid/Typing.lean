import TerminalSession.Proofs.Grid.Rows
import TerminalSession.Proofs.Grid.Stacking
import TerminalSession.Text.Lines

/-!
# Lines of text, laid out

What the rows of a text look like, when its lines are laid out one below the other, and that the lines
can be read off the rows again.

## Main definitions

* `Cell.ofChar`, `LogicalLine.ofText`: the cell of a character, and the cells of a line
* `Text.gap`, `Text.columnAfter`: the columns left at the end of a row that has no room for a
  character, and the column after the character
* `Cell.typed`: the cells that a text takes, those left at the ends of rows among them
* `Row.paragraphs`: the text of rows, cut where a line ends
* `Layout.Carries`: a layout that has begun one line only, and its cells

## Main statements

* `Layout.exists_block`: the rows of a line have the cells that its text takes
* `Row.paragraphs_lines`: the text of the rows of lines is these lines

## Design notes

* Only a wide character leaves a gap, and only when it comes with a single column left.
* A line that fills its last row exactly is followed by no further row. The row that a cursor needs
  there comes with the next character.
-/

namespace TerminalSession

/-! ### Characters and cells -/

/-- The cell of a character that is written in the style of a fresh terminal, as wide as the
character is. -/
def Cell.ofChar (c : Char) : Cell := { glyph := [c], width := Text.charWidth c }

/-- The line of a text. -/
def LogicalLine.ofText (text : Text) : LogicalLine := { cells := text.map Cell.ofChar }

/-- The cells that a character takes: a wide one has a right half. -/
def Cell.taken (c : Char) : List Cell :=
  Cell.ofChar c :: if Text.charWidth c = 2 then [Cell.rightHalf {}] else []

namespace Text

/-- The columns left at the end of a row that has no room for a character, which then begins the next
row. Where the character has room there is no gap. -/
def gap (cols col : Nat) (c : Char) : Nat := if cols < col + charWidth c then cols - col else 0

/-- The column after a character, which goes to the next row if it has no room. -/
def columnAfter (cols col : Nat) (c : Char) : Nat :=
  (if cols < col + charWidth c then 0 else col) + charWidth c

/-- All characters of a text take columns, and no more of them than a row has. A text with marks or
control characters is not one of these. -/
def Placeable (cols : Nat) (text : Text) : Prop := ∀ c ∈ text, 0 < charWidth c ∧ charWidth c ≤ cols

end Text

/-- The cells that a text takes from a column on, those left at the ends of rows among them. -/
def Cell.typed (cols : Nat) : Nat → Text → List Cell
  | _, [] => []
  | col, c :: rest =>
    List.replicate (Text.gap cols col c) Cell.empty ++
      (Cell.taken c ++ Cell.typed cols (Text.columnAfter cols col c) rest)

theorem Cell.isRightHalf_ofChar {c : Char} (pos : 0 < Text.charWidth c) :
    (Cell.ofChar c).isRightHalf = false := by
  simp [isRightHalf, ofChar]
  omega

theorem Cell.length_taken {c : Char} (pos : 0 < Text.charWidth c) :
    (Cell.taken c).length = Text.charWidth c := by
  have le := Text.charWidth_le_two c
  unfold taken
  split
  next two => simp [two]
  next other =>
    simp
    omega

/-- What is shown in the cells of a character is the character. -/
theorem Cell.flatMap_glyph_taken (c : Char) : (Cell.taken c).flatMap Cell.glyph = [c] := by
  unfold taken
  split <;> rfl

/-- What is shown in the cells that a text takes is the text. -/
theorem Cell.flatMap_glyph_typed (cols : Nat) (text : Text) (col : Nat) :
    (Cell.typed cols col text).flatMap Cell.glyph = text := by
  induction text generalizing col with
  | nil => rfl
  | cons c rest ih =>
    have nothing : (List.replicate (Text.gap cols col c) Cell.empty).flatMap Cell.glyph = [] := by
      simp [Cell.empty]
    rw [typed, List.flatMap_append, List.flatMap_append, nothing, flatMap_glyph_taken, ih]
    rfl

/-! ### One line -/

namespace Layout

variable {width : Nat} {layout : Layout} {cells : List Cell} {c : Char}

/-- A layout that has begun one line only: all its rows go on in the next one, and its cells are
given. -/
structure Carries (width : Nat) (cells : List Cell) (layout : Layout) : Prop where
  wrapped : ∀ row ∈ layout.rows.toList, row.wrapped = true
  cells_eq : (layout.rows.toList.flatMap fun row => row.cells.toList) ++ layout.row.toList = cells
  inWidth : layout.InWidth width

theorem needed_ofChar (pos : 0 < Text.charWidth c) (le : Text.charWidth c ≤ width) :
    needed width (Cell.ofChar c) = Text.charWidth c := by
  have le_two := Text.charWidth_le_two c
  unfold needed
  split
  next wide => exact wide.1.symm
  next narrow =>
    simp only [Cell.ofChar, not_and] at narrow
    omega

/-- The row being filled, with a character put into it. -/
theorem toList_row_push_ofChar (pos : 0 < Text.charWidth c) (le : Text.charWidth c ≤ width)
    (layout : Layout) :
    (layout.push width (Cell.ofChar c)).row.toList = layout.row.toList ++ Cell.taken c := by
  unfold push Cell.taken
  rw [needed_ofChar pos le]
  split <;> simp [Cell.ofChar]

namespace Carries

theorem empty (width : Nat) : Carries width [] {} where
  wrapped := by simp
  cells_eq := rfl
  inWidth := Nat.zero_le _

/-- A row that is broken is filled up. -/
theorem breakRow (carries : layout.Carries width cells) :
    (layout.breakRow width).Carries width
      (cells ++ List.replicate (width - layout.row.size) Cell.empty) where
  wrapped := by
    intro row mem
    rw [Layout.breakRow, Array.toList_push] at mem
    obtain old | new := List.mem_append.mp mem
    · exact carries.wrapped row old
    · rw [List.mem_singleton.mp new]
  cells_eq := by
    rw [← carries.cells_eq]
    simp [Layout.breakRow, Row.toList_fitCells carries.inWidth]
  inWidth := Nat.zero_le _

/-- Room is made for a character, with a gap if it is broken off. -/
theorem makeRoom (carries : layout.Carries width cells) (pos : 0 < Text.charWidth c)
    (le : Text.charWidth c ≤ width) :
    (layout.makeRoom width (Cell.ofChar c)).Carries width
        (cells ++ List.replicate (Text.gap width layout.row.size c) Cell.empty) ∧
      (layout.makeRoom width (Cell.ofChar c)).row.size + Text.charWidth c =
        Text.columnAfter width layout.row.size c := by
  unfold Layout.makeRoom Text.gap Text.columnAfter
  rw [needed_ofChar pos le]
  split
  · exact ⟨carries.breakRow, rfl⟩
  · refine ⟨?_, rfl⟩
    rw [List.replicate_zero, List.append_nil]
    exact carries

/-- A character is put down, behind the gap that it leaves if it goes to the next row. The column
after it is the one that `Text.columnAfter` tells. -/
theorem put (carries : layout.Carries width cells) (pos : 0 < Text.charWidth c)
    (le : Text.charWidth c ≤ width) :
    (layout.put width (Cell.ofChar c)).Carries width
        (cells ++ (List.replicate (Text.gap width layout.row.size c) Cell.empty ++
          Cell.taken c)) ∧
      (layout.put width (Cell.ofChar c)).row.size = Text.columnAfter width layout.row.size c := by
  obtain ⟨room, size_eq⟩ := carries.makeRoom pos le
  have size : (layout.put width (Cell.ofChar c)).row.size =
      Text.columnAfter width layout.row.size c := by
    rw [Layout.put, size_push, needed_ofChar pos le, size_eq]
  refine ⟨⟨room.wrapped, ?_, ?_⟩, size⟩
  · rw [← List.append_assoc, ← room.cells_eq, List.append_assoc, Layout.put,
      toList_row_push_ofChar pos le]
    rfl
  · rw [InWidth, size]
    unfold Text.columnAfter
    split <;> omega

/-- So is a text, character by character. The column that each one leaves is the one where the next
one begins. -/
theorem foldl_put {text : Text} (placeable : text.Placeable width)
    (carries : layout.Carries width cells) :
    ((text.map Cell.ofChar).foldl (Layout.put width) layout).Carries width
      (cells ++ Cell.typed width layout.row.size text) := by
  induction text generalizing layout cells with
  | nil =>
    rw [Cell.typed, List.append_nil]
    exact carries
  | cons c rest ih =>
    obtain ⟨pos, le⟩ := placeable c List.mem_cons_self
    obtain ⟨put, size⟩ := carries.put pos le
    have all := ih (fun other mem => placeable other (List.mem_cons_of_mem _ mem)) put
    rw [size, List.append_assoc, List.append_assoc] at all
    exact all

end Carries

/-- The cells of a text are put down one after the other. -/
theorem foldl_place_ofText {text : Text} (placeable : text.Placeable width) (n : Nat)
    (layout : Layout) :
    ((text.map Cell.ofChar).zipIdx n).foldl (place width none) layout =
      (text.map Cell.ofChar).foldl (put width) layout := by
  induction text generalizing layout n with
  | nil => rfl
  | cons c rest ih =>
    have shown := Cell.isRightHalf_ofChar (placeable c List.mem_cons_self).1
    rw [List.map_cons, List.zipIdx_cons, List.foldl_cons, List.foldl_cons, place_of_shown shown,
      markIf, if_neg (Option.some_ne_none n).symm,
      ih fun other mem => placeable other (List.mem_cons_of_mem _ mem)]
    rfl

theorem filled_ofText (text : Text) : (LogicalLine.ofText text).filled = text.map Cell.ofChar := by
  simp [LogicalLine.filled, LogicalLine.ofText]

/-- A line of text is laid out by putting its characters down, and ending the row. -/
theorem line_ofText {text : Text} (placeable : text.Placeable width) (layout : Layout) :
    line width layout (LogicalLine.ofText text) =
      ((text.map Cell.ofChar).foldl (put width) layout).endRow width := by
  have inside : (LogicalLine.ofText text).cursor ≠ some (LogicalLine.ofText text).filled.length :=
    (Option.some_ne_none _).symm
  rw [line_eq_close, close, if_neg inside, filled_ofText]
  exact congrArg (endRow width) (foldl_place_ofText placeable 0 layout)

/-- The rows of a line have the cells that its text takes: all but the last go on in the next one,
and the last one is filled up. -/
theorem exists_block {text : Text} (placeable : text.Placeable width) :
    ∃ (broken : List Row) (last : Array Cell),
      block width (LogicalLine.ofText text) =
        broken ++ [{ cells := Row.fitCells last width }] ∧
      (∀ row ∈ broken, row.wrapped = true) ∧
      (broken.flatMap fun row => row.cells.toList) ++ last.toList = Cell.typed width 0 text ∧
      last.size ≤ width := by
  have carries := (Carries.empty width).foldl_put placeable
  rw [block, line_ofText placeable, endRow, Array.toList_push]
  exact ⟨_, _, rfl, carries.wrapped, carries.cells_eq, carries.inWidth⟩

end Layout

/-! ### Writing into a row -/

namespace Row

variable {width : Nat} {cells : Array Cell}

theorem blank_eq (width : Nat) : blank width = { cells := fitCells #[] width } := by
  simp [blank, fitCells]

/-- Behind the cells of a row that was filled up there is an empty one. -/
theorem getElem?_fitCells_size (lt : cells.size < width) :
    (fitCells cells width)[cells.size]? = some Cell.empty := by
  rw [← Array.getElem?_toList, toList_fitCells (Nat.le_of_lt lt),
    List.getElem?_append_right (by simp), Array.length_toList, Nat.sub_self,
    List.getElem?_replicate, if_pos (Nat.sub_pos_of_lt lt)]

/-- A cell written there is the next one of the row. -/
theorem setIfInBounds_fitCells (lt : cells.size < width) (cell : Cell) :
    (fitCells cells width).setIfInBounds cells.size cell = fitCells (cells.push cell) width := by
  obtain ⟨k, left⟩ : ∃ k, width - cells.size = k + 1 := ⟨width - cells.size - 1, by omega⟩
  have left' : width - (cells.push cell).size = k := by
    rw [Array.size_push]
    omega
  have size_eq : cells.size = cells.toList.length := rfl
  refine Array.ext' ?_
  rw [Array.toList_setIfInBounds, toList_fitCells (Nat.le_of_lt lt),
    toList_fitCells (by rw [Array.size_push]; omega), left, left', List.replicate_succ, size_eq,
    List.set_append_right _ _ (Nat.le_refl _)]
  simp

/-- A character written behind the cells of a row that was filled up is laid out in that row. Only
empty cells are overwritten, so nothing has to be repaired. -/
theorem write_fitCells {layout : Layout} {c : Char} (pos : 0 < Text.charWidth c)
    (room : layout.row.size + Text.charWidth c ≤ width) :
    ({ cells := fitCells layout.row width } : Row).write layout.row.size (Cell.ofChar c) =
      { cells := fitCells (layout.push width (Cell.ofChar c)).row width } := by
  have lt : layout.row.size < width := by omega
  have old := getElem?_fitCells_size lt
  have left : repairLeft (fitCells layout.row width) layout.row.size (Cell.ofChar c).style =
      fitCells layout.row width := by
    simp [repairLeft, old]
  have right : repairRight (fitCells layout.row width) layout.row.size (Cell.ofChar c).style =
      fitCells layout.row width := by
    simp [repairRight, old, Cell.empty]
  have needed_eq : Layout.needed width (Cell.ofChar c) = (Cell.ofChar c).width :=
    Layout.needed_ofChar pos (Nat.le_trans (Nat.le_add_left _ _) room)
  rw [write, writeCells_eq, left, right, setIfInBounds_fitCells lt, Layout.push, needed_eq]
  dsimp only
  split
  next wide =>
    have lt' : (layout.row.push (Cell.ofChar c)).size < width := by
      change Text.charWidth c = 2 at wide
      rw [Array.size_push]
      omega
    rw [← setIfInBounds_fitCells lt', Array.size_push]
  · rfl

end Row

/-! ### Several lines -/

namespace Layout

variable {width : Nat} {layout : Layout} {cells : List Cell} {c : Char}

/-- Lines are laid out, and one more is begun below them. -/
def typed (width : Nat) (init : List Text) (final : Text) : Layout :=
  (final.map Cell.ofChar).foldl (put width) (lines width (init.map LogicalLine.ofText))

/-- When the last line ends, all lines are laid out. -/
theorem endRow_typed (init : List Text) {final : Text} (placeable : final.Placeable width) :
    (typed width init final).endRow width =
      lines width ((init ++ [final]).map LogicalLine.ofText) := by
  rw [typed, ← line_ofText placeable, List.map_append, lines, lines, List.foldl_append]
  rfl

/-- The rows of the line that was begun have the cells that its text takes, and come after the rows
of the lines above. -/
theorem exists_typed (init : List Text) {final : Text} (placeable : final.Placeable width) :
    ∃ broken : List Row,
      (typed width init final).rows.toList =
        init.flatMap (fun text => block width (LogicalLine.ofText text)) ++ broken ∧
      (∀ row ∈ broken, row.wrapped = true) ∧
      (broken.flatMap fun row => row.cells.toList) ++ (typed width init final).row.toList =
        Cell.typed width 0 final ∧
      (typed width init final).row.size ≤ width := by
  have start : Below (lines width (init.map LogicalLine.ofText)).rows.toList ({} : Layout)
      (lines width (init.map LogicalLine.ofText)) := ⟨by simp, row_lines width _⟩
  have below := start.foldl_put width (final.map Cell.ofChar)
  have carries := (Carries.empty width).foldl_put placeable
  have above_eq : (lines width (init.map LogicalLine.ofText)).rows.toList =
      init.flatMap fun text => block width (LogicalLine.ofText text) := by
    rw [rows_lines, List.flatMap_map]
  refine ⟨_, above_eq ▸ below.rows_eq, carries.wrapped, ?_, ?_⟩
  · rw [typed, below.row_eq]
    exact carries.cells_eq
  · rw [typed, below.row_eq]
    exact carries.inWidth

end Layout

/-! ### Reading lines -/

namespace Row

/-- The characters of a row. Cells that show no character are left out. -/
def glyphs (row : Row) : Text := row.cells.toList.flatMap Cell.glyph

/-- The text of rows, cut after each row whose line does not go on. What it is must not depend on
the width of the rows. -/
def paragraphs : List Row → List Text
  | [] => []
  | row :: rest =>
    if row.wrapped then
      match paragraphs rest with
      | [] => [row.glyphs]
      | text :: texts => (row.glyphs ++ text) :: texts
    else row.glyphs :: paragraphs rest

/-- The rows of one line are one piece of text. -/
theorem paragraphs_append {broken : List Row} (wrapped : ∀ row ∈ broken, row.wrapped = true)
    {last : Row} (ended : last.wrapped = false) (rest : List Row) :
    paragraphs (broken ++ last :: rest) =
      (broken.flatMap glyphs ++ last.glyphs) :: paragraphs rest := by
  induction broken with
  | nil => rw [List.nil_append, paragraphs, if_neg (Bool.eq_false_iff.mp ended)]; rfl
  | cons row broken ih =>
    rw [List.cons_append, paragraphs, if_pos (wrapped row List.mem_cons_self),
      ih fun other mem => wrapped other (List.mem_cons_of_mem _ mem)]
    simp

/-- The characters of a row that was filled up. -/
theorem glyphs_fitCells {cells : Array Cell} {width : Nat} (le : cells.size ≤ width) :
    ({ cells := fitCells cells width } : Row).glyphs = cells.toList.flatMap Cell.glyph := by
  simp [glyphs, toList_fitCells le, Cell.empty]

/-- The text of the rows of lines is these lines. Rows of one line go on up to the last, and what
they show is the text, as gaps and what rows are filled up with show nothing. -/
theorem paragraphs_lines {width : Nat} {lines : List Text}
    (placeable : ∀ text ∈ lines, text.Placeable width) :
    paragraphs (Layout.lines width (lines.map LogicalLine.ofText)).rows.toList = lines := by
  rw [Layout.rows_lines]
  induction lines with
  | nil => rfl
  | cons text rest ih =>
    obtain ⟨broken, last, block_eq, wrapped, cells_eq, le⟩ :=
      Layout.exists_block (placeable text List.mem_cons_self)
    have text_eq : broken.flatMap glyphs ++ last.toList.flatMap Cell.glyph = text := by
      rw [← Cell.flatMap_glyph_typed width text 0, ← cells_eq, List.flatMap_append,
        List.flatMap_assoc]
      rfl
    rw [List.map_cons, List.flatMap_cons, block_eq, List.append_assoc, List.singleton_append,
      paragraphs_append wrapped rfl, glyphs_fitCells le, text_eq,
      ih fun other mem => placeable other (List.mem_cons_of_mem _ mem)]

end Row

end TerminalSession
