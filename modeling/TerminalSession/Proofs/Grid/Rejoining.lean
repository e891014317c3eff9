import TerminalSession.Proofs.Grid.Following
import TerminalSession.Proofs.Grid.Typing
import TerminalSession.Proofs.Text.Lines
import TerminalSession.Text.Blank

/-!
# Lines of text, joined and laid out again

Rows that a line was broken into are joined, and the line is laid out in rows of another width. It is
the same line then, unless a column was left over at the end of a row: such a column becomes a cell of
the line.

## Main definitions

* `Text.gaps`: the columns left over at the ends of the rows of a text
* `LogicalLine.typed`: the line that the rows of a text are joined to

## Main statements

* `LogicalLine.join_typed`: the rows of lines are joined to these lines
* `Layout.map_trimmed_block`: what the rows of one line show, when they are wide enough for it
* `Layout.map_trimmed_lines_iff`: when every row shows its line
* `Layout.size_rows_typed_le`: how many rows the lines need then

## Design notes

* The cursor stands at the end of the last line. If this line fills its row, the cursor gets one more
  row, which shows nothing.
-/

namespace TerminalSession

namespace Text

/-- The columns left over at the ends of the rows, when a text is written from a column on. -/
def gaps (cols : Nat) : Nat → Text → Nat
  | _, [] => 0
  | col, c :: rest => gap cols col c + gaps cols (columnAfter cols col c) rest

/-- A text that has room in its row leaves no gap. -/
theorem gaps_of_room {cols : Nat} {text : Text} {col : Nat} (room : col + columns text ≤ cols) :
    gaps cols col text = 0 := by
  induction text generalizing col with
  | nil => rfl
  | cons c rest ih =>
    rw [columns_cons] at room
    have fits : ¬ cols < col + charWidth c := by omega
    rw [gaps, gap, if_neg fits, columnAfter, if_neg fits, ih (by omega)]

/-- White space at the end is trimmed, and nothing else: a text without any is what is left of it,
however many spaces come after it. -/
theorem trimEnd_append_spaces {text : Text} (visible : ∀ c ∈ text, isSpace c = false) (n : Nat) :
    trimEnd (text ++ List.replicate n ' ') = text := by
  have space : isSpace ' ' = true := by decide
  rw [trimEnd, List.reverse_append, List.reverse_replicate,
    List.dropWhile_append_of_pos (by simp [space])]
  have kept : text.reverse.dropWhile isSpace = text.reverse := by
    cases reversed : text.reverse with
    | nil => rfl
    | cons c rest =>
      have mem : c ∈ text := by
        rw [← List.mem_reverse, reversed]
        exact List.mem_cons_self
      exact List.dropWhile_cons_of_neg (by simp [visible c mem])
  rw [kept, List.reverse_reverse]

/-- Trimming takes away from the end. -/
theorem trimEnd_prefix (text : Text) : trimEnd text <+: text :=
  text.rdropWhile_prefix isSpace

theorem ne_space_of_visible {c : Char} (visible : isSpace c = false) : c ≠ ' ' := by
  rintro rfl
  exact absurd visible (by decide)

end Text

open Text (charWidth gap gaps columns columnAfter isSpace Placeable)

namespace Cell

variable {c : Char}

/-- A cell with a visible character is not blank, in any style. -/
theorem isBlank_ofChar (visible : isSpace c = false) : (ofChar c).isBlank = false := by
  simp [isBlank, ofChar, Text.ne_space_of_visible visible]

/-- The cells of a text with no gap are those of its characters. -/
theorem typed_of_gaps_eq_zero {cols : Nat} {text : Text} {col : Nat}
    (none : gaps cols col text = 0) : typed cols col text = text.flatMap taken := by
  induction text generalizing col with
  | nil => rfl
  | cons c rest ih =>
    obtain ⟨first, later⟩ := Nat.add_eq_zero_iff.mp none
    rw [typed, first, ih later, List.flatMap_cons]
    rfl

/-- At the first gap of a text a wide character comes, with one column left. What comes before it is
laid out without a gap, and the gap is an empty cell. -/
theorem exists_gap {cols : Nat} {text : Text} {col : Nat} (placeable : text.Placeable cols)
    (le : col ≤ cols) (some : gaps cols col text ≠ 0) :
    ∃ (before : Text) (c : Char) (after : Text) (more : List Cell),
      text = before ++ c :: after ∧ charWidth c = 2 ∧
        typed cols col text = before.flatMap taken ++ empty :: more := by
  induction text generalizing col with
  | nil => exact absurd rfl some
  | cons c rest ih =>
    have le_two := Text.charWidth_le_two c
    obtain ⟨pos, fits⟩ := placeable c List.mem_cons_self
    by_cases here : gap cols col c = 0
    · have later : gaps cols (columnAfter cols col c) rest ≠ 0 := by
        rw [gaps, here, Nat.zero_add] at some
        exact some
      have le_after : columnAfter cols col c ≤ cols := by
        unfold columnAfter
        split <;> omega
      obtain ⟨before, c', after, more, rfl, wide, typed_eq⟩ :=
        ih (fun other mem => placeable other (List.mem_cons_of_mem _ mem)) le_after later
      refine ⟨c :: before, c', after, more, rfl, wide, ?_⟩
      rw [typed, here, typed_eq, List.flatMap_cons, List.append_assoc]
      rfl
    · -- One column is left, so the character is wide.
      have one : gap cols col c = 1 ∧ charWidth c = 2 := by
        unfold gap at here ⊢
        split at here
        next full =>
          rw [if_pos full]
          omega
        · exact absurd rfl here
      refine ⟨[], c, rest, taken c ++ typed cols (columnAfter cols col c) rest, rfl, one.2, ?_⟩
      rw [typed, one.1]
      rfl

/-- The cells of a text do not end with a blank one, so that trimming the row that ends its line
takes away what the row was filled up with and no more. -/
theorem isBlank_of_getLast?_typed (cols : Nat) {text : Text}
    (visible : ∀ c ∈ text, isSpace c = false) (col : Nat) :
    ∀ cell ∈ (typed cols col text).getLast?, cell.isBlank = false := by
  induction text generalizing col with
  | nil => exact fun cell mem => nomatch mem
  | cons c rest ih =>
    have rest_visible := ih fun other mem => visible other (List.mem_cons_of_mem _ mem)
    intro cell mem
    rw [typed, List.getLast?_append, List.getLast?_append] at mem
    cases last : (typed cols (columnAfter cols col c) rest).getLast? with
    | some other =>
      rw [last] at mem
      obtain rfl : other = cell := by simpa using mem
      exact rest_visible _ other last
    | none =>
      rw [last, taken] at mem
      split at mem
      · obtain rfl : rightHalf {} = cell := by simpa using mem
        rfl
      · obtain rfl : ofChar c = cell := by simpa using mem
        exact isBlank_ofChar (visible c List.mem_cons_self)

end Cell

/-! ### Joining -/

namespace LogicalLine

/-- The line that the rows of a text are joined to. -/
def typed (cols : Nat) (text : Text) : LogicalLine := { cells := Cell.typed cols 0 text }

/-- The same with the cursor at its end. -/
def typedToCursor (cols : Nat) (text : Text) : LogicalLine :=
  { typed cols text with cursor := some (Cell.typed cols 0 text).length }

/-- Empty cells at the end of a line are dropped with the rest of the blank ones. -/
theorem trimBlank_append_empty (cells : List Cell) (n : Nat) :
    trimBlank (cells ++ List.replicate n Cell.empty) = trimBlank cells := by
  rw [trimBlank, List.reverse_append, List.reverse_replicate,
    List.dropWhile_append_of_pos (by simp)]
  rfl

/-- If the last cell is not blank, none is dropped. -/
theorem trimBlank_of_getLast? {cells : List Cell}
    (visible : ∀ cell ∈ cells.getLast?, cell.isBlank = false) : trimBlank cells = cells := by
  refine List.rdropWhile_eq_self_iff.mpr fun ne blank => ?_
  have last := visible _ (List.getLast?_eq_some_getLast ne)
  rw [blank] at last
  exact Bool.noConfusion last

theorem unmarked_append (a b : List Row) : unmarked (a ++ b) = unmarked a ++ unmarked b :=
  List.map_append

/-- Rows that go on in the next one are joined to one line, up to the row where it ends. Only that
row is trimmed, and its cursor is counted from the beginning of the line. -/
theorem join_append {broken : List Row} (wrapped : ∀ row ∈ broken, row.wrapped = true) {last : Row}
    (ended : last.wrapped = false) (cursor : Option Nat) (rest : List (Row × Option Nat)) :
    join (unmarked broken ++ (last, cursor) :: rest) =
      { cells := (broken.flatMap fun row => row.cells.toList) ++ trimBlank last.cells.toList
        cursor := cursor.map (· + (broken.flatMap fun row => row.cells.toList).length) } ::
        join rest := by
  induction broken with
  | nil =>
    change join ((last, cursor) :: rest) = _
    rw [join, if_neg (Bool.eq_false_iff.mp ended)]
    cases cursor <;> rfl
  | cons row broken ih =>
    change join ((row, none) :: (unmarked broken ++ (last, cursor) :: rest)) = _
    rw [join, if_pos (wrapped row List.mem_cons_self),
      ih fun other mem => wrapped other (List.mem_cons_of_mem _ mem)]
    cases cursor <;> simp [Nat.add_comm, Nat.add_left_comm]

/-- The last row of a text loses what it was filled up with, and nothing else. -/
theorem trimBlank_last {cols : Nat} {text : Text} (visible : ∀ c ∈ text, isSpace c = false)
    {cells : List Cell} {last : Array Cell} (cells_eq : cells ++ last.toList = Cell.typed cols 0 text)
    (le : last.size ≤ cols) : trimBlank (Row.fitCells last cols).toList = last.toList := by
  rw [Row.toList_fitCells le, trimBlank_append_empty]
  have ends := Cell.isBlank_of_getLast?_typed cols visible 0
  refine trimBlank_of_getLast? fun cell mem => ends cell ?_
  rw [← cells_eq, List.getLast?_append, Option.mem_def, Option.mem_def.mp mem]
  rfl

/-- The rows of lines are joined to these lines. Those of each line but the last go on, and what
trimming takes from the last one is what it was filled up with. -/
theorem join_blocks {cols : Nat} {init : List Text} (placeable : ∀ text ∈ init, text.Placeable cols)
    (visible : ∀ text ∈ init, ∀ c ∈ text, isSpace c = false) (rest : List (Row × Option Nat)) :
    join (unmarked (init.flatMap fun text => Layout.block cols (ofText text)) ++ rest) =
      init.map (typed cols) ++ join rest := by
  induction init with
  | nil => rfl
  | cons text init ih =>
    obtain ⟨broken, last, block_eq, wrapped, cells_eq, le⟩ :=
      Layout.exists_block (placeable text List.mem_cons_self)
    have trimmed := trimBlank_last (visible text List.mem_cons_self) cells_eq le
    have others := ih (fun other mem => placeable other (List.mem_cons_of_mem _ mem))
      fun other mem => visible other (List.mem_cons_of_mem _ mem)
    rw [List.flatMap_cons, block_eq, unmarked_append, unmarked_append, List.append_assoc,
      List.append_assoc]
    have joined := join_append wrapped (rfl : Row.wrapped { cells := Row.fitCells last cols } = false)
      none (unmarked (init.flatMap fun text => Layout.block cols (ofText text)) ++ rest)
    rw [trimmed, cells_eq, others] at joined
    exact joined

/-- The rows of lines, the last of which has the cursor at its end, are joined to these lines. The
row of the cursor is the one that was being filled. -/
theorem join_typed {cols : Nat} {init : List Text} {final : Text}
    (placeable : ∀ text ∈ init ++ [final], text.Placeable cols)
    (visible : ∀ text ∈ init ++ [final], ∀ c ∈ text, isSpace c = false) :
    let layout := Layout.typed cols init final
    join (unmarked layout.rows.toList ++
        [({ cells := Row.fitCells layout.row cols }, some layout.row.size)]) =
      init.map (typed cols) ++ [typedToCursor cols final] := by
  intro layout
  have final_mem : final ∈ init ++ [final] := by simp
  obtain ⟨broken, rows_eq, wrapped, cells_eq, le⟩ :=
    Layout.exists_typed init (placeable final final_mem)
  have trimmed := trimBlank_last (visible final final_mem) cells_eq le
  have length_eq : layout.row.size + (broken.flatMap fun row => row.cells.toList).length =
      (Cell.typed cols 0 final).length := by
    rw [← cells_eq, List.length_append, Nat.add_comm]
    rfl
  rw [rows_eq, unmarked_append, List.append_assoc,
    join_blocks (fun text mem => placeable text (List.mem_append_left _ mem))
      (fun text mem => visible text (List.mem_append_left _ mem)),
    join_append wrapped rfl, trimmed, cells_eq, Option.map_some, length_eq]
  rfl

end LogicalLine

/-! ### Wide enough rows -/

namespace Row

/-- What cells show, but for right halves, one after the other. -/
def textOf (cells : List Cell) : Text :=
  cells.flatMap fun cell => if cell.isRightHalf then [] else cell.shown

/-- Text is read off cells one by one. -/
theorem textOf_append (a b : List Cell) : textOf (a ++ b) = textOf a ++ textOf b :=
  List.flatMap_append

/-- The cells that a text takes, right halves included, show the text. -/
theorem textOf_taken {text : Text} (pos : ∀ c ∈ text, 0 < charWidth c) :
    textOf (text.flatMap Cell.taken) = text := by
  induction text with
  | nil => rfl
  | cons c rest ih =>
    have first : textOf (Cell.taken c) = [c] := by
      have shown := Cell.isRightHalf_ofChar (pos c List.mem_cons_self)
      unfold Cell.taken
      split <;> simp [textOf, shown] <;> rfl
    rw [List.flatMap_cons, textOf_append, first,
      ih fun other mem => pos other (List.mem_cons_of_mem _ mem)]
    rfl

/-- Empty cells show spaces. -/
theorem textOf_replicate_empty (n : Nat) :
    textOf (List.replicate n Cell.empty) = List.replicate n ' ' := by
  induction n with
  | zero => rfl
  | succ n ih =>
    rw [List.replicate_succ, List.replicate_succ, ← ih]
    rfl

theorem isBlank_blank (width : Nat) : (blank width).isBlank = true := by
  rw [isBlank, wrapped_blank, blank, Bool.not_false, Bool.true_and, Array.all_eq_true]
  simp

/-- A row without text shows nothing, once it is trimmed. -/
theorem trimmed_blank (width : Nat) : (blank width).trimmed = [] := by
  change Text.trimEnd (textOf (Array.replicate width Cell.empty).toList) = []
  rw [Array.toList_replicate, textOf_replicate_empty]
  exact Text.trimEnd_append_spaces (List.forall_mem_nil _) width

/-- A row that a text was put into, and that was filled up, shows the text. -/
theorem trimmed_fitCells {text : Text} (pos : ∀ c ∈ text, 0 < charWidth c)
    (visible : ∀ c ∈ text, isSpace c = false) {cells : Array Cell} {width : Nat}
    (cells_eq : cells.toList = text.flatMap Cell.taken) (le : cells.size ≤ width) (wrapped : Bool) :
    ({ cells := fitCells cells width, wrapped } : Row).trimmed = text := by
  change Text.trimEnd (textOf (fitCells cells width).toList) = text
  rw [toList_fitCells le, cells_eq, textOf_append, textOf_taken pos, textOf_replicate_empty,
    Text.trimEnd_append_spaces visible]

end Row

namespace Layout

variable {width : Nat} {layout : Layout}

/-- A text that has room is put into the row being filled. No character goes to the next row, so the
cells are those of the characters alone. -/
theorem foldl_put_of_room {text : Text} (pos : ∀ c ∈ text, 0 < charWidth c)
    (room : layout.row.size + columns text ≤ width) :
    (text.map Cell.ofChar).foldl (put width) layout =
      { layout with row := layout.row ++ (text.flatMap Cell.taken).toArray } := by
  induction text generalizing layout with
  | nil => simp
  | cons c rest ih =>
    rw [Text.columns_cons] at room
    have c_pos := pos c List.mem_cons_self
    have le : charWidth c ≤ width := by omega
    have put_eq : layout.put width (Cell.ofChar c) =
        { layout with row := layout.row ++ (Cell.taken c).toArray } := by
      have stays : layout.makeRoom width (Cell.ofChar c) = layout := by
        rw [makeRoom, if_neg]
        rw [needed_ofChar c_pos le]
        omega
      have row_eq : (layout.push width (Cell.ofChar c)).row =
          layout.row ++ (Cell.taken c).toArray :=
        Array.ext' (by rw [toList_row_push_ofChar c_pos le]; simp)
      rw [put, stays, ← row_eq]
      rfl
    have size_eq : (layout.row ++ (Cell.taken c).toArray).size = layout.row.size + charWidth c := by
      simp [Cell.length_taken c_pos]
    rw [List.map_cons, List.foldl_cons, put_eq,
      ih (fun other mem => pos other (List.mem_cons_of_mem _ mem)) (by rw [size_eq]; omega)]
    simp

/-- Without right halves, there is one cell for each character. -/
theorem filter_taken {text : Text} (pos : ∀ c ∈ text, 0 < charWidth c) :
    ((text.flatMap Cell.taken).filter fun cell => !cell.isRightHalf) = text.map Cell.ofChar := by
  induction text with
  | nil => rfl
  | cons c rest ih =>
    have first : ((Cell.taken c).filter fun cell => !cell.isRightHalf) = [Cell.ofChar c] := by
      have shown := Cell.isRightHalf_ofChar (pos c List.mem_cons_self)
      unfold Cell.taken
      split <;> simp [shown]
    rw [List.flatMap_cons, List.filter_append, first,
      ih fun other mem => pos other (List.mem_cons_of_mem _ mem)]
    rfl

/-- A text takes as many cells as columns. -/
theorem length_flatMap_taken {text : Text} (pos : ∀ c ∈ text, 0 < charWidth c) :
    (text.flatMap Cell.taken).length = columns text := by
  induction text with
  | nil => rfl
  | cons c rest ih =>
    rw [List.flatMap_cons, List.length_append, Cell.length_taken (pos c List.mem_cons_self),
      ih fun other mem => pos other (List.mem_cons_of_mem _ mem), Text.columns_cons]

/-- A line that has room shows its text, and nothing below it but for a row that the cursor needs.
It needs one when the text fills its row and the cursor stands behind it. -/
theorem exists_block_of_room {text : Text} (pos : ∀ c ∈ text, 0 < charWidth c)
    (visible : ∀ c ∈ text, isSpace c = false) (room : columns text ≤ width) {line : LogicalLine}
    (shown_eq : (line.filled.filter fun cell => !cell.isRightHalf) = text.map Cell.ofChar) :
    ∃ n, (block width line).map Row.trimmed = text :: List.replicate n [] ∧ n ≤ 1 ∧
      (line.cursor = none ∨ columns text < width → n = 0) := by
  let row : Array Cell := (text.flatMap Cell.taken).toArray
  have size_eq : row.size = columns text := by rw [List.size_toArray, length_flatMap_taken pos]
  have size_le : row.size ≤ width := size_eq ▸ room
  have shown (wrapped : Bool) :
      ({ cells := Row.fitCells row width, wrapped } : Row).trimmed = text :=
    Row.trimmed_fitCells pos visible rfl size_le wrapped
  have none_shown : ({ cells := Row.fitCells #[] width } : Row).trimmed = [] :=
    Row.trimmed_fitCells (List.forall_mem_nil _) (List.forall_mem_nil _) rfl (Nat.zero_le _) false
  have from_start : ({} : Layout).row.size + columns text ≤ width := by simpa using room
  have put_eq : (text.map Cell.ofChar).foldl (put width) {} = { row } := by
    rw [foldl_put_of_room pos from_start]
    simp [row]
  rw [block_eq, lay, shown_eq, put_eq, finish]
  split
  next full =>
    refine ⟨1, ?_, Nat.le_refl 1, ?_⟩
    · simp [breakRow, endRow, shown, none_shown]
    · rintro (none | lt)
      · exact absurd (none.symm.trans full.1) (Option.some_ne_none _).symm
      · exact absurd (size_eq ▸ lt) (Nat.not_lt.mpr full.2)
  next inside =>
    refine ⟨0, ?_, Nat.zero_le 1, fun _ => rfl⟩
    simp [endRow, shown]

/-- Cells that are put without regard to the cursor extend a layout, too, and stay in its width. -/
theorem extends_put (width_pos : 0 < width) (inWidth : layout.InWidth width) (cell : Cell) :
    layout.Extends (layout.put width cell) ∧ (layout.put width cell).InWidth width := by
  refine ⟨(extends_makeRoom inWidth cell).trans (extends_push _ _ _), ?_⟩
  rw [InWidth, put, size_push]
  exact room_makeRoom width_pos cell layout

theorem extends_foldl_put (width_pos : 0 < width) (inWidth : layout.InWidth width)
    (cells : List Cell) :
    layout.Extends (cells.foldl (put width) layout) ∧
      (cells.foldl (put width) layout).InWidth width := by
  induction cells generalizing layout with
  | nil => exact ⟨Extends.refl layout, inWidth⟩
  | cons cell rest ih =>
    obtain ⟨first, first_inWidth⟩ := extends_put width_pos inWidth cell
    obtain ⟨later, later_inWidth⟩ := ih first_inWidth
    exact ⟨first.trans later, later_inWidth⟩

/-- The same holds of the end of a line. -/
theorem extends_finish (inWidth : layout.InWidth width) (line : LogicalLine) :
    layout.Extends (layout.finish width line) := by
  unfold finish
  split
  · have begun : (layout.breakRow width).InWidth width := Nat.zero_le _
    exact (extends_breakRow inWidth).trans (extends_endRow begun)
  · exact extends_endRow inWidth

/-- A line with a blank cell after the beginning of its text shows this cell: its first row begins
with that text and a space, whatever comes after them in the line. -/
theorem exists_block_gap {before : Text} (pos : ∀ c ∈ before, 0 < charWidth c)
    (room : columns before < width) {line : LogicalLine} {more : List Cell}
    (filled_eq : line.filled = before.flatMap Cell.taken ++ Cell.empty :: more) :
    ∃ head rest, block width line = head :: rest ∧ before ++ [' '] <+: head.text := by
  have width_pos : 0 < width := Nat.zero_lt_of_lt room
  let row : Array Cell := (before.flatMap Cell.taken ++ [Cell.empty]).toArray
  have size_eq : row.size = columns before + 1 := by
    rw [List.size_toArray, List.length_append, length_flatMap_taken pos]
    rfl
  have inWidth : ({ row } : Layout).InWidth width := by
    change row.size ≤ width
    omega
  have begun : (before.map Cell.ofChar ++ [Cell.empty]).foldl (put width) {} = { row } := by
    have from_start : ({} : Layout).row.size + columns before ≤ width := by
      simpa using Nat.le_of_lt room
    have put_empty : put width { row := (before.flatMap Cell.taken).toArray } Cell.empty =
        { row } := by
      have stays : ¬ width < (before.flatMap Cell.taken).toArray.size + needed width Cell.empty := by
        rw [List.size_toArray, length_flatMap_taken pos]
        exact Nat.not_lt.mpr room
      rw [put, makeRoom, if_neg stays]
      simp [push, needed, Cell.empty, row]
    rw [List.foldl_append, foldl_put_of_room pos from_start]
    simpa using put_empty
  -- The row that was begun stays at the top, whatever comes after it.
  have shown : (line.filled.filter fun cell => !cell.isRightHalf) =
      before.map Cell.ofChar ++ [Cell.empty] ++ more.filter fun cell => !cell.isRightHalf := by
    rw [filled_eq, List.filter_append, filter_taken pos, List.append_assoc]
    rfl
  obtain ⟨later, later_inWidth⟩ :=
    extends_foldl_put width_pos inWidth (more.filter fun cell => !cell.isRightHalf)
  have ext := later.trans (extends_finish later_inWidth line)
  rw [block_eq, lay, shown, List.foldl_append, begun]
  have ended : 0 < (finish width line ((more.filter fun cell => !cell.isRightHalf).foldl (put width)
      { row })).rows.size := by simp [finish, endRow]
  generalize finish width line _ = after at ext ended ⊢
  have rows_ne : after.rows.toList ≠ [] := by
    rw [← List.length_pos_iff]
    exact ended
  have begins : row.toList <+: after.rowCells 0 := ext.row
  have first : after.rows[0] = after.rows.toList.head rows_ne := by
    rw [← Array.getElem_toList ended, List.head_eq_getElem]
  rw [rowCells_of_lt ended, first] at begins
  refine ⟨after.rows.toList.head rows_ne, after.rows.toList.tail,
    (List.cons_head_tail rows_ne).symm, ?_⟩
  obtain ⟨others, others_eq⟩ := begins
  change before ++ [' '] <+: Row.textOf (after.rows.toList.head rows_ne).cells.toList
  rw [← others_eq, Row.textOf_append, Row.textOf_append, Row.textOf_taken pos]
  exact List.prefix_append _ _

/-- Two texts do not begin with the same text, when a space and a wide character come next. -/
theorem ne_of_prefix {before after shown : Text} {c : Char} (wide : charWidth c = 2)
    (begins : before ++ [' '] <+: shown) : Text.trimEnd shown ≠ before ++ c :: after := by
  intro same
  have both : before ++ c :: after <+: shown := same ▸ Text.trimEnd_prefix shown
  have longer : before ++ [' '] <+: before ++ c :: after :=
    List.prefix_of_prefix_length_le begins both (by simp)
  have equal : ' ' = c := by simpa using longer
  rw [← equal, Text.charWidth_space] at wide
  exact absurd wide (by decide)

/-- What the rows of a line show, when they are wide enough for its text: the text, if no column was
left over where the line was broken before, and otherwise another text first. -/
theorem map_trimmed_block {cols : Nat} {text : Text} (placeable : text.Placeable cols)
    (visible : ∀ c ∈ text, isSpace c = false) (room : columns text ≤ width) {line : LogicalLine}
    (filled_eq : line.filled = Cell.typed cols 0 text) :
    (gaps cols 0 text = 0 → ∃ n, (block width line).map Row.trimmed = text :: List.replicate n [] ∧
      n ≤ 1 ∧ (line.cursor = none ∨ columns text < width → n = 0)) ∧
    (gaps cols 0 text ≠ 0 → ∃ other rest, (block width line).map Row.trimmed = other :: rest ∧
      other ≠ text) := by
  have pos : ∀ c ∈ text, 0 < charWidth c := fun c mem => (placeable c mem).1
  constructor
  · intro none
    refine exists_block_of_room pos visible room ?_
    rw [filled_eq, Cell.typed_of_gaps_eq_zero none, filter_taken pos]
  · intro some
    obtain ⟨before, c, after, more, rfl, wide, typed_eq⟩ :=
      Cell.exists_gap placeable (Nat.zero_le _) some
    have before_room : columns before < width := by
      rw [Text.columns_append, Text.columns_cons] at room
      omega
    obtain ⟨head, rest, rows_eq, begins⟩ := exists_block_gap
      (fun other mem => pos other (List.mem_append_left _ mem)) before_room
      (filled_eq.trans typed_eq)
    exact ⟨head.trimmed, rest.map Row.trimmed, by rw [rows_eq, List.map_cons],
      ne_of_prefix wide begins⟩

/-- The lines that rows of a text are joined to are not filled up. -/
theorem filled_typed (cols : Nat) (text : Text) :
    (LogicalLine.typed cols text).filled = Cell.typed cols 0 text := by
  simp [LogicalLine.filled, LogicalLine.typed]

/-- A line whose cursor stands after its text has nothing to be filled up with. -/
theorem filled_typedToCursor (cols : Nat) (text : Text) :
    (LogicalLine.typedToCursor cols text).filled = Cell.typed cols 0 text := by
  simp [LogicalLine.filled, LogicalLine.typedToCursor, LogicalLine.typed]

/-- The cursor at the end of a line stands past its last cell. -/
theorem cursor_typedToCursor (cols : Nat) (text : Text) :
    (LogicalLine.typedToCursor cols text).cursor =
      some (LogicalLine.typedToCursor cols text).filled.length := by
  rw [filled_typedToCursor]
  rfl

/-- Lines that were broken in rows and are laid out in rows wide enough for each of them show their
texts, one in each row, just when no column was left over at the end of a row before. -/
theorem map_trimmed_lines_iff {cols : Nat} {init : List Text} {final : Text}
    (placeable : ∀ text ∈ init ++ [final], text.Placeable cols)
    (visible : ∀ text ∈ init ++ [final], ∀ c ∈ text, isSpace c = false)
    (room : ∀ text ∈ init ++ [final], columns text ≤ width) (n : Nat) :
    (∃ below : List Text, (∀ text ∈ below, text = []) ∧
      ((lines width (init.map (LogicalLine.typed cols) ++
          [LogicalLine.typedToCursor cols final])).rows.toList ++
        List.replicate n (Row.blank width)).map Row.trimmed = (init ++ [final]) ++ below) ↔
      ∀ text ∈ init ++ [final], gaps cols 0 text = 0 := by
  rw [rows_lines]
  induction init with
  | nil =>
    obtain ⟨shows_, hides⟩ := map_trimmed_block (placeable final (by simp))
      (visible final (by simp)) (room final (by simp)) (filled_typedToCursor cols final)
    rw [List.map_nil, List.nil_append, List.flatMap_singleton, List.nil_append, List.map_append,
      List.map_replicate, Row.trimmed_blank, List.forall_mem_singleton]
    constructor
    · rintro ⟨below, -, same⟩
      by_contra some
      obtain ⟨other, rest, shown, ne⟩ := hides some
      rw [shown] at same
      exact ne (List.cons_eq_cons.mp same).1
    · intro none
      obtain ⟨k, shown, -, -⟩ := shows_ none
      refine ⟨List.replicate k [] ++ List.replicate n [], ?_, by rw [shown]; rfl⟩
      intro text mem
      rcases List.mem_append.mp mem with mem | mem <;> exact List.eq_of_mem_replicate mem
  | cons text init ih =>
    obtain ⟨shows_, hides⟩ := map_trimmed_block (placeable text (by simp))
      (visible text (by simp)) (room text (by simp)) (filled_typed cols text)
    have others : _ ↔ _ := ih (fun other mem => placeable other (List.mem_cons_of_mem _ mem))
      (fun other mem => visible other (List.mem_cons_of_mem _ mem))
      fun other mem => room other (List.mem_cons_of_mem _ mem)
    rw [List.map_cons, List.cons_append, List.cons_append, List.flatMap_cons, List.append_assoc,
      List.map_append, List.forall_mem_cons, ← others]
    by_cases none : gaps cols 0 text = 0
    · obtain ⟨k, shown, -, unmarked⟩ := shows_ none
      rw [unmarked (Or.inl rfl)] at shown
      simp [shown, none]
    · obtain ⟨other, rest, shown, ne⟩ := hides none
      simp [shown, none, ne]

/-- Lines with no column left over need a row each, and one more is there when the last line fills its
row and the cursor stands past it. -/
theorem size_rows_typed_le {cols : Nat} {init : List Text} {final : Text}
    (placeable : ∀ text ∈ init ++ [final], text.Placeable cols)
    (visible : ∀ text ∈ init ++ [final], ∀ c ∈ text, isSpace c = false)
    (room : ∀ text ∈ init ++ [final], columns text ≤ width)
    (none : ∀ text ∈ init ++ [final], gaps cols 0 text = 0) :
    (lines width (init.map (LogicalLine.typed cols) ++
        [LogicalLine.typedToCursor cols final])).rows.size ≤
      init.length + if columns final < width then 1 else 2 := by
  have length_of (text : Text) (mem : text ∈ init ++ [final]) {line : LogicalLine}
      (filled_eq : line.filled = Cell.typed cols 0 text) :=
    (map_trimmed_block (placeable text mem) (visible text mem) (room text mem) filled_eq).1
      (none text mem)
  have one : ∀ text ∈ init, (block width (LogicalLine.typed cols text)).length = 1 := by
    intro text mem
    obtain ⟨n, shown, -, unmarked⟩ :=
      length_of text (List.mem_append_left _ mem) (filled_typed cols text)
    rw [← List.length_map Row.trimmed, shown, unmarked (Or.inl rfl)]
    rfl
  have above : ((init.map (LogicalLine.typed cols)).flatMap (block width)).length = init.length := by
    rw [List.flatMap_map, List.length_flatMap, List.map_congr_left one]
    simp
  obtain ⟨n, shown, le_one, narrow⟩ := length_of final (by simp) (filled_typedToCursor cols final)
  have last : (block width (LogicalLine.typedToCursor cols final)).length = n + 1 := by
    rw [← List.length_map Row.trimmed, shown]
    simp
  rw [← Array.length_toList, rows_lines, List.flatMap_append, List.length_append, above,
    List.flatMap_singleton, last]
  split
  next lt => rw [narrow (Or.inr lt)]
  · omega

/-- Lines that need no more than one row each show their texts, row by row. There is no cursor here
that would need a row of its own. -/
theorem map_trimmed_lines {lines : List Text}
    (visible : ∀ text ∈ lines, ∀ c ∈ text, 0 < charWidth c ∧ isSpace c = false)
    (room : ∀ text ∈ lines, columns text ≤ width) :
    (Layout.lines width (lines.map LogicalLine.ofText)).rows.toList.map Row.trimmed = lines := by
  rw [rows_lines]
  induction lines with
  | nil => rfl
  | cons text rest ih =>
    have pos : ∀ c ∈ text, 0 < charWidth c :=
      fun c mem => (visible text List.mem_cons_self c mem).1
    have shown_eq : ((LogicalLine.ofText text).filled.filter fun cell => !cell.isRightHalf) =
        text.map Cell.ofChar := by
      rw [filled_ofText, List.filter_eq_self]
      intro cell mem
      obtain ⟨c, c_mem, rfl⟩ := List.mem_map.mp mem
      rw [Cell.isRightHalf_ofChar (pos c c_mem)]
      rfl
    obtain ⟨n, shown, -, unmarked⟩ := exists_block_of_room pos
      (fun c mem => (visible text List.mem_cons_self c mem).2) (room text List.mem_cons_self)
      shown_eq
    rw [List.map_cons, List.flatMap_cons, List.map_append, shown,
      unmarked (Or.inl rfl), ih (fun other mem => visible other (List.mem_cons_of_mem _ mem))
        fun other mem => room other (List.mem_cons_of_mem _ mem)]
    rfl

/-- A cursor at the end of the last line is found in the last row. -/
theorem cursor_lines_of_last (width : Nat) (above : List LogicalLine) {last : LogicalLine}
    (at_end : last.cursor = some last.filled.length) :
    ∃ col, (lines width (above ++ [last])).cursor =
      some ((lines width (above ++ [last])).rows.size - 1, col) := by
  rw [lines, List.foldl_append, List.foldl_cons, List.foldl_nil, line_eq_close, close, if_pos at_end]
  exact ⟨_, by simp [endRow, markCursor]; rfl⟩

end Layout

/-! ### Screens -/

namespace Screen

variable (s : Screen) (cols rows row col : Nat)

/-- When no row laid out is left below the screen, all of them are in the history or on the screen,
but for those that were lost. -/
theorem evicted_append_allRows_reflow
    (all : (s.laidOut cols row col).rows.size ≤ s.firstShown cols rows row col + rows) :
    ∃ n, s.evicted cols rows row col ++ (s.reflow cols rows row col).1.allRows =
      (s.laidOut cols row col).rows.toList ++ List.replicate n (Row.blank cols) := by
  have laid := s.rows_laidOut cols rows row col
  rw [cutOff, List.drop_eq_nil_of_le (by simpa using all), List.append_nil] at laid
  exact ⟨_, laid⟩

end Screen

end TerminalSession
