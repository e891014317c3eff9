import TerminalSession.Proofs.Grid.Everywhere

/-!
# Wide characters and their right halves

A wide character is whole when its right half follows it, and a right half is in its place when it
follows a wide character. Rows in which this is so everywhere can be cut between two characters and
put together again.

## Main definitions

* `Row.widthAt`: the width of the cell in a column
* `Row.Paired`: every wide character is whole, and every right half is in its place
* `Row.bordersAt`: whether a column begins a character
* `Row.spares`: whether columns at which a row is cut all begin characters, with `Row.insertCuts` and
  its companions for the columns at which editing cuts

## Main statements

* `Row.Paired.append`, `Row.Paired.left`, `Row.Paired.right`: put together, and cut
* `Row.Paired.writeCells`: printing keeps wide characters whole, unless it covers the left half of
  one in the column behind
* `Row.Paired.makeRoom`, `Row.Paired.takeOut`, `Row.Paired.erase`, `Row.Paired.put`: editing keeps
  them whole, if it spares the row
* `Layout.Fills.paired`: rows are laid out with wide characters whole, whatever they were before

## Design notes

* Columns past the end of a row have the width 1, as if they were empty. So a wide character in the
  last column is not whole, and this need not be said.
-/

namespace TerminalSession

namespace Row

/-- The width of the cell in a column: 2 at the beginning of a wide character, 0 on its right half,
and 1 everywhere else, past the end of the row as well. -/
def widthAt (cells : Array Cell) (col : Nat) : Nat :=
  (cells[col]?.map Cell.width).getD 1

/-- Whether a column begins a character, or lies past the end of the row. To cut a row there leaves
all characters whole. -/
def bordersAt (cells : Array Cell) (col : Nat) : Bool :=
  widthAt cells col != 0

/-- Every wide character is followed by its right half, and every right half follows one. A row that
is not paired shows half a character somewhere. -/
structure Paired (cells : Array Cell) : Prop where
  first : widthAt cells 0 ≠ 0
  next : ∀ col : Nat, widthAt cells col = 2 ↔ widthAt cells (col + 1) = 0

variable {cells rest : Array Cell} {col n : Nat}

/-- A character begins wherever there is no right half. -/
theorem bordersAt_iff : bordersAt cells col = true ↔ widthAt cells col ≠ 0 := bne_iff_ne

/-- Past the end of a row every column counts as a narrow cell, so that no case has to be made of
the margin. -/
theorem widthAt_of_size_le (le : cells.size ≤ col) : widthAt cells col = 1 := by
  simp [widthAt, le]

/-- So whatever is not narrow is a cell of the row. -/
theorem lt_size_of_widthAt (ne : widthAt cells col ≠ 1) : col < cells.size := by
  by_contra le
  exact ne (widthAt_of_size_le (Nat.le_of_not_lt le))

/-- Past the end of a row no cell is wide, so the columns of the row decide. -/
theorem paired_iff :
    Paired cells ↔ widthAt cells 0 ≠ 0 ∧
      ∀ col < cells.size, (widthAt cells col = 2 ↔ widthAt cells (col + 1) = 0) := by
  constructor
  · intro paired
    exact ⟨paired.first, fun col _ => paired.next col⟩
  · rintro ⟨first, next⟩
    refine ⟨first, fun col => ?_⟩
    rcases Nat.lt_or_ge col cells.size with inside | outside
    · exact next col inside
    · rw [widthAt_of_size_le outside, widthAt_of_size_le (Nat.le_succ_of_le outside)]
      decide

instance (cells : Array Cell) : Decidable (Paired cells) := decidable_of_iff _ paired_iff.symm

/-- What stands in a column, after cells were put behind one another, written, cut out or changed in
place. These equations are all that is known below of how cells are moved. -/
theorem widthAt_append (cells rest : Array Cell) (col : Nat) :
    widthAt (cells ++ rest) col =
      if col < cells.size then widthAt cells col else widthAt rest (col - cells.size) := by
  simp only [widthAt, Array.getElem?_append]
  split <;> rfl

theorem widthAt_replicate (n : Nat) {cell : Cell} (narrow : cell.width = 1) (col : Nat) :
    widthAt (Array.replicate n cell) col = 1 := by
  simp only [widthAt, Array.getElem?_replicate]
  split <;> simp [narrow]

theorem widthAt_setIfInBounds (cells : Array Cell) (i : Nat) (cell : Cell) (col : Nat) :
    widthAt (cells.setIfInBounds i cell) col =
      if i = col ∧ col < cells.size then cell.width else widthAt cells col := by
  simp only [widthAt, Array.getElem?_setIfInBounds]
  by_cases same : i = col
  · subst same
    by_cases inside : i < cells.size <;> simp [inside]
  · simp [same]

theorem widthAt_extract (cells : Array Cell) {first past : Nat} (le : past ≤ cells.size)
    (col : Nat) :
    widthAt (cells.extract first past) col =
      if first + col < past then widthAt cells (first + col) else 1 := by
  simp only [widthAt, Array.getElem?_extract]
  rw [Nat.min_eq_left le]
  by_cases inside : first + col < past
  · rw [if_pos inside, if_pos (by omega)]
  · rw [if_neg inside, if_neg (by omega)]
    rfl

/-- A change that keeps the width, like a mark that joins a glyph, is not seen. -/
theorem widthAt_modify (cells : Array Cell) (i : Nat) {f : Cell → Cell}
    (keeps : ∀ cell : Cell, (f cell).width = cell.width) (col : Nat) :
    widthAt (cells.modify i f) col = widthAt cells col := by
  simp only [widthAt, Array.getElem?_modify]
  split
  · cases cells[col]? <;> simp [keeps]
  · rfl

namespace Paired

/-- Narrow cells have no halves to lose. -/
theorem replicate (n : Nat) {cell : Cell} (narrow : cell.width = 1) :
    Paired (Array.replicate n cell) where
  first := by simp [widthAt_replicate n narrow]
  next := by simp [widthAt_replicate n narrow]

theorem single {cell : Cell} (narrow : cell.width = 1) : Paired #[cell] := replicate 1 narrow

/-- A wide character with its right half. -/
theorem wide {cell : Cell} (wide : cell.width = 2) (style : Style) :
    Paired #[cell, Cell.rightHalf style] where
  first := by simp [widthAt, wide]
  next := by
    intro col
    match col with
    | 0 => simp [widthAt, wide, Cell.rightHalf]
    | 1 => simp [widthAt, Cell.rightHalf]
    | col + 2 => simp [widthAt]

/-! ### Cutting and putting together -/

/-- A row that ends with a wide character lacks its right half. -/
theorem last (paired : Paired cells) (pos : 0 < cells.size) :
    widthAt cells (cells.size - 1) ≠ 2 := by
  have next := paired.next (cells.size - 1)
  rw [Nat.sub_add_cancel pos, widthAt_of_size_le (Nat.le_refl _)] at next
  exact fun wide => absurd (next.mp wide) Nat.one_ne_zero

/-- Rows that are whole make one that is whole: where they meet, the first one does not end with a
left half, and the second one does not begin with a right half. -/
theorem append (paired : Paired cells) (rest_paired : Paired rest) : Paired (cells ++ rest) where
  first := by
    rw [widthAt_append]
    split
    · exact paired.first
    · rw [Nat.zero_sub]
      exact rest_paired.first
  next := by
    intro col
    rw [widthAt_append, widthAt_append]
    obtain inside | border | outside :
        col + 1 < cells.size ∨ col + 1 = cells.size ∨ cells.size ≤ col := by omega
    · rw [if_pos (by omega), if_pos inside]
      exact paired.next col
    · have last := paired.last (by omega)
      rw [← border, Nat.add_sub_cancel] at last
      rw [if_pos (by omega), if_neg (by omega), ← border, Nat.sub_self]
      exact iff_of_false last rest_paired.first
    · rw [if_neg (by omega), if_neg (by omega), Nat.sub_add_comm outside]
      exact rest_paired.next _

/-- The part before a column that begins a character. A wide character before the column has its
right half before it, too. -/
theorem left (paired : Paired cells) (border : bordersAt cells col = true) :
    Paired (cells.extract 0 col) := by
  by_cases le : col ≤ cells.size
  · refine ⟨?_, fun i => ?_⟩
    · rw [widthAt_extract cells le, Nat.zero_add]
      split
      · exact paired.first
      · exact Nat.one_ne_zero
    · rw [widthAt_extract cells le, widthAt_extract cells le, Nat.zero_add, Nat.zero_add]
      have next := paired.next i
      obtain inside | last | outside : i + 1 < col ∨ i + 1 = col ∨ col ≤ i := by omega
      · rwa [if_pos (by omega), if_pos inside]
      · have whole : widthAt cells col ≠ 0 := bordersAt_iff.mp border
        rw [if_pos (by omega), if_neg (by omega)]
        rw [last] at next
        exact iff_of_false (mt next.mp whole) Nat.one_ne_zero
      · rw [if_neg (by omega), if_neg (by omega)]
        simp
  · rwa [Array.extract_eq_self_of_le (by omega)]

/-- The part from a column that begins a character on. -/
theorem right (paired : Paired cells) (border : bordersAt cells col = true) :
    Paired (cells.extract col cells.size) := by
  have whole : widthAt cells col ≠ 0 := bordersAt_iff.mp border
  have part (i : Nat) :
      widthAt (cells.extract col cells.size) i = widthAt cells (col + i) := by
    rw [widthAt_extract cells (Nat.le_refl _)]
    split
    · rfl
    · rw [widthAt_of_size_le (by omega)]
  refine ⟨?_, fun i => ?_⟩
  · rwa [part]
  · rw [part, part]
    exact paired.next (col + i)

/-! ### Editing -/

theorem blank (cols : Nat) : Paired (Row.blank cols).cells := replicate cols rfl

/-- A row that is cleared has narrow cells alone. -/
theorem clear (row : Row) (style : Style) : Paired (row.clear style).cells := by
  have cells_eq : (row.clear style).cells = Array.replicate row.cells.size (Cell.erased style) := by
    simp [Row.clear, Array.map_const']
  rw [cells_eq]
  exact replicate _ rfl

/-- Cells are erased from one character to another. Everything in between is one column wide
afterwards, and what is outside keeps both of its halves. -/
theorem eraseRange {row : Row} (paired : Paired row.cells) {first past : Nat}
    (first_border : bordersAt row.cells first = true)
    (past_border : bordersAt row.cells past = true) (style : Style) :
    Paired (row.eraseRange first past style).cells := by
  have whole : widthAt row.cells first ≠ 0 := bordersAt_iff.mp first_border
  have whole' : widthAt row.cells past ≠ 0 := bordersAt_iff.mp past_border
  have part (col : Nat) : widthAt (row.eraseRange first past style).cells col =
      if first ≤ col ∧ col < past then 1 else widthAt row.cells col := by
    simp only [widthAt, Row.eraseRange, Array.getElem?_mapIdx]
    cases row.cells[col]? with
    | none => simp
    | some cell => by_cases inside : first ≤ col ∧ col < past <;> simp [inside]
  refine ⟨?_, fun col => ?_⟩
  · rw [part]
    split
    · exact Nat.one_ne_zero
    · exact paired.first
  · have next := paired.next col
    rw [part, part]
    split
    next inside =>
      split
      · simp
      next outside =>
        obtain rfl : past = col + 1 := by omega
        exact iff_of_false (by decide) whole'
    next outside =>
      split
      next inside =>
        obtain rfl : first = col + 1 := by omega
        exact iff_of_false (mt next.mp whole) Nat.one_ne_zero
      · exact next

/-- Cells come in before a character, and those pushed over the margin end with one. So the row is
made up of three parts, each of them whole. -/
theorem insertCells {row : Row} (paired : Paired row.cells) (border : bordersAt row.cells col = true)
    (margin : bordersAt row.cells (row.cells.size - min n (row.cells.size - col)) = true) :
    Paired (row.insertCells col n).cells := by
  have kept : Paired (row.cells.extract col (row.cells.size - min n (row.cells.size - col))) := by
    have before := paired.left margin
    have border' : bordersAt (row.cells.extract 0
        (row.cells.size - min n (row.cells.size - col))) col = true := by
      rw [bordersAt_iff, widthAt_extract _ (by omega), Nat.zero_add]
      split
      · exact bordersAt_iff.mp border
      · exact Nat.one_ne_zero
    have part := before.right border'
    simpa [Array.extract_extract] using part
  exact ((paired.left border).append (replicate _ rfl)).append kept

/-- Cells are taken out from one character to another. -/
theorem deleteCells {row : Row} (paired : Paired row.cells) (border : bordersAt row.cells col = true)
    (past_border : bordersAt row.cells (col + min n (row.cells.size - col)) = true) :
    Paired (row.deleteCells col n).cells :=
  ((paired.left border).append (paired.right past_border)).append (replicate _ rfl)

/-- Marks change no width. -/
theorem combine {row : Row} (paired : Paired row.cells) (col : Nat) (mark : Char) :
    Paired (row.combine col mark).cells := by
  rw [combine_eq]
  split
  · exact paired
  · have part (i : Nat) := widthAt_modify row.cells (row.markTarget col)
      (f := fun old => { old with glyph := old.glyph ++ [mark] }) (fun _ => rfl) i
    refine ⟨?_, fun i => ?_⟩
    · rw [part]
      exact paired.first
    · rw [part, part]
      exact paired.next i

end Paired

/-! ### Writing -/

/-- Whether a column has a cell of a width other than that of an empty one. -/
theorem getD_map_eq_true_iff {p : Cell → Bool} {width : Nat} (ne : width ≠ 1)
    (p_iff : ∀ cell : Cell, p cell = true ↔ cell.width = width) :
    (cells[col]?.map p).getD false = true ↔ widthAt cells col = width := by
  unfold widthAt
  cases cells[col]? with
  | none => simpa using Ne.symm ne
  | some cell => simpa using p_iff cell

/-- Writing over a right half leaves a space where the left half was. In the first column there is
none, and nothing else in the row changes. -/
theorem widthAt_repairLeft (cells : Array Cell) (col : Nat) (style : Style) (i : Nat) :
    widthAt (repairLeft cells col style) i =
      if i + 1 = col ∧ widthAt cells col = 0 then 1 else widthAt cells i := by
  have half_iff : (cells[col]?.map Cell.isRightHalf).getD false = true ↔ widthAt cells col = 0 :=
    getD_map_eq_true_iff Nat.zero_ne_one fun cell => by simp [Cell.isRightHalf]
  unfold repairLeft
  simp only [Bool.and_eq_true, decide_eq_true_eq, half_iff]
  split
  next half =>
    have inside : col < cells.size := lt_size_of_widthAt (by omega)
    rw [widthAt_setIfInBounds, Cell.width_space]
    split <;> split <;> first | rfl | omega
  next other =>
    rw [if_neg (by omega)]

/-- Writing over a left half leaves a space where the right half was. A right half beyond the row is
not missed: what is not there counts as a space. -/
theorem widthAt_repairRight (cells : Array Cell) (col : Nat) (style : Style) (i : Nat) :
    widthAt (repairRight cells col style) i =
      if i = col + 1 ∧ widthAt cells col = 2 then 1 else widthAt cells i := by
  have wide_iff : (cells[col]?.map fun old => old.width == 2).getD false = true ↔
      widthAt cells col = 2 := getD_map_eq_true_iff (by decide) fun cell => by simp
  unfold repairRight
  simp only [wide_iff]
  split
  next wide =>
    rw [widthAt_setIfInBounds, Cell.width_space]
    by_cases inside : i < cells.size
    · split <;> split <;> first | rfl | omega
    · rw [if_neg (by omega), widthAt_of_size_le (Nat.le_of_not_lt inside)]
      split <;> rfl
  next other => rw [if_neg (by omega)]

/-- The widths of a row into which a character is put that has room in it: that of the character,
its own right half, a space for each neighbour that lost its other half, and the old ones. -/
theorem widthAt_writeCells (cells : Array Cell) {col : Nat} {cell : Cell}
    (shown : cell.width ≠ 0) (fits : col + cell.width ≤ cells.size) (i : Nat) :
    widthAt (writeCells cells col cell) i =
      if i = col then cell.width
      else if i = col + 1 ∧ cell.width = 2 then 0
      else if i = col + 1 ∧ widthAt cells col = 2 then 1
      else if i + 1 = col ∧ widthAt cells col = 0 then 1
      else widthAt cells i := by
  have covered (i : Nat) :
      widthAt ((repairRight (repairLeft cells col cell.style) col cell.style).setIfInBounds
        col cell) i =
        if i = col then cell.width
        else if i = col + 1 ∧ widthAt cells col = 2 then 1
        else if i + 1 = col ∧ widthAt cells col = 0 then 1
        else widthAt cells i := by
    rw [widthAt_setIfInBounds, widthAt_repairRight, widthAt_repairLeft, widthAt_repairLeft,
      if_neg (show ¬ (col + 1 = col ∧ _) by omega), size_repairRight, size_repairLeft]
    by_cases here : i = col
    · rw [if_pos ⟨here.symm, by omega⟩, if_pos here]
    · rw [if_neg (fun both => here both.1.symm), if_neg here]
  rw [writeCells_eq]
  dsimp only
  split
  next wide =>
    rw [widthAt_setIfInBounds, covered]
    by_cases half : i = col + 1
    · rw [if_pos ⟨half.symm, by simp; omega⟩, if_neg (by omega), if_pos ⟨half, wide⟩]
      rfl
    · rw [if_neg (fun both => half both.1.symm), if_neg (show ¬ (i = col + 1 ∧ cell.width = 2) from
        fun both => half both.1)]
  next narrow =>
    rw [covered, if_neg (show ¬ (i = col + 1 ∧ cell.width = 2) from fun both => narrow both.2)]

/-! ### Where editing cuts -/

/-- No column of a list is in the middle of a wide character. -/
def spares (row : Row) (cuts : List Nat) : Bool :=
  cuts.all (bordersAt row.cells)

/-- Where a row of so many columns is cut when cells come in: at the column they come in at, and
where the rest is cut off at the margin. -/
def insertCuts (cols col n : Nat) : List Nat := [col, max col (cols - n)]

/-- Where a row is cut when cells are taken out or erased: at both ends of the range. -/
def rangeCuts (col n : Nat) : List Nat := [col, col + n]

/-- Where a row is cut when it is erased from a column on, or up to and with it. A row that is
erased as a whole is not cut. -/
def eraseCuts (mode col : Nat) : List Nat :=
  match mode with
  | 0 => [col]
  | 1 => [col + 1]
  | _ => []

/-- Where a row of so many columns is cut when a character is put into it. A character that is
written over is repaired, but for one whose left half is covered by a right half. -/
def putCuts (cols : Nat) (insert : Bool) (col width : Nat) : List Nat :=
  if insert then insertCuts cols col width
  else if width = 2 then [col + 1 + 1]
  else []

/-- A row is spared by one cut if a character begins there. -/
theorem spares_singleton {row : Row} :
    row.spares [col] = true ↔ bordersAt row.cells col = true := by
  simp [spares]

/-- And by two, if one begins at each. -/
theorem spares_pair {row : Row} {other : Nat} :
    row.spares [col, other] = true ↔
      bordersAt row.cells col = true ∧ bordersAt row.cells other = true := by
  simp [spares]

/-- Nothing is cut apart at the margin or beyond it. -/
theorem bordersAt_of_size_le (le : cells.size ≤ col) : bordersAt cells col = true := by
  rw [bordersAt, widthAt_of_size_le le]
  rfl

/-- A row that is whole does not begin with a right half. -/
theorem Paired.bordersAt_zero (paired : Paired cells) : bordersAt cells 0 = true :=
  bordersAt_iff.mpr paired.first

/-- The cells that come in are as narrow as empty ones. -/
theorem widthAt_insertCells_of_lt {row : Row} {i : Nat} (le : col ≤ i)
    (lt : i < col + min n (row.cells.size - col)) : widthAt (row.insertCells col n).cells i = 1 := by
  unfold insertCells
  dsimp only
  have size : (row.cells.extract 0 col).size = col := by
    rw [Array.size_extract]
    omega
  rw [Array.append_assoc, widthAt_append, size, if_neg (by omega), widthAt_append,
    Array.size_replicate, if_pos (by omega), widthAt_replicate _ rfl]

/-- Up to the new width the cells of a row are the same, and what is filled up is narrow. -/
theorem widthAt_fitCells (cells : Array Cell) (cols col : Nat) :
    widthAt (fitCells cells cols) col = if col < cols then widthAt cells col else 1 := by
  by_cases inside : col < cols
  · rw [if_pos inside, fitCells, widthAt_append, Array.take_eq_extract, Array.size_extract]
    split
    next kept =>
      simp only [widthAt, Array.getElem?_extract]
      rw [if_pos (by omega), Nat.zero_add]
    next filled =>
      rw [widthAt_replicate _ rfl, widthAt_of_size_le (by omega)]
  · rw [if_neg inside, widthAt_of_size_le]
    rw [size_fitCells]
    exact Nat.le_of_not_lt inside

/-- A row brought to another width keeps the widths of its cells, but for a wide character in the
new last column. -/
theorem widthAt_fit (row : Row) (cols col : Nat) : widthAt (row.fit cols).cells col =
    if col + 1 < cols then widthAt row.cells col
    else if col + 1 = cols ∧ widthAt row.cells col ≠ 2 then widthAt row.cells col
    else 1 := by
  have fitted := widthAt_fitCells row.cells cols col
  have part : widthAt (row.fit cols).cells col =
      if cols - 1 = col ∧ widthAt (fitCells row.cells cols) col = 2 then 1
      else widthAt (fitCells row.cells cols) col := by
    simp only [widthAt, fit, Array.getElem?_modify]
    by_cases last : cols - 1 = col
    · simp only [last, if_true, true_and]
      cases (fitCells row.cells cols)[col]? with
      | none => rfl
      | some cell => by_cases wide : cell.width = 2 <;> simp [wide, Cell.empty]
    · simp [last]
  rw [part, fitted]
  repeat' split
  all_goals omega

namespace Paired

/-- A character is put into a row. What it covers in part is repaired, but for a wide character in
the column behind, of which a wide character covers the left half. -/
theorem writeCells (paired : Paired cells) {cell : Cell} (shown : cell.width ≠ 0)
    (le_two : cell.width ≤ 2) (fits : col + cell.width ≤ cells.size)
    (spares : cell.width = 2 → widthAt cells (col + 1) ≠ 2) :
    Paired (Row.writeCells cells col cell) where
  first := by
    rw [widthAt_writeCells cells shown fits]
    have first := paired.first
    split
    · exact shown
    split
    · omega
    split
    · exact Nat.one_ne_zero
    split
    · exact Nat.one_ne_zero
    · exact first
  next := by
    intro i
    rw [widthAt_writeCells cells shown fits, widthAt_writeCells cells shown fits]
    have next := paired.next i
    -- The widths change in the column, in the one behind, and in the one before.
    obtain rfl | rfl | rfl | rfl | away :
        i = col ∨ i = col + 1 ∨ col = i + 1 ∨ col = i + 2 ∨
          (i ≠ col ∧ i ≠ col + 1 ∧ i + 1 ≠ col ∧ i + 2 ≠ col) := by omega
    · repeat' split
      all_goals omega
    · have here := paired.next col
      repeat' split
      all_goals omega
    · repeat' split
      all_goals omega
    · have behind : widthAt cells (i + 1) = 2 ↔ widthAt cells (i + 2) = 0 := paired.next (i + 1)
      repeat' split
      all_goals omega
    · repeat' split
      all_goals omega

/-! ### Editing at the cursor -/

variable {row : Row}

/-- Room is made before a character, and what is pushed over the margin begins with one. -/
theorem makeRoom (paired : Paired row.cells)
    (spares : row.spares (insertCuts row.cells.size col n) = true) :
    Paired (row.makeRoom col n).cells := by
  obtain ⟨border, margin⟩ := spares_pair.mp spares
  unfold Row.makeRoom
  split
  · exact paired
  next inside =>
    refine paired.insertCells border ?_
    rwa [show row.cells.size - min n (row.cells.size - col) = max col (row.cells.size - n) by omega]

/-- What is taken out begins with a character, and so does what is left behind it. -/
theorem takeOut (paired : Paired row.cells) (spares : row.spares (rangeCuts col n) = true) :
    Paired (row.takeOut col n).cells := by
  obtain ⟨border, past_border⟩ := spares_pair.mp spares
  unfold Row.takeOut
  split
  · exact paired
  next inside =>
    refine paired.deleteCells border ?_
    obtain short | long : n ≤ row.cells.size - col ∨ row.cells.size - col ≤ n := by omega
    · rwa [Nat.min_eq_left short]
    · exact bordersAt_of_size_le (by omega)

/-- What is erased begins with a character, and so does what is left. The cuts that this depends on
are the ends of the part that is erased, as far as they lie in the row. -/
theorem erase (paired : Paired row.cells) {mode : Nat}
    (spares : row.spares (eraseCuts mode col) = true) (style : Style) :
    Paired (row.erase mode col style).cells := by
  have past_border := bordersAt_of_size_le (Nat.le_refl row.cells.size)
  unfold Row.erase
  split
  · exact paired.eraseRange (spares_singleton.mp spares) past_border style
  · refine paired.eraseRange paired.bordersAt_zero ?_ style
    have border := spares_singleton.mp spares
    obtain inside | outside : col + 1 ≤ row.cells.size ∨ row.cells.size < col + 1 := by omega
    · rwa [Nat.min_eq_left (by omega)]
    · exact bordersAt_of_size_le (by omega)
  · exact paired.eraseRange paired.bordersAt_zero past_border style
  · exact paired

/-- A character is put into a row. In insert mode it comes to stand in the room that is made for it,
and otherwise it may cover a wide character in part, but not one whose right half it leaves. -/
theorem put (paired : Paired row.cells) {insert : Bool} {cell : Cell} (shown : cell.width ≠ 0)
    (le_two : cell.width ≤ 2) (fits : col + cell.width ≤ row.cells.size)
    (spares : row.spares (putCuts row.cells.size insert col cell.width) = true) :
    Paired (row.put insert col cell).cells := by
  unfold putCuts at spares
  cases insert with
  | true =>
    have ready : Paired (row.makeRoom col cell.width).cells := paired.makeRoom spares
    have size : (row.makeRoom col cell.width).cells.size = row.cells.size := by
      rw [Row.makeRoom, if_neg (by omega), size_insertCells]
    refine ready.writeCells shown le_two (by omega) fun wide => ?_
    rw [Row.makeRoom, if_neg (by omega), widthAt_insertCells_of_lt (by omega) (by omega)]
    decide
  | false =>
    refine paired.writeCells shown le_two fits fun wide => ?_
    rw [if_neg Bool.false_ne_true, if_pos wide] at spares
    have border := spares_singleton.mp spares
    have whole : widthAt row.cells (col + 1 + 1) ≠ 0 := bordersAt_iff.mp border
    exact mt (paired.next (col + 1)).mp whole

/-! ### Size -/

/-- A wide character that the new margin cuts in half is lost: its left half would be the last cell
and is emptied. Narrow ones before the margin stay, and what is filled up is empty. -/
theorem fit (paired : Paired row.cells) (cols : Nat) : Paired (row.fit cols).cells := by
  have part (col : Nat) : widthAt (row.fit cols).cells col =
      if col + 1 < cols then widthAt row.cells col
      else if col + 1 = cols ∧ widthAt row.cells col ≠ 2 then widthAt row.cells col
      else 1 := widthAt_fit row cols col
  refine ⟨?_, fun col => ?_⟩
  · have first := paired.first
    rw [part]
    split
    · exact first
    split
    · exact first
    · exact Nat.one_ne_zero
  · have next := paired.next col
    rw [part, part]
    repeat' split
    all_goals omega

end Paired

end Row

namespace Layout

/-- Rows of two columns and more are laid out with all wide characters whole: a wide one goes to the
next row if a single column is left, and comes with its right half otherwise. In one column there
would be no room for it. -/
theorem Fills.paired {width : Nat} (two_le : 2 ≤ width) :
    Fills width (fun cell => cell.width ≤ 2)
      (fun cells => Row.Paired cells ∧ cells.size ≤ width) (fun row => Row.Paired row.cells) where
  start := ⟨Row.Paired.blank 0, Nat.zero_le _⟩
  push := by
    rintro layout cell ⟨paired, _⟩ le_two shown room
    have shown : cell.width ≠ 0 := by simpa [Cell.isRightHalf] using shown
    unfold Layout.push
    dsimp only
    split
    next wide =>
      rw [wide] at room
      have wide : cell.width = 2 := by
        unfold needed at wide
        split at wide <;> omega
      rw [Array.push_eq_append, Array.push_eq_append, Array.append_assoc]
      refine ⟨paired.append (Row.Paired.wide wide cell.style), ?_⟩
      simp only [Array.size_append]
      exact room
    next narrow =>
      have narrow : cell.width = 1 := by
        unfold needed at narrow
        split at narrow <;> omega
      rw [Array.push_eq_append]
      refine ⟨paired.append (Row.Paired.single narrow), ?_⟩
      rw [Array.size_append]
      unfold needed at room
      split at room <;> simp only [List.size_toArray, List.length_singleton] <;> omega
  fit := by
    rintro cells wrapped ⟨paired, le⟩
    have cells_eq : Row.fitCells cells width =
        cells ++ Array.replicate (width - cells.size) Cell.empty := by
      rw [Row.fitCells, Array.take_eq_extract, Array.extract_eq_self_of_le le]
    show Row.Paired (Row.fitCells cells width)
    rw [cells_eq]
    exact paired.append (Row.Paired.replicate _ rfl)

end Layout

end TerminalSession
