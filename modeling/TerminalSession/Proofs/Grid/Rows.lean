import TerminalSession.Grid.Screen

/-!
# What all rows have

A property of rows that all rows of a list have stays one of all rows, when rows are moved, taken out
and put in. A property of cells that all cells of a row have stays one of all cells, when the row is
edited.

## Main definitions

* `Row.Each`: all rows of a list have a property
* `Row.All`: all cells of a row have a property
* `Row.put`, `Row.erase`, `Row.makeRoom`, `Row.takeOut`: what terminals do inside one row
* `Row.Lasts`: what rows keep when they are cleared or broken at the margin, and empty rows have
* `Cell.Common`: what the cells have that terminal functions leave behind

## Main statements

* `Row.Each.modify`, `Row.Each.insertIdxIfInBounds` and their companions: what has to be known about
  the rows that are new
* `Row.All.put`, `Row.All.combine` and their companions: the same about the cells of a row
* `Row.mem_render`: what a row shows is in its glyphs, spaces apart
-/

namespace TerminalSession.Row

/-- All rows of a list have a property. Rows are moved about as they are, so a property of rows
lasts until a row is edited. -/
def Each (R : Row → Prop) (rows : Array Row) : Prop :=
  ∀ row ∈ rows, R row

namespace Each

variable {R : Row → Prop} {rows others : Array Row} {row : Row}

/-- Where there are no rows, all of them have it. -/
theorem empty (R : Row → Prop) : Each R #[] := by
  simp [Each]

theorem replicate (holds : R row) (n : Nat) : Each R (Array.replicate n row) := by
  intro new mem
  rw [(Array.mem_replicate.mp mem).2]
  exact holds

/-- A row that is found at a place is one of the rows. -/
theorem getElem? (each : Each R rows) {i : Nat} (found : rows[i]? = some row) : R row :=
  each row (Array.mem_of_getElem? found)

theorem push (each : Each R rows) (holds : R row) : Each R (rows.push row) := by
  intro old mem
  rcases Array.mem_push.mp mem with mem | rfl
  · exact each old mem
  · exact holds

theorem append (each : Each R rows) (others_each : Each R others) : Each R (rows ++ others) := by
  intro old mem
  rcases Array.mem_append.mp mem with mem | mem
  · exact each old mem
  · exact others_each old mem

/-- Some of the rows in a stretch. -/
theorem extract (each : Each R rows) (first past : Nat) : Each R (rows.extract first past) := by
  intro old mem
  obtain ⟨i, bound, rfl⟩ := Array.mem_extract_iff_getElem.mp mem
  exact each _ (Array.getElem_mem _)

theorem eraseIdxIfInBounds (each : Each R rows) (i : Nat) : Each R (rows.eraseIdxIfInBounds i) := by
  rw [Array.eraseIdxIfInBounds_eq]
  split
  · exact fun old mem => each old (Array.mem_of_mem_eraseIdx mem)
  · exact each

/-- A row that is put in has to have the property itself. Where there is no such place, nothing is
put in. -/
theorem insertIdxIfInBounds (each : Each R rows) (holds : R row) (i : Nat) :
    Each R (rows.insertIdxIfInBounds i row) := by
  unfold Array.insertIdxIfInBounds
  split
  · intro old mem
    rcases Array.mem_insertIdx.mp mem with rfl | mem
    · exact holds
    · exact each old mem
  · exact each

/-- A change of one row has to keep the property of this row. -/
theorem modify {f : Row → Row} (each : Each R rows) {i : Nat}
    (keeps : ∀ old : Row, rows[i]? = some old → R old → R (f old)) : Each R (rows.modify i f) := by
  intro old mem
  obtain ⟨j, bound, rfl⟩ := Array.getElem_of_mem mem
  rw [Array.size_modify] at bound
  rw [Array.getElem_modify]
  split
  next eq =>
    subst eq
    exact keeps _ (Array.getElem?_eq_getElem bound) (each _ (Array.getElem_mem _))
  · exact each _ (Array.getElem_mem _)

/-- A change of all rows, each by its place, may turn one property into another. -/
theorem mapIdx {S : Row → Prop} {f : Nat → Row → Row} (each : Each R rows)
    (keeps : ∀ i (old : Row), R old → S (f i old)) : Each S (rows.mapIdx f) := by
  intro new mem
  obtain ⟨i, bound, rfl⟩ := Array.mem_mapIdx.mp mem
  exact keeps i _ (each _ (Array.getElem_mem _))

theorem map {S : Row → Prop} {f : Row → Row} (each : Each R rows)
    (keeps : ∀ old : Row, R old → S (f old)) : Each S (rows.map f) := by
  intro new mem
  obtain ⟨old, old_mem, rfl⟩ := Array.mem_map.mp mem
  exact keeps old (each old old_mem)

end Each

/-- What rows have that lasts as long as no cell is edited: empty rows of any width have it, and it
does not depend on whether a row was broken at the margin. -/
structure Lasts (R : Row → Prop) : Prop where
  blank : ∀ cols : Nat, R (blank cols)
  clear : ∀ (row : Row) (style : Style), R row → R (row.clear style)
  wrap : ∀ (row : Row) (wrapped : Bool), R row → R { row with wrapped }

/-! ### What terminals do inside one row -/

/-- The row with empty cells put in at a column, if it has that column. -/
def makeRoom (row : Row) (col n : Nat) : Row :=
  if row.cells.size ≤ col then row else row.insertCells col n

/-- The row with cells taken out at a column, if it has that column. -/
def takeOut (row : Row) (col n : Nat) : Row :=
  if row.cells.size ≤ col then row else row.deleteCells col n

/-- The row with a character put into a column, in insert mode or over what is there. -/
def put (row : Row) (insert : Bool) (col : Nat) (cell : Cell) : Row :=
  (if insert then row.makeRoom col cell.width else row).write col cell

/-- The row erased: from a column on, up to and with a column, or everything. The line ends with the
row unless only its beginning is erased. -/
def erase (row : Row) (mode col : Nat) (style : Style) : Row :=
  match mode with
  | 0 => { row.eraseRange col row.cells.size style with wrapped := false }
  | 1 => row.eraseRange 0 (min col (row.cells.size - 1) + 1) style
  | 2 => { row.eraseRange 0 row.cells.size style with wrapped := false }
  | _ => row

/-- The column of the character that a mark joins: the one before the column, or the one before that
if there is a right half. -/
def markTarget (row : Row) (col : Nat) : Nat :=
  let before := min (col - 1) (row.cells.size - 1)
  if (row.cells[before]?.map Cell.isRightHalf).getD false then before - 1 else before

/-- A combining character joins the cell that `markTarget` points at. In the first column there is
none to the left, and nothing is done. -/
theorem combine_eq (row : Row) (col : Nat) (mark : Char) :
    row.combine col mark =
      if col = 0 then row
      else { row with
        cells := row.cells.modify (row.markTarget col) fun old =>
          { old with glyph := old.glyph ++ [mark] } } := rfl

/-- The cells with a space for the wide character whose right half is in a column. The first column
has no cell before it that could be its left half. -/
def repairLeft (cells : Array Cell) (col : Nat) (style : Style) : Array Cell :=
  if 0 < col && (cells[col]?.map Cell.isRightHalf).getD false then
    cells.setIfInBounds (col - 1) (Cell.space style)
  else cells

/-- The cells with a space for the right half of the wide character in a column. At the end of the
row there is no such cell, and nothing is written. -/
def repairRight (cells : Array Cell) (col : Nat) (style : Style) : Array Cell :=
  if (cells[col]?.map fun old => old.width == 2).getD false then
    cells.setIfInBounds (col + 1) (Cell.space style)
  else cells

/-- Writing repairs what it covers in part, and covers what is left. -/
theorem writeCells_eq (cells : Array Cell) (col : Nat) (cell : Cell) :
    writeCells cells col cell =
      let covered := (repairRight (repairLeft cells col cell.style) col cell.style).setIfInBounds
        col cell
      if cell.width = 2 then covered.setIfInBounds (col + 1) (Cell.rightHalf cell.style)
      else covered := rfl

/-- Mending a wide character that was cut apart replaces cells and neither adds nor removes any. So
it does on its left, and on its right. -/
@[simp] theorem size_repairLeft (cells : Array Cell) (col : Nat) (style : Style) :
    (repairLeft cells col style).size = cells.size := by
  unfold repairLeft
  split <;> simp

@[simp] theorem size_repairRight (cells : Array Cell) (col : Nat) (style : Style) :
    (repairRight cells col style).size = cells.size := by
  unfold repairRight
  split <;> simp

/-! ### What all cells have -/

/-- All cells of a row have a property, right halves and empty ones included. -/
def All (P : Cell → Prop) (row : Row) : Prop :=
  ∀ cell ∈ row.cells, P cell

end TerminalSession.Row

namespace TerminalSession

/-- What the cells have that terminal functions leave behind: erased ones and spaces of any style,
and right halves. A property of cells has to be true of these, or it would not last. -/
structure Cell.Common (P : Cell → Prop) : Prop where
  erased : ∀ style : Style, P (Cell.erased style)
  space : ∀ style : Style, P (Cell.space style)
  rightHalf : ∀ style : Style, P (Cell.rightHalf style)

/-- An empty cell is an erased one of the plain style. -/
theorem Cell.Common.empty {P : Cell → Prop} (common : Cell.Common P) : P Cell.empty :=
  common.erased {}

namespace Row.All

variable {P : Cell → Prop} {row : Row} {cells : Array Cell}

/-- A cell that is written has to have the property itself. -/
theorem setIfInBounds (all : ∀ cell ∈ cells, P cell) (i : Nat) {cell : Cell} (holds : P cell) :
    ∀ new ∈ cells.setIfInBounds i cell, P new := by
  intro new mem
  obtain mem | rfl := Array.mem_or_eq_of_mem_setIfInBounds mem
  · exact all new mem
  · exact holds

/-- A cell that is changed is found among the cells, so the property may be used before it is shown
again. -/
theorem modify (all : ∀ cell ∈ cells, P cell) {i : Nat} {f : Cell → Cell}
    (keeps : ∀ old : Cell, cells[i]? = some old → P old → P (f old)) :
    ∀ cell ∈ cells.modify i f, P cell := by
  intro new mem
  obtain ⟨j, bound, rfl⟩ := Array.getElem_of_mem mem
  rw [Array.size_modify] at bound
  rw [Array.getElem_modify]
  split
  next eq =>
    subst eq
    exact keeps _ (Array.getElem?_eq_getElem bound) (all _ (Array.getElem_mem _))
  · exact all _ (Array.getElem_mem _)

theorem append {rest : Array Cell} (all : ∀ cell ∈ cells, P cell)
    (rest_all : ∀ cell ∈ rest, P cell) : ∀ cell ∈ cells ++ rest, P cell := by
  intro cell mem
  obtain mem | mem := Array.mem_append.mp mem
  · exact all cell mem
  · exact rest_all cell mem

theorem extract (all : ∀ cell ∈ cells, P cell) (first past : Nat) :
    ∀ cell ∈ cells.extract first past, P cell := by
  intro cell mem
  obtain ⟨i, bound, rfl⟩ := Array.mem_extract_iff_getElem.mp mem
  exact all _ (Array.getElem_mem _)

theorem replicate {cell : Cell} (holds : P cell) (n : Nat) :
    ∀ new ∈ Array.replicate n cell, P new := by
  intro new mem
  rw [(Array.mem_replicate.mp mem).2]
  exact holds

/-- What all cells have that functions leave behind, lasts as long as no cell is edited. -/
theorem lasts (common : Cell.Common P) : Lasts (All P) where
  blank cols := replicate common.empty cols
  clear row style _ cell mem := by
    obtain ⟨old, -, rfl⟩ := Array.mem_map.mp mem
    exact common.erased style
  wrap _ _ all := all

/-- Erased cells have what is common, whatever their style. -/
theorem eraseRange (all : row.All P) (common : Cell.Common P) (first past : Nat) (style : Style) :
    (row.eraseRange first past style).All P := by
  intro cell mem
  obtain ⟨i, bound, rfl⟩ := Array.mem_mapIdx.mp mem
  split
  · exact common.erased style
  · exact all _ (Array.getElem_mem _)

/-- Whatever part of the row is erased, by its number. -/
theorem erase (all : row.All P) (common : Cell.Common P) (mode col : Nat) (style : Style) :
    (row.erase mode col style).All P := by
  unfold Row.erase
  split
  · exact all.eraseRange common _ _ style
  · exact all.eraseRange common _ _ style
  · exact all.eraseRange common _ _ style
  · exact all

/-- Cells move to the right and empty ones come in, so nothing but what is common has to be
known. -/
theorem makeRoom (all : row.All P) (common : Cell.Common P) (col n : Nat) :
    (row.makeRoom col n).All P := by
  unfold Row.makeRoom
  split
  · exact all
  · exact append (append (extract all _ _) (replicate common.empty _)) (extract all _ _)

/-- The same to the left. -/
theorem takeOut (all : row.All P) (common : Cell.Common P) (col n : Nat) :
    (row.takeOut col n).All P := by
  unfold Row.takeOut
  split
  · exact all
  · exact append (append (extract all _ _) (extract all _ _)) (replicate common.empty _)

theorem repairLeft (all : ∀ cell ∈ cells, P cell) (common : Cell.Common P) (col : Nat)
    (style : Style) : ∀ cell ∈ Row.repairLeft cells col style, P cell := by
  unfold Row.repairLeft
  split
  · exact setIfInBounds all _ (common.space style)
  · exact all

theorem repairRight (all : ∀ cell ∈ cells, P cell) (common : Cell.Common P) (col : Nat)
    (style : Style) : ∀ cell ∈ Row.repairRight cells col style, P cell := by
  unfold Row.repairRight
  split
  · exact setIfInBounds all _ (common.space style)
  · exact all

/-- A character is written after its neighbours were mended. Its second cell, if it has one, is the
common right half of wide characters. -/
theorem write (all : row.All P) (common : Cell.Common P) (col : Nat) {cell : Cell} (holds : P cell) :
    (row.write col cell).All P := by
  have covered := setIfInBounds (repairRight (repairLeft all common col cell.style) common col
    cell.style) col holds
  unfold All Row.write
  dsimp only
  rw [writeCells_eq]
  dsimp only
  split
  · exact setIfInBounds covered _ (common.rightHalf _)
  · exact covered

/-- Room is made first in the mode that inserts. -/
theorem put (all : row.All P) (common : Cell.Common P) (insert : Bool) (col : Nat) {cell : Cell}
    (holds : P cell) : (row.put insert col cell).All P := by
  unfold Row.put
  split
  · exact (all.makeRoom common _ _).write common col holds
  · exact all.write common col holds

/-- Only the glyph of the cell that is joined grows, and it is for the property to allow that. -/
theorem combine (all : row.All P) {col : Nat} {mark : Char}
    (keeps : col ≠ 0 → ∀ old : Cell, row.cells[row.markTarget col]? = some old → P old →
      P { old with glyph := old.glyph ++ [mark] }) : (row.combine col mark).All P := by
  rw [combine_eq]
  split
  · exact all
  next other => exact modify all (keeps other)

/-- Rows are cut to another width or filled up with empty cells. -/
theorem fitCells (all : ∀ cell ∈ cells, P cell) (common : Cell.Common P) (cols : Nat) :
    ∀ cell ∈ Row.fitCells cells cols, P cell :=
  append (extract all _ _) (replicate common.empty _)

theorem fit (all : row.All P) (common : Cell.Common P) (cols : Nat) : (row.fit cols).All P := by
  unfold All Row.fit
  dsimp only
  refine modify (fitCells all common cols) fun old _ holds => ?_
  split
  · exact common.empty
  · exact holds

end Row.All

namespace Row

variable {row : Row} {c : Char}

/-- What is read off a row stands in one of its cells, or is a space for a cell without glyph. -/
theorem mem_text (mem : c ∈ row.text) : c = ' ' ∨ ∃ cell ∈ row.cells, c ∈ cell.glyph := by
  obtain ⟨cell, cell_mem, mem⟩ := List.mem_flatMap.mp mem
  unfold Cell.shown at mem
  split at mem
  · exact absurd mem List.not_mem_nil
  split at mem
  · exact .inl (List.mem_singleton.mp mem)
  · exact .inr ⟨cell, Array.mem_toList_iff.mp cell_mem, mem⟩

/-- What a row shows is in its glyphs, but for the spaces that stand for empty cells or fill the row. -/
theorem mem_render {cols : Nat} (mem : c ∈ row.render cols) :
    c = ' ' ∨ ∃ cell ∈ row.cells, c ∈ cell.glyph := by
  obtain mem | mem := List.mem_append.mp mem
  · exact mem_text mem
  · exact .inl (List.eq_of_mem_replicate mem)

end Row

end TerminalSession
