import TerminalSession.Proofs.Grid.Placing
import TerminalSession.Proofs.Grid.Shape

/-!
# Properties of all rows of a screen

What all rows of a screen and of its history have, they keep when rows are moved, and a change of
the size lays out rows that have it.

## Main definitions

* `Screen.Each`: all rows of a screen have a property, those of its history too
* `Layout.Fills`: what has to be known of cells and rows for all rows of a layout to have a property

## Main statements

* `Screen.Each.scrollUp` and its companions: what moves rows
* `Screen.Each.reflow`, `Screen.Each.crop`: what changes the size
* `Layout.Fills.all`: a property of cells is one of all rows laid out

## Design notes

* A row that is being laid out is no row yet: it is shorter, and it may lack what a complete one has.
  `Layout.Fills` therefore speaks of three properties: of the cells that come in, of the cells of a
  row that is being filled, and of the complete rows.
-/

namespace TerminalSession

/-- All rows of a screen have a property, and all rows of its history. Rows go from the one to the
other, so neither alone would be kept. -/
structure Screen.Each (R : Row → Prop) (s : Screen) : Prop where
  rows : Row.Each R s.rows
  history : Row.Each R s.history

namespace Screen.Each

variable {R : Row → Prop} {s : Screen}

/-- What follows from the property for a single row, all rows of the screen and its history have as
well. -/
theorem imp {R' : Row → Prop} (each : s.Each R) (imp : ∀ row, R row → R' row) : s.Each R' where
  rows := fun row mem => imp row (each.rows row mem)
  history := fun row mem => imp row (each.history row mem)

theorem and {R' : Row → Prop} (each : s.Each R) (each' : s.Each R') :
    s.Each fun row => R row ∧ R' row where
  rows := fun row mem => ⟨each.rows row mem, each'.rows row mem⟩
  history := fun row mem => ⟨each.history row mem, each'.history row mem⟩

/-- An empty screen has blank rows, and no history. -/
theorem blank {cols : Nat} (blank : R (Row.blank cols)) (rows limit : Nat) :
    (Screen.blank cols rows limit).Each R where
  rows := Row.Each.replicate blank rows
  history := Row.Each.empty R

/-- Other rows may take the place of the rows of a screen. -/
theorem withRows (each : s.Each R) {new : Array Row} (holds : Row.Each R new) :
    ({ s with rows := new } : Screen).Each R where
  rows := holds
  history := each.history

/-- The window is no matter of the rows. -/
theorem withOffset (each : s.Each R) (offset : Nat) : ({ s with offset } : Screen).Each R where
  rows := each.rows
  history := each.history

/-- A row that is changed is found on the screen, so the property may be used before it is shown
again. The history does not change. -/
theorem modifyRow (each : s.Each R) {f : Row → Row} {i : Nat}
    (keeps : ∀ old : Row, s.rows[i]? = some old → R old → R (f old)) : (s.modifyRow i f).Each R :=
  each.withRows (each.rows.modify keeps)

theorem mapRows (each : s.Each R) {f : Nat → Row → Row}
    (keeps : ∀ i (old : Row), R old → R (f i old)) :
    ({ s with rows := s.rows.mapIdx f } : Screen).Each R :=
  each.withRows (each.rows.mapIdx keeps)

/-! ### History and window -/

/-- The row that enters the history must have the property. Those that are dropped for it do not
matter. -/
theorem remember (each : s.Each R) {row : Row} (holds : R row) : (s.remember row).Each R := by
  have grown := each.history.push holds
  unfold Screen.remember
  split
  · exact each
  · refine ⟨each.rows, ?_⟩
    dsimp only
    split
    · exact grown.extract 1 _
    · exact grown

theorem forget (each : s.Each R) : s.forget.Each R where
  rows := each.rows
  history := Row.Each.empty R

/-- A movement of the window touches no row. -/
theorem moveWindow (each : s.Each R) (delta : Int) : (s.moveWindow delta).Each R := by
  unfold Screen.moveWindow
  split <;> exact each.withOffset _

/-- The rows that the window shows are rows of the screen or of its history. -/
theorem rowAt? (each : s.Each R) {place : Nat} {row : Row} (shown : s.rowAt? place = some row) :
    R row := by
  unfold Screen.rowAt? at shown
  dsimp only at shown
  split at shown
  · exact each.history.getElem? shown
  · exact each.rows.getElem? shown

/-! ### Scrolling -/

variable {cols : Nat}

/-- Taking one row out and putting an empty one in. -/
theorem replaceLine (each : s.Each R) (blank : R (Row.blank cols)) (out into : Nat) :
    ({ s with rows := (s.rows.eraseIdxIfInBounds out).insertIdxIfInBounds into (Row.blank cols) }
      : Screen).Each R :=
  each.withRows ((each.rows.eraseIdxIfInBounds out).insertIdxIfInBounds blank into)

theorem dropLine (each : s.Each R) (blank : R (Row.blank cols)) (top bottom : Nat) :
    (s.dropLine cols top bottom).Each R := each.replaceLine blank top bottom

theorem addLine (each : s.Each R) (blank : R (Row.blank cols)) (top bottom : Nat) :
    (s.addLine cols top bottom).Each R := each.replaceLine blank bottom top

/-- The row that leaves has the property, and may enter the history with it. -/
theorem scrollUp (each : s.Each R) (blank : R (Row.blank cols)) (top bottom : Nat) (keep : Bool) :
    (s.scrollUp cols top bottom keep).Each R := by
  have dropped := each.dropLine blank top bottom
  unfold Screen.scrollUp
  dsimp only
  split
  · split
    next row found => exact dropped.remember (each.rows.getElem? found)
    · exact dropped
  · exact dropped

/-- Steps that keep the property are taken one after the other. -/
theorem iterate {f : Screen → Screen} (keeps : ∀ s : Screen, s.Each R → (f s).Each R)
    (each : s.Each R) (n : Nat) : (Nat.repeat f n s).Each R :=
  iterate_induction keeps each n

/-! ### Size -/

/-- Rows are cut or filled up, in number and in width. This is only done to a screen without
history, so nothing has to be said of one. -/
theorem crop (each : s.Each R) {newCols : Nat} (blank : R (Row.blank newCols))
    (fit : ∀ row : Row, R row → R (row.fit newCols)) (newRows : Nat)
    (no_history : s.history = #[]) : (s.crop newCols newRows).Each R where
  rows := by
    have filled : Row.Each (fun row => R (row.fit newCols)) (s.rows.take newRows ++
        Array.replicate (newRows - s.rows.size) (Row.blank newCols)) := by
      refine Row.Each.append ?_ (Row.Each.replicate ?_ _)
      · exact fun row mem => fit row (each.rows.extract 0 newRows row mem)
      · exact fit _ blank
    exact filled.map fun _ holds => holds
  history := by
    show Row.Each R s.history
    rw [no_history]
    exact Row.Each.empty R

end Screen.Each

/-! ### Lines -/

namespace LogicalLine

variable {P : Cell → Prop}

/-- Dropping blank cells at the end leaves no other cells. -/
theorem mem_of_mem_trimBlank {cells : List Cell} {cell : Cell} (mem : cell ∈ trimBlank cells) :
    cell ∈ cells := by
  have mem_reverse := (List.dropWhile_sublist _).subset (List.mem_reverse.mp mem)
  exact List.mem_reverse.mp mem_reverse

/-- The cells of lines are cells of the rows that were joined: those of all rows that a line goes
over, without the blank ones at the end of the last. -/
theorem all_join {rows : List (Row × Option Nat)} (all : ∀ item ∈ rows, item.1.All P) :
    ∀ line ∈ join rows, ∀ cell ∈ line.cells, P cell := by
  induction rows with
  | nil => exact fun line mem => nomatch mem
  | cons item rest ih =>
    obtain ⟨row, cursor⟩ := item
    have row_all : ∀ cell ∈ row.cells.toList, P cell :=
      fun cell mem => all _ List.mem_cons_self cell (Array.mem_toList_iff.mp mem)
    have rest_all := ih fun item mem => all item (List.mem_cons_of_mem _ mem)
    intro line mem
    rw [join] at mem
    split at mem
    · split at mem
      · obtain rfl := List.mem_singleton.mp mem
        exact row_all
      next next_line lines joined =>
        rw [joined] at rest_all
        obtain rfl | mem := List.mem_cons.mp mem
        · intro cell cell_mem
          obtain cell_mem | cell_mem := List.mem_append.mp cell_mem
          · exact row_all cell cell_mem
          · exact rest_all next_line List.mem_cons_self cell cell_mem
        · exact rest_all line (List.mem_cons_of_mem _ mem)
    · obtain rfl | mem := List.mem_cons.mp mem
      · exact fun cell cell_mem => row_all cell (mem_of_mem_trimBlank cell_mem)
      · exact rest_all line mem

/-- A line is filled up with empty cells to the place of the cursor. -/
theorem all_filled {line : LogicalLine} (empty : P Cell.empty) (all : ∀ cell ∈ line.cells, P cell) :
    ∀ cell ∈ line.filled, P cell := by
  intro cell mem
  obtain mem | mem := List.mem_append.mp mem
  · exact all cell mem
  · rw [List.eq_of_mem_replicate mem]
    exact empty

end LogicalLine

/-! ### Layouts -/

namespace Layout

/-- Rows of a width can be filled with cells of a kind: what the cells of a row being filled have,
they keep when one more comes in, and it makes a row with a property in the end. -/
structure Fills (width : Nat) (P : Cell → Prop) (Q : Array Cell → Prop) (R : Row → Prop) :
    Prop where
  start : Q #[]
  push : ∀ (layout : Layout) (cell : Cell), Q layout.row → P cell → cell.isRightHalf = false →
    layout.row.size + needed width cell ≤ width → Q (layout.push width cell).row
  fit : ∀ (cells : Array Cell) (wrapped : Bool), Q cells →
    R { cells := Row.fitCells cells width, wrapped }

/-- A layout all of whose rows have a property, with the one being filled on its way to it. -/
structure Each (Q : Array Cell → Prop) (R : Row → Prop) (layout : Layout) : Prop where
  rows : Row.Each R layout.rows
  row : Q layout.row

namespace Each

variable {width : Nat} {P : Cell → Prop} {Q : Array Cell → Prop} {R : Row → Prop}
  {layout : Layout}

/-- The row that is complete has the property of rows, if the cells of a row being filled have
theirs; and the next one begins with no cells. -/
theorem breakRow (each : layout.Each Q R) (fills : Fills width P Q R) :
    (layout.breakRow width).Each Q R where
  rows := each.rows.push (fills.fit layout.row true each.row)
  row := fills.start

theorem endRow (each : layout.Each Q R) (fills : Fills width P Q R) :
    (layout.endRow width).Each Q R where
  rows := each.rows.push (fills.fit layout.row false each.row)
  row := fills.start

theorem markCursor (each : layout.Each Q R) : layout.markCursor.Each Q R where
  rows := each.rows
  row := each.row

/-- Whether or not the row is broken, it has the property of a row being filled. -/
theorem makeRoom (each : layout.Each Q R) (fills : Fills width P Q R) (cell : Cell) :
    (layout.makeRoom width cell).Each Q R := by
  unfold Layout.makeRoom
  split
  · exact each.breakRow fills
  · exact each

theorem markIf (each : layout.Each Q R) (p : Prop) [Decidable p] : (layout.markIf p).Each Q R := by
  unfold Layout.markIf
  split
  · exact each.markCursor
  · exact each

/-- A cell joins the row being filled, after room was made for it. What `Fills` asks is just this:
that the row still has its property with one more cell. -/
theorem place (each : layout.Each Q R) (fills : Fills width P Q R) (width_pos : 0 < width)
    (cursor : Option Nat) {item : Cell × Nat} (holds : P item.1) :
    (place width cursor layout item).Each Q R := by
  cases shown : item.1.isRightHalf with
  | true => rwa [place_of_isRightHalf shown]
  | false =>
    rw [place_of_shown shown]
    have ready := (each.makeRoom fills item.1).markIf (cursor = some item.2)
    refine ⟨ready.rows, fills.push _ item.1 ready.row holds shown ?_⟩
    rw [row_markIf]
    exact room_makeRoom width_pos _ _

/-- So the cells of a line can be laid out, one by one. The induction is over those that are still
to come. -/
theorem foldl_place (each : layout.Each Q R) (fills : Fills width P Q R) (width_pos : 0 < width)
    (cursor : Option Nat) {items : List (Cell × Nat)} (all : ∀ item ∈ items, P item.1) :
    (items.foldl (Layout.place width cursor) layout).Each Q R := by
  induction items generalizing layout with
  | nil => exact each
  | cons item rest ih =>
    refine ih (each.place fills width_pos cursor (all item List.mem_cons_self)) ?_
    exact fun other mem => all other (List.mem_cons_of_mem _ mem)

/-- The end of a line completes a row, and breaks one before it if the cursor needs it. -/
theorem close (each : layout.Each Q R) (fills : Fills width P Q R) (text : LogicalLine) :
    (layout.close width text).Each Q R := by
  unfold Layout.close
  split
  · split
    · exact (each.breakRow fills).markCursor.endRow fills
    · exact each.markCursor.endRow fills
  · exact each.endRow fills

/-- A line has the property in all its rows if all its cells have theirs, the ones it is filled up
with included. -/
theorem line (each : layout.Each Q R) (fills : Fills width P Q R) (width_pos : 0 < width)
    {text : LogicalLine} (all : ∀ cell ∈ text.filled, P cell) :
    (line width layout text).Each Q R := by
  rw [line_eq_close]
  refine (each.foldl_place fills width_pos text.cursor fun item mem => ?_).close fills text
  exact all item.1 (List.fst_mem_of_mem_zipIdx mem)

/-- All rows of a layout have what rows are filled to have. -/
theorem lines (fills : Fills width P Q R) (width_pos : 0 < width) {list : List LogicalLine}
    (all : ∀ line ∈ list, ∀ cell ∈ line.filled, P cell) : (lines width list).Each Q R := by
  have start : ({} : Layout).Each Q R := ⟨Row.Each.empty R, fills.start⟩
  unfold Layout.lines
  generalize ({} : Layout) = layout at start ⊢
  induction list generalizing layout with
  | nil => exact start
  | cons text rest ih =>
    refine ih (fun line mem => all line (List.mem_cons_of_mem _ mem)) _ ?_
    exact start.line fills width_pos (all text List.mem_cons_self)

end Each

/-- A property of cells is one of all rows laid out, if empty cells and right halves have it as
well: these are the ones that a layout puts in by itself. -/
theorem Fills.all {P : Cell → Prop} (width : Nat) (common : Cell.Common P) :
    Fills width P (fun cells => ∀ cell ∈ cells, P cell) (Row.All P) where
  start := fun cell mem => nomatch mem
  push := by
    intro layout cell all holds _ _ new mem
    dsimp only [Layout.push] at mem
    have pushed : ∀ new ∈ layout.row.push cell, P new := by
      intro new mem
      obtain mem | rfl := Array.mem_push.mp mem
      · exact all new mem
      · exact holds
    split at mem
    · obtain mem | rfl := Array.mem_push.mp mem
      · exact pushed new mem
      · exact common.rightHalf _
    · exact pushed new mem
  fit cells _ all := Row.All.fitCells all common width

end Layout

namespace Screen.Each

variable {R : Row → Prop} {s : Screen} {cols : Nat} {P : Cell → Prop} {Q : Array Cell → Prop}

/-- Whatever the rows of a screen were, after a reflow they have what rows of the new width are
filled to have. The rows kept of the layout and of the history are rows laid out; those that make up
for missing ones are blank. -/
theorem reflow (all : s.Each (Row.All P)) (fills : Layout.Fills cols P Q R) (cols_pos : 0 < cols)
    (empty : P Cell.empty) (blank : R (Row.blank cols)) (rows row col : Nat) :
    (s.reflow cols rows row col).1.Each R := by
  have lines_all : ∀ line ∈ s.logicalLines row col, ∀ cell ∈ line.filled, P cell := by
    refine fun line mem => LogicalLine.all_filled empty (LogicalLine.all_join ?_ line mem)
    intro item item_mem
    obtain ⟨indexed, indexed_mem, rfl⟩ := List.mem_map.mp item_mem
    obtain mem | mem := List.mem_append.mp (List.fst_mem_of_mem_zipIdx indexed_mem)
    · exact all.history _ (Array.mem_toList_iff.mp mem)
    · exact all.rows _ (Array.mem_toList_iff.mp (List.mem_of_mem_take mem))
  have laid := (Layout.Each.lines fills cols_pos lines_all).rows
  exact
    { rows := ((laid.extract _ _).extract _ _).append (Row.Each.replicate blank _)
      history := (laid.extract _ _).extract _ _ }

end Screen.Each

end TerminalSession
