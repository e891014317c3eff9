import TerminalSession.Proofs.Grid.Typing
import TerminalSession.Proofs.Terminal.Everywhere
import TerminalSession.Proofs.Terminal.Remembering

/-!
# Text written to a terminal

A terminal to which lines of text are written displays their layout: what is put down character by
character, with line feeds that scroll, is what a layout of these lines has.

## Main definitions

* `Operation.typingLine`, `Operation.typing`: the operations that write a line, or several
* `Terminal.HasRoom`: the history has room for the rows that operations send there
* `Terminal.Holds`: the cursor stands in a row, with other rows above it and blank ones below
* `Terminal.Displays`: the rows down to the cursor are those of a layout

## Main statements

* `Terminal.Displays.print`: printing a character puts it down in the layout
* `Terminal.displays_typing`: what a fresh terminal displays when lines of text were written to it

## Design notes

* A layout breaks a row when it has no room for the next cell, and a terminal wraps at the same
  moment. Until then the cursor stands past the last column in both.
* The row of the cursor is the one being filled of the layout, which the terminal has filled up with
  empty cells from the start.
-/

namespace TerminalSession

namespace Operation

/-- The operations that write a line of text and end it. -/
def typingLine (text : Text) : List Operation := text.map print ++ [carriageReturn, lineFeed]

/-- The operations that write lines of text, each of them ended but the last. -/
def typing (init : List Text) (final : Text) : List Operation :=
  init.flatMap typingLine ++ final.map print

/-- Writing text keeps the history. -/
theorem keepsHistory_of_mem_print {text : Text} :
    ∀ op ∈ text.map print, op.keepsHistory = true := by
  intro op mem
  obtain ⟨c, -, rfl⟩ := List.mem_map.mp mem
  rfl

theorem keepsHistory_of_mem_typingLine {text : Text} :
    ∀ op ∈ typingLine text, op.keepsHistory = true := by
  intro op mem
  rcases List.mem_append.mp mem with mem | mem
  · exact keepsHistory_of_mem_print op mem
  · simp only [List.mem_cons, List.not_mem_nil, or_false] at mem
    rcases mem with rfl | rfl <;> rfl

theorem keepsHistory_of_mem_lines {init : List Text} :
    ∀ op ∈ init.flatMap typingLine, op.keepsHistory = true := by
  intro op mem
  obtain ⟨text, -, mem⟩ := List.mem_flatMap.mp mem
  exact keepsHistory_of_mem_typingLine op mem

end Operation

/-! ### Screens -/

namespace Screen

variable {s : Screen} {cols : Nat}

/-- A row of the screen comes after the rows of the history. -/
theorem allRows_modifyRow (s : Screen) (row : Nat) (f : Row → Row) :
    (s.modifyRow row f).allRows = s.allRows.modify (s.history.size + row) f := by
  rw [allRows, allRows, modifyRow, Array.toList_modify, ← Array.length_toList]
  exact (List.modifyTailIdx_add _ _ _ _).symm

/-- When the whole screen scrolls, and the history has room, nothing is lost: the first row goes to
the end of the history, where it was read before, and a blank one comes in below. -/
theorem allRows_scrollUp (pos : 0 < s.rows.size) (room : s.history.size < s.limit) :
    (s.scrollUp cols 0 (s.rows.size - 1) true).allRows = s.allRows ++ [Row.blank cols] := by
  have dropped : (s.dropLine cols 0 (s.rows.size - 1)).rows.toList =
      s.rows.toList.tail ++ [Row.blank cols] := by
    have tail_eq : (s.rows.eraseIdxIfInBounds 0).toList = s.rows.toList.tail := by
      rw [Array.toList_eraseIdxIfInBounds, List.eraseIdx_zero]
    have size_eq : s.rows.size - 1 = (s.rows.eraseIdxIfInBounds 0).size := by
      have lengths := congrArg List.length tail_eq
      rw [Array.length_toList, List.length_tail, Array.length_toList] at lengths
      exact lengths.symm
    rw [dropLine, size_eq, Array.insertIdxIfInBounds, dif_pos (Nat.le_refl _),
      Array.toList_insertIdx, ← Array.length_toList, List.insertIdx_length_self, tail_eq]
  have ne : s.rows.toList ≠ [] := by
    rw [← List.length_pos_iff]
    exact pos
  have rows_eq : s.rows.toList = s.rows[0] :: s.rows.toList.tail := by
    rw [← Array.getElem_toList pos, List.getElem_zero_eq_head, List.cons_head_tail]
  have grown : (s.scrollUp cols 0 (s.rows.size - 1) true).history = s.history.push s.rows[0] := by
    rw [scrollUp, Array.getElem?_eq_getElem pos]
    exact remember_of_lt (s := s.dropLine cols 0 (s.rows.size - 1)) room _
  have rows_after : (s.scrollUp cols 0 (s.rows.size - 1) true).rows =
      (s.dropLine cols 0 (s.rows.size - 1)).rows := by
    rw [scrollUp, Array.getElem?_eq_getElem pos]
    exact rows_remember _ _
  calc (s.scrollUp cols 0 (s.rows.size - 1) true).allRows
      = (s.history.push s.rows[0]).toList ++ (s.rows.toList.tail ++ [Row.blank cols]) := by
        rw [allRows, grown, rows_after, dropped]
    _ = s.history.toList ++ (s.rows[0] :: s.rows.toList.tail) ++ [Row.blank cols] := by simp
    _ = s.allRows ++ [Row.blank cols] := by rw [← rows_eq, allRows]

end Screen

namespace Terminal

variable {limit cols : Nat} {t : Terminal} {above : List Row} {row : Row} {layout : Layout} {c : Char}

/-- The history has room for the rows that operations send there. -/
def HasRoom (t : Terminal) (operations : List Operation) : Prop :=
  t.primary.history.size + t.sentAll operations ≤ t.primary.limit

/-- The history has room for the row that a line feed sends there, if it does. -/
def HasRoomBelow (t : Terminal) : Prop :=
  t.primary.history.size + t.leavingByIndex.length ≤ t.primary.limit

theorem modifyCursor_of_onPrimary (on_primary : t.onAlternate = false) (f : Cursor → Cursor) :
    t.modifyCursor f = { t with primaryCursor := f t.primaryCursor } := by
  rw [modifyCursor, if_neg (Bool.eq_false_iff.mp on_primary)]

theorem modifyCursorRow_of_onPrimary (on_primary : t.onAlternate = false) (f : Row → Row) :
    t.modifyCursorRow f = { t with primary := t.primary.modifyRow t.primaryCursor.row f } := by
  have cursor_eq : t.cursor = t.primaryCursor := if_neg (Bool.eq_false_iff.mp on_primary)
  rw [modifyCursorRow, modifyScreen, if_neg (Bool.eq_false_iff.mp on_primary), cursor_eq]

/-- A change of the cursor's row makes no difference to how many rows a line feed sends. -/
theorem length_leavingByIndex_modifyCursorRow (on_primary : t.onAlternate = false) (f : Row → Row) :
    (t.modifyCursorRow f).leavingByIndex.length = t.leavingByIndex.length := by
  simp [leavingByIndex, leavingByScroll, remembers, cursor, modifyCursorRow_of_onPrimary on_primary,
    apply_ite List.length]

/-- Going to the first column does not change the room. -/
theorem HasRoomBelow.carriageReturn (on_primary : t.onAlternate = false) (room : t.HasRoomBelow) :
    t.carriageReturn.HasRoomBelow := by
  rw [HasRoomBelow, leavingByIndex_carriageReturn, Terminal.carriageReturn,
    modifyCursor_of_onPrimary on_primary]
  exact room

/-- Nor does a change of the cursor's row. -/
theorem HasRoomBelow.modifyCursorRow (on_primary : t.onAlternate = false) (room : t.HasRoomBelow)
    (f : Row → Row) : (t.modifyCursorRow f).HasRoomBelow := by
  rw [HasRoomBelow, length_leavingByIndex_modifyCursorRow on_primary,
    modifyCursorRow_of_onPrimary on_primary]
  exact room

/-- The cursor of a terminal that is as at the start, but for what was written, stands in a row with
other rows above it, those of the history among them, and blank rows below it. -/
structure Holds (limit cols : Nat) (above : List Row) (row : Row) (t : Terminal) : Prop where
  wellFormed : t.WellFormed limit
  cols_eq : t.cols = cols
  on_primary : t.onAlternate = false
  style_eq : t.style = {}
  modes_eq : t.modes = {}
  region_eq : t.region = Region.full t.rows
  rows_eq : t.primary.allRows =
    above ++ row :: List.replicate (t.rows - 1 - t.primaryCursor.row) (Row.blank cols)
  length_eq : above.length = t.primary.history.size + t.primaryCursor.row

/-- The rows down to the cursor are those of a layout, with the cursor where the next cell goes. So
to print is to lay out, one character at a time. -/
structure Displays (limit cols : Nat) (layout : Layout) (t : Terminal) : Prop where
  holds : t.Holds limit cols layout.rows.toList { cells := Row.fitCells layout.row cols }
  col_eq : t.primaryCursor.col = layout.row.size
  inWidth : layout.InWidth cols

namespace Holds

/-- A change of the cursor's row. -/
theorem modifyCursorRow (holds : t.Holds limit cols above row) {f : Row → Row}
    (keeps : ∀ old : Row, old.cells.size = t.cols → (f old).cells.size = t.cols) :
    (t.modifyCursorRow f).Holds limit cols above (f row) := by
  have wf := holds.wellFormed.modifyCursorRow keeps
  rw [modifyCursorRow_of_onPrimary holds.on_primary] at wf ⊢
  exact
    { holds with
      wellFormed := wf
      rows_eq := by
        rw [Screen.allRows_modifyRow, ← holds.length_eq, holds.rows_eq]
        exact List.modifyTailIdx_add _ 0 _ _ }

/-- A movement of the cursor within its row. -/
theorem movedToCol (holds : t.Holds limit cols above row) {f : Cursor → Nat}
    (wf : (t.modifyCursor fun c => { c with col := f c }).WellFormed limit) :
    (t.modifyCursor fun c => { c with col := f c }).Holds limit cols above row := by
  rw [modifyCursor_of_onPrimary holds.on_primary] at wf ⊢
  exact { holds with wellFormed := wf }

/-- A line feed goes to a blank row, which comes in when the cursor stands in the last one. The rows
above are the same, whether one of them has entered the history or not. -/
theorem lineFeed (holds : t.Holds limit cols above row) (room : t.HasRoomBelow) :
    t.lineFeed.Holds limit cols (above ++ [row]) (Row.blank cols) ∧
      t.lineFeed.primaryCursor.col = t.primaryCursor.col := by
  have not_alternate := Bool.eq_false_iff.mp holds.on_primary
  have wf := holds.wellFormed.lineFeed
  have row_lt := holds.wellFormed.primaryCursor.row_lt
  have cursor_eq : t.cursor = t.primaryCursor := if_neg not_alternate
  have bottom_eq : t.region.bottom = t.rows - 1 := by rw [holds.region_eq]; rfl
  have fed : t.lineFeed = t.index := by
    rw [Terminal.lineFeed, if_neg (by rw [holds.modes_eq]; exact Bool.false_ne_true)]
  rw [fed] at wf ⊢
  by_cases last : t.primaryCursor.row = t.rows - 1
  · -- The cursor stays in the last row, and all rows move up.
    have top_eq : t.region.top = 0 := by rw [holds.region_eq]; rfl
    have remembers : t.remembers = true := by
      rw [Terminal.remembers, holds.on_primary, top_eq]
      rfl
    have scrolled : t.index =
        { t with primary := t.primary.scrollUp t.cols 0 (t.rows - 1) true } := by
      have once : min 1 (t.rows - 1 - 0 + 1) = 1 := by omega
      rw [Terminal.index, cursor_eq, bottom_eq, if_pos last]
      unfold Terminal.scrollUp
      dsimp only
      rw [Terminal.modifyScreen, if_neg not_alternate, remembers, top_eq, bottom_eq, once]
      rfl
    have size_eq : t.primary.rows.size = t.rows := holds.wellFormed.primary.size_rows
    have room_one : t.primary.history.size < t.primary.limit := by
      have sent : t.leavingByIndex.length = 1 := by
        rw [leavingByIndex, cursor_eq, bottom_eq, if_pos last, leavingByScroll, if_pos remembers,
          List.length_take, Array.length_toList, size_eq]
        omega
      unfold HasRoomBelow at room
      omega
    have all_eq : (t.primary.scrollUp t.cols 0 (t.rows - 1) true).allRows =
        above ++ [row] ++ [Row.blank cols] := by
      rw [← size_eq, Screen.allRows_scrollUp (by omega) room_one, holds.rows_eq, last, Nat.sub_self,
        holds.cols_eq]
      rfl
    have history_eq := congrArg List.length all_eq
    rw [scrolled] at wf ⊢
    refine ⟨{ holds with wellFormed := wf, rows_eq := ?_, length_eq := ?_ }, rfl⟩
    · rw [all_eq, last, Nat.sub_self]
      rfl
    · -- The screen has as many rows as before, so one has entered the history.
      have rows_size : (t.primary.scrollUp t.cols 0 (t.rows - 1) true).rows.size = t.rows :=
        wf.primary.size_rows
      rw [Screen.allRows] at history_eq
      simp only [List.length_append, Array.length_toList, List.length_singleton] at history_eq ⊢
      omega
  · -- The cursor goes to the next row, which is one of the blank ones.
    have moved : t.index = { t with
        primaryCursor := { t.primaryCursor with row := t.primaryCursor.row + 1 } } := by
      rw [Terminal.index, cursor_eq, bottom_eq, if_neg last, if_pos (by unfold lastRow; omega),
        Terminal.modifyCursor, if_neg not_alternate]
    have left : t.rows - 1 - t.primaryCursor.row = t.rows - 1 - (t.primaryCursor.row + 1) + 1 := by
      omega
    rw [moved] at wf ⊢
    refine ⟨{ holds with wellFormed := wf, rows_eq := ?_, length_eq := ?_ }, rfl⟩
    · rw [holds.rows_eq, left, List.replicate_succ, List.append_assoc]
      rfl
    · rw [List.length_append, holds.length_eq]
      rfl

/-- A line feed goes to the start of the next row, when the cursor has returned. -/
theorem newRow (holds : t.Holds limit cols above row) (room : t.HasRoomBelow) :
    t.carriageReturn.lineFeed.Holds limit cols (above ++ [row]) (Row.blank cols) ∧
      t.carriageReturn.lineFeed.primaryCursor.col = 0 := by
  have returned : t.carriageReturn.Holds limit cols above row :=
    holds.movedToCol holds.wellFormed.carriageReturn
  obtain ⟨fed, col_eq⟩ := returned.lineFeed (room.carriageReturn holds.on_primary)
  refine ⟨fed, ?_⟩
  rw [col_eq, Terminal.carriageReturn, modifyCursor_of_onPrimary holds.on_primary]

end Holds

/-! ### Characters and lines -/

namespace Displays

/-- The line ends, and the cursor goes to the start of the next row. -/
theorem lineBreak (displays : t.Displays limit cols layout) (room : t.HasRoomBelow) :
    t.carriageReturn.lineFeed.Displays limit cols (layout.endRow cols) := by
  obtain ⟨holds, col_eq⟩ := displays.holds.newRow room
  rw [Row.blank_eq] at holds
  refine ⟨?_, col_eq, Nat.zero_le _⟩
  rw [Layout.endRow, Array.toList_push]
  exact holds

/-- A row that has no room is marked, and the cursor goes to the start of the next one. -/
theorem wrap (displays : t.Displays limit cols layout) (room : t.HasRoomBelow) :
    (t.modifyCursorRow fun row => { row with wrapped := true }).carriageReturn.lineFeed.Displays
      limit cols (layout.breakRow cols) := by
  have marked := displays.holds.modifyCursorRow (f := fun row => { row with wrapped := true })
    fun _ size => size
  obtain ⟨holds, col_eq⟩ := marked.newRow (room.modifyCursorRow displays.holds.on_primary _)
  rw [Row.blank_eq] at holds
  refine ⟨?_, col_eq, Nat.zero_le _⟩
  rw [Layout.breakRow, Array.toList_push]
  exact holds

/-- A character that has room is written. The row of the cursor has been filled up behind what was
typed, so the character is written there as the layout puts it in. -/
theorem place (displays : t.Displays limit cols layout) (pos : 0 < Text.charWidth c)
    (room : layout.row.size + Text.charWidth c ≤ cols) :
    (t.place c (Text.charWidth c)).Displays limit cols (layout.push cols (Cell.ofChar c)) := by
  have holds := displays.holds
  have cursor_eq : t.cursor = t.primaryCursor := if_neg (Bool.eq_false_iff.mp holds.on_primary)
  have col_eq : t.cursor.col = layout.row.size := by rw [cursor_eq, displays.col_eq]
  have wf : (t.place c (Text.charWidth c)).WellFormed limit := by
    refine holds.wellFormed.place c (Cursor.le_margin ?_)
    rw [col_eq, holds.cols_eq]
    exact room
  have inside : ¬ t.cols ≤ t.cursor.col := by
    rw [col_eq, holds.cols_eq]
    omega
  have written : t.place c (Text.charWidth c) =
      (t.modifyCursorRow fun row => row.write layout.row.size (Cell.ofChar c)).modifyCursor
        fun cursor => { cursor with col := cursor.col + Text.charWidth c } := by
    rw [place_eq_put, if_neg inside, holds.modes_eq, holds.style_eq, col_eq]
    rfl
  rw [written] at wf ⊢
  have row_written := holds.modifyCursorRow (f := fun row => row.write layout.row.size (Cell.ofChar c))
    fun _ size => (Row.size_write _ _ _).trans size
  have size_eq : (layout.push cols (Cell.ofChar c)).row.size =
      layout.row.size + Text.charWidth c := by
    rw [Layout.size_push, Layout.needed_ofChar pos (Nat.le_trans (Nat.le_add_left _ _) room)]
  refine ⟨?_, ?_, ?_⟩
  · have moved := row_written.movedToCol wf
    rw [Row.write_fitCells pos room] at moved
    exact moved
  · rw [modifyCursor_of_onPrimary row_written.on_primary,
      modifyCursorRow_of_onPrimary holds.on_primary, size_eq, ← displays.col_eq]
  · rw [Layout.InWidth, size_eq]
    exact room

/-- The margin is reached when the row being filled has no room. -/
theorem atMargin_iff (displays : t.Displays limit cols layout) (pos : 0 < Text.charWidth c)
    (le : Text.charWidth c ≤ cols) :
    t.atMargin (Text.charWidth c) = true ↔ cols < layout.row.size + Text.charWidth c := by
  have cursor_eq : t.cursor = t.primaryCursor :=
    if_neg (Bool.eq_false_iff.mp displays.holds.on_primary)
  have le_two := Text.charWidth_le_two c
  simp only [atMargin, cursor_eq, displays.col_eq, displays.holds.cols_eq, Bool.or_eq_true,
    Bool.and_eq_true, decide_eq_true_eq, beq_iff_eq]
  omega

/-- Printing a character puts it down in the layout. Both go to the next row on the same condition,
and both do so before the character is put down. -/
theorem print (displays : t.Displays limit cols layout) (pos : 0 < Text.charWidth c)
    (le : Text.charWidth c ≤ cols) (room : t.HasRoom [.print c]) :
    (t.print c).Displays limit cols (layout.put cols (Cell.ofChar c)) := by
  have margin := displays.atMargin_iff pos le
  have some : Text.charWidth c ≠ 0 := by omega
  have printed : t.print c = (t.wrapFor (Text.charWidth c)).place c (Text.charWidth c) := by
    unfold Terminal.print
    split
    next none => exact absurd none some
    next => rfl
  have wraps : t.modes.autoWrap = true := by rw [displays.holds.modes_eq]
  rw [printed, Layout.put, Layout.makeRoom, Layout.needed_ofChar pos le, Terminal.wrapFor]
  by_cases full : cols < layout.row.size + Text.charWidth c
  · have room_below : t.HasRoomBelow := by
      have leaving_eq : t.leaving (.print c) =
          (t.modifyCursorRow fun row => { row with wrapped := true }).leavingByIndex :=
        if_pos ⟨some, margin.mpr full, wraps⟩
      rwa [HasRoom, sentAll, leavingAll, leavingAll, List.append_nil, leaving_eq,
        length_leavingByIndex_modifyCursorRow displays.holds.on_primary] at room
    rw [if_pos full, if_pos (margin.mpr full), if_pos wraps]
    exact (displays.wrap room_below).place pos (by simpa [Layout.breakRow] using le)
  · rw [if_neg full, if_neg (mt margin.mp full)]
    exact displays.place pos (Nat.not_lt.mp full)

end Displays

/-- The rows down to the cursor. -/
theorem Holds.rowsToCursor (holds : t.Holds limit cols above row) :
    t.primary.history.toList ++ t.primary.rows.toList.take (t.primaryCursor.row + 1) =
      above ++ [row] := by
  have all_eq := congrArg (List.take (above.length + 1)) holds.rows_eq
  rw [List.take_length_add_append, holds.length_eq, Nat.add_assoc, Screen.allRows,
    ← Array.length_toList, List.take_length_add_append] at all_eq
  exact all_eq

/-- The rows down to the cursor, when the line that was begun ends. -/
theorem Displays.rowsToCursor (displays : t.Displays limit cols layout) :
    t.primary.history.toList ++ t.primary.rows.toList.take (t.primaryCursor.row + 1) =
      (layout.endRow cols).rows.toList := by
  rw [displays.holds.rowsToCursor, Layout.endRow, Array.toList_push]

/-- All rows, when the line that was begun ends. -/
theorem Displays.allRows_eq (displays : t.Displays limit cols layout) :
    t.primary.allRows = (layout.endRow cols).rows.toList ++
      List.replicate (t.rows - 1 - t.primaryCursor.row) (Row.blank cols) := by
  rw [displays.holds.rows_eq, Layout.endRow, Array.toList_push, List.append_assoc]
  rfl

/-! ### Several lines -/

/-- Room for two lists of operations is room for the first one now, and for the second one later:
what the first one sends has entered the history by then. -/
theorem hasRoom_append (wf : t.WellFormed limit) (on_primary : t.onAlternate = false)
    {first rest : List Operation} (keep : ∀ op ∈ first, op.keepsHistory = true)
    (room : t.HasRoom (first ++ rest)) :
    t.HasRoom first ∧ (Operation.performAll t first).HasRoom rest := by
  have past_eq := (wf.records_performAll on_primary keep).past_eq
  have le : t.primary.past.history.size ≤ t.primary.past.limit :=
    wf.primary.limit_eq.symm ▸ wf.primary.history_le
  have size_eq := Screen.size_history_rememberAll le (t.leavingAll first)
  have limit_eq := Screen.limit_rememberAll t.primary.past (t.leavingAll first)
  rw [← past_eq] at size_eq limit_eq
  unfold HasRoom at room ⊢
  rw [sentAll_append, sentAll] at room
  rw [sentAll]
  simp only [Screen.past] at size_eq limit_eq
  omega

namespace Displays

/-- Writing a text puts its characters down in the layout. -/
theorem text {text : Text} (placeable : text.Placeable cols)
    (displays : t.Displays limit cols layout) (room : t.HasRoom (text.map .print)) :
    (Operation.performAll t (text.map .print)).Displays limit cols
      ((text.map Cell.ofChar).foldl (Layout.put cols) layout) := by
  induction text generalizing t layout with
  | nil => exact displays
  | cons c rest ih =>
    obtain ⟨pos, le⟩ := placeable c List.mem_cons_self
    have room_split : t.HasRoom ([.print c] ++ rest.map .print) := room
    obtain ⟨now, later⟩ := hasRoom_append displays.holds.wellFormed displays.holds.on_primary
      (by simp [Operation.keepsHistory]) room_split
    exact ih (fun other mem => placeable other (List.mem_cons_of_mem _ mem))
      (displays.print pos le now) later

/-- Writing a line that ends lays it out. The return and the line feed after its text are where the
layout ends the row, with room below for one more. -/
theorem line {text : Text} (placeable : text.Placeable cols)
    (displays : t.Displays limit cols layout) (room : t.HasRoom (Operation.typingLine text)) :
    (Operation.performAll t (Operation.typingLine text)).Displays limit cols
      (Layout.line cols layout (.ofText text)) := by
  obtain ⟨now, later⟩ := hasRoom_append displays.holds.wellFormed displays.holds.on_primary
    Operation.keepsHistory_of_mem_print room
  have written := displays.text placeable now
  have room_below : (Operation.performAll t (text.map .print)).HasRoomBelow := by
    have leaving_eq (t : Terminal) :
        t.leavingAll [.carriageReturn, .lineFeed] = t.leavingByIndex := by
      change [] ++ (t.carriageReturn.leavingByIndex ++ []) = t.leavingByIndex
      rw [leavingByIndex_carriageReturn, List.append_nil, List.nil_append]
    rwa [HasRoom, sentAll, leaving_eq] at later
  rw [Operation.typingLine, Operation.performAll_append, Layout.line_ofText placeable]
  exact written.lineBreak room_below

/-- So do several lines, one after the other. Each leaves the cursor at the beginning of a blank
row, where the next one begins. -/
theorem lines {init : List Text} (placeable : ∀ text ∈ init, text.Placeable cols)
    (displays : t.Displays limit cols layout)
    (room : t.HasRoom (init.flatMap Operation.typingLine)) :
    (Operation.performAll t (init.flatMap Operation.typingLine)).Displays limit cols
      ((init.map LogicalLine.ofText).foldl (Layout.line cols) layout) := by
  induction init generalizing t layout with
  | nil => exact displays
  | cons text rest ih =>
    rw [List.flatMap_cons] at room ⊢
    obtain ⟨now, later⟩ := hasRoom_append displays.holds.wellFormed displays.holds.on_primary
      Operation.keepsHistory_of_mem_typingLine room
    rw [Operation.performAll_append]
    exact ih (fun other mem => placeable other (List.mem_cons_of_mem _ mem))
      (displays.line (placeable text List.mem_cons_self) now) later

/-- A fresh terminal displays an empty layout: no row is above the one of the cursor, and that one
and those below are blank. -/
theorem fresh {cols rows : Nat} (limit : Nat) (cols_pos : 0 < cols) (rows_pos : 0 < rows) :
    (Terminal.fresh cols rows limit).Displays limit cols {} where
  holds :=
    { wellFormed := WellFormed.fresh limit cols_pos rows_pos
      cols_eq := rfl
      on_primary := rfl
      style_eq := rfl
      modes_eq := rfl
      region_eq := rfl
      rows_eq := by
        obtain ⟨below, rfl⟩ := Nat.exists_eq_add_of_lt rows_pos
        rw [← Row.blank_eq]
        simp [Screen.allRows, Terminal.fresh, Screen.blank, List.replicate_succ]
      length_eq := rfl }
  col_eq := rfl
  inWidth := Nat.zero_le _

end Displays

/-- What a fresh terminal displays when lines of text were written to it: their layout, if no row of
it was lost. The history has room for all rows that were sent there. -/
theorem displays_typing {cols rows limit : Nat} (cols_pos : 0 < cols) (rows_pos : 0 < rows)
    {init : List Text} {final : Text} (placeable : ∀ text ∈ init ++ [final], text.Placeable cols)
    (room : (fresh cols rows limit).sentAll (Operation.typing init final) ≤ limit) :
    (Operation.performAll (fresh cols rows limit) (Operation.typing init final)).Displays limit cols
      (Layout.typed cols init final) := by
  have start := Displays.fresh limit cols_pos rows_pos
  have room_all : (fresh cols rows limit).HasRoom (Operation.typing init final) := by
    change 0 + _ ≤ limit
    rwa [Nat.zero_add]
  obtain ⟨now, later⟩ := hasRoom_append start.holds.wellFormed start.holds.on_primary
    Operation.keepsHistory_of_mem_lines room_all
  have above := start.lines (fun text mem => placeable text (List.mem_append_left _ mem)) now
  rw [Operation.typing, Operation.performAll_append]
  exact above.text (placeable final (by simp)) later

end Terminal

end TerminalSession
