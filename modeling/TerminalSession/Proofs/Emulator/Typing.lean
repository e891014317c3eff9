import TerminalSession.Proofs.Control.Scanner
import TerminalSession.Proofs.Emulator.FrozenWindow
import TerminalSession.Proofs.Terminal.Rejoining

/-!
# Lines of text sent to an emulator

Lines of text that an emulator receives can be read off its rows again, however the rows had to be
broken. A change of the size joins the rows, and the lines are read off them one by one, as long as no
column was left over at the end of a row.

## Main definitions

* `Text.lineBreak`, `Text.encodeLines`: the characters between two lines, and the bytes of several

## Main statements

* `Emulator.operations_lines`: lines of text ask for being written
* `Emulator.displays_lines`: what the terminal displays then
* `Emulator.paragraphs_feed`: the text of the rows is the lines
* `Emulator.trimmed_resize_iff`: when each row shows its line after a change of the size
* `Emulator.rejoined_with_space`: a line that no row shows then

## Design notes

* A text without a line break is one line, be it empty. So no lines at all are read as an empty one.
-/

namespace TerminalSession

/-- The characters between two lines. -/
def Text.lineBreak : Text := ['\r', '\n']

/-- The bytes of lines of text, with line breaks between them. -/
def Text.encodeLines (lines : List Text) : List UInt8 :=
  Utf8.encode (lineBreak.intercalate lines)

/-- Several lists, separated, are each of them ended but the last. -/
theorem intercalate_concat {α : Type} (sep : List α) (init : List (List α)) (final : List α) :
    sep.intercalate (init ++ [final]) = init.flatMap (fun part => part ++ sep) ++ final := by
  induction init with
  | nil => simp
  | cons part rest ih =>
    cases rest with
    | nil => simp [List.intercalate_cons_cons]
    | cons next rest =>
      rw [List.cons_append, List.cons_append, List.intercalate_cons_cons, ← List.cons_append, ih]
      simp

/-- What holds of each line, and of an empty one, holds of the lines that are displayed. -/
theorem Text.forall_of_lines {lines shown : List Text} {P : Text → Prop}
    (from_lines : ∀ text ∈ shown, text = [] ∨ text ∈ lines) (empty : P [])
    (each : ∀ line ∈ lines, P line) : ∀ text ∈ shown, P text := by
  intro text mem
  rcases from_lines text mem with rfl | line_mem
  · exact empty
  · exact each text line_mem

/-! ### Tokens of text -/

/-- A character that takes columns is printed. -/
theorem Token.ofChar_of_pos {c : Char} (pos : 0 < Text.charWidth c) :
    Token.ofChar c = .print c ∧ c.toNat ≠ 0x1B ∧ c.toNat ≠ 0x18 ∧ c.toNat ≠ 0x1A := by
  have graphic : Text.isControl c = false := by
    cases control : Text.isControl c with
    | false => rfl
    | true =>
      rw [Text.charWidth, (Text.charWidth?_eq_none_iff c).mpr control] at pos
      exact absurd pos (Nat.lt_irrefl 0)
  simp only [Text.isControl, Bool.or_eq_false_iff, decide_eq_false_iff_not, Bool.and_eq_false_iff]
    at graphic
  refine ⟨if_neg ?_, ?_⟩ <;> omega

namespace Emulator

/-- Lines of text ask for being written. Each of their characters is printed, and what stands
between two lines returns the cursor and feeds a line; no byte of them begins anything else. -/
theorem operations_lines {e : Emulator} (ground : e.scanner = Scanner.ground) {init : List Text}
    {final : Text} (pos : ∀ text ∈ init ++ [final], ∀ c ∈ text, 0 < Text.charWidth c) :
    e.operations (Text.encodeLines (init ++ [final])) = Operation.typing init final := by
  let rows := e.terminal.rows
  have printed : ∀ text ∈ init ++ [final],
      (text.map Token.ofChar).flatMap (Token.operations rows) = text.map Operation.print :=
    fun text mem => flatMap_operations_ofChar
      (fun c c_mem => (Token.ofChar_of_pos (pos text mem c c_mem)).1) rows
  have plain : ∀ c ∈ Text.lineBreak.intercalate (init ++ [final]),
      c.toNat ≠ 0x1B ∧ c.toNat ≠ 0x18 ∧ c.toNat ≠ 0x1A := by
    intro c mem
    have from_line : ∀ text ∈ init ++ [final], c ∈ text →
        c.toNat ≠ 0x1B ∧ c.toNat ≠ 0x18 ∧ c.toNat ≠ 0x1A :=
      fun text text_mem c_mem => (Token.ofChar_of_pos (pos text text_mem c c_mem)).2
    rw [intercalate_concat] at mem
    rcases List.mem_append.mp mem with mem | mem
    · obtain ⟨text, text_mem, mem⟩ := List.mem_flatMap.mp mem
      rcases List.mem_append.mp mem with mem | mem
      · exact from_line text (List.mem_append_left _ text_mem) mem
      · simp only [Text.lineBreak, List.mem_cons, List.not_mem_nil, or_false] at mem
        rcases mem with rfl | rfl <;> decide
    · exact from_line final (by simp) mem
  have ended : ∀ text ∈ init,
      ((text ++ Text.lineBreak).map Token.ofChar).flatMap (Token.operations rows) =
        Operation.typingLine text := by
    intro text mem
    rw [List.map_append, List.flatMap_append, printed text (List.mem_append_left _ mem)]
    rfl
  rw [operations, ground, Text.encodeLines, Scanner.run_encode plain, intercalate_concat, List.map_append,
    List.flatMap_append, printed final (by simp), List.map_flatMap, List.flatMap_assoc,
    List.flatMap_congr ended]
  rfl

variable {cols rows limit : Nat}

/-- A fresh emulator that receives lines of text displays their layout. -/
theorem displays_lines (cols_pos : 0 < cols) (rows_pos : 0 < rows) {init : List Text} {final : Text}
    (placeable : ∀ text ∈ init ++ [final], text.Placeable cols)
    (room : (fresh cols rows limit).sent (Text.encodeLines (init ++ [final])) ≤ limit) :
    ((fresh cols rows limit).feed (Text.encodeLines (init ++ [final]))).terminal.Displays limit cols
      (Layout.typed cols init final) := by
  have asked := operations_lines (e := fresh cols rows limit) rfl
    fun text mem c c_mem => (placeable text mem c c_mem).1
  rw [sent, asked] at room
  rw [terminal_feed, asked]
  exact Terminal.displays_typing cols_pos rows_pos placeable room

/-- The lines that are displayed: no lines at all are as good as an empty one. -/
theorem exists_displays (cols_pos : 0 < cols) (rows_pos : 0 < rows) {lines : List Text}
    (placeable : ∀ line ∈ lines, line.Placeable cols)
    (room : (fresh cols rows limit).sent (Text.encodeLines lines) ≤ limit) :
    ∃ (init : List Text) (final : Text),
      (if lines = [] then [[]] else lines) = init ++ [final] ∧
      (∀ text ∈ init ++ [final], text = [] ∨ text ∈ lines) ∧
      ((fresh cols rows limit).feed (Text.encodeLines lines)).terminal.Displays limit cols
        (Layout.typed cols init final) := by
  rcases lines.eq_nil_or_concat with rfl | ⟨init, final, rfl⟩
  · exact ⟨[], [], rfl, by simp, displays_lines cols_pos rows_pos (by simp [Text.Placeable]) room⟩
  · rw [List.concat_eq_append] at placeable room ⊢
    exact ⟨init, final, if_neg (by simp), fun text mem => Or.inr mem,
      displays_lines cols_pos rows_pos placeable room⟩

/-- The text of the rows down to the cursor, cut where a line ends, is the lines that were received,
when no row of them was lost. -/
theorem paragraphs_feed (cols_pos : 0 < cols) (rows_pos : 0 < rows) (limit : Nat) {lines : List Text}
    (narrow : ∀ line ∈ lines, ∀ c ∈ line, Text.charWidth c = 1)
    (room : (fresh cols rows limit).sent (Text.encodeLines lines) ≤ limit) :
    let t := ((fresh cols rows limit).feed (Text.encodeLines lines)).terminal
    Row.paragraphs
        (t.primary.history.toList ++ t.primary.rows.toList.take (t.primaryCursor.row + 1)) =
      if lines = [] then [[]] else lines := by
  intro t
  have placeable : ∀ line ∈ lines, line.Placeable cols := by
    intro line mem c c_mem
    rw [narrow line mem c c_mem]
    exact ⟨Nat.one_pos, cols_pos⟩
  obtain ⟨init, final, lines_eq, from_lines, displays⟩ :=
    exists_displays cols_pos rows_pos placeable room
  have all_placeable : ∀ text ∈ init ++ [final], text.Placeable cols :=
    Text.forall_of_lines from_lines (by simp [Text.Placeable]) placeable
  rw [displays.rowsToCursor, Layout.endRow_typed init (all_placeable final (by simp)),
    Row.paragraphs_lines all_placeable, lines_eq]

/-- Four lines in rows of three columns: one that goes on, one that fills its row, an empty one, and
one that fills two rows, with characters of one to four bytes. -/
theorem paragraphs_feed_full_rows :
    let lines : List Text := ["abcd".toList, "\u00E9\u2190𝄞".toList, [], "efghij".toList]
    let t := ((fresh 3 2 4).feed (Text.encodeLines lines)).terminal
    (fresh 3 2 4).sent (Text.encodeLines lines) = 4 ∧ t.primaryCursor.row = 1 ∧
      t.primaryCursor.col = 3 ∧
      Row.paragraphs
        (t.primary.history.toList ++ t.primary.rows.toList.take (t.primaryCursor.row + 1)) =
        lines := by
  intro lines
  have sent_eq : (fresh 3 2 4).sent (Text.encodeLines lines) = 4 := by decide +kernel
  have checked : lines.all (fun line => line.all fun c => Text.charWidth c = 1) = true := by
    decide +kernel
  have narrow : ∀ line ∈ lines, ∀ c ∈ line, Text.charWidth c = 1 := by
    simpa only [List.all_eq_true, decide_eq_true_eq] using checked
  have ne : lines ≠ [] := List.cons_ne_nil _ _
  have read := paragraphs_feed (by decide : 0 < 3) (by decide : 0 < 2) 4 narrow
    (Nat.le_of_eq sent_eq)
  rw [if_neg ne] at read
  exact ⟨sent_eq, by decide +kernel, by decide +kernel, read⟩

/-- Lines of visible text are received, and the size changes to rows that are wide enough for each of
them. Each line is shown in one row then, in order and with nothing below, those rows counted that
are lost from the history, just when no line was broken with a column left over: that is when a wide
character comes in the last column. No row is lost then, if there are as many rows as lines, and one
more where the cursor stands past a full row. -/
theorem trimmed_resize_iff (two_le : 2 ≤ cols) (rows_pos : 0 < rows) (limit : Nat)
    {lines : List Text}
    (visible : ∀ line ∈ lines, ∀ c ∈ line, Text.charWidth c ≠ 0 ∧ Text.isSpace c = false)
    (room : (fresh cols rows limit).sent (Text.encodeLines lines) ≤ limit) {width height : Nat}
    (width_pos : 0 < width) (height_pos : 0 < height)
    (wide_enough : ∀ line ∈ lines, line.columns ≤ width) :
    let t := ((fresh cols rows limit).feed (Text.encodeLines lines)).terminal
    ((∃ below : List Text, (∀ text ∈ below, text = []) ∧
      (t.evicted width height ++ (t.resize width height).primary.allRows).map Row.trimmed =
        lines ++ below) ↔
      ∀ line ∈ lines, Text.gaps cols 0 line = 0) ∧
    ((∀ line ∈ lines, Text.gaps cols 0 line = 0) → lines.length ≤ height →
      lines.length < height ∨ (∀ line ∈ lines.getLast?, line.columns < width) →
      t.evicted width height = []) := by
  intro t
  have placeable : ∀ line ∈ lines, line.Placeable cols := by
    intro line mem c c_mem
    have pos := (visible line mem c c_mem).1
    have le_two := Text.charWidth_le_two c
    omega
  obtain ⟨init, final, lines_eq, from_lines, displays⟩ :=
    exists_displays (Nat.lt_of_lt_of_le Nat.two_pos two_le) rows_pos placeable room
  have all_placeable : ∀ text ∈ init ++ [final], text.Placeable cols :=
    Text.forall_of_lines from_lines (by simp [Text.Placeable]) placeable
  have all_visible : ∀ text ∈ init ++ [final], ∀ c ∈ text, Text.isSpace c = false :=
    Text.forall_of_lines from_lines (List.forall_mem_nil _) fun line mem c c_mem =>
      (visible line mem c c_mem).2
  have all_wide : ∀ text ∈ init ++ [final], text.columns ≤ width :=
    Text.forall_of_lines from_lines (Nat.zero_le _) wide_enough
  have shown := displays.map_trimmed_resize_iff all_placeable all_visible height_pos all_wide
  have kept (no_gap : ∀ text ∈ init ++ [final], Text.gaps cols 0 text = 0)
      (enough : (init.length + if final.columns < width then 1 else 2) ≤ height) :
      t.evicted width height = [] :=
    displays.evicted_eq_nil all_placeable all_visible all_wide no_gap enough
  rw [← lines_eq] at shown kept
  split at lines_eq
  next none =>
    -- No lines at all are shown as an empty one.
    subst none
    obtain ⟨rfl, rfl⟩ : init = [] ∧ final = [] := by
      simpa [List.append_eq_singleton_iff] using lines_eq.symm
    have no_gap : ∀ text ∈ [([] : Text)], Text.gaps cols 0 text = 0 := by simp [Text.gaps]
    obtain ⟨below, blank, rows_eq⟩ := shown.mpr no_gap
    refine ⟨iff_of_true ⟨[] :: below, by simpa using blank, rows_eq⟩ (List.forall_mem_nil _),
      fun _ _ _ => kept no_gap ?_⟩
    rw [if_pos (show Text.columns [] < width from width_pos)]
    exact height_pos
  next =>
    rw [if_neg ‹_›] at shown kept
    refine ⟨shown, fun no_gap le room_below => kept no_gap ?_⟩
    subst lines_eq
    simp only [List.length_append, List.length_singleton, List.getLast?_append,
      List.getLast?_singleton, Option.some_or, Option.mem_def, Option.some.injEq, forall_eq']
      at le room_below
    split <;> omega

/-- Three lines in rows of four columns, two of which take two rows each. No wide character comes in
the last column of a row, and in rows of eight columns each line is shown in one. -/
theorem trimmed_resize_iff_fourColumns :
    let lines : List Text := ["ab\u65E5\u672Cx".toList, "yz".toList, "\u65E5\u672C\u8A9E".toList]
    let t := ((fresh 4 2 5).feed (Text.encodeLines lines)).terminal
    t.primary.history.size = 3 ∧
      (∃ below : List Text, (∀ text ∈ below, text = []) ∧
        (t.evicted 8 3 ++ (t.resize 8 3).primary.allRows).map Row.trimmed = lines ++ below) ∧
      t.evicted 8 3 = [] := by
  intro lines
  have checked : lines.all (fun line => line.all fun c =>
      Text.charWidth c ≠ 0 ∧ Text.isSpace c = false) = true := by decide +kernel
  have visible : ∀ line ∈ lines, ∀ c ∈ line, Text.charWidth c ≠ 0 ∧ Text.isSpace c = false := by
    simpa only [List.all_eq_true, decide_eq_true_eq] using checked
  have room : (fresh 4 2 5).sent (Text.encodeLines lines) ≤ 5 := by decide +kernel
  have wide_enough : ∀ line ∈ lines, line.columns ≤ 8 := by decide +kernel
  have no_gap : ∀ line ∈ lines, Text.gaps 4 0 line = 0 := by decide +kernel
  have narrower : ∀ line ∈ lines.getLast?, line.columns < 8 := by decide +kernel
  obtain ⟨shown, kept⟩ := trimmed_resize_iff (by decide : 2 ≤ 4) (by decide : 0 < 2) 5 visible room
    (by decide : 0 < 8) (by decide : 0 < 3) wide_enough
  exact ⟨by decide +kernel, shown.mpr no_gap, kept no_gap (by decide +kernel) (Or.inr narrower)⟩

/-- A wide character that comes in the last column of three is written in the next row. When ten
columns make room for the line, the column that was left over is shown as a space, and no row shows
the line. -/
theorem rejoined_with_space :
    let lines : List Text := ["ab\u65E5".toList]
    let t := ((fresh 3 2 5).feed (Text.encodeLines lines)).terminal
    (∀ line ∈ lines, line.columns ≤ 10 ∧
      line.all (fun c => Text.charWidth c ≠ 0 ∧ Text.isSpace c = false)) ∧
    (fresh 3 2 5).sent (Text.encodeLines lines) = 0 ∧
    (t.resize 10 2).primary.allRows.map Row.trimmed = ["ab \u65E5".toList, []] ∧
    t.evicted 10 2 = [] ∧
    ¬ ∃ row ∈ (t.resize 10 2).primary.allRows, row.trimmed ∈ lines := by
  decide +kernel

end Emulator

end TerminalSession
