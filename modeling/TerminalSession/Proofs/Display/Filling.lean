import TerminalSession.Proofs.Control.Parameters
import TerminalSession.Proofs.Display.Console
import TerminalSession.Proofs.Text.Lines

/-!
# Rows that are filled

A console is itself a terminal: it reads what is written to it and draws one character behind the other.
Of a frame it draws what fills the rows. No character reaches past the last column, and no column is left
with what was there before.

## Main definitions

* `Console.Stroke`: a character that is drawn, with the place where it begins
* `Console.Pen`: where the next character goes, and what was drawn so far
* `Console.Pen.read?`: what becomes of the pen when a text is read
* `Console.Draws`: what is drawn of a text that is read
* `Console.strokes`, `Console.rowsStrokes`: what is drawn of a text, and of the rows of a frame
* `Console.rowTexts`: the texts of all rows that a frame draws

## Main statements

* `Console.Pen.read?_rowText`: a row is drawn from its first column up to its width
* `Console.countP_rowsStrokes`: each column of the rows is drawn once
* `Console.present_fills_rows`: what is written for a row, and what is drawn of a frame

## Design notes

* What was written is read by the scanner of this library. A control sequence takes no column, and a
  control character would not be drawn at all.
* Positions are words of 16 bits on the wire, so no console has more than 65535 rows.
* A pen is followed only as far as its place does not depend on the terminal that it draws on: through
  characters, moves to a place, and functions that leave it where it is. Where anything else is read,
  `Pen.read?` has no answer.
-/

namespace TerminalSession.Console

open Text (charWidth columns fillRow fitting isControl)
open Text.Utf8 (encode)

/-! ### Pens -/

/-- A character that is drawn, with the place where it begins, both counted from 0. -/
structure Stroke where
  char : Char
  row : Nat
  col : Nat
  deriving DecidableEq, Repr

/-- Whether a character takes a column of a row. A wide one takes the column in which it begins and
the next one. -/
def Stroke.covers (s : Stroke) (row col : Nat) : Bool :=
  s.row = row ∧ s.col ≤ col ∧ col < s.col + charWidth s.char

/-- Where the next character is drawn, and what was drawn so far. It is a model of a console as
simple as the texts allow that are written to it: places are set, modes are ignored, and characters
move the pen by their width. -/
structure Pen where
  row : Nat
  col : Nat
  drawn : List Stroke := []
  deriving DecidableEq, Repr

/-- The private modes that leave the pen where it is: the cursor is seen, and an update is shown at
once. -/
def quietModes : List Nat := [25, 2026]

namespace Pen

/-- A character is drawn, and the next one goes behind it. -/
def draw (pen : Pen) (c : Char) : Pen :=
  { pen with col := pen.col + charWidth c, drawn := pen.drawn ++ [⟨c, pen.row, pen.col⟩] }

/-- What a function does to the pen, if that does not depend on the terminal. Any other function has
no answer here; a console presents itself without one. -/
def call? (pen : Pen) : ControlFunction → Option Pen
  | .moveTo row col => some { pen with row := row - 1, col := col - 1 }
  | .selectRendition _ => some pen
  | .setPrivateModes modes _ => if ∀ mode ∈ modes, mode ∈ quietModes then some pen else none
  | _ => none

/-- What a token does to the pen. Control characters would move the cursor by rules of the terminal,
so they have no answer. -/
def follow? (pen : Pen) : Token → Option Pen
  | .print c => some (pen.draw c)
  | .sequence s => s.function?.bind pen.call?
  | _ => none

/-- What becomes of the pen when a text is read from the start of one unit to the end of another. -/
def read? (pen : Pen) (text : Text) : Option Pen :=
  let (place, tokens) := Scanner.ground.run (encode text)
  if place = Scanner.ground then tokens.foldlM follow? pen else none

variable {pen pen' : Pen} {text : Text}

/-- A pen reads the text by its tokens, which the scanner of this library makes of it. -/
theorem read?_of_run {tokens : List Token}
    (run : Scanner.ground.run (encode text) = (Scanner.ground, tokens)) :
    pen.read? text = tokens.foldlM follow? pen := by
  simp [read?, run]

/-- One text is read after another. -/
theorem read?_append (read : pen.read? text = some pen') (rest : Text) :
    pen.read? (text ++ rest) = pen'.read? rest := by
  unfold read? at read
  dsimp only at read
  split at read
  next between =>
    unfold read?
    dsimp only
    rw [Text.Utf8.encode_append, Scanner.run_append, between, List.foldlM_append, read]
    rfl
  · exact nomatch read

end Pen

/-! ### Control sequences -/

/-- A text is read wherever the pen is, and then these characters were drawn. The pen itself may be
anywhere afterwards. -/
def Draws (text : Text) (new : List Stroke) : Prop :=
  ∀ pen : Pen, ∃ pen', pen.read? text = some pen' ∧ pen'.drawn = pen.drawn ++ new

/-- No text draws nothing, wherever the pen is. -/
theorem draws_nil : Draws [] [] := fun pen => ⟨pen, rfl, (List.append_nil _).symm⟩

/-- What is drawn of two texts is drawn of one after the other. -/
theorem Draws.append {text rest : Text} {new more : List Stroke} (first : Draws text new)
    (second : Draws rest more) : Draws (text ++ rest) (new ++ more) := by
  intro pen
  obtain ⟨pen₁, read₁, drawn₁⟩ := first pen
  obtain ⟨pen₂, read₂, drawn₂⟩ := second pen₁
  refine ⟨pen₂, (Pen.read?_append read₁ rest).trans read₂, ?_⟩
  rw [drawn₂, drawn₁, List.append_assoc]

/-- Nothing more is drawn of a text that only puts the pen somewhere. -/
theorem Draws.append_quiet {text rest : Text} {new : List Stroke} (first : Draws text new)
    (quiet : Draws rest []) : Draws (text ++ rest) new := by
  have both := first.append quiet
  rwa [List.append_nil] at both

section Sequences

variable {text : Text} {s : ControlSequence} {f : ControlFunction}

/-- A sequence is one token. -/
theorem Pen.read?_of_function (pen : Pen)
    (run : Scanner.ground.run (encode text) = (Scanner.ground, [.sequence s]))
    (function : s.function? = some f) : pen.read? text = pen.call? f := by
  rw [read?_of_run run, List.foldlM_cons]
  simp [follow?, function]

/-- Nothing is drawn of a sequence that leaves the pen where it is. -/
theorem draws_of_function
    (run : Scanner.ground.run (encode text) = (Scanner.ground, [.sequence s]))
    (function : s.function? = some f) (stays : ∀ pen : Pen, pen.call? f = some pen) :
    Draws text [] := fun pen =>
  ⟨pen, (pen.read?_of_function run function).trans (stays pen), (List.append_nil _).symm⟩

/-- A quiet mode is set or reset, which draws nothing and leaves the pen where it is. There are only
two of these modes, so each sequence is read by computing. -/
theorem draws_mode {mode : Nat} {final : Char} (quiet : mode ∈ quietModes)
    (switches : final = 'h' ∨ final = 'l') :
    Draws (sequence ('?' :: decimal mode ++ [final])) [] := by
  have run : Scanner.ground.run (encode (sequence ('?' :: decimal mode ++ [final]))) =
      (Scanner.ground, [.sequence { intermediates := [0x3F], params := [mode], final }]) := by
    obtain rfl | rfl : mode = 25 ∨ mode = 2026 := by simpa [quietModes] using quiet
    all_goals
      obtain rfl | rfl := switches
      all_goals decide
  have stays (enable : Bool) (pen : Pen) : pen.call? (.setPrivateModes [mode] enable) = some pen :=
    if_pos (List.forall_mem_singleton.mpr quiet)
  obtain rfl | rfl := switches
  · exact draws_of_function run rfl (stays true)
  · exact draws_of_function run rfl (stays false)

/-- The modes that a console sets and resets move no pen and draw nothing. -/
theorem draws_setMode {mode : Nat} (quiet : mode ∈ quietModes) : Draws (setMode mode) [] :=
  draws_mode quiet (.inl rfl)

theorem draws_resetMode {mode : Nat} (quiet : mode ∈ quietModes) : Draws (resetMode mode) [] :=
  draws_mode quiet (.inr rfl)

/-- A rendition is not seen in what is drawn; characters and places are. -/
theorem draws_reverseVideo : Draws reverseVideo [] := by
  have run : Scanner.ground.run (encode reverseVideo) =
      (Scanner.ground, [.sequence { params := [7], final := 'm' }]) := by decide
  exact draws_of_function run rfl fun _ => rfl

theorem draws_plainVideo : Draws plainVideo [] := by
  have run : Scanner.ground.run (encode plainVideo) =
      (Scanner.ground, [.sequence { params := [0], final := 'm' }]) := by decide
  exact draws_of_function run rfl fun _ => rfl

end Sequences

open ControlSequence (fieldBytes spelling) in
/-- A move is a control sequence with the row and the column for parameters. -/
theorem encode_moveTo (col row : Nat) :
    encode (moveTo col row) =
      spelling (fieldBytes [.number 0 ((row + 1) % 65536), .number 0 ((col + 1) % 65536)]) 0x48 := by
  have written := ControlSequence.encode_pair ((row + 1) % 65536) ((col + 1) % 65536)
    (by decide : 'H'.toNat < 0x80)
  rw [List.append_assoc _ [';']] at written
  exact written

/-- The pen goes to a place. One past the greatest position would not be told from the first one. -/
theorem Pen.read?_moveTo (pen : Pen) (col row : Nat) :
    pen.read? (moveTo col row) =
      some { pen with row := (row + 1) % 65536 - 1, col := (col + 1) % 65536 - 1 } := by
  have le (n : Nat) : n % 65536 ≤ Scanner.maxParam := Nat.le_of_lt_succ (Nat.mod_lt n (by decide))
  have ends : Scanner.isFinal 0x48 = true := by decide
  have run := Scanner.run_spelling_pair [] (le (row + 1)) (le (col + 1)) ends
  rw [← encode_moveTo] at run
  rw [pen.read?_of_function run rfl]
  rfl

/-- To move the pen draws nothing. -/
theorem draws_moveTo (col row : Nat) : Draws (moveTo col row) [] := fun pen =>
  ⟨_, pen.read?_moveTo col row, (List.append_nil _).symm⟩

/-! ### Text -/

/-- What is drawn of a text from a place on, each character where the one before it ends. -/
def strokes (row col : Nat) : Text → List Stroke
  | [] => []
  | c :: rest => ⟨c, row, col⟩ :: strokes row (col + charWidth c) rest

/-- The strokes of a text show its characters in order. -/
@[simp] theorem map_char_strokes (row col : Nat) (text : Text) :
    (strokes row col text).map Stroke.char = text := by
  induction text generalizing col with
  | nil => rfl
  | cons c rest ih => rw [strokes, List.map_cons, ih]

/-- What is drawn of a text stays in its row, and in the columns that the text takes. -/
theorem inside_of_mem_strokes {row col : Nat} {text : Text} {s : Stroke}
    (mem : s ∈ strokes row col text) :
    s.row = row ∧ s.col + charWidth s.char ≤ col + columns text := by
  induction text generalizing col with
  | nil => exact absurd mem List.not_mem_nil
  | cons c rest ih =>
    rw [Text.columns_cons]
    obtain rfl | later := List.mem_cons.mp mem
    · exact ⟨rfl, by dsimp only; omega⟩
    · obtain ⟨row_eq, le⟩ := ih later
      exact ⟨row_eq, by omega⟩

/-- Each of these columns is taken by one character. -/
theorem countP_strokes (row start : Nat) (text : Text) (atRow atCol : Nat) :
    (strokes row start text).countP (fun s => s.covers atRow atCol) =
      if row = atRow ∧ start ≤ atCol ∧ atCol < start + columns text then 1 else 0 := by
  induction text generalizing start with
  | nil =>
    rw [if_neg (by simp only [Text.columns_nil]; omega)]
    rfl
  | cons c rest ih =>
    rw [strokes, List.countP_cons, ih, Text.columns_cons]
    simp only [Stroke.covers, decide_eq_true_eq]
    -- Either the first character takes the column or one of the others does. One without width takes
    -- none, and the next one begins in its place.
    split_ifs <;> omega

/-- The characters of a text are drawn one behind the other. -/
theorem Pen.foldlM_print (pen : Pen) (text : Text) :
    (text.map Token.print).foldlM Pen.follow? pen =
      some { row := pen.row, col := pen.col + columns text,
             drawn := pen.drawn ++ strokes pen.row pen.col text } := by
  induction text generalizing pen with
  | nil => simp [strokes]
  | cons c rest ih =>
    rw [List.map_cons, List.foldlM_cons]
    change (rest.map Token.print).foldlM Pen.follow? (pen.draw c) = _
    rw [ih]
    simp [draw, strokes, Nat.add_assoc]

/-- So is a text without control characters, each of which is a character to be drawn. The scanner
takes the bytes for these characters again, and no sequence begins among them. -/
theorem Pen.read?_text (pen : Pen) {text : Text} (graphic : ∀ c ∈ text, isControl c = false) :
    pen.read? text =
      some { row := pen.row, col := pen.col + columns text,
             drawn := pen.drawn ++ strokes pen.row pen.col text } := by
  have above (c : Char) (mem : c ∈ text) : 0x20 ≤ c.toNat ∧ c.toNat ≠ 0x7F := by
    have none := graphic c mem
    simp only [isControl, Bool.or_eq_false_iff, Bool.and_eq_false_iff, decide_eq_false_iff_not]
      at none
    omega
  have printed : text.map Token.ofChar = text.map Token.print := by
    refine List.map_congr_left fun c mem => if_neg ?_
    have := above c mem
    omega
  have plain (c : Char) (mem : c ∈ text) : c.toNat ≠ 0x1B ∧ c.toNat ≠ 0x18 ∧ c.toNat ≠ 0x1A := by
    have := above c mem
    omega
  have run := Scanner.run_encode plain
  rw [printed] at run
  rw [read?_of_run run, foldlM_print]

/-! ### Rows -/

/-- What is drawn of the rows of a frame. -/
def rowsStrokes (width row : Nat) (texts : List Text) : List Stroke :=
  (texts.zipIdx row).flatMap fun (text, row) => strokes row 0 (fillRow width text)

theorem rowsStrokes_cons (width row : Nat) (text : Text) (rest : List Text) :
    rowsStrokes width row (text :: rest) =
      strokes row 0 (fillRow width text) ++ rowsStrokes width (row + 1) rest := rfl

/-- Rows are drawn one below the other, so the second part begins below the first. -/
theorem rowsStrokes_append (width row : Nat) (texts rest : List Text) :
    rowsStrokes width row (texts ++ rest) =
      rowsStrokes width row texts ++ rowsStrokes width (row + texts.length) rest := by
  rw [rowsStrokes, List.zipIdx_append, List.flatMap_append]
  rfl

/-- What is drawn of the rows is inside of them. -/
theorem inside_of_mem_rowsStrokes {width row : Nat} {texts : List Text} {s : Stroke}
    (mem : s ∈ rowsStrokes width row texts) :
    (row ≤ s.row ∧ s.row < row + texts.length) ∧ s.col + charWidth s.char ≤ width := by
  induction texts generalizing row with
  | nil => exact absurd mem List.not_mem_nil
  | cons text rest ih =>
    rw [List.length_cons]
    obtain now | later := List.mem_append.mp mem
    · have inside := inside_of_mem_strokes now
      rw [Text.columns_fillRow] at inside
      omega
    · have inside := ih later
      omega

/-- Each column of the rows is drawn once. -/
theorem countP_rowsStrokes (width row : Nat) (texts : List Text) (atRow atCol : Nat) :
    (rowsStrokes width row texts).countP (fun s => s.covers atRow atCol) =
      if (row ≤ atRow ∧ atRow < row + texts.length) ∧ atCol < width then 1 else 0 := by
  induction texts generalizing row with
  | nil =>
    rw [if_neg (by simp only [List.length_nil]; omega)]
    rfl
  | cons text rest ih =>
    rw [rowsStrokes_cons, List.countP_append, countP_strokes, ih, Text.columns_fillRow,
      List.length_cons]
    split_ifs <;> omega

/-- In each row its own text is drawn: what is drawn of the texts before it is further up, and what
is drawn of those after it further down. -/
theorem filter_rowsStrokes (width row : Nat) (texts : List Text) {i : Nat}
    (lt : i < texts.length) :
    (rowsStrokes width row texts).filter (fun s => s.row = row + i) =
      strokes (row + i) 0 (fillRow width texts[i]) := by
  induction texts generalizing row i with
  | nil => exact absurd lt (Nat.not_lt_zero i)
  | cons text rest ih =>
    rw [rowsStrokes_cons, List.filter_append]
    cases i with
    | zero =>
      -- What is drawn of the other texts is further down.
      have own : (strokes row 0 (fillRow width text)).filter (fun s => s.row = row + 0) =
          strokes row 0 (fillRow width text) :=
        List.filter_eq_self.mpr fun s mem => by simp [(inside_of_mem_strokes mem).1]
      have others : (rowsStrokes width (row + 1) rest).filter (fun s => s.row = row + 0) = [] :=
        List.filter_eq_nil_iff.mpr fun s mem => by
          have inside := inside_of_mem_rowsStrokes mem
          simp only [decide_eq_true_eq]
          omega
      rw [own, others, List.append_nil]
      rfl
    | succ i =>
      have others : (strokes row 0 (fillRow width text)).filter (fun s => s.row = row + (i + 1)) =
          [] :=
        List.filter_eq_nil_iff.mpr fun s mem => by
          have inside := inside_of_mem_strokes mem
          simp only [decide_eq_true_eq]
          omega
      have own := ih (row + 1) (Nat.lt_of_succ_lt_succ lt)
      rw [Nat.add_assoc, Nat.add_comm 1 i] at own
      rw [others, List.nil_append, own]
      rfl

/-- A row is drawn from its first column up to its width. -/
theorem Pen.read?_rowText (pen : Pen) {row : Nat} (row_lt : row < 65535) {text : Text}
    (graphic : ∀ c ∈ text, isControl c = false) (width : Nat) :
    pen.read? (rowText row text width) =
      some { row, col := width, drawn := pen.drawn ++ strokes row 0 (fillRow width text) } := by
  have row_eq : (row + 1) % 65536 - 1 = row := by omega
  have graphic' (c : Char) (mem : c ∈ fillRow width text) : isControl c = false := by
    obtain mem | rfl := Text.mem_of_mem_fillRow mem
    · exact graphic c mem
    · decide
  rw [rowText, read?_append (pen.read?_moveTo 0 row), read?_text _ graphic', row_eq,
    Text.columns_fillRow]
  simp

/-- A row is drawn from its first column on, whatever the pen has drawn before. That the text has no
control characters is what keeps the pen in the row. -/
theorem draws_rowText {row : Nat} (row_lt : row < 65535) {text : Text}
    (graphic : ∀ c ∈ text, isControl c = false) (width : Nat) :
    Draws (rowText row text width) (strokes row 0 (fillRow width text)) := fun pen =>
  ⟨_, pen.read?_rowText row_lt graphic width, rfl⟩

/-- Rows are drawn one below the other. -/
theorem draws_rowsText {row : Nat} {texts : List Text} (room : row + texts.length ≤ 65535)
    (graphic : ∀ text ∈ texts, ∀ c ∈ text, isControl c = false) (width : Nat) :
    Draws (rowsText width row texts) (rowsStrokes width row texts) := by
  induction texts generalizing row with
  | nil => exact draws_nil
  | cons text rest ih =>
    rw [List.length_cons] at room
    obtain ⟨graphic_text, graphic_rest⟩ := List.forall_mem_cons.mp graphic
    exact (draws_rowText (by omega) graphic_text width).append (ih (by omega) graphic_rest)

/-! ### Frames -/

/-- The text of the row for the status line, if there is one. -/
def statusTexts (c : Console) (frame : Frame) : List Text :=
  if c.gridRows < c.rows then [statusLine frame] else []

/-- The texts of all rows that a frame draws. -/
def rowTexts (c : Console) (frame : Frame) : List Text :=
  c.gridLines frame ++ c.statusTexts frame

theorem length_gridLines (c : Console) (frame : Frame) :
    (c.gridLines frame).length = c.gridRows := by
  rw [gridLines, List.length_map, List.length_range]

/-- There are as many rows as fit, the status line among them. -/
theorem length_rowTexts (c : Console) (frame : Frame) :
    (c.rowTexts frame).length = min c.rows (c.gridRows + 1) := by
  have le : c.gridRows ≤ c.rows := Nat.sub_le c.rows c.chromeRows
  rw [rowTexts, List.length_append, length_gridLines, statusTexts]
  split <;> simp only [List.length_singleton, List.length_nil] <;> omega

/-- The status line is drawn like the other rows. -/
theorem draws_status {c : Console} {frame : Frame} (rows_le : c.rows ≤ 65535)
    (graphic : ∀ text ∈ c.statusTexts frame, ∀ char ∈ text, isControl char = false) :
    Draws (if c.gridRows < c.rows then
        reverseVideo ++ rowText c.gridRows (statusLine frame) c.cols ++ plainVideo else [])
      (rowsStrokes c.cols c.gridRows (c.statusTexts frame)) := by
  unfold statusTexts at graphic ⊢
  split
  next room =>
    rw [if_pos room] at graphic
    have row_lt : c.gridRows < 65535 := Nat.lt_of_lt_of_le room rows_le
    have drawn := draws_rowText row_lt (List.forall_mem_singleton.mp graphic) c.cols
    exact (draws_reverseVideo.append drawn).append draws_plainVideo
  · exact draws_nil

/-- Of a frame its rows are drawn, and nothing else. What opens and closes the frame, moves the pen
or sets a quiet mode draws nothing. -/
theorem draws_frameText {c : Console} {frame : Frame} (rows_le : c.rows ≤ 65535)
    (graphic : ∀ text ∈ c.rowTexts frame, ∀ char ∈ text, isControl char = false) :
    Draws (c.frameText frame) (rowsStrokes c.cols 0 (c.rowTexts frame)) := by
  obtain ⟨graphic_grid, graphic_status⟩ := List.forall_mem_append.mp graphic
  have room : 0 + (c.gridLines frame).length ≤ 65535 := by
    have le : c.gridRows ≤ c.rows := Nat.sub_le c.rows c.chromeRows
    rw [length_gridLines]
    omega
  have opening : Draws (setMode 2026 ++ hideCursor) [] :=
    (draws_setMode (by decide)).append (draws_resetMode (by decide))
  have grid : Draws (setMode 2026 ++ hideCursor ++ rowsText c.cols 0 (c.gridLines frame))
      (rowsStrokes c.cols 0 (c.gridLines frame)) :=
    opening.append (draws_rowsText room graphic_grid c.cols)
  have rows := grid.append (draws_status rows_le graphic_status)
  have closing : Draws (resetMode 2026) [] := draws_resetMode (by decide)
  rw [frameText_eq, rowTexts, rowsStrokes_append, length_gridLines, Nat.zero_add]
  unfold framed
  -- The cursor is put somewhere after all rows were drawn, so it does not matter where.
  refine (rows.append_quiet ?cursor).append_quiet closing
  cases frame.cursor with
  | none => exact draws_nil
  | some point => exact (draws_moveTo _ _).append (draws_setMode (by decide))

/-- What is written for a row, after the move to it, is the longest beginning of the text that fits and as
many spaces as make up the width. A frame whose texts have no control characters is drawn without a
fault, wherever the pen was: every character is inside the rows and ends within the columns, each column
of the rows is drawn once, and each row is drawn with what is written for its text. -/
theorem present_fills_rows :
    (∀ (row : Nat) (text : Text) (width : Nat), ∃ (part : Text) (spaces : Nat),
      rowText row text width = moveTo 0 row ++ (part ++ List.replicate spaces ' ') ∧
        (∀ other, other <+: part ↔ other <+: text ∧ columns other ≤ width) ∧
        columns part + spaces = width) ∧
    ∀ (c : Console) (frame : Frame), c.rows ≤ 65535 →
      (∀ text ∈ c.rowTexts frame, ∀ char ∈ text, isControl char = false) →
      ∃ (written : Text) (drawn : List Stroke),
        Surface.present c frame = ({ c with output := c.output ++ written }, none) ∧
          Draws written drawn ∧
          (c.rowTexts frame).length = min c.rows (c.gridRows + 1) ∧
          (∀ s ∈ drawn, s.row < (c.rowTexts frame).length ∧ s.col + charWidth s.char ≤ c.cols) ∧
          ∀ (row : Nat) (lt : row < (c.rowTexts frame).length),
            (∀ col < c.cols, drawn.countP (fun s => s.covers row col) = 1) ∧
              rowText row (c.rowTexts frame)[row] c.cols =
                moveTo 0 row ++ (drawn.filter fun s => s.row = row).map Stroke.char := by
  refine ⟨fun row text width => ?row, fun c frame rows_le graphic => ?frame⟩
  case row =>
    have le := Text.columns_fitting_le width text
    exact ⟨fitting width text, width - columns (fitting width text), rfl,
      Text.prefix_fitting_iff width text, by omega⟩
  case frame =>
    refine ⟨c.frameText frame, rowsStrokes c.cols 0 (c.rowTexts frame), rfl,
      draws_frameText rows_le graphic, c.length_rowTexts frame, ?_, ?_⟩
    · intro s mem
      have inside := inside_of_mem_rowsStrokes mem
      omega
    · intro row lt
      refine ⟨fun col col_lt => ?_, ?_⟩
      · rw [countP_rowsStrokes, if_pos (by omega)]
      · have own := filter_rowsStrokes c.cols 0 (c.rowTexts frame) lt
        rw [Nat.zero_add] at own
        rw [own, map_char_strokes]
        rfl

/-- A row that a wide character would leave, one with a mark on its last character and more text behind
it, and a status line: the first two end with a space and with the mark. -/
theorem present_fills_rows_wide :
    let c : Console := { chromeRows := 1, cols := 5, rows := 3 }
    let frame : Frame :=
      { text := "日本語\nabcde\u0301f".toList, title := some "vim".toList, offset := 12 }
    c.rows ≤ 65535 ∧ (∀ text ∈ c.rowTexts frame, ∀ char ∈ text, isControl char = false) ∧
      ∃ (written : Text) (drawn : List Stroke),
        Surface.present c frame = ({ c with output := c.output ++ written }, none) ∧
          Draws written drawn ∧
          (drawn.filter fun s => s.row = 0).map Stroke.char = "日本 ".toList ∧
          (drawn.filter fun s => s.row = 1).map Stroke.char = "abcde\u0301".toList ∧
          (drawn.filter fun s => s.row = 2).map Stroke.char = "vim  ".toList ∧
          drawn.countP (fun s => s.covers 0 3) = 1 := by
  intro c frame
  have rows_le : c.rows ≤ 65535 := by decide
  have all_graphic : ((c.rowTexts frame).all fun text => text.all fun char => !isControl char) = true :=
    by decide +kernel
  have graphic : ∀ text ∈ c.rowTexts frame, ∀ char ∈ text, isControl char = false :=
    fun text text_mem char => isControl_of_all (List.all_eq_true.mp all_graphic text text_mem)
  obtain ⟨written, drawn, presented, draws, -, -, rows⟩ :=
    present_fills_rows.2 c frame rows_le graphic
  have row (i : Nat) (lt : i < (c.rowTexts frame).length) {shown : Text}
      (row_eq : rowText i (c.rowTexts frame)[i] c.cols = moveTo 0 i ++ shown) :
      (drawn.filter fun s => s.row = i).map Stroke.char = shown :=
    List.append_cancel_left ((rows i lt).2.symm.trans row_eq)
  refine ⟨rows_le, graphic, written, drawn, presented, draws, row 0 ?_ ?_, row 1 ?_ ?_,
    row 2 ?_ ?_, (rows 0 ?_).1 3 ?_⟩
  all_goals decide +kernel

end TerminalSession.Console
