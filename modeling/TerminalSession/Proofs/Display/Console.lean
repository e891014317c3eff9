import TerminalSession.Display.Console

/-!
# The texts that a console draws

A frame is drawn row by row, each row from a text of its own: the lines of the window, and the status
line below them.

## Main definitions

* `Console.gridLines`: the texts of the rows above the status line
* `Console.framed`: what a frame writes around the texts of its rows

## Main statements

* `Console.frameText_eq`: a frame writes these texts and nothing else of the process
* `Console.mem_title_of_mem_statusLine`: a control character of the status line is one of the title

## Design notes

* What is said of the texts is said of them as they are before a row is cut to its width.
-/

namespace TerminalSession.Console

/-! ### Rows -/

/-- The texts of the rows above the status line: the lines of the window, as far as there are. -/
def gridLines (c : Console) (frame : Frame) : List Text :=
  (List.range c.gridRows).map fun i => (Text.lines frame.text)[i]?.getD []

/-- Rows are drawn from a list of texts, one below the other. -/
def rowsText (width row : Nat) (texts : List Text) : Text :=
  (texts.zipIdx row).flatMap fun (text, row) => rowText row text width

/-- What a frame writes, when its rows have the texts given. The texts are cut and filled up by the
rows that they are drawn in. -/
def framed (c : Console) (cursor : Option Point) (grid : List Text) (status : Text) : Text :=
  setMode 2026 ++ hideCursor ++ rowsText c.cols 0 grid ++
    (if c.gridRows < c.rows then
      reverseVideo ++ rowText c.gridRows status c.cols ++ plainVideo
    else []) ++
    (match cursor with
      | some point => moveTo point.x.toUInt16.toNat point.y.toUInt16.toNat ++ showCursor
      | none => []) ++
    resetMode 2026

theorem gridText_eq_rowsText (width row count : Nat) (lines : List Text) :
    gridText width row count lines =
      rowsText width row ((List.range count).map fun i => lines[i]?.getD []) := by
  induction count generalizing row lines with
  | zero => rfl
  | succ count ih =>
    have tail_eq : ((fun i => lines[i]?.getD []) ∘ Nat.succ) = fun i => lines.tail[i]?.getD [] := by
      funext i
      simp
    rw [gridText, ih, List.range_succ_eq_map, List.map_cons, List.map_map, tail_eq,
      List.head?_eq_getElem?]
    rfl

/-- A frame writes the lines of its window and its status line. -/
theorem frameText_eq (c : Console) (frame : Frame) :
    c.frameText frame = c.framed frame.cursor (c.gridLines frame) (statusLine frame) := by
  rw [frameText, gridText_eq_rowsText]
  rfl

theorem mem_lines_of_mem_gridLines {c : Console} {frame : Frame} {line : Text}
    (mem : line ∈ c.gridLines frame) : line = [] ∨ line ∈ Text.lines frame.text := by
  obtain ⟨i, -, rfl⟩ := List.mem_map.mp mem
  cases found : (Text.lines frame.text)[i]? with
  | none => exact .inl rfl
  | some line => exact .inr (List.mem_of_getElem? found)

/-! ### Status -/

theorem isControl_of_mem_decimal {n : Nat} {c : Char} (mem : c ∈ decimal n) :
    Text.isControl c = false := by
  have digit := Nat.isDigit_of_mem_toDigits (by decide) (by decide) mem
  simp only [Char.isDigit, Bool.and_eq_true, decide_eq_true_eq] at digit
  have low : 48 ≤ c.toNat := digit.1
  have high : c.toNat ≤ 57 := digit.2
  simp [Text.isControl]
  omega

/-- Text in which a look at each character finds no control character. -/
theorem isControl_of_all {text : Text} (graphic : text.all (fun c => !Text.isControl c) = true)
    {c : Char} (mem : c ∈ text) : Text.isControl c = false := by
  simpa using List.all_eq_true.mp graphic c mem

/-- The console puts no control character into the status line, so each of them is one of the title:
the line is the title, or a name of its own, and possibly how far the window stands back. -/
theorem mem_title_of_mem_statusLine {frame : Frame} {c : Char} (mem : c ∈ statusLine frame)
    (control : Text.isControl c = true) : ∃ title, frame.title = some title ∧ c ∈ title := by
  have not_graphic : ¬ Text.isControl c = false := by simp [control]
  obtain titled | told := List.mem_append.mp mem
  · cases title_eq : frame.title with
    | some title => exact ⟨title, rfl, by rwa [title_eq, Option.getD_some] at titled⟩
    | none =>
      rw [title_eq, Option.getD_none] at titled
      exact absurd (isControl_of_all (by decide) titled) not_graphic
  · split at told
    · obtain (before | digit) | after := List.mem_append.mp told |>.imp_left List.mem_append.mp
      · exact absurd (isControl_of_all (by decide) before) not_graphic
      · exact absurd (isControl_of_mem_decimal digit) not_graphic
      · exact absurd (isControl_of_all (by decide) after) not_graphic
    · exact absurd told List.not_mem_nil

end TerminalSession.Console
