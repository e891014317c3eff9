import TerminalSession.Text.Width

/-!
# Lines of text

## Main definitions

* `lines`: a text cut at its line feeds
* `columns`: the columns that a text takes, character by character
* `fitting`: the longest beginning of a text that fits into a number of columns
* `fillRow`: a text made to fill a row exactly

## Design notes

* A character that does not fit ends the beginning, also when a narrower one comes after it.
* `columns` adds the widths of single characters, because that is how a row is drawn; a message that
  is written at once is measured by `textWidth`.
-/

namespace TerminalSession.Text

/-- The lines of a text that follows the beginning of a line, which is given last character
first. -/
def linesAfter (begun : Text) : Text → List Text
  | [] => [begun.reverse]
  | c :: rest =>
    if c = '\n' then begun.reverse :: linesAfter [] rest else linesAfter (c :: begun) rest

/-- A text cut at its line feeds. There is always one line. -/
def lines (text : Text) : List Text := linesAfter [] text

@[simp] theorem lines_nil : lines [] = [[]] := rfl

/-- The columns that a text takes, character by character. Neighbours do not change each other
here. -/
def columns (text : Text) : Nat := text.foldr (fun c rest => charWidth c + rest) 0

@[simp] theorem columns_nil : columns [] = 0 := rfl

@[simp] theorem columns_cons (c : Char) (rest : Text) :
    columns (c :: rest) = charWidth c + columns rest := rfl

/-- The longest beginning of a text that fits into a number of columns. A wide character that would
fit by half is left out, and what follows it, too. -/
def fitting (width : Nat) : Text → Text
  | [] => []
  | c :: rest => if charWidth c ≤ width then c :: fitting (width - charWidth c) rest else []

@[simp] theorem fitting_nil (width : Nat) : fitting width [] = [] := rfl

/-- What fits takes no more columns than there are. -/
theorem columns_fitting_le (width : Nat) (text : Text) : columns (fitting width text) ≤ width := by
  induction text generalizing width with
  | nil => simp
  | cons c rest ih =>
    unfold fitting
    split
    · have := ih (width - charWidth c)
      simp only [columns_cons]
      omega
    · simp

/-- A text cut to a number of columns, and spaces where it is shorter. -/
def fillRow (width : Nat) (text : Text) : Text :=
  let part := fitting width text
  part ++ List.replicate (width - columns part) ' '

end TerminalSession.Text
