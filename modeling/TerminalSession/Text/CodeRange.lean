/-!
# Text and ranges of code points

Text is a list of characters, so that every function on it is recursion on data. Properties of
characters are given as lists of code point ranges.

## Main definitions

* `Text`: a sequence of characters
* `CodeRange`: first and last code point of a run of characters
* `CodeRange.covers`: whether a list of ranges holds a character
-/

namespace TerminalSession

/-- Text as the list of its characters. -/
abbrev Text := List Char

namespace Text

/-- A run of code points, given by its first and its last one. -/
abbrev CodeRange := Nat × Nat

/-- Whether one of the ranges holds the character. -/
def CodeRange.covers (ranges : List CodeRange) (c : Char) : Bool :=
  ranges.any fun range => range.1 ≤ c.toNat && c.toNat ≤ range.2

end Text

end TerminalSession
