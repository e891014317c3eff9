import TerminalSession.Text.CodeRange

/-!
# White space

The characters with the property `White_Space`, and text without them at its end.

## Main definitions

* `isSpace`: the property
* `trimEnd`: a text without the white space at its end
* `isBlank`: a text of white space only
-/

namespace TerminalSession.Text

/-- Characters with the property `White_Space`. -/
def spaceRanges : List CodeRange :=
  [(0x9, 0xD), (0x20, 0x20), (0x85, 0x85), (0xA0, 0xA0), (0x1680, 0x1680), (0x2000, 0x200A),
   (0x2028, 0x2029), (0x202F, 0x202F), (0x205F, 0x205F), (0x3000, 0x3000)]

/-- Whether a character is white space. -/
def isSpace (c : Char) : Bool :=
  CodeRange.covers spaceRanges c

/-- A text without the white space at its end. -/
def trimEnd (text : Text) : Text :=
  (text.reverse.dropWhile isSpace).reverse

/-- Whether a text is empty or holds white space only. -/
def isBlank (text : Text) : Bool :=
  text.all isSpace

end TerminalSession.Text
