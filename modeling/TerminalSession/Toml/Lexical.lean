import TerminalSession.Text.CodeRange

/-!
# Characters and lines of TOML

## Main definitions

* `Toml.isPlain`: the characters that comments and quoted text may hold as they are
* `Toml.newline?`, `Toml.lineEnd?`: the end of a line, with the blanks and the comment before it
* `Toml.skipFiller`: blanks, comments and line ends between the items of an array
* `Toml.isWordChar`: the characters of numbers, moments and truth values
-/

namespace TerminalSession.Toml

/-- Blanks within a line. -/
def isBlank (c : Char) : Bool := c == ' ' || c == '\t'

/-- A text without the blanks at its beginning. -/
def skipBlanks (text : Text) : Text := text.dropWhile isBlank

/-- Characters that need no escape: all but the ASCII control characters, of which the tab is
allowed. -/
def isPlain (c : Char) : Bool :=
  c == '\t' || (0x20 ≤ c.toNat && c.toNat != 0x7F)

/-- The text after a line end, if it begins with one: a line feed, with or without a return before
it. -/
def newline? : Text → Option Text
  | '\n' :: rest => some rest
  | '\r' :: '\n' :: rest => some rest
  | _ => none

/-- The text after the rest of a line that holds nothing but blanks and a comment. The end of the
document ends a line too. -/
def lineEnd? (text : Text) : Option Text :=
  let rest := match skipBlanks text with
    | '#' :: comment => comment.dropWhile isPlain
    | rest => rest
  if rest.isEmpty then some [] else newline? rest

/-- A text without the blanks, comments and line ends at its beginning. A comment that is open has
to be ended by a line end. -/
def skipFiller (inComment : Bool) : Text → Option Text
  | [] => if inComment then none else some []
  | '\n' :: rest => skipFiller false rest
  | '\r' :: '\n' :: rest => skipFiller false rest
  | c :: rest =>
    if inComment then if isPlain c then skipFiller true rest else none
    else if isBlank c then skipFiller false rest
    else if c = '#' then skipFiller true rest
    else some (c :: rest)

/-- Characters of keys that need no quotes. -/
def isBareKeyChar (c : Char) : Bool := c.isAlphanum || c == '_' || c == '-'

/-- Characters of numbers, moments and truth values. -/
def isWordChar (c : Char) : Bool := c.isAlphanum || c ∈ ['_', '+', '-', '.', ':']

end TerminalSession.Toml
