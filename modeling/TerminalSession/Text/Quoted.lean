import TerminalSession.Text.Combining
import TerminalSession.Text.Graphic

/-!
# Quoted text

Text and characters written so that a reader of a log sees each of them: quotes around, escapes
inside.

## Main definitions

* `quoteText`: a text between double quotes
* `quoteChar`: a character between single quotes

## Design notes

* An extender is written as an escape, because beside a quote it would be drawn over the quote.
-/

namespace TerminalSession.Text

/-- A character by its number, as in `\u{301}`. -/
def numericEscape (c : Char) : Text :=
  ['\\', 'u', '\x7b'] ++ Nat.toDigits 16 c.toNat ++ ['\x7d']

/-- One character inside quotes of the given kind. What can be seen by itself is left as it is, and
the other kind of quote is as well. -/
def quoteInner (quote c : Char) : Text :=
  if c = '\x00' then ['\\', '0']
  else if c = '\t' then ['\\', 't']
  else if c = '\r' then ['\\', 'r']
  else if c = '\n' then ['\\', 'n']
  else if c = '\\' then ['\\', '\\']
  else if c = quote then ['\\', quote]
  else if CodeRange.covers extenders c then numericEscape c
  else if isGraphic c then [c]
  else numericEscape c

/-- A text between double quotes. -/
def quoteText (text : Text) : Text :=
  ['"'] ++ text.flatMap (quoteInner '"') ++ ['"']

/-- A character between single quotes. -/
def quoteChar (c : Char) : Text :=
  ['\''] ++ quoteInner '\'' c ++ ['\'']

end TerminalSession.Text
