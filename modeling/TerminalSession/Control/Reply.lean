import TerminalSession.Text.Utf8

/-!
# Replies

What a terminal sends back when it is asked.

## Main definitions

* `Reply`: the kinds of replies
* `Reply.text`: how they are written
-/

namespace TerminalSession

/-- A reply of a terminal to the program that writes to it. It is kept as what it tells, and spelled
out as bytes only when it is sent. -/
inductive Reply where
  /-- The cursor position, counted from 1. -/
  | cursorPosition (row col : Nat)
  /-- All is well. -/
  | statusOk
  /-- The terminal is one of level 2. -/
  | attributes
  | secondaryAttributes
  deriving DecidableEq, Repr, Inhabited

namespace Reply

/-- The characters of a reply. A position is told in decimal and counted from one; the two kinds of
attributes tell what sort of terminal this is. -/
def text : Reply → Text
  | .cursorPosition row col =>
    ['\x1b', '['] ++ Nat.toDigits 10 row ++ [';'] ++ Nat.toDigits 10 col ++ ['R']
  | .statusOk => ['\x1b', '[', '0', 'n']
  | .attributes => ['\x1b', '[', '?', '6', '2', ';', 'c']
  | .secondaryAttributes => ['\x1b', '[', '>', '1', ';', '1', '0', ';', '0', 'c']

/-- The bytes of a reply. -/
def bytes (reply : Reply) : List UInt8 :=
  Text.Utf8.encode reply.text

end Reply

end TerminalSession
