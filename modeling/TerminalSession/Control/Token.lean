/-!
# Tokens of an output stream

What a stream of output is made of, once escape sequences are told from text.

## Main definitions

* `ControlSequence`: intermediates, parameters and final character of a control sequence
* `Token`: a printed character, a control character, a short escape, a control sequence, or the
  payload of an operating system command
-/

namespace TerminalSession

/-- A control sequence: `ESC [`, markers and intermediates, parameters, a final character. The
intermediates are kept in the order in which they came, markers such as `?` among them. -/
structure ControlSequence where
  intermediates : List UInt8 := []
  params : List Nat := []
  final : Char
  deriving DecidableEq, Repr, Inhabited

/-- One unit of an output stream. Text comes as single characters, and everything else as what
steers the terminal; what a unit asks for is not decided here. -/
inductive Token where
  /-- A character to be shown. -/
  | print (c : Char)
  /-- A control character other than those that steer the reading of sequences. -/
  | control (code : UInt8)
  /-- `ESC` and one character. -/
  | escape (final : Char)
  /-- A control sequence. -/
  | sequence (sequence : ControlSequence)
  /-- The payload of an operating system command. -/
  | command (payload : Array UInt8)
  deriving DecidableEq, Repr, Inhabited

end TerminalSession
