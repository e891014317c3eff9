import TerminalSession.Control.Scanner
import TerminalSession.Terminal.Executing
import TerminalSession.Terminal.Resizing
import TerminalSession.Terminal.Window

/-!
# Emulators

A terminal together with the place of its output stream.

## Main definitions

* `Emulator`: a terminal, a scanner, the replies not yet sent, the sequences that were not
  understood
* `Emulator.feed`: output arrives
* `Emulator.banner`: what a fresh emulator shows of a short greeting

## Design notes

* Feeding is a fold over bytes, so it makes no difference how output is cut into pieces.
* An overflow is an outcome that the emulator keeps: the terminal goes on with the number modulo
  2^16, and `overflowed` tells that a program with checked arithmetic ends here.
-/

namespace TerminalSession

/-- A terminal that reads a stream of output. Replies and unknown sequences wait until they are
asked for, so that reading output is a function of the bytes alone; an overflow, once it has
happened, is kept for good. -/
structure Emulator where
  terminal : Terminal
  scanner : Scanner := Scanner.ground
  replies : Array Reply := #[]
  unknown : Array ControlSequence := #[]
  /-- Whether a column was computed that is no word of 16 bits. -/
  overflowed : Bool := false
  deriving DecidableEq, Repr, Inhabited

namespace Emulator

/-- An emulator to which nothing was written: an empty terminal, and a stream between two units. -/
def fresh (cols rows limit : Nat) : Emulator :=
  { terminal := Terminal.fresh cols rows limit }

/-- The control sequence of a token, when it asks for no known function. Other tokens that mean
nothing are passed over without a notice. -/
def unknown? : Token → Option ControlSequence
  | .sequence s => if s.function?.isNone then some s else none
  | _ => none

/-- One token is executed; its reply waits to be sent, and its overflow is remembered. A sequence
that means nothing is noted, so that it can be told. -/
def execute (e : Emulator) (token : Token) : Emulator :=
  { terminal := e.terminal.execute token
    scanner := e.scanner
    replies := e.replies ++ (e.terminal.reply? token).toArray
    unknown := e.unknown ++ (unknown? token).toArray
    overflowed := e.terminal.overflows token || e.overflowed }

/-- One byte of output. The scanner moves on first, and the tokens that the byte completes are
executed in order. -/
def feedByte (e : Emulator) (b : UInt8) : Emulator :=
  let (scanner, tokens) := e.scanner.step b
  tokens.foldl execute { e with scanner }

/-- Output arrives. It may be cut anywhere, in the middle of a sequence or of a character as
well. -/
def feed (e : Emulator) (bytes : List UInt8) : Emulator :=
  bytes.foldl feedByte e

@[simp] theorem feed_nil (e : Emulator) : e.feed [] = e := rfl

@[simp] theorem feed_cons (e : Emulator) (b : UInt8) (rest : List UInt8) :
    e.feed (b :: rest) = (e.feedByte b).feed rest := rfl

theorem feed_append (e : Emulator) (a b : List UInt8) : e.feed (a ++ b) = (e.feed a).feed b :=
  List.foldl_append

/-- The bytes of the replies that wait, in the order in which they came up. -/
def pendingBytes (e : Emulator) : List UInt8 :=
  e.replies.toList.flatMap Reply.bytes

/-- A greeting of three lines, one of which ends with a wide pictograph. It shows that text of all
kinds comes through. -/
def greeting : List UInt8 :=
  Text.Utf8.encode <|
    "termsession VT core wired \u2705\r\n".toList ++
    "$ printf 'hello from termsession\\n'\r\n".toList ++
    "hello from termsession\r\n".toList

/-- What an emulator of 80 columns and 24 rows shows of the greeting. -/
def banner : Text :=
  ((fresh 80 24 defaultHistoryLimit).feed greeting).terminal.dump

end Emulator

end TerminalSession
