import TerminalSession.Control.Function
import TerminalSession.Control.Rendition
import TerminalSession.Control.Reply
import TerminalSession.Terminal.Printing
import TerminalSession.Terminal.Switching

/-!
# Executing tokens

What a terminal does with a token of the output stream, and what it replies.

## Main definitions

* `Terminal.call`: the terminal after a function of a control sequence
* `Terminal.execute`: the terminal after a token
* `Terminal.overflows`: whether executing a token computes a column that is no word
* `Terminal.reply?`: the reply to a token

## Design notes

* A token that is answered leaves the terminal as it is, so replies can be read off the terminal
  before the token as well as after it.
-/

namespace TerminalSession

/-- The title that an operating system command sets: the payload is text of the form `code;title`
with a code of 0, 1 or 2. -/
def Terminal.titleOf? (payload : List UInt8) : Option Text :=
  let text := Text.Utf8.lossy payload
  let code := text.takeWhile (· != ';')
  match text.dropWhile (· != ';') with
  | [] => none
  | _ :: title => if code = ['0'] ∨ code = ['1'] ∨ code = ['2'] then some title else none

namespace Terminal

/-- The terminal after a function. Reports are answered and change nothing. A new region takes the
cursor to the corner, whether or not it is accepted. -/
def call (t : Terminal) : ControlFunction → Terminal
  | .cursorUp n => t.cursorUp n
  | .cursorDown n => t.cursorDown n
  | .cursorForward n => t.cursorForward n
  | .cursorBackward n => t.cursorBackward n
  | .nextLine n => (t.cursorDown n).carriageReturn
  | .previousLine n => (t.cursorUp n).carriageReturn
  | .moveToCol col => t.moveToCol col
  | .moveToRow row => t.moveToRow row
  | .moveTo row col => t.moveTo row col
  | .eraseDisplay mode => t.eraseDisplay mode
  | .eraseLine mode => t.eraseLine mode
  | .insertLines n => t.insertLines n
  | .deleteLines n => t.deleteLines n
  | .insertChars n => t.insertChars n
  | .deleteChars n => t.deleteChars n
  | .eraseChars n => t.eraseChars n
  | .scrollUp n => t.scrollUp n
  | .scrollDown n => t.scrollDown n
  | .setRegion top bottom => (t.setRegion top (bottom.getD t.rows)).moveTo 1 1
  | .selectRendition params => { t with style := t.style.select params }
  | .saveCursor => t.saveCursor
  | .restoreCursor => t.restoreCursor
  | .report _ => t
  | .identify => t
  | .identifySecondary => t
  | .setModes modes enable => modes.foldl (fun t mode => t.setMode mode enable) t
  | .setPrivateModes modes enable => modes.foldl (fun t mode => t.setPrivateMode mode enable) t

/-- The terminal after a control character. Three of them feed a line; those that mean nothing are
passed over. -/
def control (t : Terminal) (code : UInt8) : Terminal :=
  if code = 0x08 then t.backspace
  else if code = 0x09 then t.tab
  else if 0x0A ≤ code && code ≤ 0x0C then t.lineFeed
  else if code = 0x0D then t.carriageReturn
  else t

/-- The terminal after `ESC` and one character. Most characters mean nothing, and these change
nothing. -/
def escape (t : Terminal) (final : Char) : Terminal :=
  match final with
  | '7' => t.saveCursor
  | '8' => t.restoreCursor
  | 'D' => t.index
  | 'E' => t.carriageReturn.index
  | 'M' => t.reverseIndex
  | 'c' => t.reset
  | _ => t

/-- The terminal after a token. The reply to it is given apart, by `reply?`. A sequence without a
function and a command without a title change nothing. -/
def execute (t : Terminal) : Token → Terminal
  | .print c => t.print c
  | .control code => t.control code
  | .escape final => t.escape final
  | .sequence s =>
    match s.function? with
    | some f => t.call f
    | none => t
  | .command payload =>
    match titleOf? payload.toList with
    | some title => { t with title }
    | none => t

/-- Whether executing a token computes a column that is no word of 16 bits. Of all tokens only a tab
does, in the last columns of the widest terminals. -/
def overflows (t : Terminal) : Token → Bool
  | .control code => code = 0x09 && t.tabOverflows
  | _ => false

/-- The reply to a function. Only reports that are known and requests for the kind of terminal have
one; a pending wrap is told as the last column. -/
def answer? (t : Terminal) : ControlFunction → Option Reply
  | .report (some 5) => some .statusOk
  | .report (some 6) => some (.cursorPosition (t.cursor.row + 1) (min t.cursor.col t.lastCol + 1))
  | .identify => some .attributes
  | .identifySecondary => some .secondaryAttributes
  | _ => none

/-- The reply to a token. Only control sequences are answered. -/
def reply? (t : Terminal) : Token → Option Reply
  | .sequence s => s.function?.bind t.answer?
  | _ => none

end Terminal

end TerminalSession
