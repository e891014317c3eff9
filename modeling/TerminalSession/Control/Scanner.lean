import TerminalSession.Control.Token
import TerminalSession.Text.Utf8

/-!
# Scanning an output stream

Bytes become tokens, one byte at a time, so that a sequence or a character may be split anywhere.

## Main definitions

* `Scanner`: where in a character or a sequence the stream stands
* `Scanner.step`: the next byte, with the tokens that it completes
* `Scanner.run`: the tokens of a list of bytes

## Design notes

* Each place carries what was read of the unit it is in, and nothing else: whatever was read before
  is of no consequence.
* Control characters act at once inside sequences, but are part of strings (`command`, `ignored`).
* At most `maxParams` parameters of a control sequence and `maxPayload` bytes of a command are kept;
  what comes after them is dropped.
* Parameters are numbers up to 65535; a larger number counts as 65535.
-/

namespace TerminalSession

/-- The place of a stream between two bytes: the kind of unit that is being read, together with what
was read of it. Two streams at the same place are read alike from there on. -/
inductive Scanner where
  /-- Text; the bytes of a character that is not complete. -/
  | text (part : Text.Utf8.Partial)
  /-- After `ESC`. -/
  | escape
  /-- After `ESC` and an intermediate; the final character is of no consequence. -/
  | escapeIntermediate
  /-- After `ESC [` and markers. -/
  | sequenceStart (intermediates : List UInt8)
  /-- In the parameters: those that are complete, and the digits of the next one. -/
  | sequenceParams (intermediates : List UInt8) (params : List Nat) (current : Option Nat)
  /-- After the parameters and an intermediate. -/
  | sequenceIntermediate (intermediates : List UInt8) (params : List Nat)
  /-- In a control sequence that is malformed; it lasts until its final character. -/
  | sequenceIgnored
  /-- In an operating system command. -/
  | command (payload : Array UInt8)
  /-- After `ESC` in an operating system command. -/
  | commandEscape (payload : Array UInt8)
  /-- In a string that is skipped. -/
  | ignored
  /-- After `ESC` in a string that is skipped. -/
  | ignoredEscape
  deriving DecidableEq, Repr

namespace Scanner

/-- The number of parameters that are kept. More of them may come, and are dropped. -/
def maxParams : Nat := 32

/-- The number of bytes of a command that are kept. A longer command is executed with its
beginning. -/
def maxPayload : Nat := 4096

/-- The greatest parameter. A greater number is read as this one. -/
def maxParam : Nat := 65535

/-- The place between two units, where a stream begins. -/
def ground : Scanner := .text []

instance : Inhabited Scanner := ⟨ground⟩

/-- The character with the code of a byte. Bytes of text from 0x80 on are not read in this way. -/
def charOfByte (b : UInt8) : Char :=
  Char.ofNat b.toNat

/-- The control characters of one byte. Those from 0x80 on are spelled with two bytes, and are not
told from text. -/
def isControlByte (b : UInt8) : Bool :=
  b < 0x20 || b == 0x7F

/-- The intermediates of sequences, from the space to the slash. -/
def isIntermediate (b : UInt8) : Bool :=
  0x20 ≤ b && b ≤ 0x2F

/-- The bytes that end a control sequence, from `@` to `~`. -/
def isFinal (b : UInt8) : Bool :=
  0x40 ≤ b && b ≤ 0x7E

/-- The markers that may come before the parameters: `!`, `<`, `=`, `>` and `?`. -/
def isMarker (b : UInt8) : Bool :=
  b == 0x21 || b == 0x3C || b == 0x3D || b == 0x3E || b == 0x3F

/-- The value of a decimal digit. -/
def digit? (b : UInt8) : Option Nat :=
  if 0x30 ≤ b && b ≤ 0x39 then some (b.toNat - 0x30) else none

/-- One more parameter, if there is room; otherwise it is dropped, and those before it stay. -/
def addParam (params : List Nat) (param : Nat) : List Nat :=
  if params.length < maxParams then params ++ [param] else params

/-- One more digit of a parameter, which grows to the greatest one and no further. -/
def addDigit (current : Option Nat) (digit : Nat) : Nat :=
  min (current.getD 0 * 10 + digit) maxParam

/-- The parameters with the one that was being read, if it has digits. An empty one at the end does
not count. -/
def closeParams (params : List Nat) : Option Nat → List Nat
  | none => params
  | some param => addParam params param

/-- A control sequence is complete. It is handed on with all that was read of it, whether or not it
asks for anything. -/
def finish (intermediates : List UInt8) (params : List Nat) (b : UInt8) : Scanner × List Token :=
  (ground, [.sequence { intermediates, params, final := charOfByte b }])

/-- A control character outside of strings: `ESC` begins a sequence, `CAN` and `SUB` abandon one,
all others act where they stand. -/
def control (s : Scanner) (b : UInt8) : Scanner × List Token :=
  if b = 0x1B then (.escape, [])
  else if b = 0x18 || b = 0x1A then (ground, [])
  else (s, [.control b])

/-- A byte after `ESC`. It begins a control sequence, a command or a string that is skipped, goes on
with an escape sequence, or ends one. -/
def afterEscape (b : UInt8) : Scanner × List Token :=
  if b = 0x5B then (.sequenceStart [], [])
  else if b = 0x5D then (.command #[], [])
  else if b = 0x50 || b = 0x58 || b = 0x5E || b = 0x5F then (.ignored, [])
  else if isIntermediate b then (.escapeIntermediate, [])
  else (ground, [.escape (charOfByte b)])

/-- A byte after `ESC [` and markers. A separator right away stands for a first parameter of
zero. -/
def inStart (intermediates : List UInt8) (b : UInt8) : Scanner × List Token :=
  match digit? b with
  | some digit => (.sequenceParams intermediates [] (some digit), [])
  | none =>
    if b = 0x3B then (.sequenceParams intermediates [0] none, [])
    else if isMarker b then (.sequenceStart (intermediates ++ [b]), [])
    else if isIntermediate b then (.sequenceIntermediate (intermediates ++ [b]) [], [])
    else if isFinal b then finish intermediates [] b
    else (.sequenceIgnored, [])

/-- A byte in the parameters. A colon separates parameters as a semicolon does, and one that is left
empty between separators is zero. -/
def inParams (intermediates : List UInt8) (params : List Nat) (current : Option Nat) (b : UInt8) :
    Scanner × List Token :=
  match digit? b with
  | some digit => (.sequenceParams intermediates params (some (addDigit current digit)), [])
  | none =>
    if b = 0x3B || b = 0x3A then
      (.sequenceParams intermediates (addParam params (current.getD 0)) none, [])
    else if isIntermediate b then
      (.sequenceIntermediate (intermediates ++ [b]) (closeParams params current), [])
    else if isFinal b then finish intermediates (closeParams params current) b
    else (.sequenceIgnored, [])

/-- A byte after the parameters and an intermediate. Only more of these and a final byte may
follow. -/
def inIntermediate (intermediates : List UInt8) (params : List Nat) (b : UInt8) :
    Scanner × List Token :=
  if isIntermediate b then (.sequenceIntermediate (intermediates ++ [b]) params, [])
  else if isFinal b then finish intermediates params b
  else (.sequenceIgnored, [])

/-- A byte of text. A character that a byte below 0x80 cuts off is shown as damaged first, before
the byte acts or is shown itself. -/
def inText (part : Text.Utf8.Partial) (b : UInt8) : Scanner × List Token :=
  if b < 0x80 then
    let (s, tokens) :=
      if isControlByte b then control ground b else (ground, [.print (charOfByte b)])
    (s, if part.isEmpty then tokens else .print Text.Utf8.replacement :: tokens)
  else
    let (part, c) := Text.Utf8.Partial.push part b
    (.text part, (c.map Token.print).toList)

/-- A byte of an operating system command; it ends with `BEL` or with `ESC` and a backslash. Bytes
for which there is no room are dropped. -/
def inCommand (payload : Array UInt8) (b : UInt8) : Scanner × List Token :=
  if b = 0x07 then (ground, [.command payload])
  else if b = 0x1B then (.commandEscape payload, [])
  else if payload.size < maxPayload then (.command (payload.push b), [])
  else (.command payload, [])

/-- A byte after `ESC` in a command. The command ends in any case; a byte other than the backslash
is the first one of an escape sequence. -/
def inCommandEscape (payload : Array UInt8) (b : UInt8) : Scanner × List Token :=
  if b = 0x5C then (ground, [.command payload])
  else
    let (s, tokens) := afterEscape b
    (s, .command payload :: tokens)

/-- The next byte of the stream: the place after it, and the tokens that it completes. In the middle
of a sequence a control character acts at once; in a string it is collected or skipped like any
other byte. -/
def step (s : Scanner) (b : UInt8) : Scanner × List Token :=
  match s with
  | .text part => inText part b
  | .command payload => inCommand payload b
  | .commandEscape payload => inCommandEscape payload b
  | .ignored =>
    (if b = 0x1B then .ignoredEscape else if b = 0x07 then ground else .ignored, [])
  | .ignoredEscape => (if b = 0x5C then ground else .ignored, [])
  | .escape => if isControlByte b then control s b else afterEscape b
  | .escapeIntermediate =>
    if isControlByte b then control s b
    else if isIntermediate b then (s, [])
    else (ground, [])
  | .sequenceStart intermediates =>
    if isControlByte b then control s b else inStart intermediates b
  | .sequenceParams intermediates params current =>
    if isControlByte b then control s b else inParams intermediates params current b
  | .sequenceIntermediate intermediates params =>
    if isControlByte b then control s b else inIntermediate intermediates params b
  | .sequenceIgnored =>
    if isControlByte b then control s b else (if isFinal b then ground else s, [])

/-- All bytes of a list: the place after them, and all tokens in order. It is a fold, so a stream
may be cut anywhere. -/
def run (s : Scanner) : List UInt8 → Scanner × List Token
  | [] => (s, [])
  | b :: rest =>
    let (s, tokens) := s.step b
    let (s, later) := run s rest
    (s, tokens ++ later)

@[simp] theorem run_nil (s : Scanner) : s.run [] = (s, []) := rfl

@[simp] theorem run_cons (s : Scanner) (b : UInt8) (rest : List UInt8) :
    s.run (b :: rest) = (((s.step b).1.run rest).1, (s.step b).2 ++ ((s.step b).1.run rest).2) :=
  rfl

/-- Cutting the bytes in two makes no difference. -/
theorem run_append (s : Scanner) (a b : List UInt8) :
    s.run (a ++ b) = (((s.run a).1.run b).1, (s.run a).2 ++ ((s.run a).1.run b).2) := by
  induction a generalizing s with
  | nil => rfl
  | cons x a ih => simp [ih]

end Scanner

end TerminalSession
