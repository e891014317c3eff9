import TerminalSession.Control.Scanner

/-!
# A scanner with registers

A scanner can be built with storage that is allotted once: the kind of unit that the stream is in, and
a register for each part that a unit may have. A register keeps what it holds until a unit that uses it
clears it, so it often holds a part of a unit that is long over.

## Main definitions

* `Registers`: the kind of unit, and the registers
* `Registers.step`: the next byte, with the tokens that it completes
* `Registers.run`: the tokens of a list of bytes
* `Registers.retained`: how much the registers of sequences and commands hold

## Design notes

* `Scanner` is the same scanner with nothing but the parts of the unit that the stream is in. That both
  read the same tokens is `Registers.StandFor.run`.
* There is a limit to the parameters and to the payload, and none to the intermediates.
-/

namespace TerminalSession

open Text.Utf8 (Partial)

/-- The kinds of units, and the places in them, without what has been read of the unit. Each stands
for one constructor of `Scanner`. -/
inductive Registers.Mode where
  | text
  | escape
  | escapeIntermediate
  | sequenceStart
  | sequenceParams
  | sequenceIntermediate
  | sequenceIgnored
  | command
  | commandEscape
  | ignored
  | ignoredEscape
  deriving DecidableEq, Repr

/-- The kind of unit that the stream is in, and the parts of units. A register that the unit has no
use for keeps what it held, so registers can differ where the place in the stream is the same. -/
structure Registers where
  mode : Registers.Mode := .text
  /-- The markers and intermediates of a sequence. -/
  intermediates : List UInt8 := []
  /-- The parameters that are complete. -/
  params : List Nat := []
  /-- The parameter whose digits are being read. -/
  current : Option Nat := none
  /-- The payload of a command. -/
  payload : Array UInt8 := #[]
  /-- The bytes of a character that is not complete. -/
  part : Partial := []
  deriving DecidableEq, Repr

namespace Registers

open Scanner (charOfByte isControlByte isIntermediate isFinal isMarker digit? addDigit)

/-- The registers of a scanner to which nothing was sent, all of them empty. -/
def new : Registers := {}

instance : Inhabited Registers := ⟨new⟩

/-- Whether the stream is in a string, which control characters do not interrupt: a command that is
collected, or a string that is skipped, with or without an `ESC` that may end it. -/
def inString (r : Registers) : Bool :=
  match r.mode with
  | .command => true
  | .commandEscape => true
  | .ignored => true
  | .ignoredEscape => true
  | _ => false

/-- The number of elements that the registers of sequences and commands hold. -/
def retained (r : Registers) : Nat :=
  r.params.length + r.intermediates.length + r.payload.size

/-! ### Reading a byte -/

/-- A byte below 0x80 cuts off a character that is not complete. -/
def cutOff (r : Registers) (b : UInt8) : Registers × List Token :=
  if !r.part.isEmpty && b < 0x80 then ({ r with part := [] }, [.print Text.Utf8.replacement])
  else (r, [])

/-- An escape begins: the registers of sequences are cleared. The payload of a command is not. -/
def beginEscape (r : Registers) : Registers :=
  { r with mode := .escape, intermediates := [], params := [], current := none }

/-- A control character outside of strings. `ESC` begins a new sequence, two others give up the one
that was begun, and all the rest act at once. -/
def control (r : Registers) (b : UInt8) : Registers × List Token :=
  if b = 0x1B then (r.beginEscape, [])
  else if b = 0x18 || b = 0x1A then ({ r with mode := .text }, [])
  else (r, [.control b])

/-- One more parameter, if there is room. -/
def addParam (r : Registers) (param : Nat) : Registers :=
  { r with params := Scanner.addParam r.params param }

/-- One more marker or intermediate. There is no bound on their number. -/
def addIntermediate (r : Registers) (b : UInt8) : Registers :=
  { r with intermediates := r.intermediates ++ [b] }

/-- The parameter that was being read is complete, if it has digits. -/
def closeParam (r : Registers) : Registers :=
  { r with params := Scanner.closeParams r.params r.current, current := none }

/-- A control sequence is complete. -/
def finish (r : Registers) (b : UInt8) : Registers × List Token :=
  ({ r with mode := .text },
    [.sequence { intermediates := r.intermediates, params := r.params, final := charOfByte b }])

/-- A byte after `ESC`. Some open a control sequence, a command or a string that is skipped; an
intermediate goes on, and any other byte is a short escape. -/
def afterEscape (r : Registers) (b : UInt8) : Registers × List Token :=
  if b = 0x5B then ({ r.beginEscape with mode := .sequenceStart }, [])
  else if b = 0x5D then ({ r with mode := .command, payload := #[] }, [])
  else if b = 0x50 || b = 0x58 || b = 0x5E || b = 0x5F then ({ r with mode := .ignored }, [])
  else if isIntermediate b then ({ r.addIntermediate b with mode := .escapeIntermediate }, [])
  else ({ r with mode := .text }, [.escape (charOfByte b)])

/-- A byte after `ESC [` and markers. The markers are kept among the intermediates, where they are
told apart by their values. -/
def inStart (r : Registers) (b : UInt8) : Registers × List Token :=
  match digit? b with
  | some digit => ({ r with mode := .sequenceParams, current := some digit }, [])
  | none =>
    if b = 0x3B then ({ r.addParam 0 with mode := .sequenceParams }, [])
    else if isMarker b then (r.addIntermediate b, [])
    else if isIntermediate b then ({ r.addIntermediate b with mode := .sequenceIntermediate }, [])
    else if isFinal b then r.finish b
    else ({ r with mode := .sequenceIgnored }, [])

/-- A byte in the parameters: a digit goes to the current one, a separator ends it, and any other
byte ends the parameters. -/
def inParams (r : Registers) (b : UInt8) : Registers × List Token :=
  match digit? b with
  | some digit => ({ r with current := some (addDigit r.current digit) }, [])
  | none =>
    if b = 0x3B || b = 0x3A then ({ r.addParam (r.current.getD 0) with current := none }, [])
    else if isIntermediate b then
      ({ r.closeParam.addIntermediate b with mode := .sequenceIntermediate }, [])
    else if isFinal b then r.closeParam.finish b
    else ({ r with mode := .sequenceIgnored }, [])

/-- A byte after the parameters and an intermediate. Parameters that come now spoil the sequence,
which is read to its end and has no effect. -/
def inIntermediate (r : Registers) (b : UInt8) : Registers × List Token :=
  if isIntermediate b then (r.addIntermediate b, [])
  else if isFinal b then r.finish b
  else ({ r with mode := .sequenceIgnored }, [])

/-- A byte of text. One below 0x80 is a character by itself, others are collected until they make up
a character. -/
def inText (r : Registers) (b : UInt8) : Registers × List Token :=
  if b < 0x80 then (r, [.print (charOfByte b)])
  else
    let (part, c) := Partial.push r.part b
    ({ r with part }, (c.map Token.print).toList)

/-- A command is executed. -/
def execute (r : Registers) : Registers × List Token :=
  ({ r with payload := #[] }, [.command r.payload])

/-- A byte of a command. What does not find room is dropped, and the command is executed with what
was kept. -/
def inCommand (r : Registers) (b : UInt8) : Registers × List Token :=
  if b = 0x07 then ({ r.execute.1 with mode := .text }, r.execute.2)
  else if b = 0x1B then ({ r with mode := .commandEscape }, [])
  else if r.payload.size < Scanner.maxPayload then ({ r with payload := r.payload.push b }, [])
  else (r, [])

/-- A byte after `ESC` in a command. The command is executed in any case; unless the byte ends the
string, it is read as one after an `ESC` of its own. -/
def inCommandEscape (r : Registers) (b : UInt8) : Registers × List Token :=
  if b = 0x5C then ({ r.execute.1 with mode := .text }, r.execute.2)
  else
    let (after, tokens) := r.execute.1.beginEscape.afterEscape b
    (after, r.execute.2 ++ tokens)

/-- A byte that is no control character, or that is part of a string. -/
def read (r : Registers) (b : UInt8) : Registers × List Token :=
  match r.mode with
  | .text => r.inText b
  | .escape => r.afterEscape b
  | .escapeIntermediate =>
    if isIntermediate b then (r.addIntermediate b, []) else ({ r with mode := .text }, [])
  | .sequenceStart => r.inStart b
  | .sequenceParams => r.inParams b
  | .sequenceIntermediate => r.inIntermediate b
  | .sequenceIgnored => (if isFinal b then { r with mode := .text } else r, [])
  | .command => r.inCommand b
  | .commandEscape => r.inCommandEscape b
  | .ignored =>
    (if b = 0x1B then { r with mode := .ignoredEscape }
      else if b = 0x07 then { r with mode := .text } else r, [])
  | .ignoredEscape => ({ r with mode := if b = 0x5C then .text else .ignored }, [])

/-- The next byte of the stream: the registers after it, and the tokens that it completes. What the
byte cuts off is shown before anything that it asks for. -/
def step (r : Registers) (b : UInt8) : Registers × List Token :=
  let (r, cut) := r.cutOff b
  let (r, tokens) := if isControlByte b && !r.inString then r.control b else r.read b
  (r, cut ++ tokens)

/-- All bytes of a list: the registers after them, and all tokens in order. -/
def run (r : Registers) : List UInt8 → Registers × List Token
  | [] => (r, [])
  | b :: rest =>
    let (r, tokens) := r.step b
    let (r, later) := run r rest
    (r, tokens ++ later)

@[simp] theorem run_nil (r : Registers) : r.run [] = (r, []) := rfl

@[simp] theorem run_cons (r : Registers) (b : UInt8) (rest : List UInt8) :
    r.run (b :: rest) = (((r.step b).1.run rest).1, (r.step b).2 ++ ((r.step b).1.run rest).2) :=
  rfl

theorem run_append (r : Registers) (a b : List UInt8) :
    r.run (a ++ b) = (((r.run a).1.run b).1, (r.run a).2 ++ ((r.run a).1.run b).2) := by
  induction a generalizing r with
  | nil => rfl
  | cons x a ih => simp [ih]

end Registers

end TerminalSession
