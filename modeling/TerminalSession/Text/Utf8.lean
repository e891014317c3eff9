import TerminalSession.Text.CodeRange

/-!
# UTF-8

Writing text as bytes, and the two ways of reading bytes that may be damaged.

## Main definitions

* `encode`: the bytes of a text
* `Partial`: a character of which some bytes have arrived, with `Partial.push` for the next byte
* `lossy`: the text of a complete byte string, with a replacement for every damaged part

## Design notes

* `Partial.push` serves output that arrives in pieces. It waits for as many continuation bytes as
  the lead byte announces and checks the result at the end, so a damaged character gives one
  replacement.
* `lossy` serves byte strings that are complete. It gives one replacement for each longest part that
  could have begun a character, so it looks at the range that a second byte may have.
-/

namespace TerminalSession.Text.Utf8

/-- The character shown in place of bytes that encode none, U+FFFD. -/
def replacement : Char := '\uFFFD'

/-- The bytes of a text. -/
def encode (text : Text) : List UInt8 :=
  text.flatMap String.utf8EncodeChar

@[simp] theorem encode_nil : encode [] = [] := rfl

@[simp] theorem encode_cons (c : Char) (text : Text) :
    encode (c :: text) = String.utf8EncodeChar c ++ encode text := rfl

@[simp] theorem encode_append (a b : Text) : encode (a ++ b) = encode a ++ encode b :=
  List.flatMap_append

/-- Whether a byte continues a character. -/
def isContinuation (b : UInt8) : Bool :=
  0x80 ≤ b && b < 0xC0

/-- How many bytes the character has that this byte begins, for characters of several bytes. Bytes
that would only begin numbers written too long are left out. -/
def length? (lead : UInt8) : Option Nat :=
  if 0xC2 ≤ lead && lead ≤ 0xDF then some 2
  else if 0xE0 ≤ lead && lead ≤ 0xEF then some 3
  else if 0xF0 ≤ lead && lead ≤ 0xF4 then some 4
  else none

/-- The number spelled by the bytes of one character of several bytes. The lead byte gives the fewer
bits, the more bytes follow. -/
def codePoint : List UInt8 → Nat
  | [] => 0
  | lead :: tail =>
    tail.foldl (fun value b => value * 64 + b.toNat % 64) (lead.toNat % 1 <<< (6 - tail.length))

/-- The least number that needs this many bytes. A smaller one is not accepted with as many. -/
def leastOfLength : Nat → Nat
  | 2 => 0x80
  | 3 => 0x800
  | 4 => 0x10000
  | _ => 0

/-- The character that a complete sequence of bytes encodes, unless it is written too long or the
number is no character. -/
def decodeSequence (bytes : List UInt8) : Option Char :=
  let value := codePoint bytes
  if leastOfLength bytes.length ≤ value ∧ value.isValidChar then some (Char.ofNat value) else none

/-- The bytes of an incomplete character received so far, lead byte first; empty between
characters. -/
abbrev Partial := List UInt8

namespace Partial

/-- A byte from 0x80 on between two characters: it begins one or is damage. -/
def start (b : UInt8) : Partial × Option Char :=
  if (length? b).isSome then ([b], none) else ([], some replacement)

/-- A further byte from 0x80 on. A byte that breaks the character off makes one replacement and is
looked at again, without a second replacement. -/
def push (part : Partial) (b : UInt8) : Partial × Option Char :=
  match part with
  | [] => start b
  | lead :: _ =>
    if isContinuation b then
      let bytes := part ++ [b]
      if bytes.length < (length? lead).getD 0 then (bytes, none)
      else ([], some ((decodeSequence bytes).getD replacement))
    else ((start b).1, some replacement)

@[simp] theorem push_nil (b : UInt8) : push [] b = start b := rfl

end Partial

/-- A range of bytes, given by its first and its last one. -/
abbrev ByteRange := UInt8 × UInt8

/-- Whether a byte lies in a range. -/
def ByteRange.holds (range : ByteRange) (b : UInt8) : Bool :=
  range.1 ≤ b && b ≤ range.2

/-- The continuation bytes. -/
def continuation : ByteRange := (0x80, 0xBF)

/-- The ranges of the bytes that may follow a lead byte, or nothing for a byte that begins no
character of several bytes. The second byte rules out numbers that are written too long, surrogates
and numbers past the last code point. -/
def followers (lead : UInt8) : List ByteRange :=
  if lead = 0xE0 then [(0xA0, 0xBF), continuation]
  else if lead = 0xED then [(0x80, 0x9F), continuation]
  else if lead = 0xF0 then [(0x90, 0xBF), continuation, continuation]
  else if lead = 0xF4 then [(0x80, 0x8F), continuation, continuation]
  else match length? lead with
    | some n => List.replicate (n - 1) continuation
    | none => []

/-- A place in a byte string: the bytes of the character being read, and the ranges of the bytes it
still needs. Between characters both are empty. -/
structure Reading where
  seen : List UInt8 := []
  owed : List ByteRange := []
  deriving DecidableEq, Repr

namespace Reading

/-- A byte between two characters: what it shows at once, and the place after it. A byte that can
begin no character is shown as damage by itself. -/
def first (b : UInt8) : Text × Reading :=
  if b < 0x80 then ([Char.ofNat b.toNat], {})
  else if (followers b).isEmpty then ([replacement], {})
  else ([], { seen := [b], owed := followers b })

/-- The next byte. A byte outside the range that is owed ends the character as damaged, and is read
as a first byte. -/
def step (place : Reading) (b : UInt8) : Text × Reading :=
  match place.owed with
  | [] => first b
  | range :: later =>
    if range.holds b then
      if later.isEmpty then ([(decodeSequence (place.seen ++ [b])).getD replacement], {})
      else ([], { seen := place.seen ++ [b], owed := later })
    else (replacement :: (first b).1, (first b).2)

/-- The text of the remaining bytes; a character that the end cuts off is damaged. -/
def run (place : Reading) : List UInt8 → Text
  | [] => if place.owed.isEmpty then [] else [replacement]
  | b :: rest => (place.step b).1 ++ run (place.step b).2 rest

@[simp] theorem run_nil (place : Reading) :
    place.run [] = if place.owed.isEmpty then [] else [replacement] := rfl

@[simp] theorem run_cons (place : Reading) (b : UInt8) (rest : List UInt8) :
    place.run (b :: rest) = (place.step b).1 ++ (place.step b).2.run rest := rfl

end Reading

/-- The text of a complete byte string, damaged parts replaced. Each part of a character that is cut
off is replaced as a whole. -/
def lossy (bytes : List UInt8) : Text :=
  Reading.run {} bytes

/-- The text of a byte string that is well-formed throughout. Unlike `lossy` it does not replace
anything. -/
def decode? (bytes : List UInt8) : Option Text :=
  let text := lossy bytes
  if encode text = bytes then some text else none

@[simp] theorem lossy_nil : lossy [] = [] := rfl

end TerminalSession.Text.Utf8
