import TerminalSession.Input.Composer
import TerminalSession.Input.Event
import TerminalSession.Text.Utf8
import TerminalSession.Viewport

/-!
# Encoding input

Input events become bytes for the process or movements of the window.

## Main definitions

* `KeyPress.scroll?`: the window movement of a key press
* `KeyPress.bytes?`: the bytes of a key press
* `InputAction`: what an event comes to
* `Composer.encode`: the action of an event, with the composition after it

## Design notes

* A key press belongs to the composition while one is open. Pasted text does not.
* Super with a key edits the line, as it does in other programs of its platform; with most keys it
  does nothing.
-/

namespace TerminalSession

namespace Modifiers

/-- Whether no modifier is held. -/
def isEmpty (m : Modifiers) : Bool := m == {}

/-- Whether shift alone is held. -/
def shiftOnly (m : Modifiers) : Bool := m == { shift := true }

/-- The number by which sequences tell the modifiers. -/
def code (m : Modifiers) : Nat :=
  1 + (if m.shift then 1 else 0) + (if m.alt then 2 else 0) + (if m.ctrl then 4 else 0)

/-- Whether a key acts on a whole word. -/
def byWord (m : Modifiers) : Bool := (m.alt || m.ctrl) && !m.shift

end Modifiers

namespace KeyPress

/-- The window movement of a key press in a window of `rows` rows. A page is one row less than the
window. -/
def scroll? (press : KeyPress) (rows : Nat) : Option ScrollCommand :=
  let page : Int := max (rows - 1) 1
  let paging := press.mods.isEmpty || press.mods.shiftOnly
  match press.key with
  | .pageUp => if paging then some (.lines (-page)) else none
  | .pageDown => if paging then some (.lines page) else none
  | .up => if press.mods.shiftOnly then some (.lines (-1)) else none
  | .down => if press.mods.shiftOnly then some (.lines 1) else none
  | .home => if press.mods.shiftOnly then some .top else none
  | .endKey => if press.mods.shiftOnly then some .bottom else none
  | _ => none

/-- The control character of a key held with ctrl: letters by their place in the alphabet, and some
signs and digits for those that no letter gives. -/
def controlCode? (c : Char) : Option UInt8 :=
  if 'a' ≤ c ∧ c ≤ 'z' then some (UInt8.ofNat (c.toNat - 96))
  else if 'A' ≤ c ∧ c ≤ 'Z' then some (UInt8.ofNat (c.toNat - 64))
  else if c ∈ ['@', '\x60', ' ', '2'] then some 0x00
  else if c ∈ ['[', '3'] then some 0x1B
  else if c ∈ ['\\', '4'] then some 0x1C
  else if c ∈ [']', '5'] then some 0x1D
  else if c ∈ ['^', '~', '6'] then some 0x1E
  else if c ∈ ['_', '?', '7'] then some 0x1F
  else none

/-- The bytes of a character key. Alt puts an escape before them; ctrl has no effect on a character
that has no control character. -/
def charBytes (c : Char) (mods : Modifiers) : List UInt8 :=
  let plain :=
    match if mods.ctrl then controlCode? c else none with
    | some code => [code]
    | none => Text.Utf8.encode [c]
  if mods.alt then 0x1B :: plain else plain

/-- `ESC [`, or `ESC [ 1 ; code` when modified, and the key's character. The code tells which
modifiers were held. -/
def cursorKey (key : Char) (mods : Modifiers) : List UInt8 :=
  Text.Utf8.encode <|
    if mods.isEmpty then ['\x1b', '[', key]
    else ['\x1b', '[', '1', ';'] ++ Nat.toDigits 10 mods.code ++ [key]

/-- `ESC [`, the key's number, the modifiers if there are any, and a tilde. -/
def tildeKey (number : Nat) (mods : Modifiers) : List UInt8 :=
  Text.Utf8.encode <|
    ['\x1b', '['] ++ Nat.toDigits 10 number ++
      (if mods.isEmpty then [] else ';' :: Nat.toDigits 10 mods.code) ++ ['~']

/-- The first four function keys. -/
def programKey (key : Char) (mods : Modifiers) : List UInt8 :=
  if mods.isEmpty then Text.Utf8.encode ['\x1b', 'O', key] else cursorKey key mods

/-- The bytes of a function key; there are twelve. The first four are program keys; the codes of the
others leave out some numbers. -/
def functionKey? (n : Nat) (mods : Modifiers) : Option (List UInt8) :=
  match n with
  | 1 => some (programKey 'P' mods)
  | 2 => some (programKey 'Q' mods)
  | 3 => some (programKey 'R' mods)
  | 4 => some (programKey 'S' mods)
  | 5 => some (tildeKey 15 mods)
  | 6 => some (tildeKey 17 mods)
  | 7 => some (tildeKey 18 mods)
  | 8 => some (tildeKey 19 mods)
  | 9 => some (tildeKey 20 mods)
  | 10 => some (tildeKey 21 mods)
  | 11 => some (tildeKey 23 mods)
  | 12 => some (tildeKey 24 mods)
  | _ => none

/-- The bytes of a key held with super: to the ends of the line, delete to the ends of the line,
clear the screen. -/
def superKey? : Key → Option (List UInt8)
  | .left => some [0x01]
  | .right => some [0x05]
  | .backspace => some [0x15]
  | .delete => some [0x0B]
  | .char 'k' => some [0x0C]
  | .char 'K' => some [0x0C]
  | _ => none

/-- The bytes of a key press, whatever else it may mean. With the super key a press has bytes only
if it has a meaning of its own there; without it only a function key of another number than these
twelve has none. -/
def bytes? (press : KeyPress) : Option (List UInt8) :=
  let mods := press.mods
  if mods.super then superKey? press.key
  else
    match press.key with
    | .char c => some (charBytes c mods)
    | .enter => some [0x0D]
    | .backspace => some (if mods.byWord then [0x17] else [0x7F])
    | .tab => some (if mods.shift then [0x1B, 0x5B, 0x5A] else [0x09])
    | .escape => some [0x1B]
    | .left => some (if mods.byWord then [0x1B, 0x62] else cursorKey 'D' mods)
    | .right => some (if mods.byWord then [0x1B, 0x66] else cursorKey 'C' mods)
    | .up => some (cursorKey 'A' mods)
    | .down => some (cursorKey 'B' mods)
    | .home => some (cursorKey 'H' mods)
    | .endKey => some (cursorKey 'F' mods)
    | .pageUp => some (tildeKey 5 mods)
    | .pageDown => some (tildeKey 6 mods)
    | .insert => some (tildeKey 2 mods)
    | .delete => some (if mods == { alt := true } then [0x1B, 0x64] else tildeKey 3 mods)
    | .function n => functionKey? n mods

end KeyPress

/-- What an input event comes to: bytes for the process, a movement of the window, or nothing. -/
inductive InputAction where
  /-- Bytes for the process. -/
  | write (bytes : List UInt8)
  /-- A movement of the window. -/
  | scroll (command : ScrollCommand)
  /-- Nothing. -/
  | ignore
  deriving DecidableEq, Repr, Inhabited

namespace InputAction

/-- Bytes are written, unless there are none. -/
def ofBytes (bytes : List UInt8) : InputAction :=
  if bytes.isEmpty then .ignore else .write bytes

end InputAction

/-- The action of a key press outside of a composition: some keys scroll, and the others are written
to the process if they have bytes. -/
def KeyPress.action (press : KeyPress) (rows : Nat) : InputAction :=
  match press.scroll? rows with
  | some command => .scroll command
  | none => InputAction.ofBytes (press.bytes?.getD [])

/-- The composition after an event, and what the event comes to in a window of `rows` rows. While a
composition is open, keys are part of it and are not written; a paste is written all the same. -/
def Composer.encode (c : Composer) (event : InputEvent) (rows : Nat) : Composer × InputAction :=
  match event with
  | .compositionStart => (c.start, .ignore)
  | .compositionUpdate text => (c.update text, .ignore)
  | .compositionEnd text =>
    let (c, committed) := c.finish text
    (c, InputAction.ofBytes (Text.Utf8.encode committed))
  | .paste text => (c, InputAction.ofBytes (Text.Utf8.encode text))
  | .key press => (c, if c.active then .ignore else press.action rows)

end TerminalSession
