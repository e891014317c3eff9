/-!
# Keys

## Main definitions

* `Key`, `Modifiers`, `KeyPress`: a key with the modifiers held
* `ConsoleKey`, `ConsoleModifiers`: what a console reports
* `KeyPress.ofConsole?`: the key press that a console report stands for
-/

namespace TerminalSession

/-- The keys that mean something to a terminal. A character stands for whatever key produces it, and
function keys are numbered from 1. -/
inductive Key where
  | char (c : Char)
  | enter
  | backspace
  | tab
  | escape
  | up
  | down
  | left
  | right
  | home
  | endKey
  | pageUp
  | pageDown
  | insert
  | delete
  | function (n : Nat)
  deriving DecidableEq, Repr, Inhabited

/-- The modifier keys. -/
structure Modifiers where
  shift : Bool := false
  ctrl : Bool := false
  alt : Bool := false
  super : Bool := false
  deriving DecidableEq, Repr, Inhabited

/-- A key with the modifiers held. -/
structure KeyPress where
  key : Key
  mods : Modifiers := {}
  deriving DecidableEq, Repr, Inhabited

/-- The keys that a console reports. Most of them mean nothing to a terminal, and no bytes are sent
for them. -/
inductive ConsoleKey where
  /-- A key that is the same to a terminal. -/
  | plain (key : Key)
  | backTab
  | null
  | capsLock
  | scrollLock
  | numLock
  | printScreen
  | pause
  | menu
  | keypadBegin
  | media
  | modifier
  deriving DecidableEq, Repr, Inhabited

/-- The modifiers that a console reports. Two more are told apart than a terminal has a use for. -/
structure ConsoleModifiers where
  shift : Bool := false
  control : Bool := false
  alt : Bool := false
  super : Bool := false
  metaKey : Bool := false
  hyperKey : Bool := false
  deriving DecidableEq, Repr, Inhabited

/-- The modifiers as a terminal knows them: meta counts as super, hyper does not count. -/
def ConsoleModifiers.reduce (m : ConsoleModifiers) : Modifiers :=
  { shift := m.shift, ctrl := m.control, alt := m.alt, super := m.super || m.metaKey }

/-- The key press of a console report. A back tab is a tab with shift held; keys that mean nothing
to a terminal have none. -/
def KeyPress.ofConsole? (key : ConsoleKey) (mods : ConsoleModifiers) : Option KeyPress :=
  match key with
  | .plain key => some { key, mods := mods.reduce }
  | .backTab => some { key := .tab, mods := { mods.reduce with shift := true } }
  | _ => none

end TerminalSession
