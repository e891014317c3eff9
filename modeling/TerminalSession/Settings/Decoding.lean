import TerminalSession.Settings.Basic
import TerminalSession.Toml.Document

/-!
# Settings from a document

## Main definitions

* `Section`: a part of the settings as the document gives it
* `Section.field?`: one field, with its default
* `Settings.ofEntries?`, `Settings.ofText?`: the settings of a document

## Design notes

* Every field may be missing, and fields that are not known are passed over.
* A section may be written as an array: then its fields are told apart by their places, and what
  comes after the last one is passed over.
* Order among variables is the order of their names, character by character.
-/

namespace TerminalSession

open Toml

namespace Toml.Value

/-- A value that is text. -/
def string? : Value → Option String
  | .text content => some (String.ofList content)
  | _ => none

/-- A value that is a truth value. -/
def boolean? : Value → Option Bool
  | .boolean b => some b
  | _ => none

/-- A value that is an integer from 0 to a greatest one. -/
def natural? (greatest : Nat) : Value → Option Nat
  | .integer n => if 0 ≤ n ∧ n ≤ greatest then some n.toNat else none
  | _ => none

/-- A value that is a list of texts. -/
def strings? (value : Value) : Option (List String) :=
  value.items?.bind fun items => items.mapM string?

/-- A value that is a table of texts, in the order of its keys, so that the order in the file does
not matter. -/
def variables? (value : Value) : Option (List (String × String)) := do
  let entries ← value.entries?
  let pairs ← entries.mapM fun (key, value) => value.string?.map fun v => (String.ofList key, v)
  return pairs.mergeSort fun a b => a.1 ≤ b.1

end Toml.Value

/-- A part of the settings: fields by their names, or by their places. Both ways of writing a part
are read by the same decoder. -/
inductive Section where
  | named (entries : Entries)
  | listed (items : List Value)

namespace Section

/-- A value as a part of the settings: a table gives its fields by name, an array by place. Nothing
else is a section. -/
def ofValue? (value : Value) : Option Section :=
  match value.entries?, value.items? with
  | some entries, _ => some (.named entries)
  | none, some items => some (.listed items)
  | none, none => none

/-- The value of a field, if the field is there, by its name in a table and by its place in an
array. -/
def find? (s : Section) (name : String) (place : Nat) : Option Value :=
  match s with
  | .named entries => entries.find? name.toList
  | .listed items => items[place]?

/-- A field: its default if it is not there, and nothing if it is there with a value of another
kind. -/
def field? {α : Type} (s : Section) (name : String) (place : Nat) (read : Value → Option α)
    (default : α) : Option α :=
  match s.find? name place with
  | some value => read value
  | none => some default

end Section

/-- The greatest word of 16 bits. -/
def greatestWord16 : Nat := 65535

/-- The greatest word of 64 bits. -/
def greatestWord64 : Nat := 18446744073709551615

namespace EngineSettings

/-- The settings of the engine in a section. A field that is missing has its default; one that is no
such value makes all settings invalid. -/
def ofValue? (value : Value) : Option EngineSettings := do
  let s ← Section.ofValue? value
  let d : EngineSettings := {}
  return {
    enabled := ← s.field? "enabled" 0 Value.boolean? d.enabled
    historyLimit :=
      ← s.field? "scrollback_limit" 1 (Value.natural? greatestWord64) d.historyLimit }

end EngineSettings

namespace ViewportSettings

/-- The settings of the viewport in a section, with the same defaults and faults. A height is a
number of 16 bits. -/
def ofValue? (value : Value) : Option ViewportSettings := do
  let s ← Section.ofValue? value
  let d : ViewportSettings := {}
  return {
    chromeHeight := ← s.field? "chrome_height" 0 (Value.natural? greatestWord16) d.chromeHeight
    scrollOnInput := ← s.field? "scroll_on_input" 1 Value.boolean? d.scrollOnInput }

end ViewportSettings

namespace LoopSettings

/-- The settings of the event loop in a section, with the same defaults and faults. -/
def ofValue? (value : Value) : Option LoopSettings := do
  let s ← Section.ofValue? value
  let d : LoopSettings := {}
  return {
    mailboxCapacity :=
      ← s.field? "mailbox_capacity" 0 (Value.natural? greatestWord64) d.mailboxCapacity
    frameMilliseconds :=
      ← s.field? "frame_interval_ms" 1 (Value.natural? greatestWord64) d.frameMilliseconds }

end LoopSettings

namespace Settings

/-- The settings of the entries of a document. Fields and sections that are missing have their
defaults; names that are not known are passed over. -/
def ofEntries? (entries : Entries) : Option Settings := do
  let s := Section.named entries
  let d : Settings := {}
  return {
    shell := ← s.field? "shell" 0 (fun v => v.string?.map some) d.shell
    args := ← s.field? "args" 1 Value.strings? d.args
    cwd := ← s.field? "cwd" 2 (fun v => v.string?.map some) d.cwd
    env := ← s.field? "env" 3 Value.variables? d.env
    engine := ← s.field? "engine" 4 EngineSettings.ofValue? d.engine
    viewport := ← s.field? "viewport" 5 ViewportSettings.ofValue? d.viewport
    loop := ← s.field? "session" 6 LoopSettings.ofValue? d.loop }

/-- The settings of a document, if it is well-formed and every known field has a value of its
kind. -/
def ofText? (text : Text) : Option Settings :=
  (document? text).bind ofEntries?

end Settings

end TerminalSession
