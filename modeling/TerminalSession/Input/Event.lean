import TerminalSession.Input.Key
import TerminalSession.Text.Quoted

/-!
# Input events

## Main definitions

* `InputEvent`: a key press, a paste, or a step of a composition
* `InputEvent.describe`: an event as a log shows it
-/

namespace TerminalSession

/-- What a user does. A composition is a text in the making, of which the process hears nothing
until its end. -/
inductive InputEvent where
  | key (press : KeyPress)
  | paste (text : Text)
  | compositionStart
  | compositionUpdate (text : Text)
  | compositionEnd (text : Text)
  deriving DecidableEq, Repr, Inhabited

/-- A key as a log shows it: by its name, with a character or the number of a function key in
parentheses. The character is quoted, so that one that cannot be seen can be read. -/
def Key.describe : Key → Text
  | .char c => "Char(".toList ++ Text.quoteChar c ++ [')']
  | .enter => "Enter".toList
  | .backspace => "Backspace".toList
  | .tab => "Tab".toList
  | .escape => "Escape".toList
  | .up => "Up".toList
  | .down => "Down".toList
  | .left => "Left".toList
  | .right => "Right".toList
  | .home => "Home".toList
  | .endKey => "End".toList
  | .pageUp => "PageUp".toList
  | .pageDown => "PageDown".toList
  | .insert => "Insert".toList
  | .delete => "Delete".toList
  | .function n => "F(".toList ++ Nat.toDigits 10 n ++ [')']

/-- Modifiers as a log shows them: their names with bars between them, or a zero if none was
held. -/
def Modifiers.describe (m : Modifiers) : Text :=
  let names :=
    (if m.shift then ["SHIFT".toList] else []) ++ (if m.ctrl then ["CTRL".toList] else []) ++
    (if m.alt then ["ALT".toList] else []) ++ (if m.super then ["SUPER".toList] else [])
  let inner := if names.isEmpty then "0x0".toList else " | ".toList.intercalate names
  "Modifiers(".toList ++ inner ++ [')']

/-- An event as a log shows it, by its kind and what it brings. Text is quoted, so that a log stays
readable whatever was typed. -/
def InputEvent.describe : InputEvent → Text
  | .key press =>
    "Key(KeyInput \x7b key: ".toList ++ press.key.describe ++ ", mods: ".toList ++
      press.mods.describe ++ " \x7d)".toList
  | .paste text => "Paste(".toList ++ Text.quoteText text ++ [')']
  | .compositionStart => "CompositionStart".toList
  | .compositionUpdate text => "CompositionUpdate(".toList ++ Text.quoteText text ++ [')']
  | .compositionEnd text => "CompositionEnd(".toList ++ Text.quoteText text ++ [')']

end TerminalSession
