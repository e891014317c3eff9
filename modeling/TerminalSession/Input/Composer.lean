import TerminalSession.Text.CodeRange

/-!
# Composition

Text that is being composed by an input method before it is committed.

## Main definitions

* `Composer`: whether a composition is open, and its text so far
* `Composer.start`, `Composer.update`, `Composer.finish`: its steps
-/

namespace TerminalSession

/-- The state of a composition: whether one is open, and the text that it has so far. Keys belong to
an open composition and are not sent. -/
structure Composer where
  active : Bool := false
  text : Text := []
  deriving DecidableEq, Repr, Inhabited

namespace Composer

/-- A composition begins. -/
def start (_ : Composer) : Composer := { active := true }

/-- The composed text is now this one. -/
def update (_ : Composer) (text : Text) : Composer := { active := true, text }

/-- The composition ends; without a text of its own, with the composed one. -/
def finish (c : Composer) (text : Text) : Composer × Text :=
  ({}, if text.isEmpty then c.text else text)

end Composer

end TerminalSession
