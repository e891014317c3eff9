import TerminalSession.Emulator
import TerminalSession.Engine.Basic

/-!
# The engine of this library

## Main definitions

* `Emulator.provider`: makes emulators with room for a number of rows of history
* the instance of `Engine` for `Emulator`
-/

namespace TerminalSession

namespace Emulator

/-- How the engine of this library tells its version. -/
def version : String := "termsession-vt/v0.1.0"

/-- The notice about a control sequence that was not understood. One of an unknown family is told
apart from one that is unknown in its family. -/
def noticeOf (s : ControlSequence) : Notice :=
  if s.isForeign then .foreignSequence s else .unknownSequence s

/-- The title, unless it is empty. A title that was never set and one that was set to nothing are
the same. -/
def title? (e : Emulator) : Option Text :=
  if e.terminal.title.isEmpty then none else some e.terminal.title

instance : Engine Emulator where
  feed e bytes := (e.feed bytes, none)
  resize e size := ({ e with terminal := e.terminal.resize size.cols size.rows }, none)
  scroll e delta := ({ e with terminal := e.terminal.scrollWindow delta }, none)
  dump e := e.terminal.dump
  cursor e := e.terminal.cursorReport
  takeReplies e := ({ e with replies := #[] }, e.pendingBytes)
  title e := e.title?
  offset e := some e.terminal.screen.offset
  takeNotices e := ({ e with unknown := #[] }, e.unknown.toList.map noticeOf)
  overflowed e := e.overflowed

/-- Makes emulators with room for `limit` rows of history, of any size that has columns and rows. -/
def provider (limit : Nat) : Provider Emulator where
  version := version
  create size :=
    if size.cols = 0 ∨ size.rows = 0 then .error (.invalidSize size)
    else .ok (fresh size.cols size.rows limit)

end Emulator

end TerminalSession
