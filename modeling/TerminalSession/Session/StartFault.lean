import TerminalSession.Engine.Fault
import TerminalSession.Session.Process

/-!
# Faults of starting a session

## Main definitions

* `StartFault`: why a session could not be started
* `StartFault.message`: the wording
-/

namespace TerminalSession

/-- Why a session could not be started. The engine is made first, so its fault hides one of the
process. -/
inductive StartFault where
  /-- There is no engine to use. -/
  | noEngine
  | process (fault : ProcessFault)
  | engine (fault : EngineFault)
  deriving DecidableEq, Repr, Inhabited

/-- What a reader is told when a session cannot be started: that there is no engine, or what the
engine or the process says. -/
def StartFault.message : StartFault → String
  | .noEngine => "terminal engine unavailable"
  | .process fault => "failed to start process: " ++ fault.message
  | .engine fault => fault.message

end TerminalSession
