import TerminalSession.Dimensions

/-!
# Faults of engines

## Main definitions

* `EngineFault`: why an operation on an engine failed
* `EngineFault.message`: the wording
-/

namespace TerminalSession

/-- Why an operation on an engine failed. The first two are found out before the engine is asked. -/
inductive EngineFault where
  /-- The engine was released before. -/
  | released
  /-- The size has no column or no row. -/
  | invalidSize (size : Dimensions)
  /-- The engine itself gave a reason. -/
  | failed (reason : String)
  deriving DecidableEq, Repr, Inhabited

/-- What a reader is told of a fault: that the engine is gone, that its size makes no sense, or what
it says itself. -/
def EngineFault.message : EngineFault → String
  | .released => "engine handle has been released"
  | .invalidSize size => "invalid terminal size " ++ size.describe
  | .failed reason => "engine operation failed: " ++ reason

end TerminalSession
