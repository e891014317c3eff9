import TerminalSession.Dimensions

/-!
# Processes

The program that runs in the terminal, as the session sees it: what was asked of it, and whether it
still answers.

## Main definitions

* `SpawnRequest`: what to run, and how large its terminal is
* `ProcessFault`: why a process could not be started or asked
* `ProcessCall`: one thing asked of a process
* `Process`: all that was asked, in order
* `Process.ask`: one more call

## Design notes

* A call is on record whether or not it succeeds.
-/

namespace TerminalSession

/-- What to run, and how large its terminal is at the beginning. -/
structure SpawnRequest where
  shell : String
  args : List String := []
  cwd : Option String := none
  env : List (String × String) := []
  size : Dimensions
  deriving DecidableEq, Repr, Inhabited

/-- Why a process could not be started or asked, with the reason that its host gives. -/
inductive ProcessFault where
  | openFailed (reason : String)
  | spawnFailed (reason : String)
  | writeFailed (reason : String)
  | resizeFailed (reason : String)
  | killFailed (reason : String)
  | ioFailed (reason : String)
  deriving DecidableEq, Repr, Inhabited

/-- What a reader is told of a fault: which call has failed, and the reason that the system
gives. -/
def ProcessFault.message : ProcessFault → String
  | .openFailed reason => "Failed to open pseudo terminal: " ++ reason
  | .spawnFailed reason => "Failed to spawn process: " ++ reason
  | .writeFailed reason => "Failed to write to PTY: " ++ reason
  | .resizeFailed reason => "Failed to resize PTY: " ++ reason
  | .killFailed reason => "Failed to kill process: " ++ reason
  | .ioFailed reason => "PTY I/O error: " ++ reason

/-- One thing asked of a process. It is recorded whether or not it succeeds. -/
inductive ProcessCall where
  | spawn (request : SpawnRequest)
  | write (bytes : List UInt8)
  | resize (size : Dimensions)
  | kill
  deriving DecidableEq, Repr, Inhabited

/-- The fault of a call that fails for a reason. Each kind of call has a fault of its own. -/
def ProcessCall.fault (call : ProcessCall) (reason : String) : ProcessFault :=
  match call with
  | .spawn _ => .spawnFailed reason
  | .write _ => .writeFailed reason
  | .resize _ => .resizeFailed reason
  | .kill => .killFailed reason

/-- All that was asked of a process, oldest first, and the reason for which calls fail at present.
It stands for the host: what a session may rely on is no more than that its calls arrive in
order. -/
structure Process where
  calls : Array ProcessCall := #[]
  trouble : Option String := none
  deriving DecidableEq, Repr, Inhabited

namespace Process

/-- A process that was just started. The start is the first call on record. -/
def spawned (request : SpawnRequest) : Process :=
  { calls := #[.spawn request] }

/-- One more call, with its fault if it fails. It is on record in either case. -/
def ask (p : Process) (call : ProcessCall) : Process × Option ProcessFault :=
  ({ p with calls := p.calls.push call }, p.trouble.map call.fault)

end Process

end TerminalSession
