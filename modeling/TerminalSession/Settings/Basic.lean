import TerminalSession.Engine.Builtin
import TerminalSession.Session.Basic
import TerminalSession.Text.Blank

/-!
# Settings

What a user can set, and what sessions make of it.

## Main definitions

* `Settings`: the settings with their defaults
* `Settings.resolvedShell`: the shell that is run
* `Settings.options`: the settings as options of a session
* `Settings.provider?`: the engine, unless it is disabled
-/

namespace TerminalSession

/-- Settings of the engine. -/
structure EngineSettings where
  /-- Without an engine only a message is shown. -/
  enabled : Bool := true
  /-- The most rows of history. -/
  historyLimit : Nat := defaultHistoryLimit
  deriving DecidableEq, Repr, Inhabited

/-- Settings of the display. -/
structure ViewportSettings where
  /-- The height that the host keeps below the grid, in units of the surface. -/
  chromeHeight : Nat := 1
  /-- Input for the process brings the window back to the live end. -/
  scrollOnInput : Bool := true
  deriving DecidableEq, Repr, Inhabited

/-- Settings of the session's loop. -/
structure LoopSettings where
  /-- How many pieces of output can wait. -/
  mailboxCapacity : Nat := 256
  /-- The distance of frames, in milliseconds. -/
  frameMilliseconds : Nat := 16
  deriving DecidableEq, Repr, Inhabited

/-- What a user can set. Each field has a default, so a file may be empty or missing. -/
structure Settings where
  shell : Option String := none
  args : List String := []
  cwd : Option String := none
  /-- Variables for the process, in the order of their names. -/
  env : List (String × String) := []
  engine : EngineSettings := {}
  viewport : ViewportSettings := {}
  loop : LoopSettings := {}
  deriving DecidableEq, Repr, Inhabited

namespace Settings

/-- The shell of a system that names none. -/
def systemShell : String := "/bin/sh"

/-- The shell that is run: the one that was set unless it is blank, else the one of the environment
unless it is empty, else the system's. -/
def resolvedShell (s : Settings) (environmentShell : Option String) : String :=
  match s.shell.filter fun shell => !Text.isBlank shell.toList with
  | some shell => shell
  | none => (environmentShell.filter fun shell => !shell.isEmpty).getD systemShell

/-- The settings as options of a session. A mailbox has room for one event at least, and the time
between frames is given in microseconds. -/
def options (s : Settings) (environmentShell : Option String) : SessionOptions where
  shell := s.resolvedShell environmentShell
  args := s.args
  cwd := s.cwd
  env := s.env
  scrollOnInput := s.viewport.scrollOnInput
  mailboxCapacity := max s.loop.mailboxCapacity 1
  frameInterval := s.loop.frameMilliseconds * 1000

/-- The rows of history of the engine, unless the engine is disabled. -/
def historyLimit? (s : Settings) : Option Nat :=
  if s.engine.enabled then some s.engine.historyLimit else none

/-- The engine, unless it is disabled. -/
def provider? (s : Settings) : Option (Provider Emulator) :=
  s.historyLimit?.map Emulator.provider

end Settings

end TerminalSession
