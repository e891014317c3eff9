import TerminalSession.Startup

/-!
# The program

The outer layer: it takes arguments and environment from the system, writes what comes of them, and
decides nothing else.

## Main definitions

* `main`: answers requests that need no console, and starts a run otherwise

## Design notes

* A console is something that the host of the library provides. The program has none of its own, so
  a run ends after its start, once the log tells with which settings it was made.
-/

open TerminalSession

namespace TerminalSession.Program

/-- Writes what a program leaves behind, and gives its exit code. Output and errors go to their own
streams. -/
def finish (outcome : Outcome) : IO UInt32 := do
  IO.print outcome.output
  IO.eprint outcome.errors
  return UInt32.ofNat outcome.code

/-- The environment as the system tells it: where the user's files are, which shell is set, and
which log level is asked for. -/
def readHost : IO Host := do
  return {
    home := ← IO.getEnv "HOME"
    profile := ← IO.getEnv "USERPROFILE"
    shell := ← IO.getEnv "SHELL"
    logLevel := ← IO.getEnv "RUST_LOG" }

/-- The content of the settings file, if it can be read. A file that cannot be read is as good as
none. -/
def readSettings (host : Host) : IO (Option (List UInt8)) := do
  match host.settingsPath? with
  | none => return none
  | some path =>
    try
      return some (← IO.FS.readBinFile path).toList
    catch _ =>
      return none

/-- Adds lines to the log; a log that cannot be written is done without. -/
def writeLog (host : Host) (lines : List LogLine) : IO Unit := do
  try
    if let some directory := host.dataDirectory? then
      IO.FS.createDirAll directory
    IO.FS.withFile host.logPath .append fun file => do
      for line in lines do
        file.putStrLn line.text
  catch _ =>
    return

/-- Starts a run: reads the host and the settings, and writes down how it starts. There is no
console here to go on with. -/
def run (invocation : Invocation) : IO UInt32 := do
  let host ← readHost
  let startup := Startup.prepare invocation host (← readSettings host)
  writeLog host startup.log
  finish (Startup.withoutConsole "no console to draw into")

end TerminalSession.Program

/-- Answers requests that need no console, and starts a run otherwise. Arguments that make no sense
are answered by what is wrong with them. -/
def main (arguments : List String) : IO UInt32 :=
  match Request.ofArguments arguments with
  | .error fault => Program.finish fault.outcome
  | .ok request =>
    match request, request.outcome? with
    | _, some outcome => Program.finish outcome
    | .run invocation, none => Program.run invocation
    | _, none => return 0
