import TerminalSession.Emulator
import TerminalSession.Engine.Builtin

/-!
# Command line

## Main definitions

* `Invocation`: what a run was asked for
* `Request`: help, the version, or a run
* `ArgumentFault`: why arguments make no sense
* `Request.ofArguments`: the request of a list of arguments
* `Outcome`: what a program leaves behind when it ends
* `Request.outcome?`: the outcome of a request that needs no console

## Design notes

* Arguments are read from left to right: help and the version end the reading, and so does the first
  argument that makes no sense.
-/

namespace TerminalSession

/-- What a run was asked for. The shell replaces the one of the settings; a demonstration shows the
banner and ends, and a run without an engine shows no more than a message. -/
structure Invocation where
  /-- The shell to run in place of the one in the settings. -/
  shell : Option String := none
  demo : Bool := false
  noEngine : Bool := false
  deriving DecidableEq, Repr, Inhabited

/-- What the arguments ask for. Help and version are told before anything is read or started. -/
inductive Request where
  | help
  | version
  | run (invocation : Invocation)
  deriving DecidableEq, Repr, Inhabited

/-- Why arguments make no sense. -/
inductive ArgumentFault where
  | missingShell
  | unknown (argument : String)
  deriving DecidableEq, Repr, Inhabited

/-- What a reader is told. -/
def ArgumentFault.message : ArgumentFault → String
  | .missingShell => "Missing shell argument"
  | .unknown argument => "Unknown argument: " ++ argument ++ ". Use -h for help."

/-- What a program leaves behind when it ends: its exit code, and what it has written to the two
streams. -/
structure Outcome where
  code : Nat := 0
  output : String := ""
  errors : String := ""
  deriving DecidableEq, Repr, Inhabited

/-- The version of the program. -/
def programVersion : String := "0.1.0"

/-- The line that tells the version. -/
def versionText : String :=
  "termsession " ++ programVersion ++ " (" ++ Emulator.version ++ ")\n"

/-- The lines that tell how the program is used: its options, the keys that the session keeps for
itself, and the file that the settings come from. -/
def helpText : String :=
  "termsession " ++ programVersion ++ " - terminal session engine\n" ++
  "\n" ++
  "Usage: termsession [OPTIONS]\n" ++
  "\n" ++
  "Options:\n" ++
  "  -s, --shell <CMD>     Shell to run (default: config.toml, $SHELL, /bin/sh)\n" ++
  "      --demo            Render the engine demo banner and exit\n" ++
  "      --no-engine       Start without a VT engine (placeholder view)\n" ++
  "  -v, --version         Show version\n" ++
  "  -h, --help            Show this help\n" ++
  "\n" ++
  "Keys:\n" ++
  "  PageUp / PageDown     Scroll one page\n" ++
  "  Shift+Up / Shift+Down Scroll one line\n" ++
  "  Shift+Home / End      Jump to oldest line / live tail\n" ++
  "  Ctrl+Shift+V          Paste from clipboard\n" ++
  "\n" ++
  "Config file: ~/.termsession/config.toml\n"

/-- The lines of the demonstration. -/
def demoText : String :=
  Emulator.version ++ "\n" ++ String.ofList Emulator.banner ++ "\n"

namespace Request

/-- The request of arguments that come after others. Help and version win over everything that comes
later, and the last shell that is named is the one that counts. -/
def ofRest (invocation : Invocation) : List String → Except ArgumentFault Request
  | [] => .ok (.run invocation)
  | "-h" :: _ => .ok .help
  | "--help" :: _ => .ok .help
  | "-v" :: _ => .ok .version
  | "--version" :: _ => .ok .version
  | ["-s"] => .error .missingShell
  | ["--shell"] => .error .missingShell
  | "-s" :: shell :: rest => ofRest { invocation with shell := some shell } rest
  | "--shell" :: shell :: rest => ofRest { invocation with shell := some shell } rest
  | "--demo" :: rest => ofRest { invocation with demo := true } rest
  | "--no-engine" :: rest => ofRest { invocation with noEngine := true } rest
  | argument :: _ => .error (.unknown argument)

/-- The request of a list of arguments. -/
def ofArguments (arguments : List String) : Except ArgumentFault Request :=
  ofRest {} arguments

/-- The outcome of a request that needs no console: help and version go where errors go, the banner
where output goes. A run has none yet. -/
def outcome? : Request → Option Outcome
  | .help => some { errors := helpText }
  | .version => some { errors := versionText }
  | .run invocation => if invocation.demo then some { output := demoText } else none

end Request

/-- The outcome of arguments that make no sense. -/
def ArgumentFault.outcome (fault : ArgumentFault) : Outcome where
  code := 1
  errors := "Error: " ++ fault.message ++ "\nUse --help for usage information\n"

end TerminalSession
