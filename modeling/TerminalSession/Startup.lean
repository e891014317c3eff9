import TerminalSession.CommandLine
import TerminalSession.Settings.File

/-!
# Starting the program

What the program does before it takes over its console: it opens its log, reads the settings, and
works out the shell.

## Main definitions

* `LogLine`: a line of the log
* `LogFilter`: which lines are written
* `Startup`: the settings of a run, and the lines that are written on the way
* `Startup.prepare`: the start of a run
* `Startup.withoutConsole`: what a run comes to where there is no console
-/

namespace TerminalSession

/-- A line of the log: its level, the part of the program that writes it, and what it tells. -/
structure LogLine where
  level : Level
  origin : String
  message : String
  deriving DecidableEq, Repr, Inhabited

/-- A line as it is written. -/
def LogLine.text (line : LogLine) : String :=
  line.level.name ++ " " ++ line.origin ++ ": " ++ line.message

/-- Which lines are written: those of a level and above, or none. -/
abbrev LogFilter := Option Level

namespace LogFilter

/-- The level of a name, in letters of either case. An empty name asks for errors, and there is a
name for no lines at all. -/
def named? (name : String) : Option LogFilter :=
  match name.toLower with
  | "trace" => some (some .trace)
  | "debug" => some (some .debug)
  | "info" => some (some .info)
  | "warn" => some (some .warn)
  | "error" => some (some .error)
  | "" => some (some .error)
  | "off" => some none
  | _ => none

/-- What is written when this level was asked for. -/
def ofRequest (request : Option String) : LogFilter :=
  (request.bind named?).getD (some .info)

/-- Whether lines of a level are written: those of the least level that passes, and those that
matter more. -/
def passes (filter : LogFilter) (level : Level) : Bool :=
  match filter with
  | some least => least.rank ≤ level.rank
  | none => false

end LogFilter

/-- The settings of a run, and the lines that were written on the way. A file that cannot be used is
replaced by the defaults, and a line says so if the log is asked for such lines. -/
structure Startup where
  settings : Settings
  options : SessionOptions
  log : List LogLine
  deriving DecidableEq, Repr, Inhabited

namespace Startup

/-- The settings with what the command line says in place of them. It can name a shell and do
without an engine, but not ask for one that is disabled. -/
def override (settings : Settings) (invocation : Invocation) : Settings :=
  { settings with
    shell := invocation.shell <|> settings.shell
    engine := { settings.engine with enabled := settings.engine.enabled && !invocation.noEngine } }

/-- The line about settings that could not be used. The program goes on with the defaults, so this
is a warning. -/
def faultLine (fault : SettingsFault) : LogLine where
  level := .warn
  origin := "termsession::config"
  message := "Ignoring config: " ++ fault.message

/-- A line of the program itself, which tells that it starts and with what. -/
def infoLine (message : String) : LogLine where
  level := .info
  origin := "termsession"
  message := message

/-- The start of a run on a host, whose settings file has this content if it exists. The log tells
the version, what was wrong with the settings and the shell, as far as the level asked for lets
it. -/
def prepare (invocation : Invocation) (host : Host) (content : Option (List UInt8)) : Startup :=
  let (settings, fault) := Settings.load host content
  let settings := override settings invocation
  let options := settings.options host.shell
  let lines :=
    [infoLine ("termsession " ++ programVersion ++ " starting...")] ++
      (fault.map faultLine).toList ++ [infoLine ("Shell: " ++ options.shell)]
  { settings, options
    log := lines.filter fun line => (LogFilter.ofRequest host.logLevel).passes line.level }

/-- What a run comes to where there is no console, for the reason given. -/
def withoutConsole (reason : String) : Outcome where
  code := 1
  errors := "Error: " ++ reason ++ "\n"

end Startup

end TerminalSession
