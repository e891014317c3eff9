import TerminalSession.Settings.Decoding
import TerminalSession.Text.Utf8

/-!
# The settings file

Where the settings of a user are kept, and what happens when they cannot be read.

## Main definitions

* `Host`: what the program is told by its environment
* `Host.dataDirectory?`, `Host.settingsPath?`: where its files are
* `SettingsFault`: why settings could not be read
* `Settings.ofFile`: the settings in the content of a file
* `Settings.load`: the settings of a host, or the defaults
-/

namespace TerminalSession

/-- What the program is told by its environment. It is a value here, so that where the settings are
looked for can be computed. -/
structure Host where
  home : Option String := none
  /-- A home directory that goes before the other one. -/
  profile : Option String := none
  shell : Option String := none
  /-- The level of the log that was asked for. -/
  logLevel : Option String := none
  deriving DecidableEq, Repr, Inhabited

/-- A path below a directory. -/
def joinPath (directory name : String) : String :=
  if directory.isEmpty || directory.endsWith "/" then directory ++ name
  else directory ++ "/" ++ name

namespace Host

/-- The directory of the program's files, if the user has a home. -/
def dataDirectory? (host : Host) : Option String :=
  (host.profile <|> host.home).map fun home => joinPath home ".termsession"

/-- Where the settings are kept. -/
def settingsPath? (host : Host) : Option String :=
  host.dataDirectory?.map fun directory => joinPath directory "config.toml"

/-- Where the log is kept. -/
def logPath (host : Host) : String :=
  (host.dataDirectory?.map fun directory => joinPath directory "termsession.log").getD
    "termsession.log"

end Host

/-- Why settings could not be read. A file that does not exist is no fault. -/
inductive SettingsFault where
  /-- The file cannot be read as text. -/
  | unreadable (path reason : String)
  /-- The text is no document, or a field has a value of another kind. -/
  | invalid
  deriving DecidableEq, Repr, Inhabited

/-- What a reader is told. -/
def SettingsFault.message : SettingsFault → String
  | .unreadable path reason => "failed to read " ++ path ++ ": " ++ reason
  | .invalid => "invalid config"

namespace Settings

/-- Why a file is no text. -/
def notText : String := "stream did not contain valid UTF-8"

/-- The settings in the content of a file. Bytes that are no text are a fault of reading the file,
text that is no settings is one of the settings. -/
def ofFile (path : String) (content : List UInt8) : Except SettingsFault Settings :=
  match Text.Utf8.decode? content with
  | none => .error (.unreadable path notText)
  | some text =>
    match ofText? text with
    | some settings => .ok settings
    | none => .error .invalid

/-- The settings of a host, whose file has this content if it exists. When the file cannot be used,
they are the defaults, and the fault is given too. -/
def load (host : Host) (content : Option (List UInt8)) : Settings × Option SettingsFault :=
  match host.settingsPath?, content with
  | some path, some content =>
    match ofFile path content with
    | .ok settings => (settings, none)
    | .error fault => ({}, some fault)
  | _, _ => ({}, none)

end Settings

end TerminalSession
