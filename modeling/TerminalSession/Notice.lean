import TerminalSession.Control.Token
import TerminalSession.Input.Composer
import TerminalSession.Input.Event
import TerminalSession.Session.StartFault
import TerminalSession.Text.Utf8

/-!
# Notices

What is written to the log.

## Main definitions

* `Level`: how much a notice matters
* `Notice`: the notices, each with what it tells
* `Notice.level`, `Notice.message`: how it is written
* `Composer.pasteNotice?`: the notice about a paste in the middle of a composition
-/

namespace TerminalSession

/-- How much a notice matters, least first. -/
inductive Level where
  | trace
  | debug
  | info
  | warn
  | error
  deriving DecidableEq, Repr, Inhabited

namespace Level

/-- The place of a level in the order, from what matters least to what matters most. A filter lets
through all levels from one on. -/
def rank : Level → Nat
  | .trace => 0
  | .debug => 1
  | .info => 2
  | .warn => 3
  | .error => 4

/-- How a level is written in a line of the log, in capital letters. -/
def name : Level → String
  | .trace => "TRACE"
  | .debug => "DEBUG"
  | .info => "INFO"
  | .warn => "WARN"
  | .error => "ERROR"

end Level

/-- An event that is written to the log. A notice carries what its text tells, so that texts and
levels are computed from it in one place. -/
inductive Notice where
  | engineCreated (size : Dimensions) (version : String)
  | engineReleased
  | foreignSequence (sequence : ControlSequence)
  | unknownSequence (sequence : ControlSequence)
  | pasteWhileComposing (count : Nat)
  | sessionStarted (shell : String) (size : Dimensions)
  | processGone (message : String)
  | feedFailed (fault : EngineFault)
  | resized (before after : Dimensions)
  | resizeFailed (fault : EngineFault)
  | processResizeFailed (fault : ProcessFault)
  | inputIgnored (event : InputEvent)
  | scrollFailed (fault : EngineFault)
  | writeFailed (fault : ProcessFault)
  | killFailed (fault : ProcessFault)
  | sessionStopped
  | noEngine
  | startFailed (fault : StartFault)
  deriving DecidableEq, Repr, Inhabited

namespace Notice

/-- How much a notice matters. Faults that a session survives are warnings; one that keeps it from
starting is an error; what happens in its ordinary course is told to those who ask for it. -/
def level : Notice → Level
  | .engineCreated _ _ => .debug
  | .engineReleased => .debug
  | .foreignSequence _ => .trace
  | .unknownSequence _ => .trace
  | .pasteWhileComposing _ => .debug
  | .sessionStarted _ _ => .info
  | .processGone _ => .info
  | .feedFailed _ => .warn
  | .resized _ _ => .debug
  | .resizeFailed _ => .warn
  | .processResizeFailed _ => .warn
  | .inputIgnored _ => .trace
  | .scrollFailed _ => .warn
  | .writeFailed _ => .warn
  | .killFailed _ => .warn
  | .sessionStopped => .debug
  | .noEngine => .info
  | .startFailed _ => .error

/-- A list of numbers between brackets. -/
def listText (numbers : List Nat) : String :=
  "[" ++ ", ".intercalate (numbers.map toString) ++ "]"

/-- The parts of a control sequence. -/
def sequenceText (s : ControlSequence) : String :=
  "intermediates=" ++ listText (s.intermediates.map UInt8.toNat) ++ ", params=" ++
    listText s.params ++ ", final=" ++ String.ofList (Text.quoteChar s.final)

/-- What a notice tells. A fault is told in its own words, after what was attempted. -/
def message : Notice → String
  | .engineCreated size version => "Engine created: " ++ size.describe ++ " (" ++ version ++ ")"
  | .engineReleased => "Engine released"
  | .foreignSequence s => "Ignored CSI: " ++ sequenceText s
  | .unknownSequence s => "Unknown CSI: " ++ sequenceText s
  | .pasteWhileComposing count =>
    "Paste during composition, writing " ++ toString count ++ " bytes"
  | .sessionStarted shell size => "Session started: " ++ shell ++ " at " ++ size.describe
  | .processGone message => message
  | .feedFailed fault => "Engine feed failed: " ++ fault.message
  | .resized before after => "Resize " ++ before.describe ++ " -> " ++ after.describe
  | .resizeFailed fault => "Engine resize failed: " ++ fault.message
  | .processResizeFailed fault => "Process resize failed: " ++ fault.message
  | .inputIgnored event => "Input ignored: " ++ String.ofList event.describe
  | .scrollFailed fault => "Engine scroll failed: " ++ fault.message
  | .writeFailed fault => "Write to process failed: " ++ fault.message
  | .killFailed fault => "Failed to kill process: " ++ fault.message
  | .sessionStopped => "Session stopped"
  | .noEngine => "No terminal engine, showing placeholder"
  | .startFailed fault => "Failed to start session: " ++ fault.message

end Notice

/-- The notice about an event while a composition is open: a paste goes to the process all the
same. -/
def Composer.pasteNotice? (c : Composer) (event : InputEvent) : Option Notice :=
  match event with
  | .paste text =>
    if c.active && !text.isEmpty then
      some (.pasteWhileComposing (Text.Utf8.encode text).length)
    else none
  | _ => none

end TerminalSession
