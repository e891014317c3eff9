import TerminalSession.Engine.Basic
import TerminalSession.FramePacer
import TerminalSession.Input.Encoding
import TerminalSession.Session.Mailbox

/-!
# Sessions

One engine and one process, and every operation on the two.

## Main definitions

* `SessionOptions`: how a session is started
* `Phase`: a session runs, has ended with its process, or was stopped
* `Session`: the session with its process and mailbox
* `Session.start`: creates the engine and starts the process
* `Session.receive`, `Session.pump`: output of the process
* `Session.input`, `Session.scroll`, `Session.wheel`, `Session.resize`: what the user does
* `Session.tick`: draw a frame, if one is wanted and due
* `Session.stop`: the end

## Design notes

* Only a session that runs has an engine, and only then is anything asked of the process. When the
  session leaves that phase, the mailbox is closed, the engine is released and the process is
  killed, in this order.
* What the process is asked never depends on whether earlier calls failed.
-/

namespace TerminalSession

/-- How a session is started: what to run, and the numbers that its mailbox and its frames are set
up with. -/
structure SessionOptions where
  shell : String := "/bin/sh"
  args : List String := []
  cwd : Option String := none
  env : List (String × String) := []
  /-- Input for the process brings the window back to the live end. -/
  scrollOnInput : Bool := true
  mailboxCapacity : Nat := 256
  /-- The distance of frames, in microseconds. -/
  frameInterval : Nat := FramePacer.defaultInterval
  deriving DecidableEq, Repr, Inhabited

/-- The part of its life in which a session is. Only a session that runs has an engine, so nothing
can be asked of one after its end. -/
inductive Phase (ε : Type) where
  | running (engine : ε)
  /-- The process is gone; the message tells how. -/
  | ended (message : String)
  | stopped

/-- What is on display at one moment: the text of the window and where the cursor is seen in it. -/
structure Snapshot where
  text : Text
  /-- Where the cursor is seen; nowhere when the window stands back. -/
  cursor : Option CursorReport
  size : Dimensions
  deriving DecidableEq, Repr, Inhabited

/-- What a frame shows. Once the process is gone, that is the message about it, until the session is
stopped. -/
inductive Picture where
  | screen (snapshot : Snapshot)
  /-- The session has ended; the message takes the place of the grid. -/
  | ended (message : String)
  deriving DecidableEq, Repr, Inhabited

/-- One terminal session: an engine, a process, what waits between them, and what the user has done
to the display. All effects are data here: calls of the process and notices are recorded in order,
and frames are handed out when they are due. -/
structure Session (ε : Type) where
  phase : Phase ε
  process : Process
  mailbox : Mailbox
  size : Dimensions
  viewport : Viewport := {}
  composer : Composer := {}
  pacer : FramePacer
  scrollOnInput : Bool
  journal : Array Notice := #[]

/-- A start that failed, with what was logged on the way. There is no session then, so the notices
would be lost otherwise. -/
structure StartFailure where
  fault : StartFault
  journal : Array Notice := #[]
  deriving DecidableEq, Repr, Inhabited

/-- What a session says when its process has ended. -/
def exitedMessage : String := "Process exited"

/-- What a session says when the output of its process was closed. -/
def closedMessage : String := "Process output closed"

namespace Session

variable {ε : Type}

/-! ### Looking at a session -/

/-- Whether the session runs. A session that does not takes no input and no output, and its process
is asked nothing any more. -/
def isRunning (s : Session ε) : Bool :=
  match s.phase with
  | .running _ => true
  | _ => false

/-- How the process went away, once it has. A session that was stopped tells nothing, for its user
knows. -/
def exitMessage (s : Session ε) : Option String :=
  match s.phase with
  | .ended message => some message
  | _ => none

/-- The title that the process has set. It is kept by the engine, so a session that is over has
none. -/
def title [Engine ε] (s : Session ε) : Option Text :=
  match s.phase with
  | .running engine => Engine.title engine
  | _ => none

/-- Whether a number of the engine left its range. A session that has no engine any more has nothing
to tell. -/
def overflowed [Engine ε] (s : Session ε) : Bool :=
  match s.phase with
  | .running engine => Engine.overflowed engine
  | _ => false

/-- The time until a frame may be drawn. -/
def wait (s : Session ε) (now : Nat) : Nat := s.pacer.wait now

/-! ### Parts of operations -/

/-- A notice is written down, after those that came before it. -/
def note (s : Session ε) (notice : Notice) : Session ε :=
  { s with journal := s.journal.push notice }

/-- A frame is wanted. It is drawn at the next tick that is due. -/
def requestFrame (s : Session ε) : Session ε :=
  { s with pacer := s.pacer.request }

/-- The process is asked something; a fault is only logged. What the session does next does not
depend on it. -/
def ask (s : Session ε) (call : ProcessCall) (notice : ProcessFault → Notice) : Session ε :=
  match s.process.ask call with
  | (process, none) => { s with process }
  | (process, some fault) => { s with process }.note (notice fault)

/-- Bytes go to the process. -/
def write (s : Session ε) (bytes : List UInt8) : Session ε :=
  s.ask (.write bytes) .writeFailed

/-- The session runs with another engine; the notices of the engine are written down. -/
def putEngine [Engine ε] (s : Session ε) (engine : ε) : Session ε :=
  let (engine, notices) := Engine.takeNotices engine
  { s with phase := .running engine, journal := s.journal ++ notices.toArray }

/-- The viewport takes over the offset of the engine, if the engine tells it. The engine has the
last word on where the window stands. -/
def syncViewport [Engine ε] (s : Session ε) (engine : ε) : Session ε :=
  match Engine.offset engine with
  | some offset => { s with viewport := s.viewport.sync offset }
  | none => s

/-- The session leaves the running phase: everything it held is given up. The mailbox is closed and
the process killed, in this order; outside the running phase only the phase changes. -/
def release (s : Session ε) (phase : Phase ε) : Session ε :=
  match s.phase with
  | .running _ =>
    ({ s with mailbox := s.mailbox.close, phase }.note .engineReleased).ask .kill .killFailed
  | _ => { s with phase }

/-! ### Life -/

/-- Creates an engine and starts the process; `refusal` is what the host says when it cannot start
one. Without an engine no process is started, and an engine that was created for nothing is given
up. -/
def start [Engine ε] (options : SessionOptions) (size : Dimensions) (provider : Option (Provider ε))
    (refusal : Option ProcessFault) : Except StartFailure (Session ε) :=
  let size := Dimensions.clamped size.cols size.rows
  match provider with
  | none => .error { fault := .noEngine }
  | some provider =>
    match provider.engine? size with
    | .error fault => .error { fault := .engine fault }
    | .ok engine =>
      let created := Notice.engineCreated size provider.version
      match refusal with
      | some fault => .error { fault := .process fault, journal := #[created, .engineReleased] }
      | none =>
        .ok {
          phase := .running engine
          process := Process.spawned
            { shell := options.shell, args := options.args, cwd := options.cwd, env := options.env
              size }
          mailbox := Mailbox.empty options.mailboxCapacity
          size
          pacer := { interval := options.frameInterval, pending := true }
          scrollOnInput := options.scrollOnInput
          journal := #[created, .sessionStarted options.shell size] }

/-- The process is gone. The message takes the place of the grid, so a frame is wanted. -/
def processGone (s : Session ε) (message : String) : Session ε :=
  ((s.note (.processGone message)).release (.ended message)).requestFrame

/-- The session is over, by the will of its user. Stopping it again does nothing. Once the process
is gone there is nothing to kill, and stopping only takes its last message away. -/
def stop (s : Session ε) : Session ε :=
  match s.phase with
  | .stopped => s
  | _ => (s.note .sessionStopped).release .stopped

/-! ### Output of the process -/

variable [Engine ε]

/-- Output arrives: the engine reads it, its replies go to the process, and a frame is wanted. -/
def receive (s : Session ε) (bytes : List UInt8) : Session ε :=
  match s.phase with
  | .running engine =>
    match Engine.feed engine bytes with
    | (engine, some fault) => (s.putEngine engine).note (.feedFailed fault)
    | (engine, none) =>
      let (engine, replies) := Engine.takeReplies engine
      let s := s.putEngine engine
      let s := if replies.isEmpty then s else s.write replies
      (s.syncViewport engine).requestFrame
  | _ => s

/-- Events are handled in order; the end of the process makes the rest of them void. Output that
comes behind it is not read. -/
def handle (s : Session ε) : List ProcessEvent → Session ε
  | [] => s
  | .data bytes :: rest => (s.receive bytes).handle rest
  | .exited :: _ => s.processGone exitedMessage

/-- Takes what waits in the mailbox: the session after it, and whether anything came. If nobody can
send any more, the process is taken to be gone. -/
def pump (s : Session ε) : Session ε × Bool :=
  let (mailbox, events) := s.mailbox.drain
  let closed := s.mailbox.disconnected
  let s := { s with mailbox }.handle events
  if closed && s.isRunning then (s.processGone closedMessage, true)
  else (s, !events.isEmpty)

/-! ### The user -/

/-- The engine's window moves. If that fails, the viewport stays as it has moved, no frame is asked
for, and the fault is noted. -/
def scrollEngine (s : Session ε) (delta : Int) : Session ε :=
  match s.phase with
  | .running engine =>
    match Engine.scroll engine delta with
    | (engine, some fault) => (s.putEngine engine).note (.scrollFailed fault)
    | (engine, none) => ((s.putEngine engine).syncViewport engine).requestFrame
  | _ => s

/-- The viewport has moved, and the engine has to follow if lines came of it. Fractions of a line
stay in the viewport. -/
def follow (s : Session ε) (moved : Viewport × Option Int) : Session ε :=
  let s := { s with viewport := moved.1 }
  match moved.2 with
  | some delta => s.scrollEngine delta
  | none => s

/-- A movement of the window. A session that does not run has none. -/
def scroll (s : Session ε) (command : ScrollCommand) : Session ε :=
  if s.isRunning then s.follow (s.viewport.apply command) else s

/-- A movement of the wheel in pixels, towards newer output when positive. -/
def wheel (s : Session ε) (deltaY glyphHeight : Float) : Session ε :=
  if s.isRunning then s.follow (s.viewport.wheel deltaY glyphHeight) else s

/-- An input event goes to the process or to the window. If it goes to the process, the window may
return to the live end first. -/
def input (s : Session ε) (event : InputEvent) : Session ε :=
  if s.isRunning then
    let (composer, action) := s.composer.encode event s.size.rows
    let journal := s.journal ++ (s.composer.pasteNotice? event).toArray
    let s := { s with composer, journal }
    match action with
    | .write bytes =>
      let s := if s.scrollOnInput && !s.viewport.following then s.scroll .bottom else s
      s.write bytes
    | .scroll command => s.scroll command
    | .ignore => s.note (.inputIgnored event)
  else s

/-- The window of the host has another size. Engine and process are told the clamped one, unless it
is the one they have; a fault of either is logged, and the session takes the size all the same. -/
def resize (s : Session ε) (size : Dimensions) : Session ε :=
  let size := Dimensions.clamped size.cols size.rows
  match s.phase with
  | .running engine =>
    if size = s.size then s
    else
      let s := s.note (.resized s.size size)
      let (engine, fault) := Engine.resize engine size
      let s := s.putEngine engine
      let s := match fault with
        | some fault => s.note (.resizeFailed fault)
        | none => s
      let s := s.ask (.resize size) .processResizeFailed
      ({ s with size }.syncViewport engine).requestFrame
  | _ => s

/-! ### Frames -/

/-- What would be shown now; nothing once the session was stopped. The cursor is hidden while the
end is not followed. -/
def picture? (s : Session ε) : Option Picture :=
  match s.phase with
  | .running engine =>
    let cursor := Engine.cursor engine
    some <| .screen
      { text := Engine.dump engine
        cursor := if cursor.valid && s.viewport.following then some cursor else none
        size := s.size }
  | .ended message => some (.ended message)
  | .stopped => none

/-- Draws a frame if one is wanted and due. What is drawn is the picture at this time, whatever came
before. -/
def tick (s : Session ε) (now : Nat) : Session ε × Option Picture :=
  let (pacer, drawn) := s.pacer.poll now
  ({ s with pacer }, if drawn then s.picture? else none)

/-! ### The side of the process -/

omit [Engine ε]

/-- The process puts an event into the mailbox, and learns what came of it. -/
def offer (s : Session ε) (event : ProcessEvent) : Session ε × Delivery :=
  let (mailbox, delivery) := s.mailbox.offer event
  ({ s with mailbox }, delivery)

/-- The process closes the mailbox. -/
def hangUp (s : Session ε) : Session ε :=
  { s with mailbox := s.mailbox.hangUp }

/-- From now on calls of the process fail for a reason, or succeed again. -/
def setTrouble (s : Session ε) (trouble : Option String) : Session ε :=
  { s with process := { s.process with trouble } }

end Session

end TerminalSession
