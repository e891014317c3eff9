import TerminalSession.Display.Surface
import TerminalSession.Session.Basic

/-!
# Views

A session on a surface: events of the host go to the session, its frames to the surface, and a
message takes their place when there is no session to show.

## Main definitions

* `View`: a surface, and a session or the message that tells why there is none
* `View.opening`: starts a session of the size of the surface
* `View.tick`: draws what is due
* `View.input`, `View.scroll`, `View.wheel`, `View.resize`, `View.pump`, `View.close`: events

## Design notes

* The message about a failed start is drawn once, on the first tick, and then there is nothing more
  to draw. Drawing it again after a fault of the surface would not help.
-/

namespace TerminalSession

/-- A session on a surface. A start that failed leaves a view without a session, which has a message
to draw and the notices of the start to tell. -/
structure View (σ ε : Type) where
  surface : σ
  session : Option (Session ε) := none
  /-- The message that the next tick draws. -/
  message : Option String := none
  /-- What was logged by a start that failed. -/
  journal : Array Notice := #[]

namespace View

variable {σ ε : Type} [Surface σ] [Engine ε]

/-- What a reader is told when there is no engine. -/
def noEngineMessage : String := "Terminal engine unavailable"

/-- A view without a session, for the reason given. The message is drawn at the next tick, once. -/
def withoutSession (surface : σ) (failure : StartFailure) : View σ ε :=
  match failure.fault with
  | .noEngine =>
    { surface, message := some noEngineMessage, journal := failure.journal.push .noEngine }
  | fault =>
    { surface, message := some fault.message
      journal := failure.journal.push (.startFailed fault) }

/-- A view with a session of the size of its surface, if one can be started. If not, the view has a
message to show instead. -/
def opening (surface : σ) (options : SessionOptions) (provider : Option (Provider ε))
    (refusal : Option ProcessFault) : View σ ε :=
  match Session.start options (Surface.metrics surface).dimensions provider refusal with
  | .ok session => { surface, session := some session }
  | .error failure => withoutSession surface failure

/-! ### Looking at a view -/

omit [Surface σ] [Engine ε] in
/-- Whether a session runs. -/
def isAlive (v : View σ ε) : Bool :=
  v.session.any Session.isRunning

/-- The title that the process has set. -/
def title (v : View σ ε) : Option Text :=
  v.session.bind Session.title

/-- Whether a number of the engine left its range. -/
def overflowed (v : View σ ε) : Bool :=
  v.session.any Session.overflowed

/-! ### Events of the host -/

/-- An event reaches the session, if there is one. Without one it is lost. -/
def update (v : View σ ε) (f : Session ε → Session ε) : View σ ε :=
  { v with session := v.session.map f }

/-- The user types, pastes or composes. -/
def input (v : View σ ε) (event : InputEvent) : View σ ε :=
  v.update fun s => s.input event

/-- The user moves the window, by a command and not by the wheel. -/
def scroll (v : View σ ε) (command : ScrollCommand) : View σ ε :=
  v.update fun s => s.scroll command

/-- The user turns the wheel, by units of the surface, towards newer output when positive. -/
def wheel (v : View σ ε) (deltaY : Float) : View σ ε :=
  v.update fun s => s.wheel deltaY (Surface.metrics v.surface).glyphHeight

/-- The geometry of the surface has changed. The size is read off the surface, so it cannot be one
that the surface does not have. -/
def resize (v : View σ ε) : View σ ε :=
  v.update fun s => s.resize (Surface.metrics v.surface).dimensions

/-- Takes the output that waits: the view after it, and whether there was any. Without a session
nothing waits. -/
def pump (v : View σ ε) : View σ ε × Bool :=
  match v.session with
  | some session =>
    let (session, received) := session.pump
    ({ v with session := some session }, received)
  | none => (v, false)

/-- The host closes the view. Its session is stopped, and shows nothing from then on. -/
def close (v : View σ ε) : View σ ε :=
  v.update Session.stop

/-! ### Drawing -/

/-- The view with what came of drawing: the fault of the surface, or that something was drawn. -/
def drawn (v : View σ ε) (result : σ × Option SurfaceFault) :
    View σ ε × Except SurfaceFault Bool :=
  ({ v with surface := result.1 },
    match result.2 with
    | some fault => .error fault
    | none => .ok true)

/-- A message takes the place of the grid. -/
def showMessage (v : View σ ε) (message : String) : View σ ε × Except SurfaceFault Bool :=
  v.drawn (Surface.showMessage v.surface message)

/-- The frame of what a session shows, in the geometry given. The offset is told only while the
window stands back. -/
def frameOf (metrics : Metrics) (session : Session ε) (snapshot : Snapshot) : Frame where
  text := snapshot.text
  cursor := snapshot.cursor.bind metrics.cursorOrigin?
  title := session.title
  offset := if session.viewport.following then 0 else session.viewport.offset

/-- Draws what is due: the view after it, and whether anything was drawn. A message goes before
anything that a session shows. -/
def tick (v : View σ ε) (now : Nat) : View σ ε × Except SurfaceFault Bool :=
  match v.message, v.session with
  | some message, _ => { v with message := none }.showMessage message
  | none, none => (v, .ok false)
  | none, some session =>
    let (session, picture) := session.tick now
    let v := { v with session := some session }
    match picture with
    | some (.screen snapshot) =>
      v.drawn (Surface.present v.surface (frameOf (Surface.metrics v.surface) session snapshot))
    | some (.ended message) => v.showMessage message
    | none => (v, .ok false)

end View

end TerminalSession
