import TerminalSession.Notice
import TerminalSession.Terminal.Window

/-!
# Engines

What a session needs of a terminal emulation, whichever it is.

## Main definitions

* `Engine`: the operations, of which some have a default
* `Provider`: makes engines of a size
* `Handle`: an engine that can be released, with the log of its life

## Design notes

* An operation that fails may still have changed the engine, so it gives back the engine in any
  case.
* An engine that does not tell its offset, title or replies is complete all the same.
-/

namespace TerminalSession

/-- The operations of a terminal emulation. Those that can fail hand back the engine together with
the reason, so that an engine may have changed before it failed. An operation with a default has an
answer for engines that do not support it. -/
class Engine (ε : Type) where
  /-- Output of the process arrives. -/
  feed : ε → List UInt8 → ε × Option EngineFault
  /-- The grid takes another size. -/
  resize : ε → Dimensions → ε × Option EngineFault
  /-- The window moves; negative lines go to older output. -/
  scroll : ε → Int → ε × Option EngineFault
  /-- The text of the window, rows of equal width. -/
  dump : ε → Text
  /-- Where the cursor is seen. -/
  cursor : ε → CursorReport
  /-- The replies for the process that have come up, which are then taken. -/
  takeReplies : ε → ε × List UInt8 := fun e => (e, [])
  /-- The title, if there is one. -/
  title : ε → Option Text := fun _ => none
  /-- The rows between the window and the live end, if the engine keeps count. -/
  offset : ε → Option Nat := fun _ => none
  /-- The notices that have come up, which are then taken. -/
  takeNotices : ε → ε × List Notice := fun e => (e, [])
  /-- Whether a number left its range, so that a program with checked arithmetic ends here. -/
  overflowed : ε → Bool := fun _ => false

/-- Makes engines of a size that was checked before, or says why not. The version goes to the
log. -/
structure Provider (ε : Type) where
  version : String
  create : Dimensions → Except EngineFault ε

namespace Provider

/-- A new engine; a size without columns or rows is refused before the provider is asked. -/
def engine? {ε : Type} (provider : Provider ε) (size : Dimensions) : Except EngineFault ε :=
  if size.cols = 0 ∨ size.rows = 0 then .error (.invalidSize size) else provider.create size

end Provider

/-- An engine that can be released once; after that every operation fails. To release it again does
no harm, and is not noted. -/
structure Handle (ε : Type) where
  engine : Option ε
  journal : List Notice := []

namespace Handle

variable {ε : Type} [Engine ε]

/-- A handle on a new engine. -/
def create (provider : Provider ε) (size : Dimensions) : Except EngineFault (Handle ε) :=
  (provider.engine? size).map fun engine =>
    { engine := some engine, journal := [.engineCreated size provider.version] }

/-- A handle on an engine that exists already. Nothing is noted about how it was made. -/
def ofEngine (engine : ε) : Handle ε := { engine := some engine }

/-- Whether the engine was not released yet. -/
def isLive (h : Handle ε) : Bool := h.engine.isSome

/-- The handle with another engine in it; the notices of the engine are written down. -/
def put (h : Handle ε) (engine : ε) : Handle ε :=
  let (engine, notices) := Engine.takeNotices engine
  { engine := some engine, journal := h.journal ++ notices }

/-- An operation on the engine, if it is still there. Its notices are taken whether or not the
operation failed. -/
def operate (h : Handle ε) (f : ε → ε × Option EngineFault) : Handle ε × Option EngineFault :=
  match h.engine with
  | none => (h, some .released)
  | some engine =>
    let (engine, fault) := f engine
    (h.put engine, fault)

/-- Output of the process arrives. -/
def feed (h : Handle ε) (bytes : List UInt8) : Handle ε × Option EngineFault :=
  h.operate fun engine => Engine.feed engine bytes

/-- The grid takes another size, which has to have columns and rows. A size without is refused
before the engine hears of it. -/
def resize (h : Handle ε) (size : Dimensions) : Handle ε × Option EngineFault :=
  h.operate fun engine =>
    if size.cols = 0 ∨ size.rows = 0 then (engine, some (.invalidSize size))
    else Engine.resize engine size

/-- The window moves. -/
def scroll (h : Handle ε) (delta : Int) : Handle ε × Option EngineFault :=
  h.operate fun engine => Engine.scroll engine delta

/-- The text of the window. A handle that was released has none, and says so. -/
def dump (h : Handle ε) : Except EngineFault Text :=
  match h.engine with
  | none => .error .released
  | some engine => .ok (Engine.dump engine)

/-- Where the cursor is seen. A handle that was released shows none. -/
def cursor (h : Handle ε) : CursorReport :=
  (h.engine.map Engine.cursor).getD {}

/-- The replies that have come up, which are then taken, so that each is sent once. A handle that
was released has none. -/
def takeReplies (h : Handle ε) : Handle ε × List UInt8 :=
  match h.engine with
  | none => (h, [])
  | some engine =>
    let (engine, replies) := Engine.takeReplies engine
    (h.put engine, replies)

/-- The title, if there is one. -/
def title (h : Handle ε) : Option Text := h.engine.bind Engine.title

/-- The rows between the window and the live end. -/
def offset (h : Handle ε) : Option Nat := h.engine.bind Engine.offset

/-- Whether a number of the engine left its range. -/
def overflowed (h : Handle ε) : Bool := h.engine.any Engine.overflowed

/-- Releases the engine. A second release does nothing, and is not noted. -/
def release (h : Handle ε) : Handle ε :=
  if h.isLive then { engine := none, journal := h.journal ++ [.engineReleased] } else h

end Handle

end TerminalSession
