/-!
# Frame pacing

Any number of changes between two frames make up one frame, and frames keep a distance in time.

## Main definitions

* `FramePacer`: the distance, whether a frame is wanted, and when the last one was drawn
* `FramePacer.poll`: draw a frame now, if one is wanted and due
* `FramePacer.wait`: how long until a frame may be drawn

## Design notes

* Times are microseconds from any instant. A time before the last frame counts as no time passed.
-/

namespace TerminalSession

/-- When frames are drawn. A request stays pending until a tick takes it, and two frames are at
least an interval apart; `last` is the time of the last one, in the units of the interval. -/
structure FramePacer where
  interval : Nat
  pending : Bool := false
  last : Option Nat := none
  deriving DecidableEq, Repr, Inhabited

namespace FramePacer

/-- The distance of frames when nothing else is said. -/
def defaultInterval : Nat := 16000

/-- The display is out of date. To say so again before the next frame makes no difference. -/
def request (p : FramePacer) : FramePacer := { p with pending := true }

/-- Whether a frame was wanted; it no longer is. No heed is paid to the time. -/
def take (p : FramePacer) : FramePacer × Bool := ({ p with pending := false }, p.pending)

/-- Whether enough time has passed since the last frame. The first one is always due. A clock that
goes back counts as no time at all. -/
def due (p : FramePacer) (now : Nat) : Bool :=
  match p.last with
  | some last => p.interval ≤ now - last
  | none => true

/-- Whether a frame is drawn now. Then none is wanted any more, and the next one has to wait. -/
def poll (p : FramePacer) (now : Nat) : FramePacer × Bool :=
  if p.pending && p.due now then ({ p with pending := false, last := some now }, true)
  else (p, false)

/-- The time until a frame may be drawn, which is none if it may be drawn at once. It does not
depend on whether one is wanted. -/
def wait (p : FramePacer) (now : Nat) : Nat :=
  match p.last with
  | some last => p.interval - (now - last)
  | none => 0

end FramePacer

end TerminalSession
