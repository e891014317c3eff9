import TerminalSession.Session.Basic

/-!
# Runs of a session

Everything that can happen to a session between its start and its end, from either side.

## Main definitions

* `Session.Action`: one thing that happens
* `Session.act`, `Session.run`: the session after one of them, and after a list

## Main statements

* `Session.run_induction`: what every action keeps, a run keeps

## Design notes

* Time and the process are on the outside: the process offers events, hangs up and fails at any
  moment, and frames are asked for at any time.
-/

namespace TerminalSession.Session

/-- What happens to a session: what its process tells, what its user does, and the ticks of the
display. A run is a list of these, in any order. -/
inductive Action where
  /-- Output arrives directly. -/
  | receive (bytes : List UInt8)
  /-- What waits in the mailbox is taken. -/
  | pump
  | resize (size : Dimensions)
  | input (event : InputEvent)
  | scroll (command : ScrollCommand)
  | wheel (deltaY glyphHeight : Float)
  | tick (now : Nat)
  | stop
  /-- The process puts an event into the mailbox. -/
  | offer (event : ProcessEvent)
  /-- The process closes the mailbox. -/
  | hangUp
  /-- Calls of the process fail from now on, or succeed again. -/
  | setTrouble (trouble : Option String)

variable {ε : Type} [Engine ε]

/-- The session after an action. What an action hands out besides, such as a frame, is not looked at
here. -/
def act (s : Session ε) : Action → Session ε
  | .receive bytes => s.receive bytes
  | .pump => s.pump.1
  | .resize size => s.resize size
  | .input event => s.input event
  | .scroll command => s.scroll command
  | .wheel deltaY glyphHeight => s.wheel deltaY glyphHeight
  | .tick now => (s.tick now).1
  | .stop => s.stop
  | .offer event => (s.offer event).1
  | .hangUp => s.hangUp
  | .setTrouble trouble => s.setTrouble trouble

/-- The session after a list of actions, done in order. Nothing is asked of the list, so it stands
for every course that a session can take. -/
def run (s : Session ε) (actions : List Action) : Session ε :=
  actions.foldl act s

@[simp] theorem run_nil (s : Session ε) : s.run [] = s := rfl

@[simp] theorem run_cons (s : Session ε) (action : Action) (rest : List Action) :
    s.run (action :: rest) = (s.act action).run rest := rfl

/-- The last action of a run is done to the session after the others. -/
theorem run_concat (s : Session ε) (actions : List Action) (action : Action) :
    s.run (actions ++ [action]) = (s.run actions).act action :=
  List.foldl_append

/-- What every action keeps, a run keeps. -/
theorem run_induction {P : Session ε → Prop}
    (keeps : ∀ (s : Session ε) (action : Action), P s → P (s.act action)) {s : Session ε}
    (start : P s) (actions : List Action) : P (s.run actions) := by
  induction actions generalizing s with
  | nil => exact start
  | cons action rest ih => exact ih (keeps s action start)

/-! ### What the parts of operations leave alone -/

omit [Engine ε]

@[simp] theorem phase_note (s : Session ε) (notice : Notice) : (s.note notice).phase = s.phase :=
  rfl

@[simp] theorem phase_requestFrame (s : Session ε) : s.requestFrame.phase = s.phase := rfl

@[simp] theorem phase_ask (s : Session ε) (call : ProcessCall) (notice : ProcessFault → Notice) :
    (s.ask call notice).phase = s.phase := by
  unfold ask
  split <;> rfl

@[simp] theorem viewport_ask (s : Session ε) (call : ProcessCall)
    (notice : ProcessFault → Notice) : (s.ask call notice).viewport = s.viewport := by
  unfold ask
  split <;> rfl

@[simp] theorem mailbox_ask (s : Session ε) (call : ProcessCall)
    (notice : ProcessFault → Notice) : (s.ask call notice).mailbox = s.mailbox := by
  unfold ask
  split <;> rfl

@[simp] theorem size_ask (s : Session ε) (call : ProcessCall)
    (notice : ProcessFault → Notice) : (s.ask call notice).size = s.size := by
  unfold ask
  split <;> rfl

@[simp] theorem phase_write (s : Session ε) (bytes : List UInt8) :
    (s.write bytes).phase = s.phase := s.phase_ask _ _

@[simp] theorem viewport_write (s : Session ε) (bytes : List UInt8) :
    (s.write bytes).viewport = s.viewport := s.viewport_ask _ _

@[simp] theorem phase_release (s : Session ε) (phase : Phase ε) : (s.release phase).phase = phase := by
  unfold release
  split <;> simp

@[simp] theorem phase_processGone (s : Session ε) (message : String) :
    (s.processGone message).phase = .ended message := by
  simp [processGone]

/-- A session in its running phase runs, and one that runs is in it with some engine. -/
theorem isRunning_eq_true {s : Session ε} {engine : ε} (running : s.phase = .running engine) :
    s.isRunning = true := by
  simp [isRunning, running]

theorem exists_of_isRunning {s : Session ε} (running : s.isRunning = true) :
    ∃ engine, s.phase = .running engine := by
  unfold isRunning at running
  split at running
  next engine phase => exact ⟨engine, phase⟩
  · exact nomatch running

end TerminalSession.Session
