import TerminalSession.Display.View
import TerminalSession.Proofs.Session.Run

/-!
# Runs of a view

Everything that can happen to a view between its opening and its end, from the host, from the
surface and from the process.

## Main definitions

* `View.Action`: one thing that happens
* `View.act`, `View.run`: the view after one of them, and after a list
* `Recorded`: a surface that keeps record of what it is asked to draw

## Main statements

* `View.exists_session_act`: what happens to a view happens to its session
* `View.unrecorded_run`: keeping record changes nothing

## Design notes

* The host owns the surface and may change it at any time: its geometry, or whether its calls fail.
* A record is kept outside the surface, so that nothing has to be assumed of the surface itself.
-/

namespace TerminalSession

/-! ### Runs -/

namespace View

/-- What happens to a view: what its user, its host and its process do, and the ticks at which it
may draw. A run is a list of these, in any order. -/
inductive Action (σ : Type) where
  | input (event : InputEvent)
  | scroll (command : ScrollCommand)
  | wheel (deltaY : Float)
  | resize
  | pump
  | tick (now : Nat)
  | close
  /-- The host changes the surface. -/
  | alter (change : σ → σ)
  /-- The process puts an event into the mailbox. -/
  | offer (event : ProcessEvent)
  /-- The process closes the mailbox. -/
  | hangUp
  /-- Calls of the process fail from now on, or succeed again. -/
  | setTrouble (trouble : Option String)

variable {σ ε : Type} [Surface σ] [Engine ε]

/-- The view after an action. -/
def act (v : View σ ε) : Action σ → View σ ε
  | .input event => v.input event
  | .scroll command => v.scroll command
  | .wheel deltaY => v.wheel deltaY
  | .resize => v.resize
  | .pump => v.pump.1
  | .tick now => (v.tick now).1
  | .close => v.close
  | .alter change => { v with surface := change v.surface }
  | .offer event => v.update fun s => (s.offer event).1
  | .hangUp => v.update Session.hangUp
  | .setTrouble trouble => v.update fun s => s.setTrouble trouble

/-- The view after a list of actions. -/
def run (v : View σ ε) (actions : List (Action σ)) : View σ ε :=
  actions.foldl act v

@[simp] theorem run_nil (v : View σ ε) : v.run [] = v := rfl

@[simp] theorem run_cons (v : View σ ε) (action : Action σ) (rest : List (Action σ)) :
    v.run (action :: rest) = (v.act action).run rest := rfl

theorem run_append (v : View σ ε) (actions more : List (Action σ)) :
    v.run (actions ++ more) = (v.run actions).run more :=
  List.foldl_append

/-! ### The session of a view -/

/-- What happens to a view happens to its session, as at most one action of the session; a view
without a session has none afterwards. -/
theorem exists_session_act (v : View σ ε) (action : Action σ) :
    ∃ actions : List Session.Action,
      (v.act action).session = v.session.map fun s => s.run actions := by
  cases action with
  | input event => exact ⟨[.input event], rfl⟩
  | scroll command => exact ⟨[.scroll command], rfl⟩
  | wheel deltaY => exact ⟨[.wheel deltaY _], rfl⟩
  | resize => exact ⟨[.resize _], rfl⟩
  | pump =>
    refine ⟨[.pump], ?_⟩
    rw [act]
    unfold pump
    cases session_eq : v.session with
    | none => exact session_eq
    | some s => rfl
  | tick now =>
    rw [act]
    unfold tick
    split
    -- The message about a failed start does not wait for the session.
    · exact ⟨[], Option.map_id'.symm⟩
    next session_eq => exact ⟨[], by rw [session_eq]; rfl⟩
    next s _ session_eq =>
      refine ⟨[.tick now], ?_⟩
      rw [session_eq]
      dsimp only
      split <;> rfl
  | close => exact ⟨[.stop], rfl⟩
  | alter change => exact ⟨[], Option.map_id'.symm⟩
  | offer event => exact ⟨[.offer event], rfl⟩
  | hangUp => exact ⟨[.hangUp], rfl⟩
  | setTrouble trouble => exact ⟨[.setTrouble trouble], rfl⟩

/-- Only a tick draws the message that waits. -/
theorem message_act (v : View σ ε) {action : Action σ} (draws_not : ∀ now, action ≠ .tick now) :
    (v.act action).message = v.message := by
  cases action with
  | pump =>
    rw [act]
    unfold pump
    split <;> rfl
  | tick now => exact absurd rfl (draws_not now)
  | _ => rfl

/-- A tick leaves no message. -/
theorem message_tick (v : View σ ε) (now : Nat) : (v.tick now).1.message = none := by
  unfold tick
  split
  · rfl
  next message_eq _ => exact message_eq
  next message_eq _ =>
    dsimp only
    split <;> exact message_eq

end View

/-! ### Keeping record -/

/-- What a surface is asked to draw. -/
inductive Drawing where
  | frame (frame : Frame)
  | message (message : String)

/-- A surface that keeps record of what it is asked to draw, whether or not that fails. Its record
is what the theorems about views speak of. -/
structure Recorded (σ : Type) where
  surface : σ
  /-- The drawings asked for, oldest first. -/
  drawings : List Drawing := []

instance {σ : Type} [Surface σ] : Surface (Recorded σ) where
  metrics r := Surface.metrics r.surface
  present r frame :=
    ({ surface := (Surface.present r.surface frame).1, drawings := r.drawings ++ [.frame frame] },
      (Surface.present r.surface frame).2)
  showMessage r message :=
    ({ surface := (Surface.showMessage r.surface message).1
       drawings := r.drawings ++ [.message message] },
      (Surface.showMessage r.surface message).2)

namespace View

variable {σ ε : Type}

/-- The action on a view whose surface is recorded. A change by the host does not touch the
record. -/
def Action.recorded : Action σ → Action (Recorded σ)
  | .input event => .input event
  | .scroll command => .scroll command
  | .wheel deltaY => .wheel deltaY
  | .resize => .resize
  | .pump => .pump
  | .tick now => .tick now
  | .close => .close
  | .alter change => .alter fun r => { r with surface := change r.surface }
  | .offer event => .offer event
  | .hangUp => .hangUp
  | .setTrouble trouble => .setTrouble trouble

/-- The view on the surface alone. -/
def unrecorded (v : View (Recorded σ) ε) : View σ ε :=
  { surface := v.surface.surface, session := v.session, message := v.message, journal := v.journal }

variable [Surface σ] [Engine ε]

theorem unrecorded_opening (surface : σ) (options : SessionOptions) (provider : Option (Provider ε))
    (refusal : Option ProcessFault) :
    (opening (σ := Recorded σ) { surface } options provider refusal).unrecorded =
      opening surface options provider refusal := by
  have metrics_eq : Surface.metrics ({ surface } : Recorded σ) = Surface.metrics surface := rfl
  unfold opening
  rw [metrics_eq]
  split
  · rfl
  · unfold withoutSession
    split <;> rfl

omit [Surface σ] in
theorem unrecorded_pump (v : View (Recorded σ) ε) : v.pump.1.unrecorded = v.unrecorded.pump.1 := by
  have session_eq : v.unrecorded.session = v.session := rfl
  unfold pump
  rw [session_eq]
  split <;> rfl

/-- A tick draws the same with a record and without, and comes to the same. -/
theorem unrecorded_tick (v : View (Recorded σ) ε) (now : Nat) :
    (v.tick now).1.unrecorded = (v.unrecorded.tick now).1 ∧
      (v.tick now).2 = (v.unrecorded.tick now).2 := by
  have message_eq : v.unrecorded.message = v.message := rfl
  have session_eq : v.unrecorded.session = v.session := rfl
  unfold tick
  rw [message_eq, session_eq]
  split
  · exact ⟨rfl, rfl⟩
  · exact ⟨rfl, rfl⟩
  · dsimp only
    split <;> exact ⟨rfl, rfl⟩

theorem unrecorded_act (v : View (Recorded σ) ε) (action : Action σ) :
    (v.act action.recorded).unrecorded = v.unrecorded.act action := by
  cases action with
  | pump => exact v.unrecorded_pump
  | tick now => exact (v.unrecorded_tick now).1
  | _ => rfl

/-- Only a tick draws. -/
theorem drawings_act (v : View (Recorded σ) ε) {action : Action σ}
    (draws_not : ∀ now, action ≠ .tick now) :
    (v.act action.recorded).surface.drawings = v.surface.drawings := by
  cases action with
  | pump =>
    rw [Action.recorded, act]
    unfold pump
    split <;> rfl
  | tick now => exact absurd rfl (draws_not now)
  | _ => rfl

/-- Keeping record changes nothing. -/
theorem unrecorded_run (v : View (Recorded σ) ε) (actions : List (Action σ)) :
    (v.run (actions.map .recorded)).unrecorded = v.unrecorded.run actions := by
  induction actions generalizing v with
  | nil => rfl
  | cons action rest ih =>
    rw [List.map_cons, run_cons, run_cons, ih, unrecorded_act]

end View

end TerminalSession
