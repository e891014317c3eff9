import TerminalSession.Proofs.Terminal.Preservation

/-!
# Runs of an emulator

An emulator is acted on from four sides: output arrives, its size changes, a viewer moves the
window, or an operation is called for directly.

## Main definitions

* `Emulator.Action`: one such act
* `Emulator.perform`: an operation is called for
* `Emulator.act`, `Emulator.run`: the emulator after an action, and after a list

## Main statements

* `Emulator.feed_induction`: what every token keeps of a terminal, a stream of output keeps
-/

namespace TerminalSession.Emulator

/-- An act on an emulator: output, one operation of its terminal, a size, or a movement of the
window. A size has columns and rows, as an engine refuses any other. -/
inductive Action where
  | output (bytes : List UInt8)
  | resize (cols rows : Nat) (cols_pos : 0 < cols) (rows_pos : 0 < rows)
  | scroll (delta : Int)
  | operate (op : Operation)

/-- The emulator with another terminal, and the same place in the stream. -/
def withTerminal (e : Emulator) (terminal : Terminal) : Emulator := { e with terminal }

/-- An operation is performed, and its overflow is remembered. -/
def perform (e : Emulator) (op : Operation) : Emulator :=
  { e with
    terminal := op.perform e.terminal
    overflowed := op.overflows e.terminal || e.overflowed }

/-- The emulator after an action. Each of the public ways to change an emulator is one. -/
def act (e : Emulator) : Action → Emulator
  | .output bytes => e.feed bytes
  | .resize cols rows _ _ => e.withTerminal (e.terminal.resize cols rows)
  | .scroll delta => e.withTerminal (e.terminal.scrollWindow delta)
  | .operate op => e.perform op

/-- The emulator after a list of actions, done in order. A state can be reached if it is the one
after such a list on a fresh emulator. -/
def run (e : Emulator) (actions : List Action) : Emulator :=
  actions.foldl act e

@[simp] theorem run_nil (e : Emulator) : e.run [] = e := rfl

@[simp] theorem run_cons (e : Emulator) (action : Action) (rest : List Action) :
    e.run (action :: rest) = (e.act action).run rest := rfl

/-- What every token keeps of a terminal, a stream of output keeps. -/
theorem feed_induction {P : Terminal → Prop}
    (keeps : ∀ (t : Terminal) (token : Token), P t → P (t.execute token)) {e : Emulator}
    (start : P e.terminal) (bytes : List UInt8) : P (e.feed bytes).terminal := by
  have executed : ∀ (tokens : List Token) (e : Emulator), P e.terminal →
      P (tokens.foldl execute e).terminal := by
    intro tokens
    induction tokens with
    | nil => exact fun _ start => start
    | cons token rest ih => exact fun e start => ih (e.execute token) (keeps _ token start)
  induction bytes generalizing e with
  | nil => exact start
  | cons b rest ih => exact ih (executed _ { e with scanner := (e.scanner.step b).1 } start)

end TerminalSession.Emulator
