import TerminalSession.Engine.Builtin
import TerminalSession.Proofs.Emulator.Run
import TerminalSession.Proofs.Session.Run

/-!
# What operations do to a session

Every operation of a session on the engine of this library is one equation, the journal aside. What
a property of sessions needs to know about an operation is read off its equation.

## Main definitions

* `SessionOptions.request`: what a process is started with
* `Session.silent`: the session without its journal
* `Session.absorb`: the session that has taken over an emulator with its output read
* `Session.encoded`, `Session.returned`, `Session.carryOut`: input, step by step
* `Session.Keeps`: a property of terminals that output, a change of the size and a movement of the
  window keep
* `Session.Holds`: what the terminal of a session has while the session runs
* `Process.record`: the process with more calls on record
* `Emulator.quiet`: the emulator once its replies were sent and its notices written down

## Main statements

* `Session.exists_of_start`: a session that was started
* `Session.silent_receive`, `Session.silent_scrollEngine`, `Session.silent_resize`: the operations on
  the engine of a session that runs
* `Session.silent_processGone`, `Session.silent_stop`: the two ways to leave that phase
* `Session.Holds.run`: what sessions keep of their terminal, they keep along every run

## Design notes

* A field of `s.silent` is the field of `s` by definition. So `congrArg` turns an equation of silent
  sessions into one about a field, and nothing has to be stated field by field.
-/

namespace TerminalSession

/-- The emulator once its replies were sent and its notices written down. -/
def Emulator.quiet (e : Emulator) : Emulator := { e with replies := #[], unknown := #[] }

/-- The calls that send bytes to a process: none, when there are no bytes. -/
def ProcessCall.sending (bytes : List UInt8) : List ProcessCall :=
  if bytes.isEmpty then [] else [.write bytes]

/-- The process with more calls on record. -/
def Process.record (p : Process) (calls : List ProcessCall) : Process :=
  { p with calls := p.calls ++ calls.toArray }

@[simp] theorem Process.record_nil (p : Process) : p.record [] = p := by
  simp [record]

/-- What is recorded in two parts is recorded in one. -/
theorem Process.record_append (p : Process) (calls later : List ProcessCall) :
    p.record (calls ++ later) = (p.record calls).record later := by
  simp [record]

/-- A call is on record whether or not it fails: the process decides that after it was asked. -/
theorem Process.ask_fst (p : Process) (call : ProcessCall) : (p.ask call).1 = p.record [call] := by
  simp [record, ask]

/-- What a process is started with. -/
def SessionOptions.request (options : SessionOptions) (size : Dimensions) : SpawnRequest :=
  { shell := options.shell, args := options.args, cwd := options.cwd, env := options.env
    size := Dimensions.clamped size.cols size.rows }

/-- An engine of this library is created empty. -/
theorem Emulator.eq_fresh_of_created {limit : Nat} {size : Dimensions} {e : Emulator}
    (created : (Emulator.provider limit).engine? size = .ok e) :
    e = Emulator.fresh size.cols size.rows limit := by
  unfold Provider.engine? provider at created
  dsimp only at created
  split at created
  · exact nomatch created
  · exact (Except.ok.inj created).symm

namespace Session

/-! ### The start -/

/-- A session that was started runs with an engine that was created, and its process was asked
nothing yet but to be spawned. A first frame is wanted right away. -/
theorem exists_of_start {ε : Type} [Engine ε] {options : SessionOptions} {size : Dimensions}
    {provider : Option (Provider ε)} {refusal : Option ProcessFault} {s : Session ε}
    (started : Session.start options size provider refusal = .ok s) :
    let clamped := Dimensions.clamped size.cols size.rows
    ∃ (p : Provider ε) (e : ε), provider = some p ∧ p.engine? clamped = .ok e ∧
      s =
        { phase := .running e
          process := Process.spawned (options.request size)
          mailbox := Mailbox.empty options.mailboxCapacity
          size := clamped
          pacer := { interval := options.frameInterval, pending := true }
          scrollOnInput := options.scrollOnInput
          journal := #[.engineCreated clamped p.version, .sessionStarted options.shell clamped] } := by
  unfold Session.start at started
  dsimp only at started
  split at started
  · exact nomatch started
  next p =>
    split at started
    · exact nomatch started
    next e created =>
      split at started
      · exact nomatch started
      · exact ⟨p, e, rfl, created, (Except.ok.inj started).symm⟩

/-! ### Parts of operations -/

/-- The session without its journal. Two sessions with the same silent part do the same from there
on. -/
def silent {ε : Type} (s : Session ε) : Session ε := { s with journal := #[] }

section Parts

variable {ε : Type} (s : Session ε)

/-- A note goes to the journal, and to nothing else. -/
theorem silent_note (notice : Notice) : (s.note notice).silent = s.silent := rfl

theorem silent_requestFrame : s.requestFrame.silent = s.silent.requestFrame := rfl

/-- A call to the process is recorded, and its failure is a matter of the journal. So what a session
does next does not depend on how its process answers. -/
theorem silent_ask (call : ProcessCall) (notice : ProcessFault → Notice) :
    (s.ask call notice).silent = { s.silent with process := s.process.record [call] } := by
  rw [← Process.ask_fst]
  unfold ask
  split
  next process eq => rw [eq]; rfl
  next process fault eq => rw [eq]; rfl

theorem silent_write (bytes : List UInt8) :
    (s.write bytes).silent = { s.silent with process := s.process.record [.write bytes] } :=
  s.silent_ask (.write bytes) .writeFailed

/-- Leaving the running phase closes the mailbox and kills the process. -/
theorem silent_release_of_running {engine : ε} (running : s.phase = .running engine)
    (phase : Phase ε) :
    (s.release phase).silent =
      { s.silent with
        phase, process := s.process.record [.kill], mailbox := s.mailbox.close } := by
  unfold release
  rw [running]
  exact silent_ask _ _ _

/-- The engine of a session belongs to its running phase. One that does not run has none to look
at. -/
theorem phase_ne_running {s : Session ε} (idle : s.isRunning = false) (engine : ε) :
    s.phase ≠ .running engine := by
  intro running
  rw [isRunning_eq_true running] at idle
  exact nomatch idle

/-- A session that does not run has nothing to let go of, so no second kill is asked for. -/
theorem release_of_not_running (idle : s.isRunning = false) (phase : Phase ε) :
    s.release phase = { s with phase } := by
  unfold release
  split
  next engine running => exact absurd running (phase_ne_running idle engine)
  · rfl

/-! ### The end of a session -/

/-- The process has ended by itself: it is killed all the same, the mailbox is closed, and a frame
that shows the end is wanted. -/
theorem silent_processGone {engine : ε} (running : s.phase = .running engine)
    (message : String) :
    (s.processGone message).silent =
      { s.silent with
        phase := .ended message
        process := s.process.record [.kill]
        mailbox := s.mailbox.close
        pacer := s.pacer.request } := by
  have noted : (s.note (.processGone message)).phase = .running engine := running
  unfold processGone
  rw [silent_requestFrame, silent_release_of_running _ noted, silent_note]
  rfl

/-- After the end of a session another end replaces its message and asks for a frame. Process and
mailbox are left alone. -/
theorem silent_processGone_of_not_running (idle : s.isRunning = false) (message : String) :
    (s.processGone message).silent =
      { s.silent with phase := .ended message, pacer := s.pacer.request } := by
  have idle' : (s.note (.processGone message)).isRunning = false := idle
  unfold processGone
  rw [release_of_not_running _ idle']
  rfl

/-- A session is stopped by its user: unlike an end of the process this asks for no frame. -/
theorem silent_stop {engine : ε} (running : s.phase = .running engine) :
    s.stop.silent =
      { s.silent with
        phase := .stopped, process := s.process.record [.kill], mailbox := s.mailbox.close } := by
  unfold stop
  rw [running]
  exact (s.note .sessionStopped).silent_release_of_running running .stopped

end Parts

/-! ### Operations that do nothing -/

section Idle

variable {ε : Type} [Engine ε] {s : Session ε}

/-- A session that does not run reads nothing. -/
theorem receive_of_not_running (idle : s.isRunning = false) (bytes : List UInt8) :
    s.receive bytes = s := by
  unfold receive
  split
  next engine running => exact absurd running (phase_ne_running idle engine)
  · rfl

/-- Nor does it move a window, and the viewport is not told anything. -/
theorem scrollEngine_of_not_running (idle : s.isRunning = false) (delta : Int) :
    s.scrollEngine delta = s := by
  unfold scrollEngine
  split
  next engine running => exact absurd running (phase_ne_running idle engine)
  · rfl

/-- Nor does it take a new size. -/
theorem resize_of_not_running (idle : s.isRunning = false) (size : Dimensions) :
    s.resize size = s := by
  unfold resize
  dsimp only
  split
  next engine running => exact absurd running (phase_ne_running idle engine)
  · rfl

/-- Without another size nothing happens. -/
theorem resize_of_eq {size : Dimensions} (eq : Dimensions.clamped size.cols size.rows = s.size) :
    s.resize size = s := by
  unfold resize
  dsimp only
  split
  · exact if_pos eq
  · rfl

end Idle

/-! ### Operations on the engine -/

variable {s : Session Emulator} {e : Emulator}

/-- The viewport is told the offset of an engine, without a note. -/
theorem silent_syncViewport (s : Session Emulator) (e : Emulator) :
    (s.syncViewport e).silent = s.silent.syncViewport e := rfl

/-- What an engine did not understand goes to the journal when the engine is put back, so that it is
noted once. -/
theorem silent_putEngine (s : Session Emulator) (e : Emulator) :
    (s.putEngine e).silent = { s.silent with phase := .running { e with unknown := #[] } } := rfl

/-- The session that has taken over an emulator with its output read, where `calls` were made to
send its replies: the viewport is told the offset of the window, and a frame is wanted. -/
def absorb (s : Session Emulator) (e : Emulator) (calls : List ProcessCall) : Session Emulator :=
  { s.silent with
    phase := .running e.quiet
    process := s.process.record calls
    viewport := s.viewport.sync e.terminal.screen.offset
    pacer := s.pacer.request }

/-- Output is read, and what the emulator replies is sent, unless it is nothing. The viewport is
told where the window stands by then, and a frame is wanted. -/
theorem silent_receive (running : s.phase = .running e) (bytes : List UInt8) :
    (s.receive bytes).silent =
      s.absorb (e.feed bytes) (ProcessCall.sending (e.feed bytes).pendingBytes) := by
  let fed : Emulator := { e.feed bytes with replies := #[] }
  have equation : s.receive bytes =
      ((if (e.feed bytes).pendingBytes.isEmpty then s.putEngine fed
        else (s.putEngine fed).write (e.feed bytes).pendingBytes).syncViewport fed).requestFrame := by
    unfold receive
    rw [running]
    rfl
  rw [equation, silent_requestFrame, silent_syncViewport]
  unfold ProcessCall.sending absorb
  split
  · rw [Process.record_nil]
    rfl
  · rw [silent_write, silent_putEngine]
    rfl

/-- The window moves, the viewport is told its offset, and a frame is wanted. -/
theorem silent_scrollEngine (running : s.phase = .running e) (delta : Int) :
    (s.scrollEngine delta).silent =
      { s.silent with
        phase := .running { e with terminal := e.terminal.scrollWindow delta, unknown := #[] }
        viewport := s.viewport.sync (e.terminal.scrollWindow delta).screen.offset
        pacer := s.pacer.request } := by
  unfold scrollEngine
  rw [running]
  rfl

/-- A size that is another one goes to the terminal and to the process, the viewport is told the
offset of the window, and a frame is wanted. -/
theorem silent_resize (running : s.phase = .running e) {size clamped : Dimensions}
    (clamped_eq : clamped = Dimensions.clamped size.cols size.rows) (ne : clamped ≠ s.size) :
    (s.resize size).silent =
      { s.silent with
        phase := .running
          { e with terminal := e.terminal.resize clamped.cols clamped.rows, unknown := #[] }
        process := s.process.record [.resize clamped]
        size := clamped
        viewport := s.viewport.sync (e.terminal.resize clamped.cols clamped.rows).screen.offset
        pacer := s.pacer.request } := by
  let resized : Emulator := { e with terminal := e.terminal.resize clamped.cols clamped.rows }
  let asked := ((s.note (.resized s.size clamped)).putEngine resized).ask (.resize clamped)
    .processResizeFailed
  have equation :
      s.resize size = (({ asked with size := clamped } : Session Emulator).syncViewport
        resized).requestFrame := by
    subst clamped_eq
    unfold resize
    rw [running]
    exact if_neg ne
  have asked_silent := ((s.note (.resized s.size clamped)).putEngine resized).silent_ask
    (.resize clamped) .processResizeFailed
  rw [equation]
  change ((({ asked.silent with size := clamped } : Session Emulator).syncViewport
    resized).requestFrame) = _
  rw [asked_silent]
  rfl

/-- What a session that runs would show now. -/
theorem picture?_of_running (running : s.phase = .running e) :
    s.picture? = some (.screen
      { text := e.terminal.dump
        cursor := if e.terminal.cursorReport.valid && s.viewport.following
          then some e.terminal.cursorReport else none
        size := s.size }) := by
  unfold picture?
  rw [running]
  rfl

/-! ### Input, step by step -/

section Input

variable {ε : Type} [Engine ε] (s : Session ε)

/-- An event is encoded: the composition goes on, and a paste is written down. -/
def encoded (event : InputEvent) : Session ε :=
  { s with
    composer := (s.composer.encode event s.size.rows).1
    journal := s.journal ++ (s.composer.pasteNotice? event).toArray }

/-- Before input is written, the window returns to the live end, if that is wanted. -/
def returned : Session ε :=
  if s.scrollOnInput && !s.viewport.following then s.scroll .bottom else s

/-- What an event comes to is done. Bytes are written once the window is back at the live end, if
that is wanted; a movement goes to the engine, and an ignored event only to the journal. -/
def carryOut (event : InputEvent) : InputAction → Session ε
  | .write bytes => s.returned.write bytes
  | .scroll command => s.scroll command
  | .ignore => s.note (.inputIgnored event)

/-- An event is encoded first, and what it comes to is done on the session with the new
composition. -/
theorem input_of_running (running : s.isRunning = true) (event : InputEvent) :
    s.input event = (s.encoded event).carryOut event (s.composer.encode event s.size.rows).2 := by
  unfold input carryOut
  rw [if_pos running]
  rfl

theorem input_of_not_running (idle : s.isRunning = false) (event : InputEvent) :
    s.input event = s := by
  unfold input
  rw [idle]
  rfl

end Input

/-! ### What a session keeps of its terminal -/

/-- What the terminal of a session has while the session runs. Of one that does not run it says
nothing. -/
def Holds (P : Terminal → Prop) (s : Session Emulator) : Prop :=
  ∀ e : Emulator, s.phase = .running e → P e.terminal

/-- A property of terminals that a session keeps: output keeps it, and so do a change of the size to
one that sessions use and a movement of the window. -/
structure Keeps (P : Terminal → Prop) : Prop where
  execute : ∀ (t : Terminal) (token : Token), P t → P (t.execute token)
  resize : ∀ (t : Terminal) (size : Dimensions), Dimensions.least ≤ size.cols →
    Dimensions.least ≤ size.rows → P t → P (t.resize size.cols size.rows)
  scrollWindow : ∀ (t : Terminal) (delta : Int), P t → P (t.scrollWindow delta)

namespace Holds

variable {P : Terminal → Prop} {s s' : Session Emulator}

/-- Only the phase is looked at, so what changes other fields keeps what the terminal has. -/
theorem congr (holds : s.Holds P) (phase_eq : s'.phase = s.phase) : s'.Holds P :=
  fun e running => holds e (phase_eq ▸ running)

theorem of_running {e : Emulator} (running : s.phase = .running e) (holds : P e.terminal) :
    s.Holds P := by
  intro e' running'
  obtain rfl := Phase.running.inj (running.symm.trans running')
  exact holds

/-- A session that has ended has no terminal, so it has what one asks for. -/
theorem of_not_running (idle : s.isRunning = false) : s.Holds P :=
  fun e running => absurd running (phase_ne_running idle e)

/-- Output is a list of tokens to the terminal. -/
theorem receive (keeps : Keeps P) (holds : s.Holds P) (bytes : List UInt8) :
    (s.receive bytes).Holds P := by
  cases is_running : s.isRunning with
  | true =>
    obtain ⟨e, running⟩ := exists_of_isRunning is_running
    refine of_running (congrArg Session.phase (silent_receive running bytes)) ?_
    exact Emulator.feed_induction keeps.execute (holds e running) bytes
  | false => rwa [receive_of_not_running is_running]

/-- A session clamps the size it is asked for, and so needs the property to be kept only for sizes
that were clamped. -/
theorem resize (keeps : Keeps P) (holds : s.Holds P) (size : Dimensions) :
    (s.resize size).Holds P := by
  cases is_running : s.isRunning with
  | true =>
    obtain ⟨e, running⟩ := exists_of_isRunning is_running
    by_cases same : Dimensions.clamped size.cols size.rows = s.size
    · rwa [resize_of_eq same]
    · refine of_running (congrArg Session.phase (silent_resize running rfl same)) ?_
      exact keeps.resize _ _ (Dimensions.least_le_clampSide _) (Dimensions.least_le_clampSide _)
        (holds e running)
  | false => rwa [resize_of_not_running is_running]

theorem scrollEngine (keeps : Keeps P) (holds : s.Holds P) (delta : Int) :
    (s.scrollEngine delta).Holds P := by
  cases is_running : s.isRunning with
  | true =>
    obtain ⟨e, running⟩ := exists_of_isRunning is_running
    refine of_running (congrArg Session.phase (silent_scrollEngine running delta)) ?_
    exact keeps.scrollWindow _ delta (holds e running)
  | false => rwa [scrollEngine_of_not_running is_running]

/-- The viewport moves first; what it asks of the engine is a movement of the window, if
anything. -/
theorem follow (keeps : Keeps P) (holds : s.Holds P) (moved : Viewport × Option Int) :
    (s.follow moved).Holds P := by
  have moved_holds : ({ s with viewport := moved.1 } : Session Emulator).Holds P := holds.congr rfl
  unfold Session.follow
  dsimp only
  split
  · exact moved_holds.scrollEngine keeps _
  · exact moved_holds

theorem scroll (keeps : Keeps P) (holds : s.Holds P) (command : ScrollCommand) :
    (s.scroll command).Holds P := by
  unfold Session.scroll
  split
  · exact holds.follow keeps _
  · exact holds

theorem wheel (keeps : Keeps P) (holds : s.Holds P) (deltaY glyphHeight : Float) :
    (s.wheel deltaY glyphHeight).Holds P := by
  unfold Session.wheel
  split
  · exact holds.follow keeps _
  · exact holds

/-- What is typed goes to the process and not to the terminal. The terminal is concerned only if the
window returns to the end, or if a key stands for a movement. -/
theorem input (keeps : Keeps P) (holds : s.Holds P) (event : InputEvent) :
    (s.input event).Holds P := by
  cases is_running : s.isRunning with
  | true =>
    have encoded_holds : (s.encoded event).Holds P := holds.congr rfl
    rw [input_of_running s is_running]
    cases (s.composer.encode event s.size.rows).2 with
    | write bytes =>
      refine congr ?_ (phase_write _ _)
      unfold returned
      split
      · exact encoded_holds.scroll keeps .bottom
      · exact encoded_holds
    | scroll command => exact encoded_holds.scroll keeps command
    | ignore => exact encoded_holds.congr rfl
  | false => rwa [input_of_not_running s is_running]

/-- The events of the process are taken in order. One of them may end the session, and then there is
no terminal left to speak of. -/
theorem handle (keeps : Keeps P) (holds : s.Holds P) (events : List ProcessEvent) :
    (s.handle events).Holds P := by
  induction events generalizing s with
  | nil => exact holds
  | cons event rest ih =>
    cases event with
    | data bytes => exact ih (holds.receive keeps bytes)
    | exited => exact of_not_running (by simp [isRunning, Session.handle])

/-- Taking the mail out of the mailbox is no matter of the terminal. -/
theorem pump (keeps : Keeps P) (holds : s.Holds P) : s.pump.1.Holds P := by
  unfold Session.pump
  dsimp only
  split
  · exact of_not_running (by simp [isRunning])
  · have drained : ({ s with mailbox := s.mailbox.drain.1 } : Session Emulator).Holds P :=
      holds.congr rfl
    exact drained.handle keeps _

theorem stop (s : Session Emulator) : s.stop.Holds P := by
  apply of_not_running
  unfold Session.stop
  split
  next stopped => simp [isRunning, stopped]
  · simp [isRunning]

/-- Everything that can happen to a session keeps what sessions keep. -/
theorem act (keeps : Keeps P) (holds : s.Holds P) (action : Action) : (s.act action).Holds P := by
  cases action with
  | receive bytes => exact holds.receive keeps bytes
  | pump => exact holds.pump keeps
  | resize size => exact holds.resize keeps size
  | input event => exact holds.input keeps event
  | scroll command => exact holds.scroll keeps command
  | wheel deltaY glyphHeight => exact holds.wheel keeps deltaY glyphHeight
  | stop => exact stop s
  -- What is left does not touch the phase.
  | _ => exact holds.congr rfl

/-- Along a run every action keeps it. This is how a property of terminals becomes one of sessions:
it is shown for tokens, sizes and movements of the window, once. -/
theorem run (keeps : Keeps P) (holds : s.Holds P) (actions : List Action) :
    (s.run actions).Holds P :=
  run_induction (fun _ action holds => holds.act keeps action) holds actions

end Holds

end Session

end TerminalSession
