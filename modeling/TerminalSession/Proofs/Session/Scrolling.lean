import TerminalSession.Proofs.Session.Chunking
import TerminalSession.Proofs.Session.Following
import TerminalSession.Proofs.Terminal.WindowBlind

/-!
# Scrolling does not interfere

A user who scrolls looks at the terminal and does nothing to it. Two runs of a session that differ
only in what was scrolled ask the same of the process and leave the same terminal behind, but for
the window of its primary screen. Back at the live end they show the same.

## Main definitions

* `Session.core`: the session without what scrolling changes
* `Session.isScroll`: actions of the user that only move the window
* `Session.withoutScrolls`: the actions of a run that are no such movements

## Main statements

* `Session.core_act_of_isScroll`: such an action leaves the core as it is
* `Session.core_act`: no other action sees more than the core
* `Session.run_scrolls`: runs that differ in movements of the window only

## Design notes

* Whether a key moves the window depends on the composition and on the number of rows, so the actions
  left out of a run are found along the run. Both are part of the core.
* Input for the process may bring the window back to the live end. Whether it does depends on the
  viewport, which is not part of the core, but it changes nothing else either.
-/

namespace TerminalSession

/-! ### What scrolling leaves alone -/

/-- The emulator without what scrolling changes: the window of the primary screen, and the notices
that it gives out. -/
def Emulator.core (e : Emulator) : Emulator := { e.toEnd with unknown := #[] }

/-- The phase without what scrolling changes. -/
def Phase.core : Phase Emulator → Phase Emulator
  | .running e => .running e.core
  | .ended message => .ended message
  | .stopped => .stopped

/-- What an emulator does with output is not seen from its core only by the window and the notices.
So the core after the output is the core that would have come of the core. -/
theorem Emulator.core_feed (e : Emulator) (bytes : List UInt8) :
    (e.feed bytes).core = (e.core.feed bytes).core := by
  have waiting : e.toEnd = e.core.behind #[] e.unknown false := by
    simp [core, behind, toEnd]
  have same : (e.feed bytes).core = (e.feed bytes).toEnd.core := rfl
  rw [same, toEnd_feed, waiting, feed_behind]
  simp [core, behind, toEnd]
  rfl

namespace Session

/-- The session without what scrolling changes: the window, the viewport, the frames that are wanted
and the journal. -/
def core (s : Session Emulator) : Session Emulator :=
  { s with phase := s.phase.core, viewport := {}, pacer := { interval := 0 }, journal := #[] }

variable {limit : Nat} {s : Session Emulator} {e : Emulator}

/-- Sessions keep their terminal well-formed, as the sizes they use have two columns and two rows at
least. -/
theorem keeps_wellFormed (limit : Nat) : Keeps (Terminal.WellFormed limit) where
  execute _ token wf := wf.execute token
  resize _ _ cols_le rows_le wf :=
    wf.resize (Nat.lt_of_lt_of_le Nat.two_pos cols_le) (Nat.lt_of_lt_of_le Nat.two_pos rows_le)
  scrollWindow _ delta wf := wf.scrollWindow delta

/-- A session runs just if its core does, with the core of its engine. -/
theorem phase_core (running : s.phase = .running e) : s.core.phase = .running e.core := by
  unfold core
  rw [running]
  rfl

theorem isRunning_core (s : Session Emulator) : s.core.isRunning = s.isRunning := by
  unfold isRunning core Phase.core
  cases s.phase <;> rfl

/-- The journal is no part of the core, so the equations of silent sessions can be used for
cores. -/
theorem core_silent (s : Session Emulator) : s.silent.core = s.core := rfl

/-- What scrolling changes has been taken out, and is not taken out again. -/
theorem core_core (s : Session Emulator) : s.core.core = s.core := by
  unfold core Phase.core
  cases s.phase <;> rfl

/-- A core has a well-formed terminal, so what needs one may be done to the core as well. -/
theorem wellFormed_core (wf : s.Holds (Terminal.WellFormed limit)) :
    s.core.Holds (Terminal.WellFormed limit) := by
  cases is_running : s.isRunning with
  | true =>
    obtain ⟨e, running⟩ := exists_of_isRunning is_running
    exact Holds.of_running (phase_core running) (wf e running).toEnd
  | false => exact Holds.of_not_running ((isRunning_core s).trans is_running)

/-! ### Movements of the window -/

/-- A movement of the window leaves the core as it is. The terminal has to be well-formed for that,
as the window must not move on the alternate screen. -/
theorem core_scrollEngine (wf : s.Holds (Terminal.WellFormed limit)) (delta : Int) :
    (s.scrollEngine delta).core = s.core := by
  cases is_running : s.isRunning with
  | true =>
    obtain ⟨e, running⟩ := exists_of_isRunning is_running
    have terminal_eq := (wf e running).toEnd_scrollWindow delta
    rw [← core_silent, silent_scrollEngine running]
    unfold core
    rw [running]
    simp only [silent, Phase.core, Emulator.core, Emulator.toEnd, terminal_eq]
  | false => rw [scrollEngine_of_not_running is_running]

/-- So does a movement of the viewport, with or without one of the engine. -/
theorem core_follow (wf : s.Holds (Terminal.WellFormed limit)) (moved : Viewport × Option Int) :
    (s.follow moved).core = s.core := by
  have moved_wf : ({ s with viewport := moved.1 } : Session Emulator).Holds
      (Terminal.WellFormed limit) := wf.congr rfl
  unfold follow
  dsimp only
  split
  · exact core_scrollEngine moved_wf _
  · rfl

/-- So does a command to scroll. -/
theorem core_scroll (wf : s.Holds (Terminal.WellFormed limit)) (command : ScrollCommand) :
    (s.scroll command).core = s.core := by
  unfold scroll
  split
  · exact core_follow wf _
  · rfl

/-- So does a movement of the wheel, whether or not it makes up a line. -/
theorem core_wheel (wf : s.Holds (Terminal.WellFormed limit)) (deltaY glyphHeight : Float) :
    (s.wheel deltaY glyphHeight).core = s.core := by
  unfold wheel
  split
  · exact core_follow wf _
  · rfl

/-- Whether an action of the user only moves the window: a command, a movement of the wheel, or a key
that stands for a command. -/
def isScroll {ε : Type} (s : Session ε) : Action → Bool
  | .scroll _ => true
  | .wheel _ _ => true
  | .input (.key press) =>
    match (s.composer.encode (.key press) s.size.rows).2 with
    | .scroll _ => true
    | _ => false
  | _ => false

@[simp] theorem isScroll_receive (s : Session Emulator) (bytes : List UInt8) :
    s.isScroll (.receive bytes) = false := rfl

@[simp] theorem isScroll_scroll (s : Session Emulator) (command : ScrollCommand) :
    s.isScroll (.scroll command) = true := rfl

/-- An action that only moves the window leaves the core as it is. A key is among them only where it
is bound to scrolling, so nothing is composed or written. -/
theorem core_act_of_isScroll (wf : s.Holds (Terminal.WellFormed limit)) {action : Action}
    (moves : s.isScroll action = true) : (s.act action).core = s.core := by
  cases action with
  | scroll command => exact core_scroll wf command
  | wheel deltaY glyphHeight => exact core_wheel wf deltaY glyphHeight
  | input event =>
    cases event with
    | key press =>
      change (s.input (.key press)).core = s.core
      simp only [isScroll] at moves
      split at moves
      next command encoded_eq =>
        cases is_running : s.isRunning with
        | true =>
          rw [input_of_running s is_running, encoded_eq]
          -- A key leaves the composition as it is.
          have same : (s.encoded (.key press)).core = s.core := rfl
          exact (core_scroll (wf.congr rfl) command).trans same
        | false => rw [input_of_not_running s is_running]
      · exact nomatch moves
    | _ => exact nomatch moves
  | _ => exact nomatch moves

/-! ### All other actions -/

/-- What a session takes over from an emulator and from the calls it made comes to the same core, if
the emulators have the same core. -/
theorem core_absorb (s : Session Emulator) {e e' : Emulator} (same : e.core = e'.core)
    (calls : List ProcessCall) : (s.absorb e calls).core = (s.core.absorb e' calls).core := by
  calc (s.absorb e calls).core
      = (s.core.absorb e.core calls).core := rfl
    _ = (s.core.absorb e'.core calls).core := by rw [same]
    _ = (s.core.absorb e' calls).core := rfl

/-- Output is read by the core of the engine, and what is replied does not depend on the window. So
the process is sent the same wherever the window stands. -/
theorem core_receive (s : Session Emulator) (bytes : List UInt8) :
    (s.receive bytes).core = (s.core.receive bytes).core := by
  cases is_running : s.isRunning with
  | true =>
    obtain ⟨e, running⟩ := exists_of_isRunning is_running
    have fed_eq := e.core_feed bytes
    have sent_eq : (e.feed bytes).core.pendingBytes = (e.core.feed bytes).core.pendingBytes :=
      congrArg Emulator.pendingBytes fed_eq
    rw [← core_silent, silent_receive running, ← core_silent (s.core.receive bytes),
      silent_receive (phase_core running), core_absorb s fed_eq]
    exact congrArg (fun sent => (s.core.absorb _ (ProcessCall.sending sent)).core) sent_eq
  | false =>
    have idle : s.core.isRunning = false := (isRunning_core s).trans is_running
    rw [receive_of_not_running is_running, receive_of_not_running idle, core_core]

/-- A change of the size is compared with the size of the session, which belongs to the core. The
rows are laid out anew from all rows, not from those in the window. -/
theorem core_resize (s : Session Emulator) (size : Dimensions) :
    (s.resize size).core = (s.core.resize size).core := by
  cases is_running : s.isRunning with
  | true =>
    obtain ⟨e, running⟩ := exists_of_isRunning is_running
    by_cases same : Dimensions.clamped size.cols size.rows = s.size
    · have same' : Dimensions.clamped size.cols size.rows = s.core.size := same
      rw [resize_of_eq same, resize_of_eq same', core_core]
    · have changed : Dimensions.clamped size.cols size.rows ≠ s.core.size := same
      have terminal_eq := e.terminal.toEnd_resize (Dimensions.clamped size.cols size.rows).cols
        (Dimensions.clamped size.cols size.rows).rows
      rw [← core_silent, silent_resize running rfl same, ← core_silent (s.core.resize size),
        silent_resize (phase_core running) rfl changed]
      simp only [core, silent, Phase.core, Emulator.core, Emulator.toEnd, terminal_eq]
  | false =>
    have idle : s.core.isRunning = false := (isRunning_core s).trans is_running
    rw [resize_of_not_running is_running, resize_of_not_running idle, core_core]

/-- To write to the process puts a call on record, and nothing else. -/
theorem core_write (s : Session Emulator) (bytes : List UInt8) :
    (s.write bytes).core = { s.core with process := s.core.process.record [.write bytes] } := by
  rw [← core_silent, silent_write]
  rfl

/-- The end of the process is the same for a core. -/
theorem core_processGone (s : Session Emulator) (message : String) :
    (s.processGone message).core = (s.core.processGone message).core := by
  cases is_running : s.isRunning with
  | true =>
    obtain ⟨e, running⟩ := exists_of_isRunning is_running
    rw [← core_silent, silent_processGone _ running, ← core_silent (s.core.processGone message),
      silent_processGone _ (phase_core running)]
    rfl
  | false =>
    have idle : s.core.isRunning = false := (isRunning_core s).trans is_running
    rw [← core_silent, silent_processGone_of_not_running _ is_running,
      ← core_silent (s.core.processGone message), silent_processGone_of_not_running _ idle]
    rfl

/-- The events of the process are handled in the same order. The induction is over the events, for
every session with its core. -/
theorem core_handle (s : Session Emulator) (events : List ProcessEvent) :
    (s.handle events).core = (s.core.handle events).core := by
  induction events generalizing s with
  | nil => exact (core_core s).symm
  | cons event rest ih =>
    cases event with
    | data bytes =>
      change ((s.receive bytes).handle rest).core = ((s.core.receive bytes).handle rest).core
      rw [ih, core_receive, ← ih]
    | exited => exact core_processGone s exitedMessage

/-- The mailbox belongs to the core, so the same events are taken out of it, and the same one of
them ends the session. -/
theorem core_pump (s : Session Emulator) : s.pump.1.core = s.core.pump.1.core := by
  let drained : Session Emulator := { s with mailbox := s.mailbox.drain.1 }
  have handled := core_handle drained s.mailbox.drain.2
  have running_eq : (drained.handle s.mailbox.drain.2).isRunning =
      (drained.core.handle s.mailbox.drain.2).isRunning := by
    rw [← isRunning_core, handled, isRunning_core]
  unfold pump
  change (if s.mailbox.disconnected && (drained.handle s.mailbox.drain.2).isRunning then _
    else _ : Session Emulator × Bool).1.core = (if s.mailbox.disconnected &&
      (drained.core.handle s.mailbox.drain.2).isRunning then _ else _ :
        Session Emulator × Bool).1.core
  rw [← running_eq]
  split
  · change ((drained.handle s.mailbox.drain.2).processGone closedMessage).core =
      ((drained.core.handle s.mailbox.drain.2).processGone closedMessage).core
    rw [core_processGone, handled, ← core_processGone]
  · exact handled

/-- Stopping a session is the same for its core: the process is killed where it ran, and nothing is
left of the engine. -/
theorem core_stop (s : Session Emulator) : s.stop.core = s.core.stop.core := by
  cases phase : s.phase with
  | running e =>
    rw [← core_silent, silent_stop _ phase, ← core_silent s.core.stop,
      silent_stop _ (phase_core phase)]
    rfl
  | ended message =>
    obtain ⟨⟩ := s
    subst phase
    rfl
  | stopped =>
    obtain ⟨⟩ := s
    subst phase
    rfl

/-- Before input is written the window may return to the live end. This is the one place where the
viewport decides something, and it only decides a movement of the window. -/
theorem core_returned (wf : s.Holds (Terminal.WellFormed limit)) : s.returned.core = s.core := by
  unfold returned
  split
  · exact core_scroll wf .bottom
  · rfl

/-- How an event is encoded depends on the composition and on the rows, which belong to the core. -/
theorem core_encoded (s : Session Emulator) (event : InputEvent) :
    (s.encoded event).core = (s.core.encoded event).core :=
  congrArg (fun t : Session Emulator => { t with
    composer := (s.composer.encode event s.size.rows).1 }) (core_core s).symm

/-- So an input event does the same to the core, whether it is written, scrolls or is ignored. What
it is depends on the composer and on the size, which belong to the core. -/
theorem core_input (wf : s.Holds (Terminal.WellFormed limit)) (event : InputEvent) :
    (s.input event).core = (s.core.input event).core := by
  have wf' : (s.encoded event).Holds (Terminal.WellFormed limit) := wf.congr rfl
  have wf_core' : (s.core.encoded event).Holds (Terminal.WellFormed limit) :=
    (wellFormed_core wf).congr rfl
  have same := core_encoded s event
  cases is_running : s.isRunning with
  | true =>
    have running : s.core.isRunning = true := (isRunning_core s).trans is_running
    rw [input_of_running _ is_running, input_of_running _ running]
    change ((s.encoded event).carryOut event (s.composer.encode event s.size.rows).2).core =
      ((s.core.encoded event).carryOut event (s.composer.encode event s.size.rows).2).core
    cases (s.composer.encode event s.size.rows).2 with
    | write bytes =>
      change ((s.encoded event).returned.write bytes).core =
        ((s.core.encoded event).returned.write bytes).core
      rw [core_write, core_write, core_returned wf', core_returned wf_core', same]
    | scroll command =>
      exact (core_scroll wf' command).trans (same.trans (core_scroll wf_core' command).symm)
    | ignore => exact same
  | false =>
    have idle : s.core.isRunning = false := (isRunning_core s).trans is_running
    rw [input_of_not_running _ is_running, input_of_not_running _ idle, core_core]

/-- No action sees more of a session than its core. For a movement this is so because it leaves the
core as it is, with or without a window. -/
theorem core_act (wf : s.Holds (Terminal.WellFormed limit)) (action : Action) :
    (s.act action).core = (s.core.act action).core := by
  have wf_core := wellFormed_core wf
  cases action with
  | receive bytes => exact core_receive s bytes
  | pump => exact core_pump s
  | resize size => exact core_resize s size
  | input event => exact core_input wf event
  | scroll command =>
    exact (core_scroll wf command).trans ((core_scroll wf_core command).trans (core_core s)).symm
  | wheel deltaY glyphHeight =>
    exact (core_wheel wf deltaY glyphHeight).trans
      ((core_wheel wf_core deltaY glyphHeight).trans (core_core s)).symm
  | stop => exact core_stop s
  -- What is left touches neither the phase nor what is not part of the core.
  | _ => exact (core_core _).symm

/-! ### Runs -/

/-- The actions of a run that are no mere movements of the window. -/
def withoutScrolls (s : Session Emulator) : List Action → List Action
  | [] => []
  | action :: rest =>
    if s.isScroll action then (s.act action).withoutScrolls rest
    else action :: (s.act action).withoutScrolls rest

/-- Sessions with one core keep having one, whatever happens to both. -/
theorem core_run_congr {s s' : Session Emulator} (wf : s.Holds (Terminal.WellFormed limit))
    (wf' : s'.Holds (Terminal.WellFormed limit)) (same : s.core = s'.core)
    (actions : List Action) : (s.run actions).core = (s'.run actions).core := by
  induction actions generalizing s s' with
  | nil => exact same
  | cons action rest ih =>
    refine ih (wf.act (keeps_wellFormed limit) action) (wf'.act (keeps_wellFormed limit) action) ?_
    rw [core_act wf, same, ← core_act wf']

/-- A run has the core of the run without its movements of the window. -/
theorem core_run_withoutScrolls (wf : s.Holds (Terminal.WellFormed limit))
    (actions : List Action) :
    (s.run actions).core = (s.run (s.withoutScrolls actions)).core := by
  induction actions generalizing s with
  | nil => rfl
  | cons action rest ih =>
    have wf' := wf.act (keeps_wellFormed limit) action
    rw [run_cons, ih wf', withoutScrolls]
    split
    next moves => exact core_run_congr wf' wf (core_act_of_isScroll wf moves) _
    · rfl

end Session

/-! ### Back at the live end -/

namespace Terminal.AtEnd

variable {t : Terminal}

/-- A window at the live end is where `toEnd` would put it. -/
theorem screen_toEnd (at_end : t.AtEnd) : t.toEnd.screen = t.screen := by
  unfold AtEnd Screen.AtEnd Terminal.screen at at_end
  unfold Terminal.screen toEnd Screen.toEnd
  dsimp only
  split
  · rfl
  next on_primary =>
    rw [if_neg on_primary] at at_end
    rw [← at_end]

/-- A terminal at the live end shows what it would show there. -/
theorem dump_toEnd (at_end : t.AtEnd) : t.toEnd.dump = t.dump := by
  have row_eq : t.toEnd.windowRow = t.windowRow := by
    funext place
    unfold windowRow
    rw [at_end.screen_toEnd]
    rfl
  unfold dump
  rw [row_eq]
  rfl

/-- So the cursor is reported in the same place. -/
theorem cursorReport_toEnd (at_end : t.AtEnd) : t.toEnd.cursorReport = t.cursorReport := by
  unfold cursorReport
  rw [at_end.screen_toEnd]
  rfl

end Terminal.AtEnd

namespace Session

variable {limit : Nat} {s s' : Session Emulator} {e e' : Emulator}

/-- The end of a movement to the live end. -/
theorem Coherent.exists_scroll_bottom (coherent : s.Coherent limit)
    (limit_le : limit ≤ Viewport.maxLines) (is_running : s.isRunning = true) :
    ∃ e : Emulator, (s.scroll .bottom).phase = .running e ∧ e.terminal.AtEnd ∧
      (s.scroll .bottom).viewport.following = true := by
  obtain ⟨before, running⟩ := exists_of_isRunning is_running
  obtain ⟨e, running', terminal_eq, coherent'⟩ := coherent.exists_scroll limit_le running .bottom
  have at_end : e.terminal.AtEnd := by
    unfold Terminal.AtEnd Screen.AtEnd
    rw [terminal_eq, Terminal.screen_standBack]
    rfl
  exact ⟨e, running', at_end, (coherent' e running').2.following_iff.mpr at_end⟩

/-- Sessions with one core that are at the live end show the same. -/
theorem shown_eq_of_core_eq (same : s.core = s'.core) (running : s.phase = .running e)
    (running' : s'.phase = .running e') (at_end : e.terminal.AtEnd)
    (at_end' : e'.terminal.AtEnd) :
    e.terminal.dump = e'.terminal.dump ∧ e.terminal.cursorReport = e'.terminal.cursorReport := by
  have phase_eq : Phase.running e.core = .running e'.core :=
    (phase_core running).symm.trans ((congrArg Session.phase same).trans (phase_core running'))
  have terminal_eq : e.terminal.toEnd = e'.terminal.toEnd :=
    congrArg Emulator.terminal (Phase.running.inj phase_eq)
  rw [← at_end.dump_toEnd, ← at_end'.dump_toEnd, ← at_end.cursorReport_toEnd,
    ← at_end'.cursorReport_toEnd, terminal_eq]
  exact ⟨rfl, rfl⟩

/-- Two runs of a session that differ only in movements of the window: the process was asked for the
same, and the sessions are the same but for the window and the frames. Back at the live end, both
show the same. -/
theorem run_scrolls {options : SessionOptions} {size : Dimensions}
    {refusal : Option ProcessFault}
    (started : Session.start options size (some (Emulator.provider limit)) refusal = .ok s)
    (actions others : List Action) (same : s.withoutScrolls actions = s.withoutScrolls others) :
    let a := s.run actions
    let b := s.run others
    a.process = b.process ∧ a.phase.core = b.phase.core ∧ a.size = b.size ∧
      a.composer = b.composer ∧ a.mailbox = b.mailbox ∧
      (limit ≤ Viewport.maxLines → a.isRunning = true → ∃ e e' : Emulator,
        (a.scroll .bottom).phase = .running e ∧ (b.scroll .bottom).phase = .running e' ∧
          e.terminal.dump = e'.terminal.dump ∧
          e.terminal.cursorReport = e'.terminal.cursorReport ∧
          (a.scroll .bottom).picture? = (b.scroll .bottom).picture?) := by
  intro a b
  have coherent := Coherent.start started
  have wf : s.Holds (Terminal.WellFormed limit) := fun e running => (coherent e running).1
  have core_eq : a.core = b.core := by
    change (s.run actions).core = (s.run others).core
    rw [core_run_withoutScrolls wf, same, ← core_run_withoutScrolls wf]
  -- What the core has of a session, it has unchanged.
  have fields_eq {α : Type} (field : Session Emulator → α) : field a.core = field b.core :=
    congrArg field core_eq
  refine ⟨fields_eq Session.process, fields_eq Session.phase, fields_eq Session.size,
    fields_eq Session.composer, fields_eq Session.mailbox, fun limit_le is_running => ?_⟩
  have is_running' : b.isRunning = true := by
    rw [← isRunning_core, ← core_eq, isRunning_core, is_running]
  obtain ⟨e, running, at_end, following⟩ :=
    (coherent.run limit_le actions).exists_scroll_bottom limit_le is_running
  obtain ⟨e', running', at_end', following'⟩ :=
    (coherent.run limit_le others).exists_scroll_bottom limit_le is_running'
  have core_eq' : (a.scroll .bottom).core = (b.scroll .bottom).core := by
    rw [core_scroll (wf.run (keeps_wellFormed limit) actions), core_eq,
      ← core_scroll (wf.run (keeps_wellFormed limit) others) .bottom]
  have size_eq : (a.scroll .bottom).core.size = (b.scroll .bottom).core.size :=
    congrArg Session.size core_eq'
  obtain ⟨dump_eq, report_eq⟩ := shown_eq_of_core_eq core_eq' running running' at_end at_end'
  refine ⟨e, e', running, running', dump_eq, report_eq, ?_⟩
  have size_eq' : (a.scroll .bottom).size = (b.scroll .bottom).size := size_eq
  rw [picture?_of_running running, picture?_of_running running', following, following', size_eq',
    dump_eq, report_eq]

/-- The user goes back by one line and by a page before more output comes. The windows of the two
runs are apart in the end; what the process was asked is the same. -/
theorem run_scrolls_back :
    let paged := Action.input (.key { key := .pageUp, mods := { shift := true } })
    let plain := [Action.receive [10, 10, 10], .receive [65]]
    let scrolled := [Action.receive [10, 10, 10], .scroll (.lines (-1)), paged, .receive [65]]
    ∃ s : Session Emulator,
      Session.start {} { cols := 4, rows := 2 } (some (Emulator.provider 5)) none = .ok s ∧
        s.withoutScrolls plain = s.withoutScrolls scrolled ∧
        (s.run plain).viewport.following = true ∧ (s.run scrolled).viewport.following = false ∧
        (s.run plain).process = (s.run scrolled).process := by
  intro paged plain scrolled
  obtain ⟨s, started, moves, ahead, back⟩ : ∃ s : Session Emulator,
      Session.start {} { cols := 4, rows := 2 } (some (Emulator.provider 5)) none = .ok s ∧
        ((s.receive [10, 10, 10]).scroll (.lines (-1))).isScroll paged = true ∧
        (s.run plain).viewport.following = true ∧ (s.run scrolled).viewport.following = false :=
    ⟨_, rfl, by decide +kernel, by decide +kernel, by decide +kernel⟩
  have same : s.withoutScrolls plain = s.withoutScrolls scrolled := by
    simp [plain, scrolled, withoutScrolls, act, moves]
  exact ⟨s, started, same, ahead, back, (run_scrolls started plain scrolled same).1⟩

end Session

end TerminalSession
