import TerminalSession.Proofs.Session.Effect
import TerminalSession.Proofs.Session.Movement
import TerminalSession.Proofs.Session.Run
import TerminalSession.Proofs.Terminal.LiveEnd
import TerminalSession.Proofs.Terminal.Window

/-!
# A session and its window

The viewport of a session and the terminal of its engine both keep the offset of the window. They
agree whenever the session can be looked at, and the session follows exactly when the window stands
at the live end.

## Main definitions

* `Session.Coherent`: the invariant of sessions on the engine of this library
* `Session.Shows`: a session that runs with a terminal, and whose viewport was told its offset

## Main statements

* `Session.Coherent.act`: everything that can happen to a session keeps the invariant
* `Session.window_run`: the viewport and the terminal agree along every run, and a command moves the
  window to the offset it asks for

## Design notes

* Of the terminal, the invariant needs that its window is inside the history and that the history is
  not longer than the longest jump. Both are part of a well-formed terminal.
* While the session follows, it does not ask the engine for its offset. That nothing but a movement
  takes the window from the live end is `Terminal.AtEnd.feed` and `Terminal.AtEnd.resize`.
-/

namespace TerminalSession

namespace Session

variable {limit : Nat} {s s' : Session Emulator} {e : Emulator}

/-- While the session runs, its terminal is well-formed, and its viewport knows how far the window
stands back. -/
def Coherent (limit : Nat) (s : Session Emulator) : Prop :=
  ∀ e : Emulator, s.phase = .running e →
    e.terminal.WellFormed limit ∧ s.viewport.Tracks e.terminal.screen.offset

/-! ### The engine under a session -/

/-- A session that runs with a terminal, and whose viewport was told its offset. This is what each
operation on the engine comes to, and all that is needed of it here. -/
structure Shows (s : Session Emulator) (t : Terminal) (v : Viewport) : Prop where
  running : ∃ e : Emulator, s.phase = .running e ∧ e.terminal = t
  viewport_eq : s.viewport = v.sync t.screen.offset

/-- After output the engine has its new terminal, and the viewport has been told. -/
theorem shows_receive (running : s.phase = .running e) (bytes : List UInt8) :
    (s.receive bytes).Shows (e.feed bytes).terminal s.viewport where
  running := ⟨_, congrArg Session.phase (silent_receive running bytes), rfl⟩
  viewport_eq := congrArg Session.viewport (silent_receive running bytes)

/-- The same after a movement of the window. -/
theorem shows_scrollEngine (running : s.phase = .running e) (delta : Int) :
    (s.scrollEngine delta).Shows (e.terminal.scrollWindow delta) s.viewport where
  running := ⟨_, congrArg Session.phase (silent_scrollEngine running delta), rfl⟩
  viewport_eq := congrArg Session.viewport (silent_scrollEngine running delta)

/-- A change of the size that is one. -/
theorem shows_resize (running : s.phase = .running e) {size clamped : Dimensions}
    (clamped_eq : clamped = Dimensions.clamped size.cols size.rows) (ne : clamped ≠ s.size) :
    (s.resize size).Shows (e.terminal.resize clamped.cols clamped.rows) s.viewport where
  running := ⟨_, congrArg Session.phase (silent_resize running clamped_eq ne), rfl⟩
  viewport_eq := congrArg Session.viewport (silent_resize running clamped_eq ne)

/-! ### The invariant -/

namespace Coherent

/-- Being coherent is a matter of the engine and the viewport. -/
theorem congr (coherent : s.Coherent limit) (phase_eq : s'.phase = s.phase)
    (viewport_eq : s'.viewport = s.viewport) : s'.Coherent limit := by
  intro e running
  rw [viewport_eq]
  exact coherent e (phase_eq ▸ running)

/-- A session that does not run shows nothing. -/
theorem of_not_running (idle : s.isRunning = false) : s.Coherent limit := by
  intro e running
  rw [isRunning_eq_true running] at idle
  exact nomatch idle

/-- If the viewport tracks the window once it was told, the session is coherent. -/
theorem of_shows {t : Terminal} {v : Viewport} (shows : s.Shows t v) (wf : t.WellFormed limit)
    (tracks : (v.sync t.screen.offset).Tracks t.screen.offset) : s.Coherent limit := by
  obtain ⟨e', running', rfl⟩ := shows.running
  intro e running
  obtain rfl : e' = e := Phase.running.inj (running'.symm.trans running)
  exact ⟨wf, shows.viewport_eq ▸ tracks⟩

/-- What leaves a window at the live end there, needs no sync while the session follows. -/
theorem of_kept (coherent : s.Coherent limit) (running : s.phase = .running e) {t : Terminal}
    (shows : s'.Shows t s.viewport) (wf : t.WellFormed limit)
    (keeps : e.terminal.AtEnd → t.AtEnd) : s'.Coherent limit := by
  refine of_shows shows wf (Viewport.tracks_sync fun following => ?_)
  -- The viewport will not take over the offset, so the offset must not have changed.
  obtain ⟨-, tracks⟩ := coherent e running
  have at_end := tracks.following_iff.mp following
  exact ⟨tracks.offset_eq.trans at_end, keeps at_end⟩

/-- Output moves a window that stands back, and leaves one at the end there. Either way the viewport
is told. -/
theorem receive (coherent : s.Coherent limit) (bytes : List UInt8) :
    (s.receive bytes).Coherent limit := by
  cases phase : s.phase with
  | running e =>
    refine coherent.of_kept phase (shows_receive phase bytes) ?_ fun at_end => at_end.feed bytes
    exact Emulator.feed_induction (fun _ token wf => wf.execute token) (coherent e phase).1 bytes
  | ended message => simpa [Session.receive, phase] using coherent
  | stopped => simpa [Session.receive, phase] using coherent

/-- So does another size. -/
theorem resize (coherent : s.Coherent limit) (size : Dimensions) :
    (s.resize size).Coherent limit := by
  cases phase : s.phase with
  | running e =>
    by_cases same : Dimensions.clamped size.cols size.rows = s.size
    · simpa [Session.resize, phase, same] using coherent
    · refine coherent.of_kept phase (shows_resize phase rfl same) ?_ fun at_end => at_end.resize _ _
      have cols_pos := Dimensions.least_le_clampSide size.cols
      have rows_pos := Dimensions.least_le_clampSide size.rows
      exact (coherent e phase).1.resize (Nat.lt_of_lt_of_le Nat.two_pos cols_pos)
        (Nat.lt_of_lt_of_le Nat.two_pos rows_pos)
  | ended message => simpa [Session.resize, phase] using coherent
  | stopped => simpa [Session.resize, phase] using coherent

/-! ### Movements -/

/-- Once a viewport has moved, the window follows it to the offset meant. Where the engine is asked
to scroll, its answer is taken over; where it is not, the window stands there already. -/
theorem exists_follow (coherent : s.Coherent limit) (running : s.phase = .running e) {target : Nat}
    {moved : Viewport × Option Int} (m : Viewport.Moved e.terminal.screen target moved) :
    ∃ e' : Emulator, (s.follow moved).phase = .running e' ∧
      e'.terminal = e.terminal.standBack target ∧ (s.follow moved).Coherent limit := by
  obtain ⟨wf, -⟩ := coherent e running
  obtain ⟨v, delta?⟩ := moved
  cases delta? with
  | none =>
    -- Nothing was asked for, because the window is where it should be.
    obtain ⟨rfl, tracks⟩ := m.stays rfl
    refine ⟨e, running, (Terminal.standBack_offset e.terminal).symm, ?_⟩
    intro e' running'
    obtain rfl : e = e' := Phase.running.inj (running.symm.trans running')
    exact ⟨wf, tracks⟩
  | some delta =>
    have scrolled : e.terminal.scrollWindow delta = e.terminal.standBack target := by
      rw [Terminal.scrollWindow_eq wf, m.reaches delta rfl]
    have shows := shows_scrollEngine (s := { s with viewport := v }) running delta
    have wf' := wf.scrollWindow delta
    rw [scrolled] at shows wf'
    obtain ⟨e', running', terminal_eq⟩ := shows.running
    refine ⟨e', running', terminal_eq, of_shows shows wf' ?_⟩
    rw [Terminal.screen_standBack]
    exact m.sync

/-- A command moves the window to the offset it asks for, and does nothing else to the terminal. -/
theorem exists_scroll (coherent : s.Coherent limit) (limit_le : limit ≤ Viewport.maxLines)
    (running : s.phase = .running e) (command : ScrollCommand) :
    ∃ e' : Emulator, (s.scroll command).phase = .running e' ∧
      e'.terminal = e.terminal.standBack (command.target e.terminal.screen) ∧
      (s.scroll command).Coherent limit := by
  obtain ⟨wf, tracks⟩ := coherent e running
  have moved := tracks.apply wf.offset_le (Nat.le_trans wf.history_le limit_le) command
  unfold Session.scroll
  rw [if_pos (isRunning_eq_true running)]
  exact coherent.exists_follow running moved

/-- The history must not be longer than a jump, or going to the live end would stop short of it. -/
theorem scroll (coherent : s.Coherent limit) (limit_le : limit ≤ Viewport.maxLines)
    (command : ScrollCommand) : (s.scroll command).Coherent limit := by
  by_cases is_running : s.isRunning = true
  · obtain ⟨e, running⟩ := exists_of_isRunning is_running
    obtain ⟨_, -, -, kept⟩ := coherent.exists_scroll limit_le running command
    exact kept
  · unfold Session.scroll
    rw [if_neg is_running]
    exact coherent

theorem wheel (coherent : s.Coherent limit) (limit_le : limit ≤ Viewport.maxLines)
    (deltaY glyphHeight : Float) : (s.wheel deltaY glyphHeight).Coherent limit := by
  unfold Session.wheel
  split
  next is_running =>
    obtain ⟨e, running⟩ := exists_of_isRunning is_running
    obtain ⟨wf, tracks⟩ := coherent e running
    have history_le := Nat.le_trans wf.history_le limit_le
    obtain ⟨target, moved⟩ := tracks.wheel wf.offset_le history_le deltaY glyphHeight
    obtain ⟨_, -, -, kept⟩ := coherent.exists_follow running moved
    exact kept
  · exact coherent

/-! ### Everything that can happen -/

/-- Input may move the window home first, which is a command like any other. What is written to the
process afterwards changes neither the window nor the viewport. -/
theorem input (coherent : s.Coherent limit) (limit_le : limit ≤ Viewport.maxLines)
    (event : InputEvent) : (s.input event).Coherent limit := by
  unfold Session.input
  split
  · dsimp only
    -- The composer and the journal are no part of the invariant.
    have noted : ({ s with
        composer := (s.composer.encode event s.size.rows).1
        journal := s.journal ++ (s.composer.pasteNotice? event).toArray } :
          Session Emulator).Coherent limit := coherent.congr rfl rfl
    split
    · refine congr ?_ (phase_write _ _) (viewport_write _ _)
      split
      · exact noted.scroll limit_le .bottom
      · exact noted
    · exact noted.scroll limit_le _
    · exact noted.congr rfl rfl
  · exact coherent

/-- A session that has ended has no window to be coherent with. -/
theorem processGone (s : Session Emulator) (message : String) :
    (s.processGone message).Coherent limit :=
  of_not_running (by simp [isRunning])

/-- Events are output or the end. The induction is on those that are still to be handled. -/
theorem handle (coherent : s.Coherent limit) (events : List ProcessEvent) :
    (s.handle events).Coherent limit := by
  induction events generalizing s with
  | nil => exact coherent
  | cons event rest ih =>
    cases event with
    | data bytes => exact ih (coherent.receive bytes)
    | exited => exact processGone s exitedMessage

theorem pump (coherent : s.Coherent limit) : s.pump.1.Coherent limit := by
  unfold Session.pump
  dsimp only
  split
  · exact processGone _ closedMessage
  · have drained : ({ s with mailbox := s.mailbox.drain.1 } : Session Emulator).Coherent limit :=
      coherent.congr rfl rfl
    exact drained.handle _

theorem stop (s : Session Emulator) : s.stop.Coherent limit := by
  apply of_not_running
  unfold Session.stop
  split
  next stopped => simp [isRunning, stopped]
  · simp [isRunning]

/-- Everything that can happen to a session keeps the invariant. What touches neither the engine nor
the viewport keeps it by itself; the others have a lemma each. -/
theorem act (coherent : s.Coherent limit) (limit_le : limit ≤ Viewport.maxLines)
    (action : Action) : (s.act action).Coherent limit := by
  cases action with
  | receive bytes => exact coherent.receive bytes
  | pump => exact coherent.pump
  | resize size => exact coherent.resize size
  | input event => exact coherent.input limit_le event
  | scroll command => exact coherent.scroll limit_le command
  | wheel deltaY glyphHeight => exact coherent.wheel limit_le deltaY glyphHeight
  | tick now => exact coherent.congr rfl rfl
  | stop => exact stop s
  | offer event => exact coherent.congr rfl rfl
  | hangUp => exact coherent.congr rfl rfl
  | setTrouble trouble => exact coherent.congr rfl rfl

/-- Along a run the session stays coherent. -/
theorem run (coherent : s.Coherent limit) (limit_le : limit ≤ Viewport.maxLines)
    (actions : List Action) : (s.run actions).Coherent limit :=
  run_induction (fun _ action coherent => coherent.act limit_le action) coherent actions

/-- A session that has just started shows an empty terminal at the live end. -/
theorem start {options : SessionOptions} {size : Dimensions} {refusal : Option ProcessFault}
    (started : Session.start options size (some (Emulator.provider limit)) refusal = .ok s) :
    s.Coherent limit := by
  have cols_pos := Nat.lt_of_lt_of_le Nat.two_pos (Dimensions.least_le_clampSide size.cols)
  have rows_pos := Nat.lt_of_lt_of_le Nat.two_pos (Dimensions.least_le_clampSide size.rows)
  obtain ⟨p, fresh, provider_eq, created, rfl⟩ := exists_of_start started
  obtain rfl := Option.some.inj provider_eq
  obtain rfl := Emulator.eq_fresh_of_created created
  intro e running
  obtain rfl := Phase.running.inj running
  exact ⟨Terminal.WellFormed.fresh limit cols_pos rows_pos, Viewport.Tracks.fresh⟩

end Coherent

/-- Along every run of a session on the engine of this library, the viewport and the terminal agree
about the window while the session runs: on the offset, and on whether the live end is followed.
From every state of such a run, a command moves the window to the offset it asks for. -/
theorem window_run (limit_le : limit ≤ Viewport.maxLines) {options : SessionOptions}
    {size : Dimensions} {refusal : Option ProcessFault}
    (started : Session.start options size (some (Emulator.provider limit)) refusal = .ok s)
    (actions : List Action) (running : (s.run actions).phase = .running e) :
    (s.run actions).viewport.offset = e.terminal.screen.offset ∧
      ((s.run actions).viewport.following = true ↔ e.terminal.screen.offset = 0) ∧
      ∀ command : ScrollCommand, ∃ e' : Emulator,
        ((s.run actions).scroll command).phase = .running e' ∧
          e'.terminal = e.terminal.standBack (command.target e.terminal.screen) := by
  have coherent := (Coherent.start started).run limit_le actions
  obtain ⟨-, tracks⟩ := coherent e running
  refine ⟨tracks.offset_eq, tracks.following_iff, fun command => ?_⟩
  obtain ⟨e', running', terminal_eq, -⟩ := coherent.exists_scroll limit_le running command
  exact ⟨e', running', terminal_eq⟩

/-- Three line feeds on two rows make two rows of history, and the user goes back by one of them. -/
theorem window_run_one_back :
    let actions := [Action.receive [10, 10, 10], .scroll (.lines (-1))]
    ∃ (s : Session Emulator) (e : Emulator),
      Session.start {} { cols := 4, rows := 2 } (some (Emulator.provider 5)) none = .ok s ∧
        (s.run actions).phase = .running e ∧ e.terminal.screen.offset = 1 ∧
        (s.run actions).viewport.offset = e.terminal.screen.offset ∧
        ((s.run actions).viewport.following = true ↔ e.terminal.screen.offset = 0) ∧
        ∀ command : ScrollCommand, ∃ e' : Emulator,
          ((s.run actions).scroll command).phase = .running e' ∧
            e'.terminal = e.terminal.standBack (command.target e.terminal.screen) := by
  have limit_le : 5 ≤ Viewport.maxLines := by decide
  refine ⟨_, _, rfl, rfl, by decide +kernel, ?_⟩
  exact @window_run 5 _ _ limit_le {} { cols := 4, rows := 2 } none rfl _ rfl

end Session

end TerminalSession
