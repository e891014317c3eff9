import TerminalSession.Proofs.Session.Effect

/-!
# What is on display

A session draws a frame only when one is wanted. Whatever changes what there is to see wants one, so
a session that wants none has shown what there is to see.

## Main definitions

* `Session.drawn`: the frame of an action
* `Session.frames`: the frames of a run
* `Session.Current`: the display is not stale

## Main statements

* `Viewport.following_apply`, `Viewport.following_wheel`: a viewport that asks for no movement keeps
  following, or keeps standing back
* `Session.Current.act`: no action makes the display stale
* `Session.frames_run`: the last frame of a run

## Design notes

* The invariant speaks of any picture that is on display, not of a run. A frame then takes the place
  of that picture, and everything else leaves it where it is.
* Pixels of the wheel that are no line yet, or lead no further at the live end, change the viewport and
  want no frame. They may do so because a picture depends on the viewport only through whether it
  follows.
-/

namespace TerminalSession

/-! ### Viewports that ask for nothing -/

namespace Viewport

/-- A movement that asks nothing of the engine leaves the viewport as it was. -/
theorem scrollLines_of_none {v : Viewport} {n : Int} (none : (v.scrollLines n).2 = none) :
    (v.scrollLines n).1 = v := by
  unfold scrollLines at none ⊢
  split at none
  · exact nomatch none
  next not_back =>
    rw [if_neg not_back]
    split at none
    next stays => rw [if_pos stays]
    · dsimp only at none
      split at none <;> exact nomatch none

/-- So whether the end is followed does not change without a question. -/
theorem following_apply {v : Viewport} {command : ScrollCommand} (none : (v.apply command).2 = none) :
    (v.apply command).1.following = v.following := by
  cases command with
  | lines n => exact congrArg following (scrollLines_of_none none)
  | top => exact nomatch none
  | bottom => exact nomatch none

/-- Neither does it by the wheel, though the pixels that make up no line are kept. They are no part
of what is displayed. -/
theorem following_wheel {v : Viewport} {deltaY glyphHeight : Float}
    (none : (v.wheel deltaY glyphHeight).2 = none) :
    (v.wheel deltaY glyphHeight).1.following = v.following := by
  unfold wheel at none ⊢
  dsimp only at none ⊢
  split at none
  next ignored => rw [if_pos ignored]
  next counted =>
    rw [if_neg counted]
    split at none
    next short => rw [if_pos short]
    next long =>
      rw [if_neg long]
      rw [scrollLines_of_none none]

end Viewport

namespace Session

/-! ### Frames -/

/-- The frame of an action. -/
def drawn (s : Session Emulator) : Action → Option Picture
  | .tick now => (s.tick now).2
  | _ => none

/-- The frames of a run, in the order in which they were delivered. -/
def frames (s : Session Emulator) : List Action → List Picture
  | [] => []
  | action :: rest => (s.drawn action).toList ++ (s.act action).frames rest

variable {s s' : Session Emulator} {e : Emulator} {shown : Option Picture}

/-- The picture that is on display is not stale: it is the one that would be shown now, unless a frame
is wanted or there is nothing to show. -/
def Current (s : Session Emulator) (shown : Option Picture) : Prop :=
  s.pacer.pending = true ∨ s.picture? = none ∨ s.picture? = shown

/-- What a picture depends on. -/
theorem picture?_congr (phase_eq : s'.phase = s.phase)
    (following_eq : s'.viewport.following = s.viewport.following) (size_eq : s'.size = s.size) :
    s'.picture? = s.picture? := by
  unfold picture?
  rw [phase_eq, following_eq, size_eq]

namespace Current

/-- Where a frame is wanted, the one on display may be anything. -/
theorem of_pending (pending : s.pacer.pending = true) : s.Current shown := .inl pending

/-- Output wants a frame, or fails. In a session without an engine nothing is changed that is
shown. -/
theorem receive (current : s.Current shown) (bytes : List UInt8) :
    (s.receive bytes).Current shown := by
  cases is_running : s.isRunning with
  | true =>
    obtain ⟨e, running⟩ := exists_of_isRunning is_running
    exact of_pending (congrArg (fun s : Session Emulator => s.pacer.pending)
      (silent_receive running bytes))
  | false => rwa [receive_of_not_running is_running]

/-- So does another size. -/
theorem resize (current : s.Current shown) (size : Dimensions) :
    (s.resize size).Current shown := by
  cases is_running : s.isRunning with
  | true =>
    obtain ⟨e, running⟩ := exists_of_isRunning is_running
    by_cases same : Dimensions.clamped size.cols size.rows = s.size
    · rwa [resize_of_eq same]
    · exact of_pending (congrArg (fun s : Session Emulator => s.pacer.pending)
        (silent_resize running rfl same))
  | false => rwa [resize_of_not_running is_running]

/-- A movement of the window wants a frame. If none is asked for, the display may not change, so the
movement must leave alone whether the viewport follows. -/
theorem follow (current : s.Current shown) (is_running : s.isRunning = true)
    {moved : Viewport × Option Int}
    (stays : moved.2 = none → moved.1.following = s.viewport.following) :
    (s.follow moved).Current shown := by
  obtain ⟨e, running⟩ := exists_of_isRunning is_running
  obtain ⟨v, delta?⟩ := moved
  cases delta? with
  | none =>
    have picture_eq : (s.follow (v, none)).picture? = s.picture? :=
      picture?_congr rfl (stays rfl) rfl
    unfold Current
    rw [picture_eq]
    exact current
  | some delta =>
    have running' : ({ s with viewport := v } : Session Emulator).phase = .running e := running
    exact of_pending (congrArg (fun s : Session Emulator => s.pacer.pending)
      (silent_scrollEngine running' delta))

/-- A command asks the engine, which wants a frame, or changes nothing that is shown. -/
theorem scroll (current : s.Current shown) (command : ScrollCommand) :
    (s.scroll command).Current shown := by
  unfold Session.scroll
  split
  next is_running => exact current.follow is_running Viewport.following_apply
  · exact current

theorem wheel (current : s.Current shown) (deltaY glyphHeight : Float) :
    (s.wheel deltaY glyphHeight).Current shown := by
  unfold Session.wheel
  split
  next is_running => exact current.follow is_running Viewport.following_wheel
  · exact current

/-- Before input is written the window may return, like by a command. -/
theorem returned (current : s.Current shown) : s.returned.Current shown := by
  unfold Session.returned
  split
  · exact current.scroll .bottom
  · exact current

/-- To write to the process changes nothing that is shown. -/
theorem write (current : s.Current shown) (bytes : List UInt8) :
    (s.write bytes).Current shown := by
  have written : (s.write bytes).silent.Current shown := by
    rw [silent_write]
    exact current
  exact written

/-- Input is written or scrolls. The composition that it belongs to is not part of the picture. -/
theorem input (current : s.Current shown) (event : InputEvent) :
    (s.input event).Current shown := by
  cases is_running : s.isRunning with
  | true =>
    have encoded : (s.encoded event).Current shown := current
    rw [input_of_running s is_running]
    cases (s.composer.encode event s.size.rows).2 with
    | write bytes => exact encoded.returned.write bytes
    | scroll command => exact encoded.scroll command
    | ignore => exact encoded
  | false => rwa [input_of_not_running s is_running]

/-- The end of a process wants a frame too. -/
theorem processGone (s : Session Emulator) (message : String) :
    (s.processGone message).Current shown :=
  of_pending rfl

/-- The end of the process wants a frame, so that it is shown. -/
theorem handle (current : s.Current shown) (events : List ProcessEvent) :
    (s.handle events).Current shown := by
  induction events generalizing s with
  | nil => exact current
  | cons event rest ih =>
    cases event with
    | data bytes => exact ih (current.receive bytes)
    | exited => exact processGone s exitedMessage

/-- What waits in the mailbox is no part of the picture. -/
theorem pump (current : s.Current shown) : s.pump.1.Current shown := by
  have drained : ({ s with mailbox := s.mailbox.drain.1 } : Session Emulator).Current shown :=
    current
  unfold Session.pump
  dsimp only
  split
  · exact processGone _ closedMessage
  · exact drained.handle _

/-- A session that was stopped shows nothing. -/
theorem stop (s : Session Emulator) : s.stop.Current shown := by
  have stopped : s.stop.phase = .stopped := by
    unfold Session.stop
    split
    next stopped => exact stopped
    · exact phase_release _ _
  refine .inr (.inl ?_)
  unfold picture?
  rw [stopped]

/-- A frame takes the place of what was on display. -/
theorem tick (current : s.Current shown) (now : Nat) :
    (s.tick now).1.Current ((s.tick now).2.or shown) := by
  unfold Session.tick FramePacer.poll
  dsimp only
  split
  · cases picture : s.picture? with
    | none => exact .inr (.inl picture)
    | some frame => exact .inr (.inr picture)
  · exact current

/-- No action makes the display stale. -/
theorem act (current : s.Current shown) (action : Action) :
    (s.act action).Current ((s.drawn action).or shown) := by
  cases action with
  | receive bytes => exact current.receive bytes
  | pump => exact current.pump
  | resize size => exact current.resize size
  | input event => exact current.input event
  | scroll command => exact current.scroll command
  | wheel deltaY glyphHeight => exact current.wheel deltaY glyphHeight
  | tick now => exact current.tick now
  | stop => exact stop s
  -- What is left belongs to the process.
  | _ => exact current

/-- Along a run the frame on display is the last that was delivered, and it is current. The
induction is on the actions, with what is on display before them. -/
theorem run (current : s.Current shown) (actions : List Action) :
    (s.run actions).Current ((s.frames actions).getLast?.or shown) := by
  induction actions generalizing s shown with
  | nil => exact current
  | cons action rest ih =>
    have shown_eq : (s.frames (action :: rest)).getLast?.or shown =
        ((s.act action).frames rest).getLast?.or ((s.drawn action).or shown) := by
      rw [frames, List.getLast?_append, Option.or_assoc]
      cases s.drawn action <;> rfl
    rw [shown_eq]
    exact ih (current.act action)

/-- A session that wants no frame shows what there is to show. -/
theorem shown_eq (current : s.Current shown) (pending : s.pacer.pending = false)
    {picture : Picture} (picture_eq : s.picture? = some picture) : shown = some picture := by
  obtain wanted | none | same := current
  · rw [pending] at wanted
    exact nomatch wanted
  · exact nomatch none.symm.trans picture_eq
  · exact same.symm.trans picture_eq

end Current

/-- A session starts with a frame wanted. -/
theorem pending_start {ε : Type} [Engine ε] {options : SessionOptions} {size : Dimensions}
    {provider : Option (Provider ε)} {refusal : Option ProcessFault} {s : Session ε}
    (started : Session.start options size provider refusal = .ok s) : s.pacer.pending = true := by
  obtain ⟨_, _, -, -, rfl⟩ := exists_of_start started
  rfl

/-- A frame that was wanted is drawn, unless the session was stopped. That it is wanted no longer
tells that the tick was due, and then the tick draws what there is to see. -/
theorem exists_frame (s : Session Emulator) {now : Nat} (wanted : s.pacer.pending = true)
    (taken : (s.tick now).1.pacer.pending = false) (live : s.phase ≠ .stopped) :
    ∃ frame : Picture, s.picture? = some frame ∧ (s.tick now).2 = some frame := by
  have due : s.pacer.poll now = ({ s.pacer with pending := false, last := some now }, true) := by
    unfold FramePacer.poll
    split
    · rfl
    next not_due =>
      unfold Session.tick FramePacer.poll at taken
      rw [if_neg not_due] at taken
      exact nomatch wanted.symm.trans taken
  unfold tick picture?
  rw [due]
  cases phase : s.phase with
  | running e => exact ⟨_, rfl, rfl⟩
  | ended message => exact ⟨_, rfl, rfl⟩
  | stopped => exact absurd phase live

/-- The display is never stale. Along every run of a session on the engine of this library, whenever
the session runs and wants no frame, there was one, and the last one shows what would be shown now.
A frame that was wanted is never swallowed: when it is not wanted any more, it was drawn. -/
theorem frames_run {limit : Nat} {options : SessionOptions} {size : Dimensions}
    {refusal : Option ProcessFault}
    (started : Session.start options size (some (Emulator.provider limit)) refusal = .ok s)
    (actions : List Action) :
    let now := s.run actions
    (∀ e : Emulator, now.phase = .running e → now.pacer.pending = false →
        (s.frames actions).getLast? = some (.screen
          { text := e.terminal.dump
            cursor := if e.terminal.cursorReport.valid && now.viewport.following
              then some e.terminal.cursorReport else none
            size := now.size })) ∧
      ∀ time : Nat, now.pacer.pending = true → (now.tick time).1.pacer.pending = false →
        now.phase ≠ .stopped →
          ∃ frame : Picture, now.picture? = some frame ∧ (now.tick time).2 = some frame := by
  have current : s.Current none := .of_pending (pending_start started)
  have current' := current.run actions
  rw [Option.or_none] at current'
  exact ⟨fun e running pending => current'.shown_eq pending (picture?_of_running running),
    fun _ wanted taken live => exists_frame _ wanted taken live⟩

/-- Output, two frames, and a line towards newer output, of which there is none. -/
theorem frames_run_twice :
    let actions := [Action.receive [65], .tick 0, .receive [66], .tick 20000, .scroll (.lines 1)]
    ∃ (s : Session Emulator) (e : Emulator),
      Session.start {} { cols := 4, rows := 2 } (some (Emulator.provider 5)) none = .ok s ∧
        (s.run actions).phase = .running e ∧ (s.run actions).pacer.pending = false ∧
        (s.frames actions).getLast? = some (.screen
          { text := e.terminal.dump
            cursor := if e.terminal.cursorReport.valid && (s.run actions).viewport.following
              then some e.terminal.cursorReport else none
            size := (s.run actions).size }) := by
  have started := @frames_run _ 5 {} { cols := 4, rows := 2 } none rfl
  exact ⟨_, _, rfl, rfl, by decide +kernel, (started _).1 _ rfl (by decide +kernel)⟩

end Session

end TerminalSession
