import TerminalSession.Proofs.Session.Display

/-!
# Engines whose window is stuck

A viewport moves first and asks the engine second. When the engine fails, the session writes that
down and does nothing else. So the viewport has moved over a window that may not have, and nothing
tells it so.

## Main definitions

* `Viewport.Settled`: a viewport that follows stands at the live end
* `Session.gesture?`: what an action of the user makes of the viewport, and of the engine
* `Jammed`: an engine with a window that cannot be moved

## Main statements

* `Viewport.Asks.unmoved_iff`: the movements that leave a viewport where it was
* `Session.settled_run`: along every run, a session that follows stands at the live end
* `Session.gesture_of_fault`: what a failing movement does to a session, and when it does nothing to
  its viewport

## Design notes

* None of this is about one engine. An engine may tell its offset or not, and it may have changed
  before it failed.
* A key can stand for a movement, and input for the process can bring the window back. Both are
  gestures as well.
-/

namespace TerminalSession

/-! ### Movements of a viewport -/

namespace Viewport

variable {v : Viewport}

/-- A viewport that follows stands at the live end. The converse need not hold while the engine has
not told its offset. -/
def Settled (v : Viewport) : Prop := v.following = true → v.offset = 0

/-- What a movement has made of a viewport `v`, where it asks the engine for `delta` lines. -/
inductive Asks (v : Viewport) : Viewport → Int → Prop where
  /-- Towards older output. The end is no longer followed. -/
  | back {moved : Viewport} {delta : Int} (n : Nat) (pos : 0 < n) (older : delta < 0)
      (listens : moved.following = false)
      (offset_eq : moved.offset = min (v.offset + n) maxOffset) : Asks v moved delta
  /-- Towards newer output, but not as far as the end. -/
  | forward {moved : Viewport} {delta : Int} (newer : 0 < delta) (listened : v.following = false)
      (listens : moved.following = false) (offset_lt : moved.offset < v.offset) : Asks v moved delta
  /-- To the end, which is followed again. -/
  | home {moved : Viewport} {delta : Int} (newer : 0 < delta) (follows : moved.following = true)
      (offset_eq : moved.offset = 0) : Asks v moved delta

/-- A jump is the greatest movement in its direction. -/
theorem jumpToTop_neg : jumpToTop < 0 := by decide

theorem jumpToBottom_pos : 0 < jumpToBottom := by decide

/-- To the oldest line: the viewport takes the greatest offset there is, which stands for any. -/
theorem asks_toTop (v : Viewport) : v.Asks v.toTop.1 v.toTop.2 := by
  refine .back maxOffset (by decide) jumpToTop_neg rfl ?_
  exact (Nat.min_eq_right (Nat.le_add_left _ _)).symm

/-- To the live end: the viewport follows at once, before the engine was asked. -/
theorem asks_toBottom (v : Viewport) : v.Asks v.toBottom.1 v.toBottom.2 :=
  .home jumpToBottom_pos rfl rfl

/-- A movement by lines goes back, or forward to a place short of the end, or home. A movement
forward that would reach the end is turned into a jump to it. -/
theorem asks_scrollLines {n delta : Int} (asked : (v.scrollLines n).2 = some delta) :
    v.Asks (v.scrollLines n).1 delta := by
  unfold scrollLines at asked ⊢
  split at asked
  next older =>
    rw [if_pos older]
    obtain rfl := Option.some.inj asked
    exact .back n.natAbs (Int.natAbs_pos.mpr (Int.ne_of_lt older)) older rfl rfl
  next newer =>
    rw [if_neg newer]
    split at asked
    · exact nomatch asked
    next moving =>
      rw [if_neg moving]
      have listened : v.following = false := by simp_all
      have ne_zero : n ≠ 0 := by simp_all
      dsimp only at asked ⊢
      split at asked
      next arrived =>
        rw [if_pos arrived]
        obtain rfl := Option.some.inj asked
        exact .home jumpToBottom_pos rfl rfl
      next short =>
        rw [if_neg short]
        obtain rfl := Option.some.inj asked
        have offset_lt : v.offset - n.natAbs < v.offset := by omega
        exact .forward (by omega) listened listened offset_lt

/-- So does any command to scroll. -/
theorem asks_apply {command : ScrollCommand} {delta : Int}
    (asked : (v.apply command).2 = some delta) : v.Asks (v.apply command).1 delta := by
  cases command with
  | lines n => exact asks_scrollLines asked
  | top =>
    obtain rfl := Option.some.inj asked
    exact v.asks_toTop
  | bottom =>
    obtain rfl := Option.some.inj asked
    exact v.asks_toBottom

/-- The wheel's remainder has no part in it. -/
theorem Asks.ofRemainder {remainder : Float} {moved : Viewport} {delta : Int}
    (asks : ({ v with remainder } : Viewport).Asks moved delta) : v.Asks moved delta := by
  cases asks with
  | back n pos older listens offset_eq => exact .back n pos older listens offset_eq
  | forward newer listened listens offset_lt => exact .forward newer listened listens offset_lt
  | home newer follows offset_eq => exact .home newer follows offset_eq

/-- And so does the wheel, once its turns amount to a line. The part of a line that is left over is
kept in the viewport and asks for nothing. -/
theorem asks_wheel {deltaY glyphHeight : Float} {delta : Int}
    (asked : (v.wheel deltaY glyphHeight).2 = some delta) :
    v.Asks (v.wheel deltaY glyphHeight).1 delta := by
  unfold wheel at asked ⊢
  split at asked
  · exact nomatch asked
  next moves =>
    rw [if_neg moves]
    dsimp only at asked ⊢
    split at asked
    · exact nomatch asked
    next whole =>
      rw [if_neg whole]
      exact (asks_scrollLines asked).ofRemainder

/-- A movement leaves a viewport where it was, if it was as far from the end as offsets go and is to
go further, or if it followed the end already. -/
theorem Asks.unmoved_iff {moved : Viewport} {delta : Int} (asks : v.Asks moved delta)
    (settled : v.Settled) :
    (moved.following = v.following ∧ moved.offset = v.offset) ↔
      if delta < 0 then v.following = false ∧ v.offset = maxOffset else v.following = true := by
  cases asks with
  | back n pos older listens offset_eq =>
    rw [if_pos older, listens, offset_eq, eq_comm]
    refine and_congr_right fun _ => ⟨fun same => ?_, fun at_limit => ?_⟩ <;> omega
  | forward newer listened listens offset_lt =>
    rw [if_neg (Int.not_lt.mpr (Int.le_of_lt newer)), listened]
    exact ⟨fun same => absurd same.2 (Nat.ne_of_lt offset_lt), nofun⟩
  | home newer follows offset_eq =>
    rw [if_neg (Int.not_lt.mpr (Int.le_of_lt newer)), follows, offset_eq]
    exact ⟨fun same => same.1.symm, fun following => ⟨following.symm, (settled following).symm⟩⟩

/-! ### Viewports that stand at the end they follow -/

/-- A viewport that follows hears nothing. Any other takes the offset of the engine, and follows
again just if that is zero. -/
theorem Settled.sync (settled : v.Settled) (actual : Nat) : (v.sync actual).Settled := by
  unfold Viewport.sync
  split
  · exact settled
  · exact fun at_end => eq_of_beq at_end

/-- A viewport that asks is settled, before it hears what became of the window. -/
theorem Asks.settled {moved : Viewport} {delta : Int} (asks : v.Asks moved delta) :
    moved.Settled := by
  intro following
  cases asks with
  | back n pos older listens offset_eq => exact nomatch listens.symm.trans following
  | forward newer listened listens offset_lt => exact nomatch listens.symm.trans following
  | home newer follows offset_eq => exact offset_eq

/-- Without a question the viewport stays where it was. -/
theorem Settled.scrollLines (settled : v.Settled) (n : Int) : (v.scrollLines n).1.Settled := by
  cases asked : (v.scrollLines n).2 with
  | some delta => exact (asks_scrollLines asked).settled
  | none => rwa [scrollLines_of_none asked]

theorem Settled.apply (settled : v.Settled) (command : ScrollCommand) :
    (v.apply command).1.Settled := by
  cases command with
  | lines n => exact settled.scrollLines n
  | top => exact v.asks_toTop.settled
  | bottom => exact v.asks_toBottom.settled

theorem Settled.wheel (settled : v.Settled) (deltaY glyphHeight : Float) :
    (v.wheel deltaY glyphHeight).1.Settled := by
  have turned (remainder : Float) : ({ v with remainder } : Viewport).Settled := settled
  unfold Viewport.wheel
  split
  · exact settled
  · dsimp only
    split
    · exact turned _
    · exact (turned _).scrollLines _

end Viewport

/-! ### Sessions that stand at the end they follow -/

namespace Session

variable {ε : Type} [Engine ε] {s : Session ε} {e : ε}

/-- An engine may tell its offset or not. If it does not, the viewport stays as it is. -/
theorem settled_syncViewport (settled : s.viewport.Settled) (e : ε) :
    (s.syncViewport e).viewport.Settled := by
  unfold syncViewport
  split
  · exact settled.sync _
  · exact settled

/-- Output may fail in the engine. Then nothing was told to the viewport. -/
theorem settled_receive (settled : s.viewport.Settled) (bytes : List UInt8) :
    (s.receive bytes).viewport.Settled := by
  unfold receive
  split
  · split
    · exact settled
    · refine settled_syncViewport ?_ _
      split
      · exact settled
      · rw [viewport_write]
        exact settled
  · exact settled

/-- The window may fail to move. Then the viewport has moved already, and is left so: settled, but
possibly elsewhere. -/
theorem settled_scrollEngine (settled : s.viewport.Settled) (delta : Int) :
    (s.scrollEngine delta).viewport.Settled := by
  unfold scrollEngine
  split
  · split
    · exact settled
    next engine _ =>
      exact settled_syncViewport (s := s.putEngine engine) settled engine
  · exact settled

/-- The viewport is settled by the movement itself, and by what the engine tells after it. -/
theorem settled_follow {moved : Viewport × Option Int} (settled : moved.1.Settled) :
    (s.follow moved).viewport.Settled := by
  unfold follow
  dsimp only
  split
  · exact settled_scrollEngine settled _
  · exact settled

theorem settled_scroll (settled : s.viewport.Settled) (command : ScrollCommand) :
    (s.scroll command).viewport.Settled := by
  unfold scroll
  split
  · exact settled_follow (settled.apply command)
  · exact settled

theorem settled_wheel (settled : s.viewport.Settled) (deltaY glyphHeight : Float) :
    (s.wheel deltaY glyphHeight).viewport.Settled := by
  unfold wheel
  split
  · exact settled_follow (settled.wheel deltaY glyphHeight)
  · exact settled

/-- Input can move the viewport home, or be a command to scroll; in every other way it leaves the
viewport alone. -/
theorem settled_input (settled : s.viewport.Settled) (event : InputEvent) :
    (s.input event).viewport.Settled := by
  cases is_running : s.isRunning with
  | true =>
    rw [input_of_running s is_running]
    cases (s.composer.encode event s.size.rows).2 with
    | write bytes =>
      refine (viewport_write _ _).symm ▸ ?_
      unfold returned
      split
      · exact settled_scroll (s := s.encoded event) settled .bottom
      · exact settled
    | scroll command => exact settled_scroll (s := s.encoded event) settled command
    | ignore => exact settled
  | false => rwa [input_of_not_running s is_running]

/-- A new size may fail as well. -/
theorem settled_resize (settled : s.viewport.Settled) (size : Dimensions) :
    (s.resize size).viewport.Settled := by
  unfold resize
  dsimp only
  split
  · split
    · exact settled
    · refine settled_syncViewport ?_ _
      dsimp only
      rw [viewport_ask]
      split <;> exact settled
  · exact settled

omit [Engine ε] in
/-- The end of a session, whatever brings it about, leaves the viewport as it is. -/
theorem viewport_release (s : Session ε) (phase : Phase ε) :
    (s.release phase).viewport = s.viewport := by
  unfold release
  split
  · exact viewport_ask _ _ _
  · rfl

omit [Engine ε] in
theorem viewport_processGone (s : Session ε) (message : String) :
    (s.processGone message).viewport = s.viewport := viewport_release _ _

omit [Engine ε] in
theorem viewport_stop (s : Session ε) : s.stop.viewport = s.viewport := by
  unfold stop
  split
  · rfl
  · exact viewport_release _ _

/-- Events of the process are output, or its end. -/
theorem settled_handle (settled : s.viewport.Settled) (events : List ProcessEvent) :
    (s.handle events).viewport.Settled := by
  induction events generalizing s with
  | nil => exact settled
  | cons event rest ih =>
    cases event with
    | data bytes => exact ih (settled_receive settled bytes)
    | exited =>
      rw [handle, viewport_processGone]
      exact settled

theorem settled_pump (settled : s.viewport.Settled) : s.pump.1.viewport.Settled := by
  have handled := settled_handle (s := { s with mailbox := s.mailbox.drain.1 }) settled
    s.mailbox.queue
  unfold pump
  dsimp only
  split
  · exact (viewport_processGone _ closedMessage).symm ▸ handled
  · exact handled

/-- Whatever happens to a session, it stands at the live end if it follows. -/
theorem settled_act (settled : s.viewport.Settled) (action : Action) :
    (s.act action).viewport.Settled := by
  cases action with
  | receive bytes => exact settled_receive settled bytes
  | pump => exact settled_pump settled
  | resize size => exact settled_resize settled size
  | input event => exact settled_input settled event
  | scroll command => exact settled_scroll settled command
  | wheel deltaY glyphHeight => exact settled_wheel settled deltaY glyphHeight
  | stop => exact (viewport_stop s).symm ▸ settled
  -- What is left does not touch the viewport.
  | _ => exact settled

/-- Along every run, a session that follows stands at the live end. -/
theorem settled_run {options : SessionOptions} {size : Dimensions} {provider : Option (Provider ε)}
    {refusal : Option ProcessFault} (started : start options size provider refusal = .ok s)
    (actions : List Action) : (s.run actions).viewport.Settled := by
  refine run_induction (P := fun s : Session ε => s.viewport.Settled)
    (fun s action settled => settled_act settled action) ?_ actions
  obtain ⟨_, _, -, -, rfl⟩ := exists_of_start started
  exact fun _ => rfl

/-! ### Gestures -/

/-- What an action of the user makes of the viewport, with the lines by which the engine has to
move. -/
def gesture? (s : Session ε) : Action → Option (Viewport × Option Int)
  | .scroll command => some (s.viewport.apply command)
  | .wheel deltaY glyphHeight => some (s.viewport.wheel deltaY glyphHeight)
  | .input event =>
    match (s.composer.encode event s.size.rows).2 with
    | .scroll command => some (s.viewport.apply command)
    | .write _ =>
      if s.scrollOnInput && !s.viewport.following then some (s.viewport.apply .bottom) else none
    | .ignore => none
  | _ => none

/-- What a failing movement does: the viewport has moved, the engine is what has become of it, and
the fault is written down. -/
theorem follow_of_fault {moved : Viewport} {delta : Int} {fault : EngineFault}
    (running : s.phase = .running e) (fails : (Engine.scroll e delta).2 = some fault) :
    s.follow (moved, some delta) =
      (({ s with viewport := moved } : Session ε).putEngine (Engine.scroll e delta).1).note
        (.scrollFailed fault) := by
  unfold follow scrollEngine
  dsimp only
  rw [running]
  dsimp only
  rcases scrolled : Engine.scroll e delta with ⟨e', _ | fault'⟩
  · rw [scrolled] at fails
    exact nomatch fails
  · rw [scrolled] at fails
    obtain rfl := Option.some.inj fails
    rfl

omit [Engine ε] in
/-- To write to the process is no reason to draw. -/
theorem pacer_write (s : Session ε) (bytes : List UInt8) : (s.write bytes).pacer = s.pacer := by
  unfold write ask
  split <;> rfl

/-- A session after a movement that the engine refused: the viewport is `moved`, the engine is what
has become of it, and no frame is wanted for it. -/
structure Stranded (s : Session ε) (e : ε) (moved : Viewport) (delta : Int) (s' : Session ε) :
    Prop where
  viewport_eq : s'.viewport = moved
  phase_eq : s'.phase = .running (Engine.takeNotices (Engine.scroll e delta).1).1
  pacer_eq : s'.pacer = s.pacer

section Stranding

variable {moved : Viewport} {delta : Int} {fault : EngineFault} (running : s.phase = .running e)
  (fails : (Engine.scroll e delta).2 = some fault)
include running fails

/-- A viewport that moves and asks is stranded by an engine that fails: it has moved, the failure is
noted, and no frame is wanted. -/
theorem stranded_follow : s.Stranded e moved delta (s.follow (moved, some delta)) := by
  rw [follow_of_fault running fails]
  exact ⟨rfl, rfl, rfl⟩

/-- So a command is, if it makes the viewport ask. -/
theorem stranded_scroll {command : ScrollCommand}
    (asked : s.viewport.apply command = (moved, some delta)) :
    s.Stranded e moved delta (s.scroll command) := by
  rw [scroll, if_pos (isRunning_eq_true running), asked]
  exact stranded_follow running fails

/-- So is a turn of the wheel. -/
theorem stranded_wheel {deltaY glyphHeight : Float}
    (asked : s.viewport.wheel deltaY glyphHeight = (moved, some delta)) :
    s.Stranded e moved delta (s.wheel deltaY glyphHeight) := by
  rw [wheel, if_pos (isRunning_eq_true running), asked]
  exact stranded_follow running fails

/-- And so is input, in both ways in which it can be a gesture. What is typed is still written to
the process. -/
theorem stranded_input {event : InputEvent}
    (gesture : s.gesture? (.input event) = some (moved, some delta)) :
    s.Stranded e moved delta (s.input event) := by
  have running' : (s.encoded event).phase = .running e := running
  rw [input_of_running s (isRunning_eq_true running)]
  simp only [gesture?] at gesture
  cases encoded_eq : (s.composer.encode event s.size.rows).2 with
  | write bytes =>
    rw [encoded_eq] at gesture
    dsimp only at gesture
    split at gesture
    next returns =>
      have home := stranded_scroll running' fails (Option.some.inj gesture)
      have returned_eq : (s.encoded event).returned = (s.encoded event).scroll .bottom :=
        if_pos returns
      rw [carryOut, returned_eq]
      exact
        { viewport_eq := (viewport_write _ _).trans home.viewport_eq
          phase_eq := (phase_write _ _).trans home.phase_eq
          pacer_eq := (pacer_write _ _).trans home.pacer_eq }
    · exact nomatch gesture
  | scroll command =>
    rw [encoded_eq] at gesture
    have scrolled := stranded_scroll running' fails (Option.some.inj gesture)
    exact ⟨scrolled.viewport_eq, scrolled.phase_eq, scrolled.pacer_eq⟩
  | ignore =>
    rw [encoded_eq] at gesture
    exact nomatch gesture

/-- Whichever gesture it is, a movement that the engine refuses leaves the viewport moved. -/
theorem stranded_act {action : Action}
    (gesture : s.gesture? action = some (moved, some delta)) :
    s.Stranded e moved delta (s.act action) := by
  cases action with
  | scroll command => exact stranded_scroll running fails (Option.some.inj gesture)
  | wheel deltaY glyphHeight => exact stranded_wheel running fails (Option.some.inj gesture)
  | input event => exact stranded_input running fails gesture
  | _ => exact nomatch gesture

end Stranding

omit [Engine ε] in
/-- Every gesture that asks the engine is one of the three movements, be it a command, a turn of the
wheel, a key that scrolls or input that returns home. -/
theorem asks_of_gesture {moved : Viewport} {delta : Int} {action : Action}
    (gesture : s.gesture? action = some (moved, some delta)) : s.viewport.Asks moved delta := by
  have of_apply {command : ScrollCommand}
      (eq : some (s.viewport.apply command) = some (moved, some delta)) :
      s.viewport.Asks moved delta := by
    have applied := Option.some.inj eq
    have asks := Viewport.asks_apply (congrArg Prod.snd applied)
    rwa [applied] at asks
  unfold gesture? at gesture
  split at gesture
  · exact of_apply gesture
  next deltaY glyphHeight =>
    have turned := Option.some.inj gesture
    have asks := Viewport.asks_wheel (congrArg Prod.snd turned)
    rwa [turned] at asks
  · split at gesture
    · exact of_apply gesture
    · split at gesture
      · exact of_apply gesture
      · exact nomatch gesture
    · exact nomatch gesture
  · exact nomatch gesture

/-- At every moment of a run, on every engine, a movement that the engine refuses leaves the viewport
as if it had been made. The engine is what has become of it, and no frame is wanted.

So the viewport is where it was in two cases only: it was as far from the end as offsets go and was
to go further, or it followed the end already. In all others it says of the window what is not so. -/
theorem gesture_of_fault {options : SessionOptions} {size : Dimensions}
    {provider : Option (Provider ε)} {refusal : Option ProcessFault}
    (started : start options size provider refusal = .ok s) (actions : List Action)
    (running : (s.run actions).phase = .running e) {action : Action} {moved : Viewport}
    {delta : Int} {fault : EngineFault}
    (gesture : (s.run actions).gesture? action = some (moved, some delta))
    (fails : (Engine.scroll e delta).2 = some fault) :
    let now := s.run actions
    let after := now.act action
    now.Stranded e moved delta after ∧
      ((after.viewport.following = now.viewport.following ∧
          after.viewport.offset = now.viewport.offset) ↔
        if delta < 0 then
          now.viewport.following = false ∧ now.viewport.offset = Viewport.maxOffset
        else now.viewport.following = true) := by
  intro now after
  have stranded : now.Stranded e moved delta after := stranded_act running fails gesture
  refine ⟨stranded, ?_⟩
  rw [stranded.viewport_eq]
  exact (asks_of_gesture gesture).unmoved_iff (settled_run started actions)

end Session

/-! ### An engine that is stuck -/

/-- An engine with a window that cannot be moved. It is otherwise the engine inside, so what goes
wrong with it is due to the window alone. -/
structure Jammed (ε : Type) where
  engine : ε

namespace Jammed

variable {ε : Type} [Engine ε]

/-- Whatever is not about the window is left to the engine inside. -/
instance : Engine (Jammed ε) where
  feed e bytes := (⟨(Engine.feed e.engine bytes).1⟩, (Engine.feed e.engine bytes).2)
  resize e size := (⟨(Engine.resize e.engine size).1⟩, (Engine.resize e.engine size).2)
  scroll e _ := (e, some (.failed "scroll"))
  dump e := Engine.dump e.engine
  cursor e := Engine.cursor e.engine
  takeReplies e := (⟨(Engine.takeReplies e.engine).1⟩, (Engine.takeReplies e.engine).2)
  title e := Engine.title e.engine
  offset e := Engine.offset e.engine
  takeNotices e := (⟨(Engine.takeNotices e.engine).1⟩, (Engine.takeNotices e.engine).2)
  overflowed e := Engine.overflowed e.engine

/-- Makes engines that are stuck. -/
def provider (p : Provider ε) : Provider (Jammed ε) where
  version := p.version
  create size := (p.create size).map mk

end Jammed

namespace Session

/-- Three rows back, on a window that stands at the live end and cannot be moved. The session does
not follow the end any more and counts three rows. -/
theorem gesture_of_fault_three_back :
    ∃ s : Session (Jammed Emulator),
      start {} { cols := 10, rows := 4 } (some (Jammed.provider (Emulator.provider 5))) none =
          .ok s ∧
        ((s.act (.scroll (.lines (-3)))).viewport.following,
          (s.act (.scroll (.lines (-3)))).viewport.offset) = (false, 3) ∧
        ((s.act (.scroll (.lines (-3)))).viewport.following = s.viewport.following ∧
            (s.act (.scroll (.lines (-3)))).viewport.offset = s.viewport.offset ↔
          s.viewport.following = false ∧ s.viewport.offset = Viewport.maxOffset) := by
  refine ⟨_, rfl, rfl, ?_⟩
  exact (@gesture_of_fault (Jammed Emulator) _ _ _ {} { cols := 10, rows := 4 }
    (some (Jammed.provider (Emulator.provider 5))) none rfl [] rfl (.scroll (.lines (-3)))
    _ _ _ rfl rfl).2

/-- A failing movement does not leave every session as it was: the viewport has moved before the
engine is asked, and is not taken back when that fails. -/
theorem not_unmoved_of_fault :
    ¬ ∀ (ε : Type) [Engine ε] (options : SessionOptions) (size : Dimensions)
        (provider : Option (Provider ε)) (refusal : Option ProcessFault) (s : Session ε),
      start options size provider refusal = .ok s →
        ∀ (actions : List Action) (e : ε) (command : ScrollCommand) (moved : Viewport) (delta : Int)
          (fault : EngineFault),
          (s.run actions).phase = .running e →
            (s.run actions).viewport.apply command = (moved, some delta) →
              (Engine.scroll e delta).2 = some fault →
                ((s.run actions).scroll command).viewport.following =
                    (s.run actions).viewport.following ∧
                  ((s.run actions).scroll command).viewport.offset =
                    (s.run actions).viewport.offset := by
  intro unmoved
  have same := unmoved (Jammed Emulator) {} { cols := 10, rows := 4 }
    (some (Jammed.provider (Emulator.provider 5))) none _ rfl [] _ (.lines (-3)) _ _ _ rfl rfl rfl
  exact absurd same.1 (by decide)

end Session

end TerminalSession
