import TerminalSession.Proofs.Display.Run
import TerminalSession.Proofs.Session.Protocol

/-!
# What a view draws

A view draws frames as long as there is a grid to show. The message that takes the place of the grid
is the last thing that it draws, whether it tells of a failed start or of the end of the process.

## Main definitions

* `View.Finished`: nothing will be drawn any more
* `View.Stage`: the parts of the life of a view, with what was drawn so far

## Main statements

* `View.Finished.tick_eq`: a view that has finished draws nothing
* `View.Stage.act`: a view goes from one part of its life to the next
* `View.drawings_run`: what a view draws along a run

## Design notes

* A session that is over wants a frame only because its end wanted one. Drawing that frame takes the
  wish away, and nothing that can happen to such a session brings it back.
* Whether the surface draws what it is asked to does not matter. A view does not ask again.
-/

namespace TerminalSession

/-! ### Sessions that are over -/

/-- Without a wish for a frame none is drawn. -/
theorem FramePacer.poll_of_not_pending {p : FramePacer} (drawn : p.pending = false) (now : Nat) :
    p.poll now = (p, false) :=
  if_neg (by simp [drawn])

/-- Nothing that happens to a session that is over makes it want a frame. It ignores whatever comes,
and a tick draws at most what was wanted before. -/
theorem Session.IsOver.pending_act {ε : Type} [Engine ε] {s : Session ε} (isOver : s.IsOver)
    (drawn : s.pacer.pending = false) (action : Session.Action) :
    (s.act action).pacer.pending = false := by
  have unchanged {s' : Session ε} (same : s' = s) : s'.pacer.pending = false := by
    rw [same]
    exact drawn
  cases action with
  | receive bytes => exact unchanged (receive_of_not_running isOver.idle bytes)
  | pump => exact unchanged isOver.pump_eq
  | resize size => exact unchanged (resize_of_not_running isOver.idle size)
  | input event => exact unchanged (input_of_not_running s isOver.idle event)
  | scroll command => exact unchanged (if_neg (Bool.eq_false_iff.mp isOver.idle))
  | wheel deltaY glyphHeight => exact unchanged (if_neg (Bool.eq_false_iff.mp isOver.idle))
  | tick now =>
    have polled := FramePacer.poll_of_not_pending drawn now
    exact (congrArg (fun polled => polled.1.pending) polled).trans drawn
  | stop =>
    change s.stop.pacer.pending = false
    unfold Session.stop
    split
    · exact drawn
    · rw [release_of_not_running (s.note .sessionStopped) isOver.idle]
      exact drawn
  | offer event => exact unchanged (congrArg Prod.fst (isOver.offer_eq event))
  | hangUp => exact drawn
  | setTrouble trouble => exact drawn

theorem Session.IsOver.pending_run {ε : Type} [Engine ε] {s : Session ε} (isOver : s.IsOver)
    (drawn : s.pacer.pending = false) (actions : List Session.Action) :
    (s.run actions).pacer.pending = false := by
  induction actions generalizing s with
  | nil => exact drawn
  | cons action rest ih => exact ih (isOver.act action).1 (isOver.pending_act drawn action)

/-- A frame that was drawn is no longer wanted. -/
theorem Session.pending_tick {ε : Type} [Engine ε] {s : Session ε} {now : Nat} {picture : Picture}
    (drawn : (s.tick now).2 = some picture) :
    (s.tick now).1.pacer.pending = false ∧ s.picture? = some picture := by
  unfold tick at drawn ⊢
  by_cases due : (s.pacer.pending && s.pacer.due now) = true
  · have polled : s.pacer.poll now = ({ s.pacer with pending := false, last := some now }, true) :=
      if_pos due
    rw [polled] at drawn ⊢
    exact ⟨rfl, drawn⟩
  · have polled : s.pacer.poll now = (s.pacer, false) := if_neg due
    rw [polled] at drawn
    exact nomatch drawn

/-- A message is drawn by a session whose process is gone. -/
theorem Session.idle_of_picture {ε : Type} [Engine ε] {s : Session ε} {message : String}
    (picture_eq : s.picture? = some (.ended message)) : s.isRunning = false := by
  unfold picture? at picture_eq
  unfold isRunning
  split at picture_eq
  · exact nomatch picture_eq
  next phase => rw [phase]
  · exact nomatch picture_eq

namespace View

variable {σ ε : Type} [Surface σ] [Engine ε]

/-! ### Views that have finished -/

/-- Nothing will be drawn any more: no message waits, and the session, if there is one, is over and
wants no frame. -/
structure Finished (v : View σ ε) : Prop where
  message_eq : v.message = none
  isOver : ∀ s : Session ε, v.session = some s → s.IsOver ∧ s.pacer.pending = false

namespace Finished

variable {v : View σ ε}

/-- A view that has finished draws nothing. No message waits, and its session, if there is one,
wants no frame and will want none. -/
theorem tick_eq (finished : v.Finished) (now : Nat) : v.tick now = (v, .ok false) := by
  obtain ⟨surface, session, message, journal⟩ := v
  obtain rfl : message = none := finished.message_eq
  cases session with
  | none => rfl
  | some s =>
    obtain ⟨-, drawn⟩ := finished.isOver s rfl
    have ticked : s.tick now = (s, none) := by
      unfold Session.tick
      rw [FramePacer.poll_of_not_pending drawn now]
      rfl
    unfold tick
    dsimp only
    rw [ticked]

/-- A view that has finished stays so. -/
theorem act (finished : v.Finished) (action : Action σ) : (v.act action).Finished where
  message_eq := by
    by_cases ticks : ∃ now, action = .tick now
    · obtain ⟨now, rfl⟩ := ticks
      exact v.message_tick now
    · exact (v.message_act fun now eq => ticks ⟨now, eq⟩).trans finished.message_eq
  isOver s' after := by
    obtain ⟨actions, session_eq⟩ := v.exists_session_act action
    obtain ⟨s, before, rfl⟩ := Option.map_eq_some_iff.mp (session_eq.symm.trans after)
    obtain ⟨isOver, drawn⟩ := finished.isOver s before
    exact ⟨(isOver.run actions).1, isOver.pending_run drawn actions⟩

end Finished

/-- A view that has finished draws nothing more, and every tick says so. -/
theorem Finished.run {v : View (Recorded σ) ε} (finished : v.Finished) (actions : List (Action σ)) :
    (v.run (actions.map .recorded)).Finished ∧
      (v.run (actions.map .recorded)).surface.drawings = v.surface.drawings := by
  induction actions generalizing v with
  | nil => exact ⟨finished, rfl⟩
  | cons action rest ih =>
    obtain ⟨finished', drawings_eq⟩ := ih (finished.act action.recorded)
    refine ⟨finished', drawings_eq.trans ?_⟩
    by_cases ticks : ∃ now, action = .tick now
    · obtain ⟨now, rfl⟩ := ticks
      exact congrArg (fun ticked => ticked.1.surface.drawings) (finished.tick_eq now)
    · exact v.drawings_act fun now eq => ticks ⟨now, eq⟩

/-! ### The life of a view -/

/-- The parts of the life of a view, with what was drawn so far. `first` is the message about a
start that failed, if it did. The invariant of a run is that it is in one of these parts. -/
inductive Stage (first : Option String) (v : View (Recorded σ) ε) : Prop
  /-- The message about a failed start waits for the first tick. -/
  | waiting {message : String} (first_eq : first = some message)
      (message_eq : v.message = some message) (session_eq : v.session = none)
      (drawings_eq : v.surface.drawings = [])
  /-- There is a session, and only frames were drawn. -/
  | showing (actions : List Session.Action) (frames : List Frame) {s : Session ε} {e : ε}
      (first_eq : first = none) (message_eq : v.message = none) (running : s.phase = .running e)
      (session_eq : v.session = some (s.run actions))
      (drawings_eq : v.surface.drawings = frames.map .frame)
  /-- A message was drawn, as the last thing. -/
  | finished (frames : List Frame) (message : String) (finished : v.Finished)
      (only : ∀ m, first = some m → frames = [] ∧ message = m)
      (drawings_eq : v.surface.drawings = frames.map .frame ++ [.message message])

/-- A view without a session has a message to draw. -/
theorem exists_message_opening {surface : σ} {options : SessionOptions}
    {provider : Option (Provider ε)} {refusal : Option ProcessFault} {failure : StartFailure}
    (failed : Session.start options (Surface.metrics surface).dimensions provider refusal =
      .error failure) :
    ∃ message, (opening surface options provider refusal).message = some message := by
  unfold opening withoutSession
  rw [failed]
  dsimp only
  split <;> exact ⟨_, rfl⟩

theorem opening_of_ok {surface : σ} {options : SessionOptions} {provider : Option (Provider ε)}
    {refusal : Option ProcessFault} {s : Session ε}
    (started : Session.start options (Surface.metrics surface).dimensions provider refusal = .ok s) :
    opening surface options provider refusal = { surface, session := some s } := by
  unfold opening
  rw [started]

theorem stage_opening (surface : σ) (options : SessionOptions) (provider : Option (Provider ε))
    (refusal : Option ProcessFault) :
    (opening (σ := Recorded σ) { surface } options provider refusal).Stage
      (opening (σ := Recorded σ) { surface } options provider refusal).message := by
  unfold opening
  split
  next s started =>
    obtain ⟨_, e, -, -, s_eq⟩ := Session.exists_of_start started
    have running : s.phase = .running e := congrArg Session.phase s_eq
    exact .showing [] [] rfl rfl running rfl rfl
  · unfold withoutSession
    split <;> exact .waiting rfl rfl rfl rfl

namespace Stage

variable {first : Option String} {v : View (Recorded σ) ε}

/-- A tick draws the message that waits, or what the session shows. The message that it draws in
place of a grid is the last one, as the session is over and the frame wanted was the last. -/
theorem tick (stage : v.Stage first) (now : Nat) : (v.tick now).1.Stage first := by
  cases stage with
  | @waiting message first_eq message_eq session_eq drawings_eq =>
    have ticked : (v.tick now).1 =
        (({ v with message := none } : View (Recorded σ) ε).showMessage message).1 := by
      unfold View.tick
      rw [message_eq]
    rw [ticked]
    refine .finished [] message ⟨rfl, fun s eq => nomatch session_eq.symm.trans eq⟩ ?_ ?_
    · exact fun m eq => ⟨rfl, Option.some.inj (first_eq.symm.trans eq)⟩
    · exact congrArg (· ++ [Drawing.message message]) drawings_eq
  | @showing actions frames s e first_eq message_eq running session_eq drawings_eq =>
    have none_first (m : String) (eq : first = some m) {P : Prop} : P :=
      nomatch first_eq.symm.trans eq
    have ticked : ((s.run actions).tick now).1 = s.run (actions ++ [.tick now]) :=
      (Session.run_concat s actions (.tick now)).symm
    unfold View.tick
    rw [message_eq, session_eq]
    dsimp only
    split
    next snapshot _ =>
      let frame := frameOf (Surface.metrics v.surface) ((s.run actions).tick now).1 snapshot
      refine .showing (actions ++ [.tick now]) (frames ++ [frame]) first_eq rfl running
        (congrArg some ticked) ?_
      rw [List.map_append, ← drawings_eq]
      rfl
    next message drawn =>
      obtain ⟨pending, picture_eq⟩ := Session.pending_tick drawn
      have isOver : (s.run actions).IsOver :=
        Session.isOver_run_of_idle running (Session.idle_of_picture picture_eq)
      refine .finished frames message ⟨rfl, ?_⟩ (fun m eq => none_first m eq) ?_
      · rintro s' ⟨rfl⟩
        exact ⟨(isOver.act (.tick now)).1, pending⟩
      · exact congrArg (· ++ [Drawing.message message]) drawings_eq
    · exact .showing (actions ++ [.tick now]) frames first_eq rfl running (congrArg some ticked)
        drawings_eq
  | finished frames message finished only drawings_eq =>
    rw [finished.tick_eq now]
    exact .finished frames message finished only drawings_eq

/-- A view goes from one part of its life to the next. Only a tick draws; everything else reaches
the session as its own actions, which keep the part of life that the view is in. -/
theorem act (stage : v.Stage first) (action : Action σ) : (v.act action.recorded).Stage first := by
  by_cases ticks : ∃ now, action = .tick now
  · obtain ⟨now, rfl⟩ := ticks
    exact stage.tick now
  · have draws_not (now : Nat) : action ≠ .tick now := fun eq => ticks ⟨now, eq⟩
    have draws_not' (now : Nat) : action.recorded ≠ .tick now := by
      intro eq
      cases action with
      | tick time => exact draws_not time rfl
      | _ => exact nomatch eq
    have message_eq' := v.message_act draws_not'
    have drawings_eq' := v.drawings_act draws_not
    obtain ⟨more, session_eq'⟩ := v.exists_session_act action.recorded
    cases stage with
    | waiting first_eq message_eq session_eq drawings_eq =>
      refine .waiting first_eq (message_eq'.trans message_eq) ?_ (drawings_eq'.trans drawings_eq)
      rw [session_eq', session_eq]
      rfl
    | @showing actions frames s e first_eq message_eq running session_eq drawings_eq =>
      refine .showing (actions ++ more) frames first_eq (message_eq'.trans message_eq) running ?_
        (drawings_eq'.trans drawings_eq)
      rw [session_eq', session_eq]
      exact congrArg some List.foldl_append.symm
    | finished frames message finished only drawings_eq =>
      exact .finished frames message (finished.act _) only (drawings_eq'.trans drawings_eq)

theorem run (stage : v.Stage first) (actions : List (Action σ)) :
    (v.run (actions.map .recorded)).Stage first := by
  induction actions generalizing v with
  | nil => exact stage
  | cons action rest ih => exact ih (stage.act action)

omit [Surface σ] in
/-- A message was drawn only if the view has finished. -/
theorem finished_of_mem (stage : v.Stage first) {message : String}
    (mem : .message message ∈ v.surface.drawings) : v.Finished := by
  cases stage with
  | waiting first_eq message_eq session_eq drawings_eq =>
    rw [drawings_eq] at mem
    exact nomatch mem
  | showing actions frames first_eq message_eq running session_eq drawings_eq =>
    rw [drawings_eq] at mem
    obtain ⟨_, -, eq⟩ := List.mem_map.mp mem
    exact nomatch eq
  | finished frames message finished only drawings_eq => exact finished

omit [Surface σ] in
/-- Any number of frames, and then at most one message. -/
theorem exists_frames (stage : v.Stage first) :
    ∃ frames : List Frame, v.surface.drawings = frames.map .frame ∨
      ∃ message, v.surface.drawings = frames.map .frame ++ [.message message] := by
  cases stage with
  | waiting first_eq message_eq session_eq drawings_eq => exact ⟨[], .inl drawings_eq⟩
  | showing actions frames first_eq message_eq running session_eq drawings_eq => exact ⟨frames, .inl drawings_eq⟩
  | finished frames message finished only drawings_eq => exact ⟨frames, .inr ⟨message, drawings_eq⟩⟩

omit [Surface σ] in
/-- A view without a session draws its message only. -/
theorem drawings_of_first {told : String} (stage : v.Stage (some told)) :
    v.surface.drawings = [] ∨ v.surface.drawings = [.message told] := by
  cases stage with
  | waiting first_eq message_eq session_eq drawings_eq => exact .inl drawings_eq
  | showing actions frames first_eq message_eq running session_eq drawings_eq => exact nomatch first_eq
  | finished frames message finished only drawings_eq =>
    obtain ⟨rfl, rfl⟩ := only told rfl
    exact .inr drawings_eq

end Stage

/-- What a view draws along a run, on any surface and on any engine, whatever fails.

There is one message at most, and it is the last thing that is drawn. If no session could be started,
nothing else is drawn at all. Once a message was drawn, whether of a failed start or of a session that
has ended, every tick says that nothing was drawn, and this is so. The record by which all this is
said changes nothing. -/
theorem drawings_run (surface : σ) (options : SessionOptions) (provider : Option (Provider ε))
    (refusal : Option ProcessFault) (actions : List (Action σ)) :
    let plain : View σ ε := opening surface options provider refusal
    let opened : View (Recorded σ) ε := opening { surface } options provider refusal
    let drawings (actions : List (Action σ)) := (opened.run (actions.map .recorded)).surface.drawings
    (opened.run (actions.map .recorded)).unrecorded = plain.run actions ∧
      (∃ frames : List Frame, drawings actions = frames.map .frame ∨
        ∃ message, drawings actions = frames.map .frame ++ [.message message]) ∧
      (∀ failure, Session.start options (Surface.metrics surface).dimensions provider refusal =
          .error failure →
        ∃ message, plain.message = some message ∧
          (drawings actions = [] ∨ drawings actions = [.message message])) ∧
      ∀ message, .message message ∈ drawings actions → ∀ (more : List (Action σ)) (now : Nat),
        drawings (actions ++ more) = drawings actions ∧
          ((plain.run (actions ++ more)).tick now).2 = .ok false := by
  intro plain opened drawings
  have plain_eq : opened.unrecorded = plain := unrecorded_opening surface options provider refusal
  have stage := (stage_opening surface options provider refusal).run actions
  refine ⟨?_, stage.exists_frames, ?_, ?_⟩
  · rw [unrecorded_run, plain_eq]
  · intro failure failed
    obtain ⟨message, message_eq⟩ := exists_message_opening failed
    have opened_eq : opened.message = some message :=
      (congrArg View.message plain_eq).trans message_eq
    rw [opened_eq] at stage
    exact ⟨message, message_eq, stage.drawings_of_first⟩
  · intro message mem more now
    obtain ⟨finished, drawings_eq⟩ := (stage.finished_of_mem mem).run more
    have run_eq : (opened.run (actions.map .recorded)).run (more.map .recorded) =
        opened.run ((actions ++ more).map .recorded) := by
      rw [List.map_append, run_append]
    rw [run_eq] at finished drawings_eq
    refine ⟨drawings_eq, ?_⟩
    have ticked := congrArg Prod.snd (finished.tick_eq now)
    rw [(unrecorded_tick _ now).2, unrecorded_run, plain_eq] at ticked
    exact ticked

end View

/-- A surface on which nothing can be drawn. -/
structure Broken where
  reason : String

instance : Surface Broken where
  metrics _ := default
  present b _ := (b, some ⟨b.reason⟩)
  showMessage b _ := (b, some ⟨b.reason⟩)

/-- On the engine of this library a session starts whatever the size. -/
theorem Session.exists_started (limit : Nat) (options : SessionOptions) (size : Dimensions) :
    ∃ s : Session Emulator,
      Session.start options size (some (Emulator.provider limit)) none = .ok s := by
  have side_ne (n : Int) : Dimensions.clampSide n ≠ 0 :=
    Nat.ne_of_gt (Nat.lt_of_lt_of_le Nat.two_pos (Dimensions.least_le_clampSide n))
  have has_cells : ¬ ((Dimensions.clamped size.cols size.rows).cols = 0 ∨
      (Dimensions.clamped size.cols size.rows).rows = 0) :=
    not_or.mpr ⟨side_ne size.cols, side_ne size.rows⟩
  unfold Session.start Provider.engine? Emulator.provider
  dsimp only
  rw [if_neg has_cells, if_neg has_cells]
  exact ⟨_, rfl⟩

namespace View

/-- On a surface on which nothing can be drawn, a view without an engine, and one whose process ends
at once: either is asked to draw its message, and no tick after that draws anything. -/
theorem drawings_run_broken :
    let surface : Broken := ⟨"failing surface"⟩
    let engine := Emulator.provider 5
    let idle : List (Action Broken) := [.tick 0]
    let exits : List (Action Broken) := [.offer .exited, .pump, .tick 0]
    ((opening (σ := Recorded Broken) { surface } {} (none : Option (Provider Emulator)) none).run
        (idle.map .recorded)).surface.drawings = [.message noEngineMessage] ∧
      ((opening (σ := Recorded Broken) { surface } {} (some engine) none).run
        (exits.map .recorded)).surface.drawings = [.message exitedMessage] ∧
      ∀ (more : List (Action Broken)) (now : Nat),
        (((opening surface {} (none : Option (Provider Emulator)) none).run (idle ++ more)).tick
            now).2 = .ok false ∧
          (((opening surface {} (some engine) none).run (exits ++ more)).tick now).2 =
            .ok false := by
  intro surface engine idle exits
  have drawn : ((opening (σ := Recorded Broken) { surface } {} (none : Option (Provider Emulator))
      none).run (idle.map .recorded)).surface.drawings = [.message noEngineMessage] := rfl
  have drawn' : ((opening (σ := Recorded Broken) { surface } {} (some engine) none).run
      (exits.map .recorded)).surface.drawings = [.message exitedMessage] := by
    let recorded : Recorded Broken := { surface }
    obtain ⟨s, started⟩ := Session.exists_started 5 {} (Surface.metrics recorded).dimensions
    obtain ⟨_, e, -, -, rfl⟩ := Session.exists_of_start started
    change ((opening recorded {} (some (Emulator.provider 5)) none).run _).surface.drawings = _
    rw [opening_of_ok started]
    rfl
  refine ⟨drawn, drawn', fun more now => ⟨?_, ?_⟩⟩
  · obtain ⟨-, -, -, silent⟩ := drawings_run surface {} (none : Option (Provider Emulator)) none idle
    have mem := List.mem_singleton_self (Drawing.message noEngineMessage)
    rw [← drawn] at mem
    exact (silent noEngineMessage mem more now).2
  · obtain ⟨-, -, -, silent⟩ := drawings_run surface {} (some engine) none exits
    have mem := List.mem_singleton_self (Drawing.message exitedMessage)
    rw [← drawn'] at mem
    exact (silent exitedMessage mem more now).2

end View

end TerminalSession
