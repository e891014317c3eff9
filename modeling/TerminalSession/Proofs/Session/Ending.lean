import TerminalSession.Proofs.Session.Course

/-!
# The end of a session

A session learns from its mailbox that its process is gone. It takes what waits, reads the output
before the end, and then ends. A session that has ended, or was stopped, lets nothing in any more
and passes on nothing.

## Main definitions

* `ProcessEvent.chunks`: the output before the end of a process
* `Mailbox.lastWord?`: why a session ends when it takes what waits
* `Session.fetched`: the session that has received the output which waits
* `Session.IsOver`: a session that does not run any more
* `Session.ending`: how an action ends

## Main statements

* `Session.pump_eq`: taking what waits is receiving the output in it, and then possibly the end
* `Session.cases_ending`: a session that ends kills its process
* `Session.IsOver.act`, `Session.IsOver.run`: whatever happens to a session that is over, it asks
  nothing of its process
-/

namespace TerminalSession

/-! ### What waits in the mailbox -/

/-- The output before the end of a process. What is in the queue after the end is not read any
more. -/
def ProcessEvent.chunks : List ProcessEvent → List (List UInt8)
  | [] => []
  | .data bytes :: rest => bytes :: chunks rest
  | .exited :: _ => []

theorem ProcessEvent.chunks_append {events : List ProcessEvent} (alive : .exited ∉ events)
    (more : List ProcessEvent) : chunks (events ++ more) = chunks events ++ chunks more := by
  induction events with
  | nil => rfl
  | cons event rest ih =>
    cases event with
    | data bytes =>
      have rest_alive : .exited ∉ rest := fun mem => alive (List.mem_cons_of_mem _ mem)
      exact congrArg (bytes :: ·) (ih rest_alive)
    | exited => exact absurd List.mem_cons_self alive

/-- Why a session ends when it takes what waits, if it does: the end of the process waits too, or
nothing more can come. -/
def Mailbox.lastWord? (m : Mailbox) : Option String :=
  if .exited ∈ m.queue then some exitedMessage
  else if m.disconnected then some closedMessage
  else none

namespace Session

variable {ε : Type} [Engine ε] {s : Session ε} {e : ε}

/-- Events are received up to the end of the process. -/
theorem handle_eq (s : Session ε) (events : List ProcessEvent) :
    s.handle events =
      if .exited ∈ events then
        (s.run ((ProcessEvent.chunks events).map .receive)).processGone exitedMessage
      else s.run ((ProcessEvent.chunks events).map .receive) := by
  induction events generalizing s with
  | nil => rfl
  | cons event rest ih =>
    cases event with
    | data bytes =>
      have mem_iff : .exited ∈ ProcessEvent.data bytes :: rest ↔ .exited ∈ rest := by simp
      simp only [handle, ih, mem_iff, ProcessEvent.chunks, List.map_cons, run_cons, act]
    | exited => simp [handle, ProcessEvent.chunks]

/-- The session with what waits in its mailbox taken out. -/
def emptied (s : Session ε) : Session ε := { s with mailbox := s.mailbox.drain.1 }

/-- The session that has received the output which waits in its mailbox. -/
def fetched (s : Session ε) : Session ε :=
  s.emptied.run ((ProcessEvent.chunks s.mailbox.queue).map .receive)

/-- The calls that send what the engine replies to one piece of output after the other. -/
def sendings (s : Session ε) : List (List UInt8) → List ProcessCall
  | [] => []
  | bytes :: rest => ProcessCall.sending (s.replies bytes) ++ (s.receive bytes).sendings rest

theorem goesOn_run_receive (running : s.phase = .running e) (chunks : List (List UInt8)) :
    s.GoesOn (chunks.map .read) (s.sendings chunks) (s.run (chunks.map .receive)) := by
  induction chunks generalizing s e with
  | nil => exact .refl running
  | cons bytes rest ih =>
    have received := goesOn_receive running bytes
    obtain ⟨_, _, -, running', -⟩ := received.engine
    exact received.trans (ih running')

/-- The output that waits goes to the engine. -/
theorem goesOn_fetched (running : s.phase = .running e) :
    s.emptied.GoesOn ((ProcessEvent.chunks s.mailbox.queue).map .read)
      (s.emptied.sendings (ProcessEvent.chunks s.mailbox.queue)) s.fetched :=
  goesOn_run_receive (s := s.emptied) running _

/-- Taking what waits is receiving the output in it, and then possibly the end. The end is told by
an event if there is one, and by the hanging up otherwise. -/
theorem pump_eq (running : s.phase = .running e) :
    s.pump.1 =
      match s.mailbox.lastWord? with
      | some message => s.fetched.processGone message
      | none => s.fetched := by
  have fetched_running : s.fetched.isRunning = true := (goesOn_fetched running).isRunning
  have handled : s.emptied.handle s.mailbox.queue =
      if .exited ∈ s.mailbox.queue then s.fetched.processGone exitedMessage else s.fetched :=
    s.emptied.handle_eq s.mailbox.queue
  have pumped : s.pump.1 =
      if s.mailbox.disconnected && (s.emptied.handle s.mailbox.queue).isRunning then
        (s.emptied.handle s.mailbox.queue).processGone closedMessage
      else s.emptied.handle s.mailbox.queue := apply_ite Prod.fst _ _ _
  rw [pumped, handled, Mailbox.lastWord?]
  by_cases exits : .exited ∈ s.mailbox.queue
  · -- The session has ended already, so that nothing more can come does not matter.
    have ended : (s.fetched.processGone exitedMessage).isRunning = false := by simp [isRunning]
    simp [exits, ended]
  · by_cases closed : s.mailbox.disconnected = true
    · simp [exits, closed, fetched_running]
    · simp [exits, closed]

/-! ### Sessions that do not run -/

/-- A session that does not run any more: its mailbox is closed, and nothing waits in it. So nothing
can bring it back. -/
structure IsOver (s : Session ε) : Prop where
  idle : s.isRunning = false
  queue_eq : s.mailbox.queue = []
  closed : s.mailbox.receiverOpen = false

omit [Engine ε] in
/-- A session that left the running phase is over. -/
theorem isOver_of_release {s' : Session ε} {phase : Phase ε} {process : Process} {pacer : FramePacer}
    (released : s'.silent = { s.silent with phase, process, mailbox := s.mailbox.close, pacer })
    (idle : ∀ e, phase ≠ .running e) : s'.IsOver where
  idle := by
    have phase_eq : s'.phase = phase := congrArg Session.phase released
    unfold isRunning
    rw [phase_eq]
    cases phase with
    | running e => exact absurd rfl (idle e)
    | ended message => rfl
    | stopped => rfl
  queue_eq := congrArg (fun s : Session ε => s.mailbox.queue) released
  closed := congrArg (fun s : Session ε => s.mailbox.receiverOpen) released

namespace IsOver

/-- What waits is nothing. -/
theorem pump_eq (isOver : s.IsOver) : s.pump.1 = s := by
  have emptied_eq : s.emptied = s := by
    have mailbox_eq : s.mailbox.drain.1 = s.mailbox := by
      rw [Mailbox.drain, ← isOver.queue_eq]
    rw [emptied, mailbox_eq]
  have disconnected_eq : s.mailbox.disconnected = false := by
    rw [Mailbox.disconnected, isOver.closed, Bool.false_and]
  have pumped : s.pump.1 =
      if s.mailbox.disconnected && (s.emptied.handle s.mailbox.queue).isRunning then
        (s.emptied.handle s.mailbox.queue).processGone closedMessage
      else s.emptied.handle s.mailbox.queue := apply_ite Prod.fst _ _ _
  rw [pumped, emptied_eq, isOver.queue_eq, disconnected_eq]
  rfl

omit [Engine ε] in
/-- Nothing is let in any more. -/
theorem offer_eq (isOver : s.IsOver) (event : ProcessEvent) : s.offer event = (s, .closed) := by
  unfold offer Mailbox.offer
  rw [isOver.closed, Bool.not_false, Bool.or_true]
  rfl

omit [Engine ε] in
theorem stop (isOver : s.IsOver) : s.stop.IsOver ∧ s.stop.log = s.log ∧ s.stop.phase = .stopped := by
  unfold Session.stop
  split
  next stopped => exact ⟨isOver, rfl, stopped⟩
  · rw [release_of_not_running (s.note .sessionStopped) isOver.idle]
    exact ⟨⟨rfl, isOver.queue_eq, isOver.closed⟩, rfl, rfl⟩

/-- Whatever happens to a session that is over, it stays over and asks nothing of its process. Only
stopping it changes its phase. -/
theorem act (isOver : s.IsOver) (action : Action) :
    (s.act action).IsOver ∧ (s.act action).log = s.log ∧
      (action ≠ .stop → (s.act action).phase = s.phase) := by
  have unchanged {s' : Session ε} (same : s' = s) :
      s'.IsOver ∧ s'.log = s.log ∧ (action ≠ .stop → s'.phase = s.phase) := by
    subst same
    exact ⟨isOver, rfl, fun _ => rfl⟩
  cases action with
  | receive bytes => exact unchanged (receive_of_not_running isOver.idle bytes)
  | pump => exact unchanged isOver.pump_eq
  | resize size => exact unchanged (resize_of_not_running isOver.idle size)
  | input event => exact unchanged (input_of_not_running s isOver.idle event)
  | scroll command => exact unchanged (if_neg (Bool.eq_false_iff.mp isOver.idle))
  | wheel deltaY glyphHeight => exact unchanged (if_neg (Bool.eq_false_iff.mp isOver.idle))
  | tick now => exact ⟨⟨isOver.idle, isOver.queue_eq, isOver.closed⟩, rfl, fun _ => rfl⟩
  | stop => exact ⟨isOver.stop.1, isOver.stop.2.1, fun ne => absurd rfl ne⟩
  | offer event => exact unchanged (congrArg Prod.fst (isOver.offer_eq event))
  | hangUp => exact ⟨⟨isOver.idle, isOver.queue_eq, isOver.closed⟩, rfl, fun _ => rfl⟩
  | setTrouble trouble => exact ⟨⟨isOver.idle, isOver.queue_eq, isOver.closed⟩, rfl, fun _ => rfl⟩

/-- So does everything that happens later. -/
theorem run (isOver : s.IsOver) (actions : List Action) :
    (s.run actions).IsOver ∧ (s.run actions).log = s.log := by
  induction actions generalizing s with
  | nil => exact ⟨isOver, rfl⟩
  | cons action rest ih =>
    obtain ⟨isOver', log_eq, -⟩ := isOver.act action
    obtain ⟨isOver'', log_eq'⟩ := ih isOver'
    exact ⟨isOver'', log_eq'.trans log_eq⟩

end IsOver

/-- Once a session was stopped, it stays stopped. -/
theorem phase_run_of_stopped (isOver : s.IsOver) (stopped : s.phase = .stopped)
    (actions : List Action) : (s.run actions).phase = .stopped := by
  induction actions generalizing s with
  | nil => exact stopped
  | cons action rest ih =>
    obtain ⟨isOver', -, phase_eq⟩ := isOver.act action
    refine ih isOver' ?_
    by_cases stops : action = .stop
    · subst stops
      exact isOver.stop.2.2
    · rw [phase_eq stops, stopped]

/-! ### The end of a session -/

omit [Engine ε] in
/-- Stopping a session that runs ends it and kills its process. -/
theorem log_stop (running : s.phase = .running e) :
    s.stop.IsOver ∧ s.stop.log = s.log ++ [.kill] ∧ s.stop.phase = .stopped := by
  have stopped := silent_stop s running
  refine ⟨isOver_of_release stopped fun _ => nofun, ?_, congrArg Session.phase stopped⟩
  simpa [log, silent, Process.record] using congrArg Session.log stopped

omit [Engine ε] in
/-- So does the end of the process. -/
theorem log_processGone (running : s.phase = .running e) (message : String) :
    (s.processGone message).IsOver ∧ (s.processGone message).log = s.log ++ [.kill] := by
  have gone := silent_processGone s running message
  refine ⟨isOver_of_release gone fun _ => nofun, ?_⟩
  simpa [log, silent, Process.record] using congrArg Session.log gone

omit [Engine ε] in
/-- Stopping a session again changes nothing. -/
theorem stop_of_stopped (stopped : s.phase = .stopped) : s.stop = s := by
  unfold stop
  rw [stopped]

/-- How an action of a session ends, where `s'` has done the rest of it: a pump may have found out
that the process is gone. -/
def ending (s : Session ε) (action : Action) (s' : Session ε) : Session ε :=
  match action with
  | .pump =>
    match s.mailbox.lastWord? with
    | some message => s'.processGone message
    | none => s'
  | .stop => s'.stop
  | _ => s'

omit [Engine ε] in
/-- A session that ends kills its process, and nothing else is asked. -/
theorem cases_ending (s : Session ε) (action : Action) {s' : Session ε}
    (running : s'.phase = .running e) :
    s.ending action s' = s' ∨
      ((s.ending action s').IsOver ∧ (s.ending action s').log = s'.log ++ [.kill]) := by
  unfold ending
  split
  · split
    next message _ => exact .inr (log_processGone running message)
    · exact .inl rfl
  · exact .inr ⟨(log_stop running).1, (log_stop running).2.1⟩
  · exact .inl rfl

end Session

end TerminalSession
