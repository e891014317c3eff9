import TerminalSession.Proofs.Session.Chunking
import TerminalSession.Proofs.Session.Ending

/-!
# What a session asks of its process

A session starts its process, and kills it when it leaves the running phase. What it asks in between
has one cause each: an input event that comes to bytes, output that is replied to, or another size.

## Main definitions

* `Session.Occasion`, `Session.Occasion.call?`: what can make a session ask something, and what it
  asks then
* `Session.occasions`, `Session.history`: the occasions of an action, and those of a run
* `Session.calls`: the calls that come of occasions

## Main statements

* `Session.exists_goesOn_act`: whatever happens to a session that runs, it goes on and may then end
* `Session.exists_goesOn_run`: so it does along a run, until it is over
* `Session.log_run`: what a process was asked along a run
* `Session.process_protocol`: the same from the start of a session to its end

## Design notes

* An occasion has the session at its time, because what is asked depends on it: on the engine, on the
  composition and on the size.
* An occasion makes a session ask at most one thing. So the calls between the start and the end are
  the occasions that came to a call, one by one and in their order.
* None of this depends on whether the process answers: `Session.setTrouble` makes its calls fail.
-/

namespace TerminalSession

namespace Session

/-! ### What makes a session ask something -/

/-- What can make a session that runs ask something of its process: output that is answered, input,
and another size. The start and the end are told apart from these. -/
inductive Cause where
  /-- A piece of output is read. -/
  | output (bytes : List UInt8)
  | input (event : InputEvent)
  | resize (size : Dimensions)

/-- A cause, and the session at that time. What is asked can be told from the two. -/
structure Occasion (ε : Type) where
  session : Session ε
  cause : Cause

variable {ε : Type} [Engine ε]

/-- What a session asks on an occasion, if anything: it sends the replies to the output if there are
any, it sends the bytes that the event comes to, and it tells the size if that is another one. -/
def Occasion.call? (o : Occasion ε) : Option ProcessCall :=
  match o.cause with
  | .output bytes =>
    if (o.session.replies bytes).isEmpty then none else some (.write (o.session.replies bytes))
  | .input event => (o.session.typed? event).map .write
  | .resize size =>
    let size := Dimensions.clamped size.cols size.rows
    if size = o.session.size then none else some (.resize size)

/-- The calls that come of occasions. -/
def calls (occasions : List (Occasion ε)) : List ProcessCall := occasions.filterMap Occasion.call?

/-- Pieces of output that are read one after the other, each by the session as the pieces before it
left it. -/
def readings (s : Session ε) : List (List UInt8) → List (Occasion ε)
  | [] => []
  | bytes :: rest => ⟨s, .output bytes⟩ :: (s.receive bytes).readings rest

/-- The occasions of an action, each with the session as it is when its turn comes. -/
def occasions (s : Session ε) : Action → List (Occasion ε)
  | .receive bytes => [⟨s, .output bytes⟩]
  | .pump => s.emptied.readings (ProcessEvent.chunks s.mailbox.queue)
  | .input event => [⟨s, .input event⟩]
  | .resize size => [⟨s, .resize size⟩]
  | _ => []

/-- The occasions of a run: those of its actions, as long as the session runs. After its end there
are none. -/
def history (s : Session ε) : List Action → List (Occasion ε)
  | [] => []
  | action :: rest =>
    (if s.isRunning then s.occasions action else []) ++ (s.act action).history rest

@[simp] theorem calls_append (occasions later : List (Occasion ε)) :
    calls (occasions ++ later) = calls occasions ++ calls later := List.filterMap_append

theorem calls_cons (o : Occasion ε) (rest : List (Occasion ε)) :
    calls (o :: rest) = o.call?.toList ++ calls rest := by
  unfold calls
  rw [List.filterMap_cons]
  cases o.call? <;> rfl

theorem calls_singleton (o : Occasion ε) : calls [o] = o.call?.toList :=
  (calls_cons o []).trans (List.append_nil _)

theorem toList_call?_output (s : Session ε) (bytes : List UInt8) :
    (Occasion.call? ⟨s, .output bytes⟩).toList = ProcessCall.sending (s.replies bytes) := by
  unfold Occasion.call? ProcessCall.sending
  dsimp only
  split <;> rfl

theorem calls_readings (s : Session ε) (chunks : List (List UInt8)) :
    calls (s.readings chunks) = s.sendings chunks := by
  induction chunks generalizing s with
  | nil => rfl
  | cons bytes rest ih => rw [readings, calls_cons, ih, toList_call?_output, sendings]

/-- Nothing but bytes and sizes comes of occasions. The first call of a log and the last one, which
spawn and kill the process, have no occasion. -/
theorem eq_write_or_resize {occasions : List (Occasion ε)} {call : ProcessCall}
    (mem : call ∈ calls occasions) :
    (∃ bytes, call = .write bytes) ∨ ∃ size, call = .resize size := by
  obtain ⟨⟨s, cause⟩, -, call_eq⟩ := List.mem_filterMap.mp mem
  cases cause with
  | output bytes =>
    simp only [Occasion.call?, Option.ite_none_left_eq_some, Option.some.injEq] at call_eq
    exact .inl ⟨_, call_eq.2.symm⟩
  | input event =>
    obtain ⟨bytes, -, rfl⟩ := Option.map_eq_some_iff.mp call_eq
    exact .inl ⟨bytes, rfl⟩
  | resize size =>
    simp only [Occasion.call?, Option.ite_none_left_eq_some, Option.some.injEq] at call_eq
    exact .inr ⟨_, call_eq.2.symm⟩

variable {s : Session ε} {e : ε}

/-! ### Actions -/

/-- The mailbox once an action has dealt with it. Only what passes events on or in can change it. -/
def mailboxAfter (s : Session ε) : Action → Mailbox
  | .pump => s.mailbox.drain.1
  | .offer event => (s.mailbox.offer event).1
  | .hangUp => s.mailbox.hangUp
  | _ => s.mailbox

/-- The output that is read in an action. -/
def output (s : Session ε) : Action → List (List UInt8)
  | .receive bytes => [bytes]
  | .pump => ProcessEvent.chunks s.mailbox.queue
  | _ => []

/-- Whatever happens to a session that runs: it deals with the mailbox, goes on, and may end. What
it asks the process in between are the calls of the occasions, and nothing else. -/
theorem exists_goesOn_act (running : s.phase = .running e) (action : Action) :
    ∃ (inputs : List Engine.Input) (s' : Session ε),
      ({ s with mailbox := s.mailboxAfter action } : Session ε).GoesOn inputs
        (calls (s.occasions action)) s' ∧
      inputs.filterMap Engine.Input.bytes? = s.output action ∧
      s.act action = s.ending action s' := by
  cases action with
  | receive bytes =>
    refine ⟨[.read bytes], s.receive bytes, ?_, rfl, rfl⟩
    rw [occasions, calls_singleton, toList_call?_output]
    exact goesOn_receive running bytes
  | pump =>
    refine ⟨(ProcessEvent.chunks s.mailbox.queue).map .read, s.fetched, ?_, ?_, pump_eq running⟩
    · rw [occasions, calls_readings]
      exact goesOn_fetched running
    · exact (List.filterMap_map ..).trans (List.filterMap_some ..)
  | resize size =>
    by_cases same : Dimensions.clamped size.cols size.rows = s.size
    · have asked : Occasion.call? ⟨s, .resize size⟩ = none := if_pos same
      refine ⟨[], s, ?_, rfl, resize_of_eq same⟩
      rw [occasions, calls_singleton, asked]
      exact .refl running
    · have asked : Occasion.call? ⟨s, .resize size⟩ =
          some (.resize (Dimensions.clamped size.cols size.rows)) := if_neg same
      refine ⟨[.resize (Dimensions.clamped size.cols size.rows)], s.resize size, ?_, rfl, rfl⟩
      rw [occasions, calls_singleton, asked]
      exact goesOn_resize running rfl same
  | input event =>
    refine ⟨[], s.input event, ?_, rfl, rfl⟩
    rw [occasions, calls_singleton]
    exact goesOn_input running event
  | scroll command => exact ⟨[], s.scroll command, goesOn_scroll running command, rfl, rfl⟩
  | wheel deltaY glyphHeight =>
    exact ⟨[], s.wheel deltaY glyphHeight, goesOn_wheel running deltaY glyphHeight, rfl, rfl⟩
  | tick now => exact ⟨[], (s.tick now).1, (GoesOn.refl running).congr rfl rfl rfl rfl, rfl, rfl⟩
  | stop => exact ⟨[], s, .refl running, rfl, rfl⟩
  | offer event =>
    have offered : (s.offer event).1.phase = .running e := running
    exact ⟨[], (s.offer event).1, .refl offered, rfl, rfl⟩
  | hangUp =>
    have hung : s.hangUp.phase = .running e := running
    exact ⟨[], s.hangUp, .refl hung, rfl, rfl⟩
  | setTrouble trouble =>
    refine ⟨[], s.setTrouble trouble, ?_, rfl, rfl⟩
    exact
      { engine := ⟨e, e, running, running, .refl⟩
        log_eq := (List.append_nil _).symm
        mailbox_eq := rfl
        sizes_eq := rfl
        size_eq := rfl }

/-! ### Runs -/

theorem GoesOn.withMailbox {s' : Session ε} {inputs : List Engine.Input} {calls : List ProcessCall}
    (on : s.GoesOn inputs calls s') (mailbox : Mailbox) :
    ({ s with mailbox } : Session ε).GoesOn inputs calls { s' with mailbox } :=
  { on with mailbox_eq := rfl }

/-- Along every run a session that runs goes on, until it is over. Only the mailbox is not told of
here, which others fill as well. -/
theorem exists_goesOn_run (running : s.phase = .running e) (actions : List Action) :
    (∃ (mailbox : Mailbox) (inputs : List Engine.Input) (calls : List ProcessCall),
        ({ s with mailbox } : Session ε).GoesOn inputs calls (s.run actions)) ∨
      (s.run actions).IsOver := by
  induction actions generalizing s e with
  | nil => exact .inl ⟨s.mailbox, [], [], .refl running⟩
  | cons action rest ih =>
    obtain ⟨inputs, s', on, -, acted⟩ := exists_goesOn_act running action
    obtain ⟨-, e', -, running', -⟩ := on.engine
    obtain same | ⟨isOver, -⟩ := s.cases_ending action running'
    · rw [run_cons, acted, same]
      obtain ⟨mailbox', later, further, on'⟩ | isOver := ih running'
      · exact .inl ⟨mailbox', _, _, (on.withMailbox mailbox').trans on'⟩
      · exact .inr isOver
    · rw [← acted] at isOver
      exact .inr (isOver.run rest).1

theorem IsOver.history_eq_nil (isOver : s.IsOver) (actions : List Action) :
    s.history actions = [] := by
  induction actions generalizing s with
  | nil => rfl
  | cons action rest ih =>
    rw [history, isOver.idle, ih (isOver.act action).1]
    rfl

/-- What a process is asked in an action. If the session ends, it is killed last. -/
theorem log_act (running : s.phase = .running e) (action : Action) :
    ((s.act action).isRunning = true ∧ (s.act action).log = s.log ++ calls (s.occasions action)) ∨
      ((s.act action).IsOver ∧
        (s.act action).log = s.log ++ calls (s.occasions action) ++ [.kill]) := by
  obtain ⟨inputs, s', on, -, acted⟩ := exists_goesOn_act running action
  have log_eq : s'.log = s.log ++ calls (s.occasions action) := on.log_eq
  obtain ⟨-, e', -, running', -⟩ := on.engine
  rw [acted, ← log_eq]
  obtain same | isOver := s.cases_ending action running'
  · rw [same]
    exact .inl ⟨on.isRunning, rfl⟩
  · exact .inr isOver

/-- What a process is asked along a run: the calls of all occasions up to the end, and to be killed
if the session has ended. -/
theorem log_run (running : s.phase = .running e) (actions : List Action) :
    ((s.run actions).isRunning = true ∧ (s.run actions).log = s.log ++ calls (s.history actions)) ∨
      ((s.run actions).IsOver ∧
        (s.run actions).log = s.log ++ calls (s.history actions) ++ [.kill]) := by
  induction actions generalizing s e with
  | nil => exact .inl ⟨isRunning_eq_true running, (List.append_nil _).symm⟩
  | cons action rest ih =>
    have history_eq : s.history (action :: rest) =
        s.occasions action ++ (s.act action).history rest := by
      rw [history, if_pos (isRunning_eq_true running)]
    rw [run_cons, history_eq, calls_append, ← List.append_assoc]
    obtain ⟨is_running, acted⟩ | ⟨isOver, acted⟩ := log_act running action
    · obtain ⟨e', running'⟩ := exists_of_isRunning is_running
      rw [← acted]
      exact ih running'
    · obtain ⟨isOver', log_eq⟩ := isOver.run rest
      rw [isOver.history_eq_nil]
      refine .inr ⟨isOver', ?_⟩
      rw [log_eq, acted]
      simp [calls]

/-- A session that does not run any more is over. -/
theorem isOver_run_of_idle (running : s.phase = .running e) {actions : List Action}
    (idle : (s.run actions).isRunning = false) : (s.run actions).IsOver := by
  obtain ⟨_, _, _, on⟩ | isOver := exists_goesOn_run running actions
  · exact absurd (on.isRunning.symm.trans idle) (by decide)
  · exact isOver

/-- Once a session was stopped after a run, its process was killed last, whether or not the session
ended by itself. -/
theorem log_stop_run (running : s.phase = .running e) (actions : List Action) :
    (s.run actions).stop.IsOver ∧
      (s.run actions).stop.log = s.log ++ calls (s.history actions) ++ [.kill] ∧
      (s.run actions).stop.phase = .stopped := by
  obtain ⟨is_running, log_eq⟩ | ⟨isOver, log_eq⟩ := log_run running actions
  · obtain ⟨e', running'⟩ := exists_of_isRunning is_running
    obtain ⟨isOver, killed, stopped⟩ := log_stop running'
    rw [log_eq] at killed
    exact ⟨isOver, killed, stopped⟩
  · obtain ⟨isOver', log_eq', stopped⟩ := isOver.stop
    exact ⟨isOver', log_eq'.trans log_eq, stopped⟩

/-! ### Engines on an occasion -/

theorem exists_becomes_of_mem_readings (running : s.phase = .running e)
    {chunks : List (List UInt8)} {o : Occasion ε} (mem : o ∈ s.readings chunks) :
    ∃ (inputs : List Engine.Input) (e' : ε), o.session.phase = .running e' ∧
      Engine.Becomes e inputs e' := by
  induction chunks generalizing s e with
  | nil => exact nomatch mem
  | cons bytes rest ih =>
    rcases List.mem_cons.mp mem with rfl | mem
    · exact ⟨[], e, running, .refl⟩
    · obtain ⟨e₁, running₁, becomes⟩ := (goesOn_receive running bytes).exists_becomes running
      obtain ⟨inputs, e', running', becomes'⟩ := ih running₁ mem
      exact ⟨_, e', running', becomes.trans becomes'⟩

/-- On every occasion of a run the session runs, with what has become of its engine by then. So its
replies are those of an engine that can come about. -/
theorem exists_becomes_of_mem_history (running : s.phase = .running e) {actions : List Action}
    {o : Occasion ε} (mem : o ∈ s.history actions) :
    ∃ (inputs : List Engine.Input) (e' : ε), o.session.phase = .running e' ∧
      Engine.Becomes e inputs e' := by
  induction actions generalizing s e with
  | nil => exact nomatch mem
  | cons action rest ih =>
    rw [history, if_pos (isRunning_eq_true running), List.mem_append] at mem
    rcases mem with mem | mem
    · cases action with
      | pump => exact exists_becomes_of_mem_readings (s := s.emptied) running mem
      | receive bytes | input event | resize size =>
        obtain rfl := List.mem_singleton.mp mem
        exact ⟨[], e, running, .refl⟩
      | _ => exact nomatch mem
    · obtain ⟨inputs, s', on, -, acted⟩ := exists_goesOn_act running action
      obtain ⟨e₁, running₁, becomes⟩ := on.exists_becomes running
      rw [acted] at mem
      obtain same | ⟨isOver, -⟩ := s.cases_ending action running₁
      · rw [same] at mem
        obtain ⟨later, e', running', becomes'⟩ := ih running₁ mem
        exact ⟨_, e', running', becomes.trans becomes'⟩
      · rw [isOver.history_eq_nil] at mem
        exact nomatch mem

/-! ### The engine of this library -/

section Replies

variable {s : Session Emulator} {e e' : Emulator}

/-- No reply waits in the emulator of a session: all were sent as soon as they came up. -/
theorem replies_eq_empty_of_becomes {inputs : List Engine.Input}
    (becomes : Engine.Becomes e inputs e') (empty : e.replies = #[]) : e'.replies = #[] := by
  induction becomes with
  | refl => exact empty
  | read _ _ _ => rfl
  | readFailed _ eq _ => exact nomatch congrArg Prod.snd eq
  | resize _ _ _ ih => exact ih
  | scroll _ _ ih => exact ih
  | takeNotices _ ih => exact ih

/-- What a session replies to output are the replies that come up while the output is read. -/
theorem replies_eq (running : s.phase = .running e) (empty : e.replies = #[])
    (bytes : List UInt8) :
    s.replies bytes = (e.quiet.feed bytes).replies.toList.flatMap Reply.bytes := by
  have pending_nil : e.pendingBytes = [] := by
    rw [Emulator.pendingBytes, empty]
    rfl
  calc s.replies bytes
      = (e.feed bytes).pendingBytes := by
        unfold replies
        rw [running]
        rfl
    _ = (e.quiet.feed bytes).pendingBytes := by
        rw [Emulator.pendingBytes_feed, pending_nil, List.nil_append]

end Replies

/-! ### From the start to the end -/

variable {ε : Type} [Engine ε] {s : Session ε}

/-- What a session asks of its process, from the start to the end, whether or not the process
answers.

The process is started first. What is asked then comes of the occasions of the run, one by one and in
their order: bytes and sizes. The action by which the session leaves the running phase kills the
process last, and from then on nothing is asked. So a session that is dropped has killed its process
once, and a second stop changes nothing at all. On the engine of this library, the bytes that are
sent when output was read are the replies that came up meanwhile. -/
theorem process_protocol {options : SessionOptions} {size : Dimensions}
    {provider : Option (Provider ε)} {refusal : Option ProcessFault}
    (started : Session.start options size provider refusal = .ok s) (actions : List Action) :
    let now := s.run actions
    let asked := calls (s.history actions)
    now.log = .spawn (options.request size) :: asked ++ (if now.isRunning then [] else [.kill]) ∧
      now.stop.log = .spawn (options.request size) :: asked ++ [.kill] ∧
      (∀ call ∈ asked, (∃ bytes, call = .write bytes) ∨ ∃ size, call = .resize size) ∧
      (∀ action, now.isRunning = true → (now.act action).isRunning = false →
        (now.act action).log = now.log ++ calls (now.occasions action) ++ [.kill]) ∧
      (now.isRunning = false → ∀ more, (now.run more).isRunning = false ∧
        (now.run more).log = now.log) ∧
      (∀ more, (now.stop.run more).log = now.stop.log ∧
        (now.stop.run more).stop = now.stop.run more) ∧
      ∀ (limit : Nat) (s : Session Emulator),
        Session.start options size (some (Emulator.provider limit)) refusal = .ok s →
        ∀ o ∈ s.history actions, ∃ e : Emulator, o.session.phase = .running e ∧
          ∀ bytes, o.session.replies bytes =
            (e.quiet.feed bytes).replies.toList.flatMap Reply.bytes := by
  intro now asked
  obtain ⟨_, e, -, -, s_eq⟩ := exists_of_start started
  have running : s.phase = .running e := congrArg Session.phase s_eq
  have spawned : s.log = [.spawn (options.request size)] := congrArg Session.log s_eq
  -- Dropping the session is stopping it once more.
  obtain ⟨stop_over, stop_log, stopped⟩ := log_stop_run running actions
  rw [spawned] at stop_log
  refine ⟨?_, stop_log, fun call mem => eq_write_or_resize mem, ?_, ?_, ?_, ?_⟩
  · obtain ⟨is_running, log_eq⟩ | ⟨isOver, log_eq⟩ := log_run running actions
    · rw [log_eq, spawned, is_running]
      simp [asked]
    · rw [log_eq, spawned, isOver.idle]
      rfl
  · intro action is_running idle
    obtain ⟨e', running'⟩ := exists_of_isRunning is_running
    obtain ⟨still, -⟩ | ⟨-, log_eq⟩ := log_act running' action
    · exact absurd (still.symm.trans idle) (by decide)
    · exact log_eq
  · intro idle more
    obtain ⟨isOver, log_eq⟩ := (isOver_run_of_idle running idle).run more
    exact ⟨isOver.idle, log_eq⟩
  · intro more
    exact ⟨(stop_over.run more).2, stop_of_stopped (phase_run_of_stopped stop_over stopped more)⟩
  · intro limit s started o mem
    obtain ⟨p, e, provider_eq, created, s_eq⟩ := exists_of_start started
    obtain rfl := Option.some.inj provider_eq
    have running : s.phase = .running e := congrArg Session.phase s_eq
    obtain ⟨inputs, e', running', becomes⟩ := exists_becomes_of_mem_history running mem
    have empty : e.replies = #[] := by
      rw [Emulator.eq_fresh_of_created created]
      rfl
    exact ⟨e', running', replies_eq running' (replies_eq_empty_of_becomes becomes empty)⟩

/-- A process that answers no call asks where the cursor is. Then comes input, the same size twice,
and in one go another question and the end of the process. -/
theorem process_protocol_unanswered :
    let actions := [Action.setTrouble (some "gone"), .receive "\x1b[6n\x1b[5n".toUTF8.toList,
      .input (.paste "x".toList), .resize { cols := 5, rows := 0 }, .resize { cols := 5, rows := 2 },
      .offer (.data "\x1b[6n".toUTF8.toList), .offer .exited, .offer (.data [65]), .pump,
      .receive [66], .stop]
    ∃ s : Session Emulator,
      Session.start {} { cols := 4, rows := 2 } (some (Emulator.provider 5)) none = .ok s ∧
        calls (s.history actions) = [.write "\x1b[1;1R\x1b[0n".toUTF8.toList, .write [120],
          .resize { cols := 5, rows := 2 }, .write "\x1b[1;1R".toUTF8.toList] ∧
        (s.run actions).stop.log = .spawn (({} : SessionOptions).request { cols := 4, rows := 2 }) ::
          calls (s.history actions) ++ [.kill] := by
  intro actions
  obtain ⟨s, started, asked_eq⟩ : ∃ s : Session Emulator,
      Session.start {} { cols := 4, rows := 2 } (some (Emulator.provider 5)) none = .ok s ∧
        calls (s.history actions) = [.write "\x1b[1;1R\x1b[0n".toUTF8.toList, .write [120],
          .resize { cols := 5, rows := 2 }, .write "\x1b[1;1R".toUTF8.toList] :=
    ⟨_, rfl, by decide +kernel⟩
  exact ⟨s, started, asked_eq, (process_protocol started actions).2.1⟩

end Session

end TerminalSession
