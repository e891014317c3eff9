import Mathlib.Data.List.DropRight
import TerminalSession.Proofs.Session.Protocol

/-!
# Delivery of output

The process puts its output into the mailbox, and the session takes it when it pumps. Whatever else
happens in between, the engine reads the output that was let in, each piece once and in its order, up
to the end of the process.

## Main definitions

* `Session.accepted`: the events that were let into the mailbox in a run
* `Session.untilPump`: a run up to its latest pump
* `Session.outputs`: the pieces of output that were read in a run
* `Engine.Reads`: what becomes of an engine that reads pieces of output
* `Session.Fetching`, `Session.Ended`: a session in the course of a run, and one that has ended

## Main statements

* `Session.fetching_or_ended`: what a session is after a run
* `Session.outputs_eq`: what was read in a run
* `Session.isRunning_run_iff`, `Session.ended_run`: whether the session has ended, and how
* `Session.delivery_run`: both, from the start of a session

## Design notes

* What was let in up to the latest pump is what the session may have seen. Everything follows from
  it: what the engine has read, whether the session has ended, and with which message.
* Runs grow at their end here. The latest pump is then the new action or the one of the shorter run.
-/

namespace TerminalSession

/-- What becomes of an engine that reads these pieces of output. Its size and its window may change
in between. -/
def Engine.Reads {ε : Type} [Engine ε] (e : ε) (chunks : List (List UInt8)) (e' : ε) : Prop :=
  ∃ inputs : List Engine.Input, Engine.Becomes e inputs e' ∧
    inputs.filterMap Engine.Input.bytes? = chunks

/-- An engine that has read some pieces, and then others, has read them all in this order. -/
theorem Engine.Reads.trans {ε : Type} [Engine ε] {e e' e'' : ε} {chunks later : List (List UInt8)}
    (reads : Engine.Reads e chunks e') (reads' : Engine.Reads e' later e'') :
    Engine.Reads e (chunks ++ later) e'' := by
  obtain ⟨inputs, becomes, rfl⟩ := reads
  obtain ⟨inputs', becomes', rfl⟩ := reads'
  exact ⟨inputs ++ inputs', becomes.trans becomes', List.filterMap_append⟩

/-- An offer changes what waits at most, by the event that is let in. -/
theorem Mailbox.fst_offer (m : Mailbox) (event : ProcessEvent) :
    (m.offer event).1 =
      { m with queue := m.queue ++ if (m.offer event).2 = .accepted then [event] else [] } := by
  unfold offer
  split
  · simp
  split <;> simp

namespace Session

/-! ### Runs and their mail -/

namespace Action

def isPump : Action → Bool
  | .pump => true
  | _ => false

def isHangUp : Action → Bool
  | .hangUp => true
  | _ => false

/-- Whether an action leaves output to the mailbox, and the end of the session to its process. -/
def isMediated : Action → Bool
  | .receive _ => false
  | .stop => false
  | _ => true

end Action

/-- A run up to its latest pump, that one included; what came later was not read yet. -/
def untilPump (actions : List Action) : List Action :=
  actions.rdropWhile fun action => !action.isPump

/-- A run that goes on has its last pump at the end or where it was. -/
theorem untilPump_concat (actions : List Action) (action : Action) :
    untilPump (actions ++ [action]) =
      if action.isPump then actions ++ [action] else untilPump actions := by
  rw [untilPump, List.rdropWhile_concat]
  cases action.isPump <;> rfl

theorem untilPump_pump (actions : List Action) :
    untilPump (actions ++ [.pump]) = actions ++ [.pump] := untilPump_concat ..

variable {ε : Type} [Engine ε]

/-- The events that are let into the mailbox in an action: the one that is offered, if it is
accepted. -/
def letIn (s : Session ε) : Action → List ProcessEvent
  | .offer event => if (s.offer event).2 = .accepted then [event] else []
  | _ => []

/-- The events that are let into the mailbox in a run, in the order in which they came. -/
def accepted (s : Session ε) : List Action → List ProcessEvent
  | [] => []
  | action :: rest => s.letIn action ++ (s.act action).accepted rest

/-- The output of an occasion. -/
def Occasion.output? (o : Occasion ε) : Option (List UInt8) :=
  match o.cause with
  | .output bytes => some bytes
  | _ => none

/-- The pieces of output that are read in a run, each as long as the session runs. -/
def outputs (s : Session ε) (actions : List Action) : List (List UInt8) :=
  (s.history actions).filterMap Occasion.output?

/-- What was accepted grows at the end, by what the mailbox lets in at that time. -/
theorem accepted_concat (s : Session ε) (actions : List Action) (action : Action) :
    s.accepted (actions ++ [action]) = s.accepted actions ++ (s.run actions).letIn action := by
  induction actions generalizing s with
  | nil => exact List.append_nil _
  | cons first rest ih =>
    rw [List.cons_append, accepted, accepted, ih, run_cons, List.append_assoc]

/-- Taking mail out lets none in. -/
theorem accepted_pump (s : Session ε) (actions : List Action) :
    s.accepted (actions ++ [.pump]) = s.accepted actions :=
  (s.accepted_concat actions .pump).trans (List.append_nil _)

/-- Each reading carries one piece of output. -/
theorem filterMap_output?_readings (s : Session ε) (chunks : List (List UInt8)) :
    (s.readings chunks).filterMap Occasion.output? = chunks := by
  induction chunks generalizing s with
  | nil => rfl
  | cons bytes rest ih => exact congrArg (bytes :: ·) (ih _)

/-- So the occasions of an action carry the output that it brings. -/
theorem filterMap_output?_occasions (s : Session ε) (action : Action) :
    (s.occasions action).filterMap Occasion.output? = s.output action := by
  cases action with
  | pump => exact s.emptied.filterMap_output?_readings _
  | _ => rfl

/-- The output that reaches the engine in two parts of a run is what reaches it in the whole. -/
theorem outputs_append (s : Session ε) (actions more : List Action) :
    s.outputs (actions ++ more) = s.outputs actions ++ (s.run actions).outputs more := by
  unfold outputs
  induction actions generalizing s with
  | nil => rfl
  | cons first rest ih =>
    rw [List.cons_append, history, history, List.filterMap_append, List.filterMap_append, ih,
      run_cons, List.append_assoc]

theorem outputs_concat (s : Session ε) (actions : List Action) (action : Action) :
    s.outputs (actions ++ [action]) =
      s.outputs actions ++ if (s.run actions).isRunning then (s.run actions).output action else [] := by
  have outputs_eq : (s.run actions).outputs [action] =
      if (s.run actions).isRunning then (s.run actions).output action else [] := by
    rw [outputs, history, history, List.append_nil, ← filterMap_output?_occasions]
    exact apply_ite (List.filterMap Occasion.output?) _ _ _
  rw [outputs_append, outputs_eq]

/-! ### Mailboxes -/

variable {s : Session ε} {e : ε} {capacity : Nat} {mail accepted : List ProcessEvent} {hungUp : Bool}

omit [Engine ε] in
/-- What is let in joins the end of the queue. Only the pump takes anything out. -/
theorem queue_mailboxAfter {action : Action} (no_pump : action.isPump = false) :
    (s.mailboxAfter action).queue = s.mailbox.queue ++ s.letIn action := by
  cases action with
  | pump => exact nomatch no_pump
  | offer event =>
    rw [mailboxAfter, Mailbox.fst_offer]
    rfl
  | _ => exact (List.append_nil _).symm

omit [Engine ε] in
/-- Nothing that is done to a mailbox changes its room. -/
theorem capacity_mailboxAfter (s : Session ε) (action : Action) :
    (s.mailboxAfter action).capacity = s.mailbox.capacity := by
  cases action with
  | offer event => rw [mailboxAfter, Mailbox.fst_offer]
  | _ => rfl

omit [Engine ε] in
theorem receiverOpen_mailboxAfter (s : Session ε) (action : Action) :
    (s.mailboxAfter action).receiverOpen = s.mailbox.receiverOpen := by
  cases action with
  | offer event => rw [mailboxAfter, Mailbox.fst_offer]
  | _ => rfl

omit [Engine ε] in
/-- The process can hang up once. -/
theorem senderOpen_mailboxAfter (s : Session ε) (action : Action) :
    (s.mailboxAfter action).senderOpen = (s.mailbox.senderOpen && !action.isHangUp) := by
  cases action with
  | hangUp => exact (Bool.and_false _).symm
  | offer event =>
    rw [mailboxAfter, Mailbox.fst_offer]
    exact (Bool.and_true _).symm
  | _ => exact (Bool.and_true _).symm

/-! ### Sessions in the course of a run -/

/-- A session that runs: what its engine has read, and what waits in its mailbox, are together what
was accepted. -/
structure Fetching (e : ε) (capacity : Nat) (mail accepted : List ProcessEvent) (hungUp : Bool)
    (s : Session ε) : Prop where
  engine : ∃ e' : ε, s.phase = .running e' ∧ Engine.Reads e (ProcessEvent.chunks mail) e'
  alive : .exited ∉ mail
  accepted_eq : accepted = mail ++ s.mailbox.queue
  capacity_eq : s.mailbox.capacity = capacity
  senderOpen_eq : s.mailbox.senderOpen = !hungUp
  receiverOpen_eq : s.mailbox.receiverOpen = true

namespace Fetching

/-- An event is let in as long as the process has not hung up and there is room: what waits are the
events accepted since the latest pump. -/
theorem offer_eq (fetching : s.Fetching e capacity mail accepted hungUp) (event : ProcessEvent) :
    (s.offer event).2 = .accepted ↔ hungUp = false ∧ accepted.length < mail.length + capacity := by
  have length_eq : accepted.length = mail.length + s.mailbox.queue.length := by
    rw [fetching.accepted_eq, List.length_append]
  unfold offer Mailbox.offer
  rw [fetching.senderOpen_eq, fetching.receiverOpen_eq, fetching.capacity_eq]
  cases hungUp with
  | true => simp
  | false =>
    dsimp only [Bool.not_false, Bool.not_true, Bool.or_false]
    split
    next open_eq => exact absurd open_eq Bool.false_ne_true
    split
    next full => simp; omega
    next room => simp; omega

/-- What happens between two pumps changes what waits at most. Nothing is read, and a session that
runs does not end. -/
theorem act (fetching : s.Fetching e capacity mail accepted hungUp) {action : Action}
    (no_pump : action.isPump = false) (mediated : action.isMediated = true) :
    (s.act action).Fetching e capacity mail (accepted ++ s.letIn action)
      (hungUp || action.isHangUp) := by
  obtain ⟨e', running, reads⟩ := fetching.engine
  obtain ⟨inputs, s', on, output_eq, acted⟩ := exists_goesOn_act running action
  obtain ⟨e'', running'', becomes⟩ := on.exists_becomes running
  have mailbox_eq : s'.mailbox = s.mailboxAfter action := on.mailbox_eq
  have nothing_read : s.output action = [] ∧ s.ending action s' = s' := by
    cases action with
    | pump => exact nomatch no_pump
    | receive bytes => exact nomatch mediated
    | stop => exact nomatch mediated
    | _ => exact ⟨rfl, rfl⟩
  rw [acted, nothing_read.2]
  exact
    { engine := by
        refine ⟨e'', running'', ?_⟩
        have read := reads.trans ⟨inputs, becomes, output_eq⟩
        rwa [nothing_read.1, List.append_nil] at read
      alive := fetching.alive
      accepted_eq := by
        rw [mailbox_eq, queue_mailboxAfter no_pump, ← List.append_assoc, ← fetching.accepted_eq]
      capacity_eq := by rw [mailbox_eq, capacity_mailboxAfter, fetching.capacity_eq]
      senderOpen_eq := by
        rw [mailbox_eq, senderOpen_mailboxAfter, fetching.senderOpen_eq, Bool.not_or]
      receiverOpen_eq := by rw [mailbox_eq, receiverOpen_mailboxAfter, fetching.receiverOpen_eq] }

/-- A pump reads what waits. -/
theorem exists_reads (fetching : s.Fetching e capacity mail accepted hungUp) :
    ∃ e' : ε, s.fetched.phase = .running e' ∧
      Engine.Reads e (ProcessEvent.chunks accepted) e' := by
  obtain ⟨e', running, reads⟩ := fetching.engine
  obtain ⟨e'', running'', becomes⟩ := (goesOn_fetched running).exists_becomes running
  have waiting : Engine.Reads e' (ProcessEvent.chunks s.mailbox.queue) e'' :=
    ⟨_, becomes, (List.filterMap_map ..).trans (List.filterMap_some ..)⟩
  refine ⟨e'', running'', ?_⟩
  rw [fetching.accepted_eq, ProcessEvent.chunks_append fetching.alive]
  exact reads.trans waiting

/-- A session ends at a pump when the end of its process was let in, or its process has hung up. -/
theorem lastWord?_eq (fetching : s.Fetching e capacity mail accepted hungUp) :
    s.mailbox.lastWord? =
      if .exited ∈ accepted then some exitedMessage
      else if hungUp then some closedMessage else none := by
  have mem_iff : .exited ∈ accepted ↔ .exited ∈ s.mailbox.queue := by
    rw [fetching.accepted_eq, List.mem_append, or_iff_right fetching.alive]
  have disconnected_eq : s.mailbox.disconnected = hungUp := by
    rw [Mailbox.disconnected, fetching.receiverOpen_eq, fetching.senderOpen_eq, Bool.not_not,
      Bool.true_and]
  rw [Mailbox.lastWord?, disconnected_eq]
  simp only [mem_iff]

/-- A session that does not end has read all that was let in, and nothing waits any more. No end of
the process was among it. -/
theorem pump (fetching : s.Fetching e capacity mail accepted hungUp)
    (none : s.mailbox.lastWord? = none) :
    s.pump.1.Fetching e capacity accepted accepted hungUp := by
  obtain ⟨_, running, -⟩ := fetching.engine
  have mailbox_eq : s.fetched.mailbox = { s.mailbox with queue := [] } :=
    (goesOn_fetched running).mailbox_eq
  have alive : .exited ∉ accepted := by
    intro exits
    rw [fetching.lastWord?_eq, if_pos exits] at none
    exact nomatch none
  rw [pump_eq running, none]
  exact
    { engine := fetching.exists_reads
      alive := alive
      accepted_eq := by rw [mailbox_eq, List.append_nil]
      capacity_eq := by rw [mailbox_eq, fetching.capacity_eq]
      senderOpen_eq := by rw [mailbox_eq, fetching.senderOpen_eq]
      receiverOpen_eq := by rw [mailbox_eq, fetching.receiverOpen_eq] }

end Fetching

/-! ### Sessions that have ended -/

/-- How a session says that its process is gone, after these events: by the end of the process if it
was told, and otherwise by the end of its output. -/
def farewell (mail : List ProcessEvent) : String :=
  if .exited ∈ mail then exitedMessage else closedMessage

/-- A session that has ended in the course of a run: at a pump, when it had read its mail. What came
later was not let in. -/
structure Ended (e : ε) (actions : List Action) (s : Session ε) : Prop where
  isOver : (s.run actions).IsOver
  phase_eq : (s.run actions).phase = .ended (farewell (s.accepted actions))
  reason : .exited ∈ s.accepted actions ∨ (untilPump actions).any Action.isHangUp = true
  accepted_eq : s.accepted (untilPump actions) = s.accepted actions
  last : ∃ (before after : List Action) (fed : Session ε) (e' : ε),
    actions = before ++ .pump :: after ∧ (s.run before).isRunning = true ∧
      (s.run before).pump.1 = fed.processGone (farewell (s.accepted actions)) ∧
        fed.phase = .running e' ∧
          Engine.Reads e (ProcessEvent.chunks (s.accepted actions)) e'

variable {actions : List Action}

/-- Nothing is let in after the end. -/
theorem Ended.accepted_concat (ended : s.Ended e actions) (action : Action) :
    s.accepted (actions ++ [action]) = s.accepted actions := by
  have none_in : (s.run actions).letIn action = [] := by
    cases action with
    | offer event =>
      rw [letIn, ended.isOver.offer_eq]
      rfl
    | _ => rfl
  rw [Session.accepted_concat, none_in, List.append_nil]

/-- A session that has ended stays so, unless it is stopped. Nothing is let in any more, so what was
accepted and what was read stay what they were at the pump that ended it. -/
theorem Ended.concat (ended : s.Ended e actions) {action : Action}
    (mediated : action.isMediated = true) : s.Ended e (actions ++ [action]) := by
  have no_stop : action ≠ .stop := by
    rintro rfl
    exact nomatch mediated
  have accepted_eq := ended.accepted_concat action
  obtain ⟨isOver, -, phase_eq⟩ := ended.isOver.act action
  obtain ⟨before, after, fed, e', split, is_running, pumped, running, reads⟩ := ended.last
  constructor
  · rwa [run_concat]
  · rw [run_concat, phase_eq no_stop, ended.phase_eq, accepted_eq]
  · rw [accepted_eq, untilPump_concat]
    refine ended.reason.imp_right fun hungUp => ?_
    split
    · rw [List.any_append, Bool.or_eq_true]
      obtain ⟨closing, mem, is_hangUp⟩ := List.any_eq_true.mp hungUp
      exact .inl (List.any_eq_true.mpr
        ⟨closing, (List.rdropWhile_prefix _ _).subset mem, is_hangUp⟩)
    · exact hungUp
  · rw [untilPump_concat, accepted_eq]
    split
    · exact accepted_eq
    · exact ended.accepted_eq
  · refine ⟨before, after ++ [action], fed, e', ?_, is_running, ?_⟩
    · rw [split, List.append_assoc, List.cons_append]
    · rw [accepted_eq]
      exact ⟨pumped, running, reads⟩

/-- A pump that finds out that the process is gone ends the session. It finds out by an event among
those that waited, or because the process has hung up; the event is what the message tells of if
there are both. -/
theorem Fetching.ended
    (fetching : (s.run actions).Fetching e capacity mail (s.accepted actions) hungUp)
    (hungUp_eq : hungUp = actions.any Action.isHangUp) {message : String}
    (word : (s.run actions).mailbox.lastWord? = some message) : s.Ended e (actions ++ [.pump]) := by
  obtain ⟨e₀, running, -⟩ := fetching.engine
  obtain ⟨e', fetched_running, reads⟩ := fetching.exists_reads
  obtain ⟨message_eq, reason⟩ : message = farewell (s.accepted actions) ∧
      (.exited ∈ s.accepted actions ∨ actions.any Action.isHangUp = true) := by
    rw [fetching.lastWord?_eq, hungUp_eq] at word
    unfold farewell
    split at word
    next exits => exact ⟨by rw [if_pos exits, ← Option.some.inj word], .inl exits⟩
    next alive =>
      split at word
      next closed => exact ⟨by rw [if_neg alive, ← Option.some.inj word], .inr closed⟩
      · exact nomatch word
  have pumped : (s.run actions).pump.1 =
      (s.run actions).fetched.processGone (farewell (s.accepted actions)) := by
    rw [pump_eq running, word, message_eq]
  have ran : s.run (actions ++ [.pump]) =
      (s.run actions).fetched.processGone (farewell (s.accepted actions)) :=
    (run_concat ..).trans pumped
  constructor
  · rw [ran]
    exact (log_processGone fetched_running _).1
  · rw [ran, accepted_pump, phase_processGone]
  · rw [untilPump_pump, accepted_pump, List.any_append, Bool.or_eq_true]
    exact reason.imp_right .inl
  · rw [untilPump_pump]
  · refine ⟨actions, [], _, e', rfl, isRunning_eq_true running, ?_, fetched_running, ?_⟩
    · rw [accepted_pump, pumped]
    · rwa [accepted_pump]

/-! ### Runs -/

/-- What a session is after a run from its start: it fetches what is let in, or it has ended with
some pump. Each action leads from one to the same, but for a pump that finds out that the process is
gone. -/
theorem fetching_or_ended (running : s.phase = .running e)
    (empty : s.mailbox = Mailbox.empty capacity)
    (mediated : ∀ action ∈ actions, action.isMediated = true) :
    ((s.run actions).Fetching e (max capacity 1) (s.accepted (untilPump actions))
        (s.accepted actions) (actions.any Action.isHangUp) ∧
      (untilPump actions).any Action.isHangUp = false) ∨ s.Ended e actions := by
  induction actions using List.reverseRecOn with
  | nil =>
    refine .inl ⟨?_, rfl⟩
    exact
      { engine := ⟨e, running, [], .refl, rfl⟩
        alive := List.not_mem_nil
        accepted_eq := by rw [run_nil, empty]; rfl
        capacity_eq := by rw [run_nil, empty]; rfl
        senderOpen_eq := by rw [run_nil, empty]; rfl
        receiverOpen_eq := by rw [run_nil, empty]; rfl }
  | append_singleton actions action ih =>
    have mediated_action : action.isMediated = true := mediated action (by simp)
    obtain ⟨fetching, open_eq⟩ | ended := ih fun a mem => mediated a (List.mem_append_left _ mem)
    · by_cases pumps : action.isPump = true
      · obtain rfl : action = .pump := by
          cases action with
          | pump => rfl
          | _ => exact nomatch pumps
        cases word : (s.run actions).mailbox.lastWord? with
        | some message => exact .inr (fetching.ended rfl word)
        | none =>
          have still_open : actions.any Action.isHangUp = false := by
            rw [fetching.lastWord?_eq] at word
            grind
          have any_eq : (actions ++ [Action.pump]).any Action.isHangUp =
              actions.any Action.isHangUp := by
            rw [List.any_append]
            exact Bool.or_false _
          rw [run_concat, untilPump_pump, accepted_pump, any_eq]
          exact .inl ⟨fetching.pump word, still_open⟩
      · have no_pump : action.isPump = false := Bool.eq_false_iff.mpr pumps
        have untilPump_eq : untilPump (actions ++ [action]) = untilPump actions := by
          rw [untilPump_concat, no_pump]
          rfl
        have any_eq : (actions ++ [action]).any Action.isHangUp =
            (actions.any Action.isHangUp || action.isHangUp) := by
          simp [List.any_append]
        rw [run_concat, untilPump_eq, accepted_concat, any_eq]
        exact .inl ⟨fetching.act no_pump mediated_action, open_eq⟩
    · exact .inr (ended.concat mediated_action)

/-- What was read is the output that was let in up to the latest pump, before the end of the
process. What was let in after that end is taken out of the mailbox and never read. -/
theorem outputs_eq (running : s.phase = .running e) (empty : s.mailbox = Mailbox.empty capacity)
    (mediated : ∀ action ∈ actions, action.isMediated = true) :
    s.outputs actions = ProcessEvent.chunks (s.accepted (untilPump actions)) := by
  induction actions using List.reverseRecOn with
  | nil => rfl
  | append_singleton actions action ih =>
    have mediated_before : ∀ action ∈ actions, action.isMediated = true :=
      fun a mem => mediated a (List.mem_append_left _ mem)
    have mediated_action : action.isMediated = true := mediated action (by simp)
    rw [outputs_concat, ih mediated_before]
    obtain ⟨fetching, -⟩ | ended := fetching_or_ended running empty mediated_before
    · obtain ⟨_, running', -⟩ := fetching.engine
      rw [if_pos (isRunning_eq_true running')]
      cases action with
      | pump =>
        rw [untilPump_pump, accepted_pump, fetching.accepted_eq,
          ProcessEvent.chunks_append fetching.alive]
        rfl
      | receive bytes => exact nomatch mediated_action
      | stop => exact nomatch mediated_action
      | _ =>
        rw [untilPump_concat]
        exact List.append_nil _
    · have idle : ¬ (s.run actions).isRunning = true := by simp [ended.isOver.idle]
      rw [if_neg idle, List.append_nil, ended.accepted_eq, ← ended.accepted_concat action,
        (ended.concat mediated_action).accepted_eq]

section

variable (running : s.phase = .running e) (empty : s.mailbox = Mailbox.empty capacity)
  (mediated : ∀ action ∈ actions, action.isMediated = true)

include running empty mediated

/-- A session runs until a pump finds out that the process is gone. -/
theorem isRunning_run_iff :
    (s.run actions).isRunning = true ↔ .exited ∉ s.accepted (untilPump actions) ∧
      (untilPump actions).any Action.isHangUp = false := by
  obtain ⟨fetching, open_eq⟩ | ended := fetching_or_ended running empty mediated
  · obtain ⟨_, running', -⟩ := fetching.engine
    exact iff_of_true (isRunning_eq_true running') ⟨fetching.alive, open_eq⟩
  · rw [ended.isOver.idle, ended.accepted_eq]
    refine iff_of_false Bool.false_ne_true fun ⟨alive, open_eq⟩ => ?_
    rcases ended.reason with exits | closed
    · exact alive exits
    · exact absurd (closed.symm.trans open_eq) (by decide)

/-- The engine of a session that runs has read the output that was let in up to the latest pump. -/
theorem reads_run {e' : ε} (running' : (s.run actions).phase = .running e') :
    Engine.Reads e (ProcessEvent.chunks (s.accepted (untilPump actions))) e' := by
  obtain ⟨fetching, -⟩ | ended := fetching_or_ended running empty mediated
  · obtain ⟨e₁, running₁, reads⟩ := fetching.engine
    obtain rfl := Phase.running.inj (running'.symm.trans running₁)
    exact reads
  · exact absurd ((isRunning_eq_true running').symm.trans ended.isOver.idle) (by decide)

/-- A session that does not run any more has ended at a pump. -/
theorem ended_run (idle : (s.run actions).isRunning = false) : s.Ended e actions := by
  obtain ⟨fetching, -⟩ | ended := fetching_or_ended running empty mediated
  · obtain ⟨_, running', -⟩ := fetching.engine
    exact absurd ((isRunning_eq_true running').symm.trans idle) (by decide)
  · exact ended

/-- An event is let in as long as the session runs, its process has not hung up and there is room. -/
theorem offer_run_iff (event : ProcessEvent) :
    ((s.run actions).offer event).2 = .accepted ↔
      (s.run actions).isRunning = true ∧ actions.any Action.isHangUp = false ∧
        (s.accepted actions).length <
          (s.accepted (untilPump actions)).length + max capacity 1 := by
  obtain ⟨fetching, -⟩ | ended := fetching_or_ended running empty mediated
  · obtain ⟨_, running', -⟩ := fetching.engine
    rw [fetching.offer_eq, and_iff_right (isRunning_eq_true running')]
  · rw [ended.isOver.offer_eq, ended.isOver.idle]
    simp

end

/-- The output of a process reaches the engine, whatever happens in between: each piece that was let
in is read once and in its order, up to the end of the process.

What was let in up to the latest pump decides. The session runs as long as the end of its process is
not in it and its process has not hung up before that pump. Otherwise the session ended at a pump,
when it had read the output that was let in before the end; it says which of the two it was, and
never reads again. An event is let in as long as the session runs, its process has not hung up and
fewer events wait than the mailbox has room for. -/
theorem delivery_run {options : SessionOptions} {size : Dimensions}
    {provider : Option (Provider ε)} {refusal : Option ProcessFault}
    (started : Session.start options size provider refusal = .ok s)
    (mediated : ∀ action ∈ actions, action.isMediated = true) :
    let now := s.run actions
    let latest := untilPump actions
    let mail := s.accepted latest
    s.outputs actions = ProcessEvent.chunks mail ∧
      (now.isRunning = true ↔ .exited ∉ mail ∧ latest.any Action.isHangUp = false) ∧
      (∀ e e', s.phase = .running e → now.phase = .running e' →
        Engine.Reads e (ProcessEvent.chunks mail) e') ∧
      (now.isRunning = false →
        now.phase = .ended (if .exited ∈ mail then "Process exited" else "Process output closed") ∧
        (∃ (before after : List Action) (fed : Session ε), actions = before ++ .pump :: after ∧
          (s.run before).isRunning = true ∧
          (s.run before).pump.1 = fed.processGone (farewell mail) ∧
          ∀ e, s.phase = .running e → ∃ e', fed.phase = .running e' ∧
            Engine.Reads e (ProcessEvent.chunks mail) e') ∧
        ∀ more, (now.run more).isRunning = false ∧ s.outputs (actions ++ more) = s.outputs actions) ∧
      ∀ event, (now.offer event).2 = .accepted ↔ now.isRunning = true ∧
        actions.any Action.isHangUp = false ∧
        (s.accepted actions).length < mail.length + max options.mailboxCapacity 1 := by
  intro now latest mail
  obtain ⟨_, e, -, -, s_eq⟩ := exists_of_start started
  have running : s.phase = .running e := congrArg Session.phase s_eq
  have empty : s.mailbox = Mailbox.empty options.mailboxCapacity := congrArg Session.mailbox s_eq
  refine ⟨outputs_eq running empty mediated, isRunning_run_iff running empty mediated, ?_, ?_,
    offer_run_iff running empty mediated⟩
  · intro e₁ e₂ running₁ running₂
    obtain rfl := Phase.running.inj (running.symm.trans running₁)
    exact reads_run running empty mediated running₂
  · intro idle
    have ended := ended_run running empty mediated idle
    have mail_eq : s.accepted actions = mail := ended.accepted_eq.symm
    refine ⟨mail_eq ▸ ended.phase_eq, ?_, fun more => ⟨(ended.isOver.run more).1.idle, ?_⟩⟩
    · obtain ⟨before, after, fed, e', split, is_running, pumped, running', reads⟩ := ended.last
      rw [mail_eq] at pumped reads
      refine ⟨before, after, fed, split, is_running, pumped, fun e₁ running₁ => ?_⟩
      obtain rfl := Phase.running.inj (running.symm.trans running₁)
      exact ⟨e', running', reads⟩
    · rw [outputs_append, outputs, outputs, ended.isOver.history_eq_nil]
      exact List.append_nil _

/-- A mailbox that is full for a while, a new size, output that comes with the end and after it.
What did not find room is lost, and so is what came behind the end. -/
theorem delivery_run_crowded :
    let actions := [Action.offer (.data [65]), .offer (.data [66, 27]), .offer (.data []),
      .offer (.data [67]), .tick 9, .pump, .offer (.data [91, 66]), .resize { cols := 3, rows := 3 },
      .setTrouble (some "gone"), .scroll (.lines (-1)), .offer .exited, .offer (.data [68]), .pump,
      .offer (.data [69]), .hangUp, .pump]
    ∃ s : Session Emulator,
      Session.start { mailboxCapacity := 3 } { cols := 4, rows := 2 } (some (Emulator.provider 5))
          none = .ok s ∧
        (∀ action ∈ actions, action.isMediated = true) ∧
        s.accepted (untilPump actions) =
          [.data [65], .data [66, 27], .data [], .data [91, 66], .exited, .data [68]] ∧
        s.outputs actions = [[65], [66, 27], [], [91, 66]] ∧
        (s.run actions).isRunning = false := by
  intro actions
  have mediated : ∀ action ∈ actions, action.isMediated = true := by decide
  obtain ⟨s, started, accepted_eq⟩ : ∃ s : Session Emulator,
      Session.start { mailboxCapacity := 3 } { cols := 4, rows := 2 } (some (Emulator.provider 5))
          none = .ok s ∧
        s.accepted (untilPump actions) =
          [.data [65], .data [66, 27], .data [], .data [91, 66], .exited, .data [68]] :=
    ⟨_, rfl, by decide +kernel⟩
  obtain ⟨outputs_eq, running_iff, -⟩ := delivery_run started mediated
  rw [accepted_eq] at outputs_eq running_iff
  refine ⟨s, started, mediated, accepted_eq, outputs_eq, Bool.eq_false_iff.mpr fun running => ?_⟩
  exact (running_iff.mp running).1 (by decide)

end Session

end TerminalSession
