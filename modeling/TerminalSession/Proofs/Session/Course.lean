import TerminalSession.Proofs.Session.Effect

/-!
# The course of a session

A session that runs passes on what happens to it: output and sizes to its engine, replies, input and
sizes to its process. Every operation says here what it passes on.

## Main definitions

* `Engine.Input`, `Engine.Becomes`: what an engine is given, and what becomes of it
* `Session.log`: everything that the process was asked
* `Session.replies`: what the engine replies to a piece of output
* `Session.typed?`: the bytes that an input event comes to
* `Session.GoesOn`: from a session that runs to a later one, with what was passed on in between

## Main statements

* `Session.goesOn_receive`, `Session.goesOn_input`, `Session.goesOn_resize`: what these pass on
* `Session.goesOn_scroll`, `Session.goesOn_wheel`: movements of the window pass on nothing

## Design notes

* All of this holds for any engine. What an engine does with its input is its own matter, so it is
  known through `Engine.Becomes` only: a proof about one engine is an induction on this relation.
* Everything but the pump and the process leaves the mailbox alone, so `GoesOn` says so. What changes
  the mailbox first is described by `GoesOn` from the session with the changed mailbox.
-/

namespace TerminalSession

/-! ### Engines -/

namespace Engine

/-- What an engine is given by its session: output of the process, or a size. -/
inductive Input where
  | read (bytes : List UInt8)
  | resize (size : Dimensions)
  deriving DecidableEq, Repr

/-- The output in an input. -/
def Input.bytes? : Input → Option (List UInt8)
  | .read bytes => some bytes
  | .resize _ => none

/-- The size in an input. -/
def Input.size? : Input → Option Dimensions
  | .read _ => none
  | .resize size => some size

variable {ε : Type} [Engine ε]

/-- What becomes of an engine that is given inputs in this order, and nothing else. Its replies are
taken as soon as it has read something. In between, its window moves and its notices are taken. -/
inductive Becomes (e : ε) : List Input → ε → Prop where
  | refl : Becomes e [] e
  | read {inputs : List Input} {e' fed : ε} {bytes : List UInt8} (before : Becomes e inputs e')
    (eq : Engine.feed e' bytes = (fed, none)) :
    Becomes e (inputs ++ [.read bytes]) (Engine.takeReplies fed).1
  | readFailed {inputs : List Input} {e' fed : ε} {bytes : List UInt8} {fault : EngineFault}
    (before : Becomes e inputs e') (eq : Engine.feed e' bytes = (fed, some fault)) :
    Becomes e (inputs ++ [.read bytes]) fed
  | resize {inputs : List Input} {e' : ε} (before : Becomes e inputs e') {size : Dimensions}
    (cols_le : Dimensions.least ≤ size.cols) (rows_le : Dimensions.least ≤ size.rows) :
    Becomes e (inputs ++ [.resize size]) (Engine.resize e' size).1
  | scroll {inputs : List Input} {e' : ε} (before : Becomes e inputs e') (delta : Int) :
    Becomes e inputs (Engine.scroll e' delta).1
  | takeNotices {inputs : List Input} {e' : ε} (before : Becomes e inputs e') :
    Becomes e inputs (Engine.takeNotices e').1

theorem Becomes.trans {e e' e'' : ε} {inputs later : List Input} (before : Becomes e inputs e')
    (after : Becomes e' later e'') : Becomes e (inputs ++ later) e'' := by
  induction after with
  | refl => rwa [List.append_nil]
  | read _ eq ih => exact List.append_assoc _ _ _ ▸ ih.read eq
  | readFailed _ eq ih => exact List.append_assoc _ _ _ ▸ ih.readFailed eq
  | resize _ cols_le rows_le ih => exact List.append_assoc _ _ _ ▸ ih.resize cols_le rows_le
  | scroll _ delta ih => exact ih.scroll delta
  | takeNotices _ ih => exact ih.takeNotices

end Engine

/-- The size that a call tells the process. -/
def ProcessCall.size? : ProcessCall → Option Dimensions
  | .spawn request => some request.size
  | .resize size => some size
  | _ => none

namespace Session

variable {ε : Type}

/-- Everything that the process was asked, oldest first, its start included. -/
def log (s : Session ε) : List ProcessCall := s.process.calls.toList

theorem log_ask (s : Session ε) (call : ProcessCall) (notice : ProcessFault → Notice) :
    (s.ask call notice).log = s.log ++ [call] := by
  have asked := congrArg Session.log (s.silent_ask call notice)
  simpa [log, silent, Process.record] using asked

variable [Engine ε]

/-- What the engine replies to a piece of output. Replies are taken after each piece, so these are
to this one. -/
def replies (s : Session ε) (bytes : List UInt8) : List UInt8 :=
  match s.phase with
  | .running engine =>
    match Engine.feed engine bytes with
    | (engine, none) => (Engine.takeReplies engine).2
    | (_, some _) => []
  | _ => []

/-! ### Sessions that run -/

/-- From a session that runs to a later one that does: the engine was given inputs, calls of the
process were made, and the mailbox was left alone. A size that goes to the one goes to the other,
and the session keeps the last one. -/
structure GoesOn (s : Session ε) (inputs : List Engine.Input) (calls : List ProcessCall)
    (s' : Session ε) : Prop where
  engine : ∃ e e' : ε, s.phase = .running e ∧ s'.phase = .running e' ∧ Engine.Becomes e inputs e'
  log_eq : s'.log = s.log ++ calls
  mailbox_eq : s'.mailbox = s.mailbox
  sizes_eq : calls.filterMap ProcessCall.size? = inputs.filterMap Engine.Input.size?
  size_eq : s'.size = (calls.filterMap ProcessCall.size?).getLast?.getD s.size

namespace GoesOn

variable {s s' s'' : Session ε} {e : ε} {inputs later : List Engine.Input}
  {calls further : List ProcessCall}

theorem refl (running : s.phase = .running e) : s.GoesOn [] [] s where
  engine := ⟨e, e, running, running, .refl⟩
  log_eq := (List.append_nil _).symm
  mailbox_eq := rfl
  sizes_eq := rfl
  size_eq := rfl

/-- What has become of the engine. -/
theorem exists_becomes (on : s.GoesOn inputs calls s') (running : s.phase = .running e) :
    ∃ e' : ε, s'.phase = .running e' ∧ Engine.Becomes e inputs e' := by
  obtain ⟨e₀, e', running₀, running', becomes⟩ := on.engine
  obtain rfl := Phase.running.inj (running.symm.trans running₀)
  exact ⟨e', running', becomes⟩

theorem trans (on : s.GoesOn inputs calls s') (on' : s'.GoesOn later further s'') :
    s.GoesOn (inputs ++ later) (calls ++ further) s'' where
  engine := by
    obtain ⟨e, e', running, running', becomes⟩ := on.engine
    obtain ⟨e'', running'', becomes'⟩ := on'.exists_becomes running'
    exact ⟨e, e'', running, running'', becomes.trans becomes'⟩
  log_eq := by rw [on'.log_eq, on.log_eq, List.append_assoc]
  mailbox_eq := on'.mailbox_eq.trans on.mailbox_eq
  sizes_eq := by rw [List.filterMap_append, List.filterMap_append, on.sizes_eq, on'.sizes_eq]
  size_eq := by
    rw [on'.size_eq, on.size_eq, List.filterMap_append, List.getLast?_append]
    cases (further.filterMap ProcessCall.size?).getLast? <;> rfl

theorem isRunning (on : s.GoesOn inputs calls s') : s'.isRunning = true := by
  obtain ⟨_, _, -, running', -⟩ := on.engine
  exact isRunning_eq_true running'

/-- Parts that no other party sees may change. -/
theorem congr (on : s.GoesOn inputs calls s') (phase_eq : s''.phase = s'.phase)
    (process_eq : s''.process = s'.process) (mailbox_eq : s''.mailbox = s'.mailbox)
    (size_eq : s''.size = s'.size) : s.GoesOn inputs calls s'' where
  engine := phase_eq ▸ on.engine
  log_eq := by rw [log, process_eq]; exact on.log_eq
  mailbox_eq := mailbox_eq.trans on.mailbox_eq
  sizes_eq := on.sizes_eq
  size_eq := size_eq.trans on.size_eq

/-- One more call that tells no size. It is at the end of the log, and the size is still the one
that was told last. -/
theorem ask (on : s.GoesOn inputs calls s') {call : ProcessCall} (no_size : call.size? = none)
    (notice : ProcessFault → Notice) : s.GoesOn inputs (calls ++ [call]) (s'.ask call notice) where
  engine := by
    rw [phase_ask]
    exact on.engine
  log_eq := by rw [log_ask, on.log_eq, List.append_assoc]
  mailbox_eq := (mailbox_ask _ _ _).trans on.mailbox_eq
  sizes_eq := by
    rw [List.filterMap_append, List.filterMap_cons_none no_size, List.filterMap_nil,
      List.append_nil, on.sizes_eq]
  size_eq := by
    rw [List.filterMap_append, List.filterMap_cons_none no_size, List.filterMap_nil,
      List.append_nil, ← on.size_eq]
    exact size_ask _ _ _

theorem syncViewport (on : s.GoesOn inputs calls s') (e : ε) :
    s.GoesOn inputs calls (s'.syncViewport e) := by
  unfold Session.syncViewport
  split
  · exact on.congr rfl rfl rfl rfl
  · exact on

end GoesOn

variable {s : Session ε} {e : ε}

/-- The session takes over what has become of its engine. -/
theorem goesOn_putEngine (running : s.phase = .running e) {inputs : List Engine.Input} {e' : ε}
    (becomes : Engine.Becomes e inputs e') (no_size : inputs.filterMap Engine.Input.size? = []) :
    s.GoesOn inputs [] (s.putEngine e') where
  engine := ⟨e, _, running, rfl, becomes.takeNotices⟩
  log_eq := (List.append_nil _).symm
  mailbox_eq := rfl
  sizes_eq := no_size.symm
  size_eq := rfl

/-- A piece of output goes to the engine, and its replies go to the process. An engine that fails
was given the piece as well, and nothing is sent for it. -/
theorem goesOn_receive (running : s.phase = .running e) (bytes : List UInt8) :
    s.GoesOn [.read bytes] (ProcessCall.sending (s.replies bytes)) (s.receive bytes) := by
  unfold receive replies
  rw [running]
  dsimp only
  rcases fed : Engine.feed e bytes with ⟨e', fault | fault⟩
  · have put := goesOn_putEngine running (.read .refl fed) rfl
    have written : s.GoesOn [.read bytes] (ProcessCall.sending (Engine.takeReplies e').2)
        (if (Engine.takeReplies e').2.isEmpty then s.putEngine (Engine.takeReplies e').1
          else (s.putEngine (Engine.takeReplies e').1).write (Engine.takeReplies e').2) := by
      unfold ProcessCall.sending
      split
      · exact put
      · exact put.ask rfl _
    exact (written.syncViewport _).congr rfl rfl rfl rfl
  · exact (goesOn_putEngine running (.readFailed .refl fed) rfl).congr rfl rfl rfl rfl

/-- A movement of the window is no input of the engine. -/
theorem goesOn_scrollEngine (running : s.phase = .running e) (delta : Int) :
    s.GoesOn [] [] (s.scrollEngine delta) := by
  have moved : Engine.Becomes e [] (Engine.scroll e delta).1 := .scroll .refl delta
  unfold scrollEngine
  rw [running]
  dsimp only
  rcases scrolled : Engine.scroll e delta with ⟨e', fault | fault⟩
  · rw [scrolled] at moved
    exact ((goesOn_putEngine running moved rfl).syncViewport e').congr rfl rfl rfl rfl
  · rw [scrolled] at moved
    exact (goesOn_putEngine running moved rfl).congr rfl rfl rfl rfl

theorem goesOn_follow (running : s.phase = .running e) (moved : Viewport × Option Int) :
    s.GoesOn [] [] (s.follow moved) := by
  have turned : s.GoesOn [] [] { s with viewport := moved.1 } :=
    (GoesOn.refl running).congr rfl rfl rfl rfl
  have running' : ({ s with viewport := moved.1 } : Session ε).phase = .running e := running
  unfold follow
  dsimp only
  split
  · exact turned.trans (goesOn_scrollEngine running' _)
  · exact turned

theorem goesOn_scroll (running : s.phase = .running e) (command : ScrollCommand) :
    s.GoesOn [] [] (s.scroll command) := by
  rw [scroll, if_pos (isRunning_eq_true running)]
  exact goesOn_follow running _

theorem goesOn_wheel (running : s.phase = .running e) (deltaY glyphHeight : Float) :
    s.GoesOn [] [] (s.wheel deltaY glyphHeight) := by
  rw [wheel, if_pos (isRunning_eq_true running)]
  exact goesOn_follow running _

theorem goesOn_returned (running : s.phase = .running e) : s.GoesOn [] [] s.returned := by
  unfold returned
  split
  · exact goesOn_scroll running .bottom
  · exact .refl running

/-- The bytes that an input event comes to, if it is for the process. -/
def typed? (s : Session ε) (event : InputEvent) : Option (List UInt8) :=
  match (s.composer.encode event s.size.rows).2 with
  | .write bytes => some bytes
  | _ => none

/-- What an input event comes to goes to the process. -/
theorem goesOn_input (running : s.phase = .running e) (event : InputEvent) :
    s.GoesOn [] ((s.typed? event).map ProcessCall.write).toList (s.input event) := by
  have encoded : s.GoesOn [] [] (s.encoded event) := (GoesOn.refl running).congr rfl rfl rfl rfl
  have running' : (s.encoded event).phase = .running e := running
  rw [input_of_running s (isRunning_eq_true running)]
  unfold typed?
  cases (s.composer.encode event s.size.rows).2 with
  | write bytes => exact (encoded.trans (goesOn_returned running')).ask rfl _
  | scroll command => exact encoded.trans (goesOn_scroll running' command)
  | ignore => exact encoded.congr rfl rfl rfl rfl

/-- A size that is another one goes to the engine and to the process. The session takes it over
whether or not the engine can, so that the three are told the same. -/
theorem goesOn_resize (running : s.phase = .running e) {size clamped : Dimensions}
    (clamped_eq : clamped = Dimensions.clamped size.cols size.rows) (ne : clamped ≠ s.size) :
    s.GoesOn [.resize clamped] [.resize clamped] (s.resize size) := by
  have becomes : Engine.Becomes e [.resize clamped] (Engine.resize e clamped).1 := by
    subst clamped_eq
    exact .resize .refl (Dimensions.least_le_clampSide _) (Dimensions.least_le_clampSide _)
  let put := (s.note (.resized s.size clamped)).putEngine (Engine.resize e clamped).1
  -- A fault of the engine is only written down, so both ways to go on are of this form.
  have asked (t : Session ε) (phase_eq : t.phase = put.phase) (process_eq : t.process = s.process)
      (mailbox_eq : t.mailbox = s.mailbox) :
      s.GoesOn [.resize clamped] [.resize clamped]
        { t.ask (.resize clamped) .processResizeFailed with size := clamped } :=
    { engine := ⟨e, _, running, (phase_ask _ _ _).trans phase_eq, becomes.takeNotices⟩
      log_eq := by
        refine (log_ask t (.resize clamped) .processResizeFailed).trans ?_
        rw [log, log, process_eq]
      mailbox_eq := (mailbox_ask _ _ _).trans mailbox_eq
      sizes_eq := rfl
      size_eq := rfl }
  unfold resize
  rw [running, ← clamped_eq]
  dsimp only
  rw [if_neg ne]
  split
  next fault _ =>
    exact ((asked (put.note (.resizeFailed fault)) rfl rfl rfl).syncViewport _).congr rfl rfl rfl rfl
  · exact ((asked put rfl rfl rfl).syncViewport _).congr rfl rfl rfl rfl

end Session

end TerminalSession
