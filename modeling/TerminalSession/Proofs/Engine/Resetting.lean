import TerminalSession.Engine.Builtin
import TerminalSession.Proofs.Control.Recovery
import TerminalSession.Proofs.Control.Registers
import TerminalSession.Proofs.Emulator.Operations
import TerminalSession.Proofs.Session.Chunking
import TerminalSession.Proofs.Terminal.Limit

/-!
# A reset leaves nothing behind

After `ESC c` an engine is as one that was just made, at the size that it has by then. Output that comes
later cannot tell the difference.

## Main definitions

* `EngineCall`: what can be asked of an engine that changes it
* `Scanner.hearsEscape`: the next `ESC` begins an escape sequence
* `Scanner.ended`: the tokens of what that `ESC` ends

## Main statements

* `Scanner.run_reset`: wherever `ESC` is heard, the stream is between two units after `ESC c`
* `Emulator.feed_reset`: the emulator is as a fresh one then
* `Emulator.reset_forgets`: an engine after any history and a reset is as a new one

## Design notes

* No `ESC` in a string that is skipped begins a sequence: such a string goes on until `BEL`, or `ESC` and
  a backslash. After `ESC` in a command, another `ESC` is the final character of a short escape.
* Replies and notices that wait are not a matter of the reset: they are still to be taken. Neither is
  an overflow before it: the reset cannot make up for that.
* The registers of a scanner are not cleared by a reset. What is left in them does not matter to what
  is read.
-/

namespace TerminalSession

/-! ### Calls -/

/-- What can be asked of an engine that changes it. Questions that leave it as it is are not among
them, so a list of calls is a history of the engine. -/
inductive EngineCall where
  | feed (bytes : List UInt8)
  | resize (size : Dimensions)
  | scroll (delta : Int)
  | takeReplies
  | takeNotices

namespace EngineCall

/-- The engine after a call. -/
def make {ε : Type} [Engine ε] (e : ε) : EngineCall → ε
  | .feed bytes => (Engine.feed e bytes).1
  | .resize size => (Engine.resize e size).1
  | .scroll delta => (Engine.scroll e delta).1
  | .takeReplies => (Engine.takeReplies e).1
  | .takeNotices => (Engine.takeNotices e).1

/-- The output that arrives by a call. -/
def output : EngineCall → List UInt8
  | .feed bytes => bytes
  | _ => []

end EngineCall

/-! ### Scanning a reset -/

/-- `ESC c`, which has a terminal begin anew. -/
def resetBytes : List UInt8 := [0x1B, 0x63]

namespace Scanner

/-- The next `ESC` begins an escape sequence. -/
def hearsEscape : Scanner → Bool
  | .commandEscape _ => false
  | .ignored => false
  | .ignoredEscape => false
  | _ => true

/-- What `ESC` ends besides: a character that is not complete, or a command. Neither is answered. -/
def ended : Scanner → List Token
  | .text part => ofCut part
  | .command payload => [.command payload]
  | _ => []

/-- Wherever `ESC` is heard, the stream is between two units after `ESC c`. -/
theorem run_reset {s : Scanner} (hears : s.hearsEscape = true) :
    s.run resetBytes = (ground, s.ended ++ [.escape 'c']) := by
  cases s with
  | text part => cases part <;> rfl
  | commandEscape => exact nomatch hears
  | ignored => exact nomatch hears
  | ignoredEscape => exact nomatch hears
  | _ => rfl

end Scanner

/-- A token that is no more than text or a command: it is not answered, not noted, and computes no
column that is no word. -/
def Token.isSilent : Token → Bool
  | .print _ => true
  | .command _ => true
  | _ => false

theorem Scanner.isSilent_of_mem_ended {s : Scanner} : ∀ token ∈ s.ended, token.isSilent = true := by
  cases s with
  | text part => cases part <;> simp [ended, ofCut, Token.isSilent]
  | _ => simp [ended, Token.isSilent]

namespace Emulator

/-! ### Executing a reset -/

theorem execute_of_isSilent (e : Emulator) {token : Token} (silent : token.isSilent = true) :
    e.execute token = e.withTerminal (e.terminal.execute token) := by
  cases token with
  | print c => simp [execute, withTerminal, Terminal.reply?, unknown?, Terminal.overflows]
  | command payload => simp [execute, withTerminal, Terminal.reply?, unknown?, Terminal.overflows]
  | _ => exact absurd silent Bool.false_ne_true

/-- Silent tokens change the terminal alone. -/
theorem foldl_execute_of_isSilent {tokens : List Token}
    (silent : ∀ token ∈ tokens, token.isSilent = true) (e : Emulator) :
    tokens.foldl execute e = e.withTerminal (tokens.foldl execute e).terminal := by
  induction tokens generalizing e with
  | nil => rfl
  | cons token rest ih =>
    have rest_eq := ih (fun other mem => silent other (List.mem_cons_of_mem token mem))
      (e.execute token)
    rw [List.foldl_cons, rest_eq, execute_of_isSilent e (silent token List.mem_cons_self)]
    rfl

/-- An emulator that is reset is as a fresh one, but for its past: what waits to be sent and noted,
and whether an overflow came before. What the reset cuts off may still be executed, and changes
neither the size nor the room for history. -/
theorem feed_reset {e : Emulator} (hears : e.scanner.hearsEscape = true) :
    e.feed resetBytes =
      (fresh e.terminal.cols e.terminal.rows e.terminal.primary.limit).behind
        e.replies e.unknown e.overflowed := by
  let before := e.scanner.ended.foldl execute { e with scanner := Scanner.ground }
  have performed := terminal_foldl_execute e.scanner.ended { e with scanner := Scanner.ground }
  have size_eq : before.terminal.size = e.terminal.size := by
    rw [performed]
    exact e.terminal.size_performAll _
  have limit_eq : before.terminal.primary.limit = e.terminal.primary.limit := by
    rw [performed]
    exact e.terminal.limit_performAll _
  have terminal_eq : before.terminal.reset =
      Terminal.fresh e.terminal.cols e.terminal.rows e.terminal.primary.limit := by
    rw [Terminal.reset, Terminal.cols_eq_of_size_eq size_eq, Terminal.rows_eq_of_size_eq size_eq,
      limit_eq]
  have before_eq : before =
      { e with scanner := Scanner.ground, terminal := before.terminal } :=
    foldl_execute_of_isSilent Scanner.isSilent_of_mem_ended { e with scanner := Scanner.ground }
  calc e.feed resetBytes
      = before.execute (.escape 'c') := by
        rw [feed_eq_foldl_execute, Scanner.run_reset hears, List.foldl_append]
        rfl
    _ = { terminal := before.terminal.reset, scanner := before.scanner,
          replies := before.replies ++ #[], unknown := before.unknown ++ #[],
          overflowed := before.overflowed } := rfl
    _ = _ := by
        rw [terminal_eq, before_eq]
        rfl

theorem pendingBytes_behind (e : Emulator) (replies : Array Reply)
    (unknown : Array ControlSequence) (overflowed : Bool) :
    (e.behind replies unknown overflowed).pendingBytes =
      replies.toList.flatMap Reply.bytes ++ e.pendingBytes := by
  simp [behind, pendingBytes]

/-! ### Any history -/

theorem limit_make (e : Emulator) (call : EngineCall) :
    (call.make e).terminal.primary.limit = e.terminal.primary.limit := by
  cases call with
  | feed bytes =>
    change (e.feed bytes).terminal.primary.limit = _
    rw [terminal_feed]
    exact e.terminal.limit_performAll _
  | resize size => exact e.terminal.limit_resize size.cols size.rows
  | scroll delta => exact e.terminal.limit_scrollWindow delta
  | takeReplies => rfl
  | takeNotices => rfl

/-- The limit of the history is the one that the engine was made with. -/
theorem limit_foldl_make (history : List EngineCall) (e : Emulator) :
    (history.foldl EngineCall.make e).terminal.primary.limit = e.terminal.primary.limit := by
  induction history generalizing e with
  | nil => rfl
  | cons call rest ih => exact (ih (call.make e)).trans (limit_make e call)

/-- Only output moves the place of the stream. -/
theorem scanner_foldl_make (history : List EngineCall) (e : Emulator) :
    (history.foldl EngineCall.make e).scanner =
      (e.scanner.run (history.flatMap EngineCall.output)).1 := by
  induction history generalizing e with
  | nil => rfl
  | cons call rest ih =>
    have moved : (call.make e).scanner = (e.scanner.run call.output).1 := by
      cases call with
      | feed bytes => exact e.scanner_feed bytes
      | _ => rfl
    rw [List.foldl_cons, ih, moved, List.flatMap_cons, Scanner.run_append]

/-- After any history and a reset, an engine is to the process and to a viewer as a new one of its
present size, whatever output comes: they show the same, and the same replies are added to those that
wait. So does a scanner with registers read the same tokens, though they are not cleared. -/
theorem reset_forgets (cols rows limit : Nat) (history : List EngineCall) (output : List UInt8) :
    let e := history.foldl EngineCall.make (fresh cols rows limit)
    e.scanner.hearsEscape = true →
    let after := (Engine.feed (Engine.feed e resetBytes).1 output).1
    let anew := (Engine.feed (fresh e.terminal.cols e.terminal.rows limit) output).1
    let registers := (Registers.new.run (history.flatMap EngineCall.output ++ resetBytes)).1
    after.terminal = anew.terminal ∧ after.scanner = anew.scanner ∧
      Engine.dump after = Engine.dump anew ∧ Engine.cursor after = Engine.cursor anew ∧
      Engine.title after = Engine.title anew ∧ Engine.offset after = Engine.offset anew ∧
      (Engine.takeReplies after).2 = (Engine.takeReplies e).2 ++ (Engine.takeReplies anew).2 ∧
      (registers.run output).2 = (Registers.new.run output).2 := by
  intro e hears after anew registers
  have limit_eq : e.terminal.primary.limit = limit := limit_foldl_make history _
  have after_eq : after = anew.behind e.replies e.unknown e.overflowed := by
    change (e.feed resetBytes).feed output = _
    rw [feed_reset hears, feed_behind, limit_eq]
    rfl
  have replies_eq : after.pendingBytes = e.pendingBytes ++ anew.pendingBytes := by
    rw [after_eq, pendingBytes_behind]
    rfl
  have place : (Scanner.ground.run (history.flatMap EngineCall.output)).1 = e.scanner :=
    (scanner_foldl_make history (fresh cols rows limit)).symm
  have between : registers.StandFor Scanner.ground := by
    have stands := (Registers.agree_run_new
      (history.flatMap EngineCall.output ++ resetBytes)).place
    rwa [Scanner.run_append, place, Scanner.run_reset hears] at stands
  have read_eq : (registers.run output).2 = (Registers.new.run output).2 :=
    (between.run output).tokens.trans (Registers.agree_run_new output).tokens.symm
  have terminal_eq : after.terminal = anew.terminal := by
    rw [after_eq]
    rfl
  have scanner_eq : after.scanner = anew.scanner := by
    rw [after_eq]
    rfl
  have title_eq : after.title? = anew.title? := by
    rw [title?, title?, terminal_eq]
  have offset_eq : some after.terminal.screen.offset = some anew.terminal.screen.offset := by
    rw [terminal_eq]
  exact ⟨terminal_eq, scanner_eq, congrArg Terminal.dump terminal_eq,
    congrArg Terminal.cursorReport terminal_eq, title_eq, offset_eq, replies_eq, read_eq⟩

/-- A history that leaves the alternate screen in use, a region, a style and a hidden cursor, a title, a
reply that waits and a sequence that is not complete. -/
theorem reset_forgets_alternate :
    let history : List EngineCall :=
      [.feed "one\r\ntwo\r\nthree\r\n\x1b]0;t\x07".toUTF8.toList, .scroll (-1),
        .feed "\x1b[?1049h\x1b[?25l\x1b[2;3r\x1b[1;31mab\x1b[6n".toUTF8.toList,
        .resize ⟨5, 2⟩, .feed "\x1b[12;".toUTF8.toList]
    let e := history.foldl EngineCall.make (fresh 4 3 2)
    let output := "x\r\ny\x1b[6n".toUTF8.toList
    let after := (Engine.feed (Engine.feed e resetBytes).1 output).1
    e.scanner.hearsEscape = true ∧ e.terminal.onAlternate = true ∧
      after.terminal = ((fresh 5 2 2).feed output).terminal ∧
      Engine.dump after = "x    \ny    ".toList ∧
      (Engine.takeReplies after).2 = "\x1b[1;3R\x1b[2;2R".toUTF8.toList := by
  intro history e output after
  have hears : e.scanner.hearsEscape = true := by decide +kernel
  have size_eq : e.terminal.cols = 5 ∧ e.terminal.rows = 2 := by decide +kernel
  obtain ⟨terminal_eq, -, -, -, -, -, replies_eq, -⟩ := reset_forgets 4 3 2 history output hears
  change _ = ((fresh e.terminal.cols e.terminal.rows 2).feed output).terminal at terminal_eq
  change _ = e.pendingBytes ++
    ((fresh e.terminal.cols e.terminal.rows 2).feed output).pendingBytes at replies_eq
  rw [size_eq.1, size_eq.2] at terminal_eq replies_eq
  have dump_eq : ((fresh 5 2 2).feed output).terminal.dump = "x    \ny    ".toList := by
    decide +kernel
  refine ⟨hears, by decide +kernel, terminal_eq, (congrArg Terminal.dump terminal_eq).trans dump_eq,
    replies_eq.trans ?_⟩
  decide +kernel

end Emulator

end TerminalSession
