import TerminalSession.Proofs.Session.Effect
import TerminalSession.Proofs.Terminal.LiveEnd

/-!
# Output in pieces

Output of the process arrives in pieces that say nothing about it. A session that receives the
pieces one after the other ends up as one that receives all of it at once, and sends the same bytes
to the process.

## Main definitions

* `Emulator.behind`: an emulator with a past: replies and notices that have waited longer than its
  own, and an overflow

## Main statements

* `Emulator.feed_behind`: the past does not matter to what is read
* `Viewport.sync_sync`: a viewport that is told two offsets needs the second one only
* `Session.receive_cut`: it makes no difference how output is cut

## Design notes

* The emulator reads byte by byte, so it sees no cuts. What the session does after each piece is
  the matter: replies are sent, and the viewport is told the offset of the window. A viewport that
  was told the offset 0 follows from then on and does not listen any more, so the offset has to stay
  0 during the pieces that come later. This is `Terminal.AtEnd.feed`.
-/

namespace TerminalSession

/-! ### The past of an emulator -/

namespace Emulator

/-- The emulator with replies and notices that have waited longer than its own, after an overflow
if there was one. -/
def behind (e : Emulator) (replies : Array Reply) (unknown : Array ControlSequence)
    (overflowed : Bool) : Emulator :=
  { e with
    replies := replies ++ e.replies
    unknown := unknown ++ e.unknown
    overflowed := e.overflowed || overflowed }

variable (e : Emulator) (replies : Array Reply) (unknown : Array ControlSequence) (overflowed : Bool)

theorem execute_behind (token : Token) :
    (e.behind replies unknown overflowed).execute token =
      (e.execute token).behind replies unknown overflowed := by
  simp only [execute, behind, Array.append_assoc, Bool.or_assoc]

theorem foldl_execute_behind (tokens : List Token) :
    tokens.foldl execute (e.behind replies unknown overflowed) =
      (tokens.foldl execute e).behind replies unknown overflowed := by
  induction tokens generalizing e with
  | nil => rfl
  | cons token rest ih =>
    rw [List.foldl_cons, List.foldl_cons, execute_behind]
    exact ih (e.execute token)

/-- The past does not matter to what is read. -/
theorem feed_behind (bytes : List UInt8) :
    (e.behind replies unknown overflowed).feed bytes =
      (e.feed bytes).behind replies unknown overflowed := by
  induction bytes generalizing e with
  | nil => rfl
  | cons b rest ih =>
    have read : (e.behind replies unknown overflowed).feedByte b =
        (e.feedByte b).behind replies unknown overflowed :=
      foldl_execute_behind { e with scanner := (e.scanner.step b).1 } replies unknown overflowed
        (e.scanner.step b).2
    rw [feed_cons, feed_cons, read, ih]

theorem feed_eq_behind (bytes : List UInt8) :
    e.feed bytes = (e.quiet.feed bytes).behind e.replies e.unknown false := by
  rw [← feed_behind]
  simp [behind, quiet]

theorem quiet_feed_quiet (bytes : List UInt8) :
    (e.quiet.feed bytes).quiet = (e.feed bytes).quiet := by
  rw [e.feed_eq_behind]
  simp [behind, quiet]

/-- Replies are sent in the order in which they came up. -/
theorem pendingBytes_feed (bytes : List UInt8) :
    (e.feed bytes).pendingBytes = e.pendingBytes ++ (e.quiet.feed bytes).pendingBytes := by
  rw [e.feed_eq_behind]
  simp [behind, pendingBytes]

end Emulator

/-- A viewport that is told two offsets needs the second one only, if the window stays at the live
end. -/
theorem Viewport.sync_sync (v : Viewport) {first second : Nat} (stays : first = 0 → second = 0) :
    (v.sync first).sync second = v.sync second := by
  unfold sync
  cases following : v.following with
  | true => simp [following]
  | false =>
    by_cases at_end : first = 0
    · simp [at_end, stays at_end]
    · simp [at_end]

theorem ProcessCall.exists_sending (bytes : List UInt8) :
    ∃ writes : List (List UInt8), sending bytes = writes.map .write ∧ writes.flatten = bytes := by
  unfold sending
  split
  next none => exact ⟨[], rfl, (List.isEmpty_iff.mp none).symm⟩
  · exact ⟨[bytes], rfl, List.append_nil bytes⟩

/-! ### Sessions -/

namespace Session

variable {s : Session Emulator} {e : Emulator}

/-- A session that takes over one emulator after another has the last one. -/
theorem absorb_absorb (s : Session Emulator) {first second : Emulator}
    (stays : first.terminal.AtEnd → second.terminal.AtEnd) (calls later : List ProcessCall) :
    (s.absorb first calls).absorb second later = s.absorb second (calls ++ later) := by
  unfold absorb
  rw [Process.record_append, ← s.viewport.sync_sync stays]
  rfl

/-- Replies and notices that wait in an emulator do not show in the session. -/
theorem absorb_congr {e e' : Emulator} (same : e.quiet = e'.quiet) (calls : List ProcessCall) :
    s.absorb e calls = s.absorb e' calls := by
  have terminal_eq : e.terminal = e'.terminal := by
    simpa [Emulator.quiet] using congrArg Emulator.terminal same
  rw [absorb, absorb, same, terminal_eq]

/-- Pieces of output, received one after the other. The emulator has read all of it as if it had
come at once, and the replies that were sent in several writes are those to the whole. -/
theorem silent_run_receive (running : s.phase = .running e) (chunk : List UInt8)
    (rest : List (List UInt8)) :
    let output := e.feed (chunk :: rest).flatten
    ∃ writes : List (List UInt8), writes.flatten = output.pendingBytes ∧
      (s.run ((chunk :: rest).map .receive)).silent = s.absorb output (writes.map .write) := by
  induction rest generalizing s e chunk with
  | nil =>
    obtain ⟨writes, sending_eq, writes_eq⟩ :=
      ProcessCall.exists_sending (e.feed chunk).pendingBytes
    rw [List.flatten_singleton]
    exact ⟨writes, writes_eq, sending_eq ▸ silent_receive running chunk⟩
  | cons next rest ih =>
    obtain ⟨first, sending_eq, first_eq⟩ :=
      ProcessCall.exists_sending (e.feed chunk).pendingBytes
    have received : (s.receive chunk).silent = s.absorb (e.feed chunk) (first.map .write) :=
      sending_eq ▸ silent_receive running chunk
    have running' : (s.receive chunk).phase = .running (e.feed chunk).quiet :=
      congrArg Session.phase received
    obtain ⟨later, later_eq, equation⟩ := ih running' next
    have all_eq : e.feed (chunk :: next :: rest).flatten =
        (e.feed chunk).feed (next :: rest).flatten := by
      rw [List.flatten_cons, Emulator.feed_append]
    rw [all_eq]
    refine ⟨first ++ later, ?_, ?_⟩
    · rw [Emulator.pendingBytes_feed, List.flatten_append, first_eq, later_eq]
    · calc (s.run ((chunk :: next :: rest).map .receive)).silent
          = (s.receive chunk).silent.absorb ((e.feed chunk).quiet.feed (next :: rest).flatten)
              (later.map .write) := equation
        _ = (s.absorb (e.feed chunk) (first.map .write)).absorb
              ((e.feed chunk).feed (next :: rest).flatten) (later.map .write) := by
            rw [received, absorb_congr (Emulator.quiet_feed_quiet _ _)]
        _ = s.absorb ((e.feed chunk).feed (next :: rest).flatten)
              ((first ++ later).map .write) := by
            rw [List.map_append]
            exact s.absorb_absorb (fun at_end => at_end.feed _) _ _

/-- A session that does not run reads no pieces either. -/
theorem run_receive_of_not_running (idle : s.isRunning = false) (chunks : List (List UInt8)) :
    s.run (chunks.map .receive) = s := by
  induction chunks with
  | nil => rfl
  | cons chunk rest ih =>
    rw [List.map_cons, run_cons]
    change (s.receive chunk).run _ = s
    rw [receive_of_not_running idle, ih]

/-- It makes no difference how the output of the process is cut into pieces: the session is the same
but for the journal, and the same bytes go to the process, be it in other pieces. A session that
does not run reads nothing either way. -/
theorem receive_cut (s : Session Emulator) (chunk : List UInt8) (rest : List (List UInt8)) :
    let split := s.run ((chunk :: rest).map .receive)
    let whole := s.receive (chunk :: rest).flatten
    split.silent = { whole.silent with process := split.process } ∧
      ∃ writes : List (List UInt8), split.process = s.process.record (writes.map .write) ∧
        whole.process = s.process.record (ProcessCall.sending writes.flatten) := by
  intro split whole
  cases is_running : s.isRunning with
  | true =>
    obtain ⟨e, running⟩ := exists_of_isRunning is_running
    obtain ⟨writes, writes_eq, split_eq⟩ := silent_run_receive running chunk rest
    have whole_eq := silent_receive running (chunk :: rest).flatten
    have split_process : split.process = s.process.record (writes.map .write) :=
      congrArg Session.process split_eq
    refine ⟨?_, writes, split_process, ?_⟩
    · rw [whole_eq, split_process]
      exact split_eq
    · rw [writes_eq]
      exact congrArg Session.process whole_eq
  | false =>
    have split_eq : split = s := run_receive_of_not_running is_running _
    have whole_eq : whole = s := receive_of_not_running is_running _
    rw [whole_eq, split_eq]
    refine ⟨rfl, [], ?_, ?_⟩
    · rw [List.map_nil, Process.record_nil]
    · exact s.process.record_nil.symm

end Session

end TerminalSession
