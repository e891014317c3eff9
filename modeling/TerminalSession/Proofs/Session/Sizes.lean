import TerminalSession.Proofs.Emulator.Columns
import TerminalSession.Proofs.Session.Protocol

/-!
# The size of a session

The session, its engine and its process each keep a size, and a frame is drawn in the one of the
session. They are the same at any time, and no frame shows anything outside of it.

## Main definitions

* `Engine.lastSize`: the size that an engine was given last
* `Session.Agree`: a session, its engine and its process agree on the size

## Main statements

* `Emulator.size_of_becomes`: the size of an emulator is the one that it was given last
* `Session.agree_run`: the parties agree after every run
* `Session.sizes_agree`: what this means for the parties and for frames

## Design notes

* The process has no size of its own here: it was told one when it was started, and possibly others
  later, so its size is the last one in `Session.log`.
* Sizes reach the engine and the process in the same order, by `GoesOn.sizes_eq`. What is left to
  show is about the engine alone.
-/

namespace TerminalSession

/-! ### Engines -/

namespace Engine

/-- The size that was given last, or `size` if none was. -/
def lastSize (inputs : List Input) (size : Dimensions) : Dimensions :=
  (inputs.filterMap Input.size?).getLast?.getD size

theorem lastSize_read (inputs : List Input) (bytes : List UInt8) (size : Dimensions) :
    lastSize (inputs ++ [.read bytes]) size = lastSize inputs size := by
  simp [lastSize, Input.size?]

theorem lastSize_resize (inputs : List Input) (last size : Dimensions) :
    lastSize (inputs ++ [.resize last]) size = last := by
  simp [lastSize, Input.size?]

/-- No engine is given a size below the least one. What it is given is clamped before, so the last
size is no smaller if the first one was not. -/
theorem Becomes.least_le_lastSize {ε : Type} [Engine ε] {e e' : ε} {inputs : List Input}
    (becomes : Becomes e inputs e') {size : Dimensions} (cols_le : Dimensions.least ≤ size.cols)
    (rows_le : Dimensions.least ≤ size.rows) :
    Dimensions.least ≤ (lastSize inputs size).cols ∧
      Dimensions.least ≤ (lastSize inputs size).rows := by
  induction becomes with
  | refl => exact ⟨cols_le, rows_le⟩
  | read _ _ ih => rwa [lastSize_read]
  | readFailed _ _ ih => rwa [lastSize_read]
  | resize _ last_cols last_rows ih =>
    rw [lastSize_resize]
    exact ⟨last_cols, last_rows⟩
  | scroll _ _ ih => exact ih
  | takeNotices _ ih => exact ih

end Engine

namespace Emulator

variable {e e' : Emulator} {inputs : List Engine.Input}

/-- The size of an emulator is the one that it was given last. Output, movements of the window and
taking notices do not change it. -/
theorem size_of_becomes (becomes : Engine.Becomes e inputs e') {size : Dimensions}
    (size_eq : e.terminal.size = (size.cols, size.rows)) :
    e'.terminal.size =
      ((Engine.lastSize inputs size).cols, (Engine.lastSize inputs size).rows) := by
  induction becomes with
  | refl => exact size_eq
  | @read _ before _ bytes _ eq ih =>
    obtain rfl : before.feed bytes = _ := congrArg Prod.fst eq
    rw [Engine.lastSize_read, ← ih]
    exact before.size_act (.output bytes)
  | readFailed _ eq _ => exact nomatch congrArg Prod.snd eq
  | @resize _ before _ last _ _ _ =>
    rw [Engine.lastSize_resize]
    exact before.terminal.size_resize last.cols last.rows
  | @scroll _ before _ delta ih => exact (before.terminal.size_scrollWindow delta).trans ih
  | takeNotices _ ih => exact ih

/-- An emulator in a session stays sound. Of what a session does to it, only output and a new size
touch its cells. -/
theorem Sound.of_becomes {limit : Nat} (sound : e.Sound limit)
    (becomes : Engine.Becomes e inputs e') : e'.Sound limit := by
  induction becomes with
  | refl => exact sound
  | @read _ before _ bytes _ eq ih =>
    obtain rfl : before.feed bytes = _ := congrArg Prod.fst eq
    have outer : (Action.output bytes).isOuter = true := rfl
    have fed := (ih.act outer).1
    exact ⟨fed.terminal, fed.scanner⟩
  | readFailed _ eq _ => exact nomatch congrArg Prod.snd eq
  | @resize _ before _ last cols_le rows_le ih =>
    exact ⟨ih.terminal.resize cols_le (Nat.lt_of_lt_of_le Nat.two_pos rows_le), ih.scanner⟩
  | scroll _ delta ih => exact ⟨ih.terminal.scrollWindow delta, ih.scanner⟩
  | takeNotices _ ih => exact ⟨ih.terminal, ih.scanner⟩

end Emulator

/-- A cursor that is seen is seen inside the window. A pending wrap counts as the last column, and
the row is counted from the top of the window. -/
theorem Terminal.cursorReport_inside {t : Terminal} (cols_pos : 0 < t.cols)
    (valid : t.cursorReport.valid = true) :
    (1 ≤ t.cursorReport.col ∧ t.cursorReport.col ≤ t.cols) ∧
      1 ≤ t.cursorReport.row ∧ t.cursorReport.row ≤ t.rows := by
  unfold cursorReport at valid ⊢
  dsimp only at valid ⊢
  split at valid
  next seen =>
    rw [if_pos seen]
    have row_lt : t.cursor.row + t.screen.offset < t.rows :=
      of_decide_eq_true (Bool.and_eq_true_iff.mp seen).2
    dsimp only [lastCol]
    omega
  · exact nomatch valid

/-! ### Sessions -/

namespace Session

variable {s : Session Emulator} {e : Emulator} {limit : Nat}

/-- A frame with a grid comes from a session that runs. Its text and its cursor are those of the
engine, its size is that of the session. -/
theorem exists_of_drawn {time : Nat} {snapshot : Snapshot}
    (drawn : (s.tick time).2 = some (.screen snapshot)) :
    ∃ e, s.phase = .running e ∧ snapshot =
      { text := e.terminal.dump
        cursor := if e.terminal.cursorReport.valid && s.viewport.following
          then some e.terminal.cursorReport else none
        size := s.size } := by
  have picture_eq : s.picture? = some (.screen snapshot) :=
    (Option.ite_none_right_eq_some.mp drawn).2
  cases phase_eq : s.phase with
  | running e =>
    rw [picture?_of_running phase_eq] at picture_eq
    exact ⟨e, rfl, (Picture.screen.inj (Option.some.inj picture_eq)).symm⟩
  | ended message =>
    rw [picture?, phase_eq] at picture_eq
    exact nomatch Option.some.inj picture_eq
  | stopped =>
    rw [picture?, phase_eq] at picture_eq
    exact nomatch picture_eq

/-- A session, its engine and its process agree on the size: the engine has the one of the session,
the process was told it last, and both sides are large enough. -/
structure Agree (limit : Nat) (s : Session Emulator) (e : Emulator) : Prop where
  sound : e.Sound limit
  size_eq : e.terminal.size = (s.size.cols, s.size.rows)
  told : (s.log.filterMap ProcessCall.size?).getLast? = some s.size
  cols_le : Dimensions.least ≤ s.size.cols
  rows_le : Dimensions.least ≤ s.size.rows

/-- The parties agree as long as the session runs. What the engine was given, what the process was
told and what the session has are the last size of the same list. -/
theorem Agree.goesOn {s' : Session Emulator} {e' : Emulator} {inputs : List Engine.Input}
    {calls : List ProcessCall} (agree : s.Agree limit e) (running : s.phase = .running e)
    (running' : s'.phase = .running e') (on : s.GoesOn inputs calls s') : s'.Agree limit e' := by
  obtain ⟨e₁, running₁, becomes⟩ := on.exists_becomes running
  obtain rfl := Phase.running.inj (running'.symm.trans running₁)
  have size_eq : s'.size = Engine.lastSize inputs s.size := by
    rw [on.size_eq, on.sizes_eq]
    rfl
  obtain ⟨cols_le, rows_le⟩ := becomes.least_le_lastSize agree.cols_le agree.rows_le
  exact
    { sound := agree.sound.of_becomes becomes
      size_eq := by
        rw [size_eq]
        exact Emulator.size_of_becomes becomes agree.size_eq
      told := by
        rw [on.log_eq, List.filterMap_append, List.getLast?_append, agree.told, on.size_eq]
        cases (calls.filterMap ProcessCall.size?).getLast? <;> rfl
      cols_le := size_eq ▸ cols_le
      rows_le := size_eq ▸ rows_le }

/-- The parties agree from the start. The process is spawned with the size that the engine is
created with, and the session has taken the same. -/
theorem agree_of_start {options : SessionOptions} {size : Dimensions}
    {refusal : Option ProcessFault}
    (started : Session.start options size (some (Emulator.provider limit)) refusal = .ok s) :
    ∃ e, s.phase = .running e ∧ s.Agree limit e := by
  obtain ⟨p, e, provider_eq, created, rfl⟩ := exists_of_start started
  obtain rfl := Option.some.inj provider_eq
  obtain rfl := Emulator.eq_fresh_of_created created
  have cols_le := Dimensions.least_le_clampSide size.cols
  have rows_le := Dimensions.least_le_clampSide size.rows
  refine ⟨_, rfl, ?_⟩
  exact
    { sound := Emulator.Sound.fresh limit cols_le (Nat.lt_of_lt_of_le Nat.two_pos rows_le)
      size_eq := rfl
      told := rfl
      cols_le
      rows_le }

/-- They still do after every run. -/
theorem agree_run {options : SessionOptions} {size : Dimensions} {refusal : Option ProcessFault}
    (started : Session.start options size (some (Emulator.provider limit)) refusal = .ok s)
    {actions : List Action} (running : (s.run actions).phase = .running e) :
    (s.run actions).Agree limit e := by
  obtain ⟨e₀, running₀, agree⟩ := agree_of_start started
  obtain ⟨mailbox, inputs, calls, on⟩ | isOver := exists_goesOn_run running₀ actions
  · have agree' : ({ s with mailbox } : Session Emulator).Agree limit e₀ := { agree with }
    exact agree'.goesOn running₀ running on
  · exact absurd ((isRunning_eq_true running).symm.trans isOver.idle) (by decide)

/-- All parties agree on the size after every run.

The engine has the size of the session, and so have both of its screens. The process was told this
size last, when it was started or later. No side is less than two, whatever sizes were asked for. A
frame has this size too: it has a line for each row, and the cursor is inside of it, if it is
shown. -/
theorem sizes_agree {options : SessionOptions} {size : Dimensions} {refusal : Option ProcessFault}
    (started : Session.start options size (some (Emulator.provider limit)) refusal = .ok s)
    (actions : List Action) :
    let now := s.run actions
    (∀ e, now.phase = .running e →
      e.terminal.size = (now.size.cols, now.size.rows) ∧
      e.terminal.primary.Fits now.size.cols now.size.rows limit ∧
      e.terminal.alternate.Fits now.size.cols now.size.rows 0 ∧
      (now.log.filterMap ProcessCall.size?).getLast? = some now.size ∧
      2 ≤ now.size.cols ∧ 2 ≤ now.size.rows) ∧
    ∀ time snapshot, (now.tick time).2 = some (.screen snapshot) →
      snapshot.size = now.size ∧
      (Text.lines snapshot.text).length = now.size.rows ∧
      ∀ report, snapshot.cursor = some report →
        (1 ≤ report.col ∧ report.col ≤ now.size.cols) ∧
        1 ≤ report.row ∧ report.row ≤ now.size.rows := by
  intro now
  refine ⟨fun e running => ?_, fun time snapshot drawn => ?_⟩
  · have agree := agree_run started running
    obtain ⟨cols_eq, rows_eq⟩ := Prod.mk.inj agree.size_eq
    have primary := agree.sound.terminal.wellFormed.primary
    have alternate := agree.sound.terminal.wellFormed.alternate
    rw [cols_eq, rows_eq] at primary alternate
    exact ⟨agree.size_eq, primary, alternate, agree.told, agree.cols_le, agree.rows_le⟩
  · obtain ⟨e, running, rfl⟩ := exists_of_drawn drawn
    have agree := agree_run started running
    obtain ⟨cols_eq, rows_eq⟩ := Prod.mk.inj agree.size_eq
    refine ⟨rfl, ?_, fun report shown => ?_⟩
    · rw [agree.sound.terminal.lines_dump, List.length_map, List.length_range, rows_eq]
    · obtain ⟨seen, report_eq⟩ := Option.ite_none_right_eq_some.mp shown
      obtain rfl := Option.some.inj report_eq
      rw [← cols_eq, ← rows_eq]
      exact Terminal.cursorReport_inside agree.sound.terminal.wellFormed.cols_pos
        (Bool.and_eq_true_iff.mp seen).1

/-- Sizes that are too small, another screen, and a cursor past the last column. Each size is
brought up to the least one, and the cursor is told in the last column. -/
theorem sizes_agree_squeezed :
    let actions := [Action.offer (.data "ab\r\ncdefg\x1b[?1049h".toUTF8.toList), .pump,
      .resize { cols := 6, rows := 1 }, .receive "\x1b[?1049l".toUTF8.toList,
      .resize { cols := 3, rows := 0 }, .receive "xyzuv".toUTF8.toList]
    let snapshot : Snapshot :=
      { text := "cxy\nzuv".toList
        cursor := some { col := 3, row := 2, valid := true }
        size := { cols := 3, rows := 2 } }
    ∃ s : Session Emulator,
      Session.start {} { cols := 0, rows := 4 } (some (Emulator.provider 5)) none = .ok s ∧
        ((s.run actions).tick 0).2 = some (.screen snapshot) ∧
        (s.run actions).size = { cols := 3, rows := 2 } ∧
        (Text.lines snapshot.text).length = 2 := by
  intro actions snapshot
  obtain ⟨s, started, drawn⟩ : ∃ s : Session Emulator,
      Session.start {} { cols := 0, rows := 4 } (some (Emulator.provider 5)) none = .ok s ∧
        ((s.run actions).tick 0).2 = some (.screen snapshot) := ⟨_, rfl, by decide +kernel⟩
  obtain ⟨-, frames⟩ := sizes_agree started actions
  obtain ⟨size_eq, count, -⟩ := frames 0 snapshot drawn
  exact ⟨s, started, drawn, size_eq.symm, count.trans (by rw [← size_eq])⟩

end Session

end TerminalSession
