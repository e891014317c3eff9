import TerminalSession.Proofs.Emulator.Operations
import TerminalSession.Proofs.Terminal.Columns

/-!
# What an emulator shows

The text of the window is made of lines, one for each row. How many columns they take follows from
the rows alone, and they take those of the emulator as long as no wide character was cut in half and
no mark was put on an empty cell.

## Main definitions

* `Emulator.Action.isOuter`: the actions that a user of an emulator has, with sizes of two columns
  and more
* `Emulator.Sound`: the invariant of emulators acted on in this way
* `Emulator.spares`, `Emulator.sparesAll`: whether an action, or a run, spares characters

## Main statements

* `Emulator.Sound.run`: cells stay sound in every run, and rows full in one that spares characters
* `Emulator.dump_run`: the lines of the window after a run
* `Emulator.dump_run_overwritten`: a run after which a line is too wide

## Design notes

* An emulator of a single column is left out: a wide character is squeezed into this column, and the
  line that shows it takes two.
-/

namespace TerminalSession.Emulator

/-- Whether an action is output, a movement of the window, or a size of two columns and more. -/
def Action.isOuter : Action → Bool
  | .output _ => true
  | .resize cols _ _ _ => 2 ≤ cols
  | .scroll _ => true
  | .operate _ => false

/-- The columns and rows after an action. No output and no operation changes them. -/
def Action.sizeAfter (size : Nat × Nat) : Action → Nat × Nat
  | .resize cols rows _ _ => (cols, rows)
  | _ => size

/-- Whether no output of an action cuts a wide character in half or puts a mark on an empty cell. -/
def spares (e : Emulator) : Action → Bool
  | .output bytes => e.terminal.sparesAll (e.operations bytes)
  | _ => true

/-- Whether the actions of a list all spare characters, each at its time. -/
def sparesAll (e : Emulator) : List Action → Bool
  | [] => true
  | action :: rest => e.spares action && (e.act action).sparesAll rest

-- Taking out the right half of a wide character does not spare it, and a mark on an empty cell leaves
-- that cell bare.
example : (fresh 4 1 0).sparesAll
    [.output (Text.Utf8.encode "\u65E5\x1b[2G\x1b[P".toList)] = false := by decide +kernel

example : (fresh 4 1 0).sparesAll
    [.output (Text.Utf8.encode "\x1b[C\u0301".toList)] = false := by decide +kernel

/-- The size is the one that was asked for last. -/
theorem size_act (e : Emulator) (action : Action) :
    (e.act action).terminal.size = action.sizeAfter e.terminal.size := by
  cases action with
  | output bytes =>
    dsimp only [act, Action.sizeAfter]
    rw [terminal_feed, Terminal.size_performAll]
  | resize cols rows _ _ => exact e.terminal.size_resize cols rows
  | scroll delta => exact e.terminal.size_scrollWindow delta
  | operate op => exact e.terminal.size_perform op

theorem size_run (e : Emulator) (actions : List Action) :
    (e.run actions).terminal.size = actions.foldl Action.sizeAfter e.terminal.size := by
  induction actions generalizing e with
  | nil => rfl
  | cons action rest ih => rw [run_cons, ih, size_act, List.foldl_cons]

/-- The invariant of an emulator of two columns and more: that of its terminal, together with the
room of its scanner. -/
structure Sound (limit : Nat) (e : Emulator) : Prop where
  terminal : e.terminal.Sound limit
  scanner : e.scanner.HasRoom

namespace Sound

variable {limit : Nat} {e : Emulator}

theorem fresh {cols rows : Nat} (limit : Nat) (two_le : 2 ≤ cols) (rows_pos : 0 < rows) :
    (Emulator.fresh cols rows limit).Sound limit where
  terminal := Terminal.Sound.fresh limit two_le rows_pos
  scanner := Scanner.hasRoom_ground

/-- An emulator that is sound is well-formed, so what it reads stays in its buffer. -/
theorem hasRoom_act (sound : e.Sound limit) (action : Action) : (e.act action).scanner.HasRoom :=
  (WellFormed.act ⟨sound.terminal.wellFormed, sound.scanner⟩ action).scanner

/-- No output prints a line feed. -/
theorem one_line (sound : e.Sound limit) (bytes : List UInt8) :
    Operation.print '\n' ∉ e.operations bytes :=
  fun mem => absurd (graphic_of_print sound.scanner mem).1 (by decide)

/-- An action keeps cells sound, and rows full that it spares. Output is the operations it asks for,
one after the other; a change of the size lays the rows out anew, so that nothing has to be spared
there. -/
theorem act (sound : e.Sound limit) {action : Action} (outer : action.isOuter = true) :
    (e.act action).Sound limit ∧
      (e.terminal.Each Row.Full → e.spares action = true →
        (e.act action).terminal.Each Row.Full) := by
  have room := sound.hasRoom_act action
  cases action with
  | output bytes =>
    have performed := sound.terminal.performAll (sound.one_line bytes)
    rw [← terminal_feed] at performed
    exact ⟨⟨performed.1, room⟩, performed.2⟩
  | resize cols rows cols_pos rows_pos =>
    have two_le : 2 ≤ cols := of_decide_eq_true outer
    exact ⟨⟨sound.terminal.resize two_le rows_pos, room⟩,
      fun full _ => sound.terminal.full_resize full two_le rows⟩
  | scroll delta =>
    exact ⟨⟨sound.terminal.scrollWindow delta, room⟩, fun full _ => full.scrollWindow delta⟩
  | operate op => exact absurd outer Bool.false_ne_true

/-- So does a run. -/
theorem run (sound : e.Sound limit) {actions : List Action}
    (outer : ∀ action ∈ actions, action.isOuter = true) :
    (e.run actions).Sound limit ∧
      (e.terminal.Each Row.Full → e.sparesAll actions = true →
        (e.run actions).terminal.Each Row.Full) := by
  induction actions generalizing e with
  | nil => exact ⟨sound, fun full _ => full⟩
  | cons action rest ih =>
    have acted := sound.act (outer action List.mem_cons_self)
    have after := ih acted.1 fun other mem => outer other (List.mem_cons_of_mem _ mem)
    refine ⟨after.1, fun full spares => ?_⟩
    obtain ⟨spares, rest_spares⟩ := Bool.and_eq_true_iff.mp spares
    exact after.2 (acted.2 full spares) rest_spares

end Sound

/-- After a run of an emulator of two columns and more, the window has a line for each row. A line
takes the columns of the emulator, one more for each wide character without a right half, and one
less for each cell that shows nothing in its column. In a run that spares characters, every line
takes exactly the columns of the emulator. -/
theorem dump_run {cols rows : Nat} (two_le : 2 ≤ cols) (rows_pos : 0 < rows) (limit : Nat)
    {actions : List Action} (outer : ∀ action ∈ actions, action.isOuter = true) :
    let e := (fresh cols rows limit).run actions
    let lines := Text.lines e.terminal.dump
    e.terminal.size = actions.foldl Action.sizeAfter (cols, rows) ∧
      lines.length = e.terminal.rows ∧
      (∀ (place : Nat) (line : Text), lines[place]? = some line → ∃ row : Row,
        e.terminal.screen.rowAt? place = some row ∧
          Text.columns line + row.bare = e.terminal.cols + (row.wide - row.halves)) ∧
      ((fresh cols rows limit).sparesAll actions = true →
        ∀ line ∈ lines, Text.columns line = e.terminal.cols) := by
  intro e lines
  have ran := (Sound.fresh limit two_le rows_pos).run outer
  have sound : e.terminal.Sound limit := ran.1.terminal
  have lines_eq : lines = (List.range e.terminal.rows).map e.terminal.windowRow := sound.lines_dump
  refine ⟨size_run _ actions, ?_, ?_, ?_⟩
  · rw [lines_eq, List.length_map, List.length_range]
  · intro place line found
    rw [lines_eq, List.getElem?_map] at found
    obtain ⟨place', place_eq, rfl⟩ := Option.map_eq_some_iff.mp found
    obtain ⟨lt, rfl⟩ := List.getElem?_eq_some_iff.mp place_eq
    rw [List.length_range] at lt
    rw [List.getElem_range]
    exact sound.columns_windowRow lt
  · intro spares line mem
    rw [lines_eq] at mem
    obtain ⟨place, place_mem, rfl⟩ := List.mem_map.mp mem
    have blank : (fresh cols rows limit).terminal.Each Row.Full :=
      Terminal.Each.fresh (Row.Full.blank cols) rows limit
    exact sound.columns_windowRow_of_full (ran.2 blank spares) (List.mem_range.mp place_mem)

/-- A run with wide characters at the margin and a mark, another size, and back over the history. -/
theorem dump_run_spared :
    let actions := [Action.output (Text.Utf8.encode "ab\u65E5\u672Cc\u0301\r\nx\u65E5\ry".toList),
      .resize 3 2 (by decide) (by decide), .scroll (-1)]
    let e := (fresh 4 2 5).run actions
    let lines := Text.lines e.terminal.dump
    (fresh 4 2 5).sparesAll actions = true ∧ lines.length = 2 ∧
      ∀ line ∈ lines, Text.columns line = 3 := by
  intro actions e lines
  have outer : ∀ action ∈ actions, action.isOuter = true := by simp [actions, Action.isOuter]
  obtain ⟨size, count, -, widths⟩ := dump_run (by decide : 2 ≤ 4) Nat.two_pos 5 outer
  obtain ⟨cols_eq, rows_eq⟩ : e.terminal.cols = 3 ∧ e.terminal.rows = 2 := Prod.mk.inj size
  have spares : (fresh 4 2 5).sparesAll actions = true := by decide +kernel
  exact ⟨spares, count.trans rows_eq, fun line mem => (widths spares line mem).trans cols_eq⟩

/-- A wide character that covers the left half of another one leaves its right half behind. The next
character then takes this right half for the one of the new character. -/
theorem dump_run_overwritten :
    ¬ ∀ (cols rows limit : Nat) (actions : List Action), 2 ≤ cols → 0 < rows →
      (∀ action ∈ actions, action.isOuter = true) →
        let e := (fresh cols rows limit).run actions
        ∀ line ∈ Text.lines e.terminal.dump, Text.columns line = e.terminal.cols := by
  intro all
  have exact_width := all 4 1 0 [.output (Text.Utf8.encode "a\u65E5\r\u672Cx".toList)] (by decide)
    Nat.one_pos (by simp [Action.isOuter]) "\u672C x ".toList (by decide +kernel)
  exact absurd exact_width (by decide +kernel)

end TerminalSession.Emulator
