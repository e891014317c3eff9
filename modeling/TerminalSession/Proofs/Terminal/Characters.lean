import TerminalSession.Proofs.Terminal.Everywhere
import TerminalSession.Terminal.Window

/-!
# The characters in the window

A character comes into a cell by being printed, on its own or as a mark on the one before it. So the
window shows nothing but spaces and what was printed.

## Main definitions

* `Cell.Shows`: all characters of a cell have a property

## Main statements

* `Terminal.Each.perform_shows`, `Terminal.Each.performAll_shows`: what all characters have, they keep
  when what is printed has it
* `Terminal.eq_space_or_print_of_mem`: the window of a terminal that began empty

## Design notes

* The property is left open, so that a set of characters is followed through wraps, edits and the
  history without a word about which characters they are.
-/

namespace TerminalSession

/-! ### Cells -/

/-- All characters of a cell have a property. -/
def Cell.Shows (A : Char → Prop) (cell : Cell) : Prop := ∀ c ∈ cell.glyph, A c

namespace Cell

variable {A : Char → Prop}

/-- A space has it, so the cells have it that terminal functions leave behind. -/
theorem common_shows (space : A ' ') : Common (Shows A) where
  erased _ _ mem := absurd mem List.not_mem_nil
  space _ c mem := by
    obtain rfl : c = ' ' := List.mem_singleton.mp mem
    exact space
  rightHalf _ _ mem := absurd mem List.not_mem_nil

theorem Shows.combine {cell : Cell} (shows : cell.Shows A) {mark : Char} (holds : A mark) :
    ({ cell with glyph := cell.glyph ++ [mark] } : Cell).Shows A := by
  intro c mem
  obtain mem | mem := List.mem_append.mp mem
  · exact shows c mem
  · obtain rfl : c = mark := List.mem_singleton.mp mem
    exact holds

theorem shows_single {c : Char} (holds : A c) (width : Nat) (style : Style) :
    ({ glyph := [c], width, style } : Cell).Shows A := by
  intro other mem
  obtain rfl : other = c := List.mem_singleton.mp mem
  exact holds

end Cell

namespace Terminal

variable {A : Char → Prop} {t : Terminal}

/-! ### Operations -/

/-- What all characters have, they keep when what is printed has it. -/
theorem Each.perform_shows (each : t.Each (Row.All (Cell.Shows A))) (space : A ' ')
    {op : Operation} (printed : ∀ c : Char, op = .print c → A c) :
    (op.perform t).Each (Row.All (Cell.Shows A)) :=
  each.perform_cells (Cell.common_shows space)
    (fun c print _ _ _ _ _ _ shows => shows.combine (printed c print))
    (fun c print _ style => Cell.shows_single (printed c print) _ style)

theorem Each.performAll_shows (each : t.Each (Row.All (Cell.Shows A))) (space : A ' ')
    {operations : List Operation} (printed : ∀ c : Char, .print c ∈ operations → A c) :
    (Operation.performAll t operations).Each (Row.All (Cell.Shows A)) :=
  List.foldlRecOn operations (fun t op => op.perform t) each fun _ each _ mem =>
    each.perform_shows space fun c print => printed c (print ▸ mem)

/-! ### The window -/

theorem Each.of_mem_windowRow (each : t.Each (Row.All (Cell.Shows A))) (space : A ' ') {place : Nat}
    {c : Char} (mem : c ∈ t.windowRow place) : A c := by
  unfold windowRow at mem
  split at mem
  next row shown =>
    obtain rfl | ⟨cell, cell_mem, mem⟩ := Row.mem_render mem
    · exact space
    · exact each.screen.rowAt? shown cell cell_mem c mem
  · obtain rfl : c = ' ' := List.eq_of_mem_replicate mem
    exact space

/-- The window of a terminal that began empty shows spaces and what was printed. -/
theorem eq_space_or_print_of_mem {cols rows limit place : Nat} {operations : List Operation}
    {c : Char}
    (mem : c ∈ (Operation.performAll (Terminal.fresh cols rows limit) operations).windowRow place) :
    c = ' ' ∨ .print c ∈ operations := by
  let A : Char → Prop := fun c => c = ' ' ∨ .print c ∈ operations
  have space : A ' ' := .inl rfl
  have blank : (Terminal.fresh cols rows limit).Each (Row.All (Cell.Shows A)) :=
    Each.fresh ((Row.All.lasts (Cell.common_shows space)).blank cols) rows limit
  exact (blank.performAll_shows space fun _ => .inr).of_mem_windowRow space mem

end Terminal

end TerminalSession
