import TerminalSession.Proofs.Control.Rendition
import TerminalSession.Proofs.Emulator.Parameters

/-!
# Selecting a style

A program selects a style by control sequences. It may write several selections into one sequence or a
sequence for each of them, and it makes no difference.

## Main definitions

* `ControlSequence.selecting`: the sequence with the parameters of some selections

## Main statements

* `Emulator.feed_selecting`: the style after such a sequence, and that nothing else changes

## Design notes

* A sequence that comes in the middle of a character cuts it off. What is left of the character is shown
  before anything is selected, with the old style.
-/

namespace TerminalSession

open ControlSequence (Field counted fieldBytes spelling)
open Rendition (Item)
open Scanner (charOfByte isFinal maxParam maxParams ofCut)

/-- The control sequence that makes some selections, with their parameters in decimal. -/
def ControlSequence.selecting (items : List Item) : List UInt8 :=
  spelling (fieldBytes ((items.flatMap Item.params).map (Field.number 0))) 0x6D

namespace Rendition.Item

/-- There is room for a selection. -/
theorem few_params (item : Item) : ([item].flatMap params).length ≤ maxParams := by
  rw [List.flatMap_singleton]
  exact Nat.le_trans item.length_params_le (by decide)

/-- Parameters for which there is room are read as they are: none of them is empty, so that all of
them count, and none is too large. -/
theorem read_params {items : List Item} (few : (items.flatMap params).length ≤ maxParams) :
    (((counted ((items.flatMap params).map (Field.number 0))).map Field.value).take maxParams).map
      (fun value => min value maxParam) = items.flatMap params := by
  have all_count : counted ((items.flatMap params).map (Field.number 0)) =
      (items.flatMap params).map (Field.number 0) := by
    have no_empty : ((items.flatMap params).map (Field.number 0)).getLast? ≠ some .empty := by
      intro last
      obtain ⟨param, -, eq⟩ := List.mem_map.mp (List.mem_of_getLast? last)
      exact nomatch eq
    rw [counted, if_neg no_empty]
  have values : ((items.flatMap params).map (Field.number 0)).map Field.value =
      items.flatMap params := by
    rw [List.map_map]
    exact List.map_id _
  rw [all_count, values, List.take_of_length_le few]
  refine (List.map_congr_left fun param mem => ?_).trans (List.map_id _)
  obtain ⟨item, -, mem⟩ := List.mem_flatMap.mp mem
  exact Nat.min_eq_left (Nat.le_of_lt_succ (lt_of_mem_params mem))

end Rendition.Item

namespace Emulator

open ControlSequence (selecting)

variable {e : Emulator}

/-- The emulator with another style. -/
def withStyle (e : Emulator) (style : Style) : Emulator :=
  { e with terminal := { e.terminal with style } }

/-- Some selections in one sequence, at any place in text. What was cut off is replaced first; the
sequence changes the style and nothing else, as the selections do one after the other. -/
theorem feed_selecting_eq {part : Text.Utf8.Partial} (between : e.scanner = .text part)
    {items : List Item} (some_item : items ≠ [])
    (few : (items.flatMap Item.params).length ≤ maxParams) :
    let cut := (ofCut part).foldl execute { e with scanner := Scanner.ground }
    e.feed (selecting items) = cut.withStyle (items.foldl Style.after cut.terminal.style) := by
  intro cut
  have some_field : (items.flatMap Item.params).map (Field.number 0) ≠ [] := by
    obtain ⟨item, rest, rfl⟩ := List.exists_cons_of_ne_nil some_item
    rw [ne_eq, List.map_eq_nil_iff, List.flatMap_cons]
    exact List.append_ne_nil_of_left_ne_nil item.params_ne_nil _
  have ends : isFinal 0x6D = true := by decide
  have function :
      ({ params := items.flatMap Item.params, final := charOfByte 0x6D } :
        ControlSequence).function? = some (.selectRendition (items.flatMap Item.params)) := rfl
  rw [selecting, (feed_parameters between some_field ends).1, Item.read_params few,
    List.foldl_append, List.foldl_cons, List.foldl_nil, execute_of_function cut function,
    ← Style.select_flatMap cut.terminal.style some_item]
  simp [Terminal.call, Terminal.answer?, withStyle]

/-- Between two units, one selection after another. Each ends where it began, between two units, and
changes the style that the one before it left. -/
theorem foldl_feed_selecting (between : e.scanner = Scanner.ground) (items : List Item) :
    items.foldl (fun e item => e.feed (selecting [item])) e =
      e.withStyle (items.foldl Style.after e.terminal.style) := by
  induction items generalizing e with
  | nil => rfl
  | cons item rest ih =>
    have first : e.feed (selecting [item]) = e.withStyle (e.terminal.style.after item) := by
      rw [feed_selecting_eq between (List.cons_ne_nil item []) item.few_params,
        ← between, Scanner.ofCut_nil]
      rfl
    calc
      (item :: rest).foldl (fun e item => e.feed (selecting [item])) e =
          rest.foldl (fun e item => e.feed (selecting [item]))
            (e.withStyle (e.terminal.style.after item)) := by rw [List.foldl_cons, first]
      _ = (e.withStyle (e.terminal.style.after item)).withStyle
            (rest.foldl Style.after (e.terminal.style.after item)) :=
          ih (e := e.withStyle (e.terminal.style.after item)) between
      _ = e.withStyle ((item :: rest).foldl Style.after e.terminal.style) := rfl

/-- Several selections in one sequence come to the same as one sequence for each of them: the style is the
one that they select from the left to the right, whatever it was, and nothing else changes. Only a
character that the first sequence cuts off is shown before that. -/
theorem feed_selecting {part : Text.Utf8.Partial} (between : e.scanner = .text part)
    {items : List Item} (some_item : items ≠ [])
    (few : (items.flatMap Item.params).length ≤ maxParams) :
    let cut := (ofCut part).foldl execute { e with scanner := Scanner.ground }
    let style := items.foldl Style.after cut.terminal.style
    let selected := { cut with terminal := { cut.terminal with style } }
    e.feed (selecting items) = selected ∧
      items.foldl (fun e item => e.feed (selecting [item])) e = selected ∧
      (part = [] → cut = e) := by
  intro cut style selected
  refine ⟨feed_selecting_eq between some_item few, ?_, ?_⟩
  · obtain ⟨item, rest, rfl⟩ := List.exists_cons_of_ne_nil some_item
    have ground : cut.scanner = Scanner.ground := scanner_foldl_execute _ _
    have first : e.feed (selecting [item]) = cut.withStyle (cut.terminal.style.after item) :=
      feed_selecting_eq between (List.cons_ne_nil item []) item.few_params
    rw [List.foldl_cons, first]
    exact foldl_feed_selecting (e := cut.withStyle (cut.terminal.style.after item)) ground rest
  · rintro rfl
    have still : e.scanner = Scanner.ground := between
    show { e with scanner := Scanner.ground } = e
    rw [← still]

/-- As many parameters as there is room for, in the middle of a character. A palette has 256 entries,
and a mixture 256 shades, so greater values begin again at 0. -/
theorem feed_selecting_full :
    let e := (fresh 4 3 0).feed [0x61, 0xE2, 0x82]
    let items : List Item :=
      [.single 1 (by decide), .single 3 (by decide), .single 97 (by decide)] ++
        List.replicate 5 (.mixture .background 256 255 7) ++
        [.palette .foreground 300, .single 22 (by decide)]
    e.scanner = .text [0xE2, 0x82] ∧ items ≠ [] ∧ (items.flatMap Item.params).length = maxParams ∧
      selecting items = "\x1b[1;3;97;".toUTF8.toList ++
        (List.replicate 5 "48;2;256;255;7;".toUTF8.toList).flatten ++
        "38;5;300;22m".toUTF8.toList ∧
      items.foldl (fun e item => e.feed (selecting [item])) e = e.feed (selecting items) ∧
      (e.feed (selecting items)).terminal.style =
        { foreground := .indexed 44, background := .rgb 0 255 7, italic := true } := by
  intro e items
  have between : e.scanner = .text [0xE2, 0x82] := by decide +kernel
  have some_item : items ≠ [] := List.cons_ne_nil _ _
  have full : (items.flatMap Item.params).length = maxParams := by decide +kernel
  obtain ⟨together, one_by_one, -⟩ := feed_selecting between some_item (Nat.le_of_eq full)
  refine ⟨between, some_item, full, by decide +kernel, one_by_one.trans together.symm, ?_⟩
  rw [together]
  decide +kernel

end Emulator

end TerminalSession
