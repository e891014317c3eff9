import TerminalSession.Proofs.Emulator.Operations
import TerminalSession.Proofs.Terminal.Frame

/-!
# Excursions to the alternate screen

A program that uses the whole screen goes to the alternate one and comes back later. Whatever it
does meanwhile, it finds the primary screen as it was.

## Main definitions

* `Terminal.Aside`: the primary screen and its cursor are put aside
* `Operation.remains`: the operations that stay on the alternate screen
* `Emulator.remains`, `Emulator.remainsAll`: whether an action, or a run, stays there

## Main statements

* `Terminal.Aside.perform`: what remains on the alternate screen leaves the primary one aside
* `Emulator.excursion`: the primary screen, its cursor and the style after an excursion

## Design notes

* Going to the alternate screen while it is in use is no matter of the primary screen: the place that
  is saved then is the one of the alternate cursor, which has a saved place of its own.
* The window of the primary screen returns to the live end, the history of this screen stays.
-/

namespace TerminalSession

/-- Whether an operation stays on the alternate screen: it neither chooses the primary one nor begins
anew. -/
def Operation.remains : Operation → Bool
  | .setPrivateMode mode enable => enable || (mode != 47 && mode != 1047 && mode != 1049)
  | .reset => false
  | _ => true

namespace Terminal

/-- The primary screen is put aside with its cursor, and the alternate screen is in use. Both are
given, so that it can be said that they are the same later. -/
structure Aside (primary : Screen) (cursor : Cursor) (t : Terminal) : Prop where
  onAlternate : t.onAlternate = true
  primary_eq : t.primary = primary
  primaryCursor_eq : t.primaryCursor = cursor

variable {t : Terminal} {primary : Screen} {cursor : Cursor}

/-- What is put aside is not in use, so a change of the screen in use is one of the other screen. -/
theorem Aside.modifyScreen (aside : t.Aside primary cursor) (f : Screen → Screen) :
    (t.modifyScreen f).Aside primary cursor := by
  rw [Terminal.modifyScreen, if_pos aside.onAlternate]
  exact ⟨aside.onAlternate, aside.primary_eq, aside.primaryCursor_eq⟩

/-- Nor is its cursor. -/
theorem Aside.frame (primary : Screen) (cursor : Cursor) : Frame (Aside primary cursor) where
  modifyScreen aside f _ := aside.modifyScreen f
  modifyCursor aside f := by
    rw [Terminal.modifyCursor, if_pos aside.onAlternate]
    exact ⟨aside.onAlternate, aside.primary_eq, aside.primaryCursor_eq⟩
  share aside _ _ _ _ := ⟨aside.onAlternate, aside.primary_eq, aside.primaryCursor_eq⟩

namespace Aside

/-- The alternate screen is in use already. -/
theorem choose (aside : t.Aside primary cursor) : (t.switchScreen true).Aside primary cursor := by
  rwa [Terminal.switchScreen, if_pos aside.onAlternate.symm]

/-- Entering the alternate screen once more concerns the alternate cursor alone. -/
theorem enter (aside : t.Aside primary cursor) :
    (t.setPrivateMode 1049 true).Aside primary cursor := by
  have saved : t.saveCursor.Aside primary cursor := (Aside.frame _ _).modifyCursor aside _
  exact ⟨saved.choose.onAlternate, saved.choose.primary_eq, saved.choose.primaryCursor_eq⟩

/-- What remains on the alternate screen leaves the primary one aside. To choose the alternate
screen once more is among these operations, since it is in use already. -/
theorem perform (aside : t.Aside primary cursor) {op : Operation} (remains : op.remains = true) :
    (op.perform t).Aside primary cursor := by
  obtain stays | rfl | ⟨enable, rfl | rfl | rfl⟩ := op.stays_or
  · exact (Aside.frame _ _).perform aside stays
  · exact nomatch remains
  · cases enable with
    | true => exact aside.choose
    | false => exact nomatch remains
  · cases enable with
    | true => exact aside.choose
    | false => exact nomatch remains
  · cases enable with
    | true => exact aside.enter
    | false => exact nomatch remains

theorem performAll (aside : t.Aside primary cursor) {operations : List Operation}
    (remain : operations.all Operation.remains = true) :
    (Operation.performAll t operations).Aside primary cursor := by
  induction operations generalizing t with
  | nil => exact aside
  | cons op rest ih =>
    obtain ⟨op_remains, rest_remain⟩ := Bool.and_eq_true_iff.mp remain
    exact ih (aside.perform op_remains) rest_remain

theorem scrollWindow (aside : t.Aside primary cursor) (delta : Int) :
    (t.scrollWindow delta).Aside primary cursor :=
  aside.modifyScreen _

/-- Back on the primary screen, the cursor stands where it was saved, and the style is the one that
was saved with it. -/
theorem leave (aside : t.Aside primary cursor) {saved : SavedCursor}
    (saved_eq : cursor.saved = some saved) :
    let back := t.setPrivateMode 1049 false
    back.onAlternate = false ∧ back.primary = { primary with offset := 0 } ∧
      back.primaryCursor = { cursor with row := saved.row, col := saved.col } ∧
      back.style = saved.style := by
  have other : ¬ false = t.onAlternate := by simp [aside.onAlternate]
  have switched : t.switchScreen false =
      { t with primary := { primary with offset := 0 }, onAlternate := false } := by
    rw [Terminal.switchScreen, if_neg other, aside.primary_eq]
    rfl
  have kept : (t.switchScreen false).cursor = cursor := by
    rw [switched]
    exact aside.primaryCursor_eq
  have restored : t.setPrivateMode 1049 false =
      { (t.switchScreen false).modifyCursor fun c =>
          { c with row := saved.row, col := saved.col } with
        style := saved.style } := by
    show (t.switchScreen false).restoreCursor = _
    rw [restoreCursor, kept, saved_eq]
  rw [restored, switched, ← aside.primaryCursor_eq]
  exact ⟨rfl, rfl, rfl, rfl⟩

end Aside

/-- The alternate screen is entered with the place of the cursor and the style saved. The window of
the primary screen is brought to the live end, which is all that changes there. -/
theorem aside_of_enter (on_primary : t.onAlternate = false) :
    (t.setPrivateMode 1049 true).Aside { t.primary with offset := 0 }
      { t.primaryCursor with
        saved := some { row := t.primaryCursor.row, col := t.primaryCursor.col, style := t.style } }
      := by
  have saved : t.saveCursor =
      { t with
        primaryCursor :=
          { t.primaryCursor with
            saved := some
              { row := t.primaryCursor.row, col := t.primaryCursor.col, style := t.style } } } :=
    if_neg (Bool.eq_false_iff.mp on_primary)
  have other : ¬ true = t.saveCursor.onAlternate := by simp [saved, on_primary]
  have entered : t.setPrivateMode 1049 true =
      { t.saveCursor with
        alternate := Screen.blank t.saveCursor.cols t.saveCursor.rows 0
        primary := { t.saveCursor.primary with offset := 0 }
        onAlternate := true
        alternateCursor := {} } := by
    show { t.saveCursor.switchScreen true with alternateCursor := {} } = _
    rw [Terminal.switchScreen, if_neg other]
    rfl
  rw [entered, saved]
  exact ⟨rfl, rfl, rfl⟩

end Terminal

namespace Emulator

/-- Whether an action stays on the alternate screen. A change of the size does not count, because it
concerns both screens. -/
def remains (e : Emulator) : Action → Bool
  | .output bytes => (e.operations bytes).all Operation.remains
  | .scroll _ => true
  | .operate op => op.remains
  | .resize .. => false

/-- Whether the actions of a list all stay there, each at its time. -/
def remainsAll (e : Emulator) : List Action → Bool
  | [] => true
  | action :: rest => e.remains action && (e.act action).remainsAll rest

variable {e : Emulator}

theorem aside_act {primary : Screen} {cursor : Cursor} (aside : e.terminal.Aside primary cursor)
    {action : Action} (remains : e.remains action = true) :
    (e.act action).terminal.Aside primary cursor := by
  cases action with
  | output bytes =>
    have performed := aside.performAll remains
    rwa [← terminal_feed] at performed
  | resize cols rows _ _ => exact nomatch remains
  | scroll delta => exact aside.scrollWindow delta
  | operate op => exact aside.perform remains

theorem aside_run {primary : Screen} {cursor : Cursor} (aside : e.terminal.Aside primary cursor)
    {actions : List Action} (remain : e.remainsAll actions = true) :
    (e.run actions).terminal.Aside primary cursor := by
  induction actions generalizing e with
  | nil => exact aside
  | cons action rest ih =>
    obtain ⟨action_remains, rest_remain⟩ := Bool.and_eq_true_iff.mp remain
    exact ih (aside_act aside action_remains) rest_remain

/-- After an excursion to the alternate screen, the primary one is in use again, with its rows and
its history as they were and its window at the live end. The cursor stands where it stood and is
seen as it was, and the style is the one from before. -/
theorem excursion (on_primary : e.terminal.onAlternate = false) {actions : List Action}
    (remain : (e.act (.operate (.setPrivateMode 1049 true))).remainsAll actions = true) :
    let there := (e.act (.operate (.setPrivateMode 1049 true))).run actions
    let back := (there.act (.operate (.setPrivateMode 1049 false))).terminal
    let before := e.terminal
    back.onAlternate = false ∧
      back.primary = { before.primary with offset := 0 } ∧
      back.primaryCursor =
        { before.primaryCursor with
          saved := some
            { row := before.primaryCursor.row, col := before.primaryCursor.col
              style := before.style } } ∧
      back.style = before.style := by
  have entered : (e.act (.operate (.setPrivateMode 1049 true))).terminal.Aside _ _ :=
    Terminal.aside_of_enter on_primary
  exact (aside_run entered remain).leave rfl

/-- An excursion that fills and scrolls the alternate screen, enters it again, saves and restores its
cursor, hides it, and changes what both screens share, from a window that stands back. -/
theorem excursion_nested :
    let e := (fresh 4 2 5).run
      [.output "a\r\nb\r\nc\r\n\x1b[1;31md".toUTF8.toList, .scroll (-2)]
    let actions := [
      Action.output "\x1b[42mw\r\nx\x1b7\r\ny\x1b[3J\x1b[?1049h\x1b[?25l\x1b[?10".toUTF8.toList,
      .scroll (-1), .output "47hz\x1b8\x1b[?1048l\x1b[1;2r\x1b[4h\x1b[Lv".toUTF8.toList,
      .operate .reverseIndex]
    let there := (e.act (.operate (.setPrivateMode 1049 true))).run actions
    let back := (there.act (.operate (.setPrivateMode 1049 false))).terminal
    e.terminal.onAlternate = false ∧ e.terminal.primary.offset = 2 ∧
      (e.act (.operate (.setPrivateMode 1049 true))).remainsAll actions = true ∧
      back.primary = { e.terminal.primary with offset := 0 } ∧
      back.style = { bold := true, foreground := .indexed 1 } := by
  intro e actions there back
  have on_primary : e.terminal.onAlternate = false := by decide +kernel
  have remain : (e.act (.operate (.setPrivateMode 1049 true))).remainsAll actions = true := by
    decide +kernel
  obtain ⟨-, primary_eq, -, style_eq⟩ := excursion on_primary remain
  refine ⟨on_primary, by decide +kernel, remain, primary_eq, style_eq.trans ?_⟩
  decide +kernel

end Emulator

end TerminalSession
