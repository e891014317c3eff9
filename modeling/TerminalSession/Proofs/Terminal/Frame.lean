import TerminalSession.Proofs.Grid.Remembering
import TerminalSession.Proofs.Terminal.Operation

/-!
# What operations leave alone

Most operations change the screen in use, the cursor in use, or what both screens share, and
nothing else. A property that has nothing to do with these survives them all. No operation changes how
much history a screen may keep, or takes a window from the live end, so the property may depend on
that.

## Main definitions

* `Screen.Tame`: what operations do to a screen, as far as a property may depend on it
* `Terminal.Frame`: a property that does not depend on the screen in use, but for its room for history
  and for a window at the live end, on the cursor in use and on what both screens share
* `Terminal.TitledFrame`: one that may depend on the title of what both screens share
* `Operation.stays`: the operations that neither choose a screen nor begin anew
* `Operation.setsTitle`: the operation that changes the title

## Main statements

* `Terminal.TitledFrame.perform`, `Terminal.Frame.perform`: these operations keep such a property
* `Terminal.TitledFrame.perform_of_switches`: so do those that choose a screen, if choosing one does

## Design notes

* Choosing a screen changes the screen that is not in use as well, so each property says for itself
  what becomes of it then.
-/

namespace TerminalSession

/-- Whether an operation neither chooses a screen nor begins anew. Private modes that choose one do
not stay, whether they are set or reset. -/
def Operation.stays : Operation → Bool
  | .setPrivateMode mode _ => mode != 47 && mode != 1047 && mode != 1049
  | .reset => false
  | _ => true

/-- Whether an operation changes the title, without beginning anew. -/
def Operation.setsTitle : Operation → Bool
  | .setTitle _ => true
  | _ => false

/-- An operation stays, begins anew or chooses a screen. There are three modes by which it can
choose one, and each of them can be set or reset. -/
theorem Operation.stays_or (op : Operation) :
    op.stays = true ∨ op = .reset ∨ ∃ enable, op = .setPrivateMode 47 enable ∨
      op = .setPrivateMode 1047 enable ∨ op = .setPrivateMode 1049 enable := by
  cases op with
  | reset => exact .inr (.inl rfl)
  | setPrivateMode mode enable =>
    by_cases chooses : mode = 47 ∨ mode = 1047 ∨ mode = 1049
    · obtain rfl | rfl | rfl := chooses
      · exact .inr (.inr ⟨enable, .inl rfl⟩)
      · exact .inr (.inr ⟨enable, .inr (.inl rfl)⟩)
      · exact .inr (.inr ⟨enable, .inr (.inr rfl)⟩)
    · simp only [not_or] at chooses
      exact .inl (by simp [stays, chooses])
  | _ => exact .inl rfl

/-! ### Screens -/

namespace Screen

/-- What operations do to a screen: there is room for as much history as before, and a window at the
live end stays there. The history itself may grow, lose rows or be forgotten. -/
structure Tame (f : Screen → Screen) : Prop where
  limit_eq : ∀ s : Screen, (f s).limit = s.limit
  offset_eq_zero : ∀ s : Screen, s.offset = 0 → (f s).offset = 0

/-- A change of the rows of the screen has no part in the history and in the window. -/
theorem tame_of_rows {f : Screen → Screen} (eq : ∀ s, f s = { s with rows := (f s).rows }) :
    Tame f where
  limit_eq s := by rw [eq]
  offset_eq_zero s zero := by
    rw [eq]
    exact zero

/-- So a change of one row is tame, whatever it makes of the row. -/
theorem tame_modifyRow (row : Nat) (f : Row → Row) : Tame fun s => s.modifyRow row f :=
  tame_of_rows fun _ => rfl

theorem tame_addLine (cols top bottom : Nat) : Tame fun s => s.addLine cols top bottom :=
  tame_of_rows fun _ => rfl

theorem tame_dropLine (cols top bottom : Nat) : Tame fun s => s.dropLine cols top bottom :=
  tame_of_rows fun _ => rfl

/-- Without a history there is nothing to look back at. -/
theorem tame_forget : Tame forget where
  limit_eq _ := rfl
  offset_eq_zero _ _ := rfl

/-- A row is remembered as long as there is room. Only a window that stands back moves with it. -/
theorem tame_remember (row : Row) : Tame fun s => s.remember row where
  limit_eq s := s.limit_remember row
  offset_eq_zero s zero := by
    dsimp only [remember]
    split
    · exact zero
    · exact if_neg (Nat.not_lt_of_le (Nat.le_of_eq zero))

/-- Tame changes can be done one after the other. -/
theorem Tame.comp {f g : Screen → Screen} (f_tame : Tame f) (g_tame : Tame g) :
    Tame fun s => f (g s) where
  limit_eq s := (f_tame.limit_eq (g s)).trans (g_tame.limit_eq s)
  offset_eq_zero s zero := f_tame.offset_eq_zero (g s) (g_tame.offset_eq_zero s zero)

/-- A row that leaves the screen is dropped, and remembered at most. Where there is no such row
nothing is remembered, so all ways to scroll are made up of these two changes. -/
theorem tame_scrollUp (cols top bottom : Nat) (keep : Bool) :
    Tame fun s => s.scrollUp cols top bottom keep := by
  have dropped := tame_dropLine cols top bottom
  have remembered (row : Row) := (tame_remember row).comp dropped
  constructor
  · intro s
    dsimp only [scrollUp]
    split
    · split
      · exact (remembered _).limit_eq s
      · exact dropped.limit_eq s
    · exact dropped.limit_eq s
  · intro s zero
    dsimp only [scrollUp]
    split
    · split
      · exact (remembered _).offset_eq_zero s zero
      · exact dropped.offset_eq_zero s zero
    · exact dropped.offset_eq_zero s zero

/-- Operations on rows repeat a step. It is enough to look at one. -/
theorem Tame.iterate {f : Screen → Screen} (tame : Tame f) (n : Nat) : Tame (Nat.repeat f n) := by
  induction n with
  | zero => exact tame_of_rows fun _ => rfl
  | succ n ih => exact tame.comp ih

end Screen

namespace Terminal

/-- The screen that was chosen is in use. -/
theorem onAlternate_switchScreen (t : Terminal) (enable : Bool) :
    (t.switchScreen enable).onAlternate = enable := by
  unfold switchScreen
  split
  next same => exact same.symm
  · rfl

/-- A property of terminals that does not depend on the screen in use, but for what tame changes
leave, on the cursor in use and on what both screens share. It is enough to show once, for a property, that
these three kinds of change keep it; that the operations are made up of them is shown here. -/
structure Frame (P : Terminal → Prop) : Prop where
  modifyScreen : ∀ {t : Terminal}, P t → ∀ {f : Screen → Screen}, Screen.Tame f →
    P (t.modifyScreen f)
  modifyCursor : ∀ {t : Terminal}, P t → ∀ f : Cursor → Cursor, P (t.modifyCursor f)
  share : ∀ {t : Terminal}, P t → ∀ (style : Style) (modes : Modes) (title : Text)
    (region : Region), P { t with style, modes, title, region }

/-- Such a property that may depend on the title as well. Only `Operation.setTitle` is not covered by
it then. -/
structure TitledFrame (P : Terminal → Prop) : Prop where
  modifyScreen : ∀ {t : Terminal}, P t → ∀ {f : Screen → Screen}, Screen.Tame f →
    P (t.modifyScreen f)
  modifyCursor : ∀ {t : Terminal}, P t → ∀ f : Cursor → Cursor, P (t.modifyCursor f)
  share : ∀ {t : Terminal}, P t → ∀ (style : Style) (modes : Modes) (region : Region),
    P { t with style, modes, region }

namespace TitledFrame

variable {P : Terminal → Prop} (frame : TitledFrame P) {t : Terminal}

include frame

/-- The row of the cursor is a row of the screen in use. -/
theorem modifyCursorRow (holds : P t) (f : Row → Row) : P (t.modifyCursorRow f) := by
  unfold Terminal.modifyCursorRow
  exact frame.modifyScreen holds (Screen.tame_modifyRow _ f)

/-- The style that was saved is shared by both screens, the place is the cursor's. -/
theorem restoreCursor (holds : P t) : P t.restoreCursor := by
  unfold Terminal.restoreCursor
  split
  · exact holds
  next saved _ =>
    have moved := frame.modifyCursor holds fun c => { c with row := saved.row, col := saved.col }
    exact frame.share moved saved.style _ _

/-! ### Rows -/

/-- Scrolling repeats a step as often as the region is high. How high it is does not matter here. -/
theorem scrollUp (holds : P t) (n : Nat) : P (t.scrollUp n) :=
  frame.modifyScreen holds ((Screen.tame_scrollUp _ _ _ _).iterate _)

theorem scrollDown (holds : P t) (n : Nat) : P (t.scrollDown n) :=
  frame.modifyScreen holds ((Screen.tame_addLine _ _ _).iterate _)

/-- The region scrolls, the cursor moves, or nothing happens. -/
theorem index (holds : P t) : P t.index := by
  unfold Terminal.index
  split
  · exact frame.scrollUp holds 1
  split
  · exact frame.modifyCursor holds _
  · exact holds

theorem lineFeed (holds : P t) : P t.lineFeed := by
  unfold Terminal.lineFeed
  split
  · exact frame.modifyCursor (frame.index holds) _
  · exact frame.index holds

theorem reverseIndex (holds : P t) : P t.reverseIndex := by
  unfold Terminal.reverseIndex
  split
  · exact frame.scrollDown holds 1
  · exact frame.modifyCursor holds _

theorem insertLines (holds : P t) (n : Nat) : P (t.insertLines n) := by
  unfold Terminal.insertLines
  split
  · exact frame.modifyScreen holds ((Screen.tame_addLine _ _ _).iterate _)
  · exact holds

theorem deleteLines (holds : P t) (n : Nat) : P (t.deleteLines n) := by
  unfold Terminal.deleteLines
  split
  · exact frame.modifyScreen holds ((Screen.tame_dropLine _ _ _).iterate _)
  · exact holds

/-- The region is shared by both screens. -/
theorem setRegion (holds : P t) (top bottom : Nat) : P (t.setRegion top bottom) := by
  unfold Terminal.setRegion
  dsimp only
  split
  · exact frame.share holds _ _ _
  · exact holds

theorem clearRows (holds : P t) (first past : Nat) : P (t.clearRows first past) := by
  unfold Terminal.clearRows
  exact frame.modifyScreen holds (Screen.tame_of_rows fun _ => rfl)

theorem eraseLine (holds : P t) (mode : Nat) : P (t.eraseLine mode) := by
  unfold Terminal.eraseLine
  exact frame.modifyCursorRow holds _

/-- Each part of the display is made up of the row of the cursor and of other rows. -/
theorem eraseDisplay (holds : P t) (mode : Nat) : P (t.eraseDisplay mode) := by
  unfold Terminal.eraseDisplay
  dsimp only
  split
  · exact frame.clearRows (frame.eraseLine holds 0) _ _
  · exact frame.eraseLine (frame.clearRows holds 0 _) 1
  · exact frame.clearRows holds 0 _
  · exact frame.modifyScreen holds Screen.tame_forget
  · exact holds

/-! ### Printing -/

/-- A wrap marks a row before it moves the cursor and scrolls. -/
theorem wrapFor (holds : P t) (width : Nat) : P (t.wrapFor width) := by
  unfold Terminal.wrapFor
  split
  · split
    · have marked := frame.modifyCursorRow holds fun row => { row with wrapped := true }
      exact frame.lineFeed (frame.modifyCursor marked _)
    · exact frame.modifyCursor holds _
  · exact holds

/-- Room is made in the mode that inserts; then the character is written and the cursor moves on. -/
theorem place (holds : P t) (c : Char) (width : Nat) : P (t.place c width) := by
  rw [place_eq]
  split
  · exact holds
  · have shifted : P (t.shiftFor width) := by
      unfold shiftFor
      split
      · exact frame.modifyCursorRow holds _
      · exact holds
    exact frame.modifyCursor (frame.modifyCursorRow shifted _) _

theorem print (holds : P t) (c : Char) : P (t.print c) := by
  unfold Terminal.print
  split
  · exact frame.modifyCursorRow holds _
  · exact frame.place (frame.wrapFor holds _) c _

/-! ### Modes -/

/-- Modes are shared by both screens. -/
theorem setMode (holds : P t) (mode : Nat) (enable : Bool) : P (t.setMode mode enable) := by
  unfold Terminal.setMode
  split
  · exact frame.share holds _ _ _
  · exact frame.share holds _ _ _
  · exact holds

/-- The three modes that choose a screen are left out here: what they do depends on the property.
The others touch the modes, or show, save or restore the cursor. -/
theorem setPrivateMode (holds : P t) {mode : Nat} {enable : Bool}
    (stays : (Operation.setPrivateMode mode enable).stays = true) :
    P (t.setPrivateMode mode enable) := by
  unfold Terminal.setPrivateMode
  split
  · exact frame.share holds _ _ _
  · exact frame.modifyCursor holds _
  · exact nomatch stays
  · exact nomatch stays
  · split
    · exact frame.modifyCursor holds _
    · exact frame.restoreCursor holds
  · exact nomatch stays
  · exact holds

/-! ### Operations -/

/-- An operation that neither chooses a screen nor begins anew keeps such a property, unless it sets the
title. -/
theorem perform (holds : P t) {op : Operation} (stays : op.stays = true)
    (untitled : op.setsTitle = false) : P (op.perform t) := by
  cases op with
  | print c => exact frame.print holds c
  | lineFeed => exact frame.lineFeed holds
  | index => exact frame.index holds
  | reverseIndex => exact frame.reverseIndex holds
  | restoreCursor => exact frame.restoreCursor holds
  | scrollUp n => exact frame.scrollUp holds n
  | scrollDown n => exact frame.scrollDown holds n
  | insertLines n => exact frame.insertLines holds n
  | deleteLines n => exact frame.deleteLines holds n
  | setRegion top bottom => exact frame.setRegion holds top bottom
  | setMode mode enable => exact frame.setMode holds mode enable
  | setPrivateMode mode enable => exact frame.setPrivateMode holds stays
  | eraseLine mode => exact frame.eraseLine holds mode
  | eraseDisplay mode => exact frame.eraseDisplay holds mode
  | selectRendition params => exact frame.share holds _ _ _
  | setTitle title => exact nomatch untitled
  | reset => exact nomatch stays
  | _ =>
    -- What is left changes the cursor or its row.
    dsimp only [Operation.perform]
    first
      | exact frame.modifyCursor holds _
      | exact frame.modifyCursorRow holds _

/-- If choosing a screen keeps such a property, the operations that do so keep it, too: besides that
they save and restore the cursor, or put it into the corner of the screen entered. -/
theorem perform_of_switches (switches : ∀ {t : Terminal}, P t → ∀ enable, P (t.switchScreen enable))
    (holds : P t) {op : Operation} (begun : op ≠ .reset) (untitled : op.setsTitle = false) :
    P (op.perform t) := by
  obtain stays | rfl | ⟨enable, rfl | rfl | rfl⟩ := op.stays_or
  · exact frame.perform holds stays untitled
  · exact absurd rfl begun
  · exact switches holds enable
  · exact switches holds enable
  · cases enable with
    | true =>
      have saved : P t.saveCursor := frame.modifyCursor holds _
      have entered := frame.modifyCursor (switches saved true) fun _ => {}
      rwa [Terminal.modifyCursor, if_pos (onAlternate_switchScreen t.saveCursor true)] at entered
    | false => exact frame.restoreCursor (switches holds false)

end TitledFrame

namespace Frame

variable {P : Terminal → Prop} (frame : Frame P) {t : Terminal}

include frame

/-- A property that the title cannot change is one that the other operations cannot change
either. -/
theorem titled : TitledFrame P where
  modifyScreen := frame.modifyScreen
  modifyCursor := frame.modifyCursor
  share := fun {t} holds style modes region => frame.share holds style modes t.title region

/-- An operation that neither chooses a screen nor begins anew keeps such a property. -/
theorem perform (holds : P t) {op : Operation} (stays : op.stays = true) : P (op.perform t) := by
  cases op with
  | setTitle title => exact frame.share holds _ _ _ _
  | _ => exact frame.titled.perform holds stays rfl

/-- If choosing a screen keeps it, any operation does that does not begin anew. -/
theorem perform_of_switches (switches : ∀ {t : Terminal}, P t → ∀ enable, P (t.switchScreen enable))
    (holds : P t) {op : Operation} (begun : op ≠ .reset) : P (op.perform t) := by
  cases op with
  | setTitle title => exact frame.share holds _ _ _ _
  | _ => exact frame.titled.perform_of_switches switches holds begun rfl

end Frame

end Terminal

end TerminalSession
