import TerminalSession.Proofs.Emulator.Run
import TerminalSession.Proofs.Terminal.LiveEnd

/-!
# Terminals do not see their window

How far the window stands back is for the viewer alone. Whatever the terminal does, and whatever it
replies, is the same with the window put at the live end beforehand.

## Main definitions

* `Screen.toEnd`, `Terminal.toEnd`, `Emulator.toEnd`: the window put at the live end
* `Screen.Blind`, `Terminal.Blind`: functions that do not see the window

## Main statements

* `Terminal.blind_perform`: no operation sees the window
* `Terminal.reply?_toEnd`, `Terminal.overflows_toEnd`: no reply does, and no overflow
* `Emulator.toEnd_feed`, `Terminal.toEnd_resize`: neither do output and a change of the size
* `Terminal.WellFormed.toEnd_scrollWindow`: a movement of the window changes nothing else

## Design notes

* A function may move the window itself, so it is blind if it does the same *up to the window*. The
  window is put at the live end on both sides of the equation.
* Only the window of the primary screen is put there. The alternate screen has no history, so its
  window never moves.
-/

namespace TerminalSession

/-! ### Screens -/

namespace Screen

/-- The screen with its window at the live end. -/
def toEnd (s : Screen) : Screen := { s with offset := 0 }

/-- A function of screens that does not see the window: up to the window, it makes the same of a
screen wherever its window stands. -/
def Blind (f : Screen → Screen) : Prop := ∀ s : Screen, (f s).toEnd = (f s.toEnd).toEnd

/-- Rows are changed, added and dropped by their place on the screen, where the window has no
part. -/
theorem blind_modifyRow (row : Nat) (f : Row → Row) : Blind fun s => s.modifyRow row f :=
  fun _ => rfl

theorem blind_addLine (cols top bottom : Nat) : Blind fun s => s.addLine cols top bottom :=
  fun _ => rfl

theorem blind_dropLine (cols top bottom : Nat) : Blind fun s => s.dropLine cols top bottom :=
  fun _ => rfl

theorem blind_forget : Blind forget := fun _ => rfl

/-- Remembering a row moves a window that stands back, so that it shows what it showed. This is the
one change of a screen that looks at the window, and it changes nothing else by it. -/
theorem blind_remember (row : Row) : Blind fun s => s.remember row := by
  intro s
  by_cases full : s.limit = 0
  · simp [remember, toEnd, full]
  · simp [remember, toEnd, full]

/-- What does not see the window, done after something else that does not. The equation of `f` is
used twice, since its argument has its window anywhere. -/
theorem Blind.comp {f g : Screen → Screen} (f_blind : Blind f) (g_blind : Blind g) :
    Blind fun s => f (g s) := by
  intro s
  dsimp only
  rw [f_blind, g_blind, ← f_blind]

/-- So scrolling is blind, though it remembers. -/
theorem blind_scrollUp (cols top bottom : Nat) (keep : Bool) :
    Blind fun s => s.scrollUp cols top bottom keep := by
  intro s
  -- The row that leaves is the same, wherever the window stands.
  have same : s.toEnd.rows[top]? = s.rows[top]? := rfl
  dsimp only [scrollUp]
  rw [same]
  split
  · split
    next row _ => exact (blind_remember row).comp (blind_dropLine cols top bottom) s
    · rfl
  · rfl

theorem Blind.iterate {f : Screen → Screen} (blind : Blind f) (n : Nat) :
    Blind fun s => Nat.repeat f n s := by
  induction n with
  | zero => exact fun _ => rfl
  | succ n ih => exact blind.comp ih

theorem toEnd_moveWindow (s : Screen) (delta : Int) : (s.moveWindow delta).toEnd = s.toEnd := by
  unfold moveWindow
  split <;> rfl

/-- The window of a screen without history does not move. -/
theorem Fits.moveWindow_eq {cols rows : Nat} {s : Screen} (fits : s.Fits cols rows 0)
    (delta : Int) : s.moveWindow delta = s := by
  have history_le := fits.history_le
  have offset_le := fits.offset_le
  have offset_eq : s.offset = 0 := by omega
  have size_eq : s.history.size = 0 := by omega
  unfold Screen.moveWindow windowBack windowForward
  obtain ⟨rows, history, limit, offset⟩ := s
  subst offset_eq
  split
  · rw [size_eq, Nat.min_zero]
  · rw [Nat.zero_sub]

end Screen

/-! ### Terminals -/

namespace Terminal

/-- The terminal with the window of its primary screen at the live end. -/
def toEnd (t : Terminal) : Terminal := { t with primary := t.primary.toEnd }

/-- A function of terminals that does not see the window, in the same sense. -/
def Blind (f : Terminal → Terminal) : Prop := ∀ t : Terminal, (f t).toEnd = (f t.toEnd).toEnd

/-- The primary screen has its window put at the end, the alternate one has not, and a blind
function works on either. -/
theorem toEnd_modifyScreen {f : Screen → Screen} (blind : Screen.Blind f) (t : Terminal) :
    (t.modifyScreen f).toEnd = (t.toEnd.modifyScreen f).toEnd := by
  unfold modifyScreen toEnd
  dsimp only
  split
  · rfl
  · rw [blind t.primary]

/-- No cursor belongs to a window, so here the equation holds as it stands and not only up to the
window. -/
theorem toEnd_modifyCursor (t : Terminal) (f : Cursor → Cursor) :
    (t.modifyCursor f).toEnd = t.toEnd.modifyCursor f := by
  unfold modifyCursor toEnd
  dsimp only
  split <;> rfl

theorem rows_screen_toEnd (t : Terminal) : t.toEnd.screen.rows = t.screen.rows := by
  unfold screen toEnd
  dsimp only
  split <;> rfl

namespace Blind

variable {f g : Terminal → Terminal}

/-- Operations that are made up of others are blind because those are. -/
theorem comp (f_blind : Blind f) (g_blind : Blind g) : Blind fun t => f (g t) := by
  intro t
  dsimp only
  rw [f_blind, g_blind, ← f_blind]

/-- A choice that does not depend on the window. -/
theorem ite {p : Terminal → Prop} [DecidablePred p] (same : ∀ t : Terminal, p t.toEnd ↔ p t)
    (f_blind : Blind f) (g_blind : Blind g) : Blind fun t => if p t then f t else g t := by
  intro t
  by_cases chosen : p t
  · simp only [chosen, (same t).mpr chosen, if_true]
    exact f_blind t
  · simp only [chosen, mt (same t).mp chosen, if_false]
    exact g_blind t

end Blind

theorem blind_id : Blind fun t => t := fun _ => rfl

/-- A change of the cursor that does not depend on the window. -/
theorem blind_modifyCursor {f : Terminal → Cursor → Cursor}
    (same : ∀ t : Terminal, f t.toEnd = f t) : Blind fun t => t.modifyCursor (f t) := by
  intro t
  dsimp only
  rw [same t, toEnd_modifyCursor, toEnd_modifyCursor]
  rfl

/-- A change of the screen that does not depend on the window. -/
theorem blind_modifyScreen {f : Terminal → Screen → Screen}
    (same : ∀ t : Terminal, f t.toEnd = f t) (blind : ∀ t : Terminal, Screen.Blind (f t)) :
    Blind fun t => t.modifyScreen (f t) := by
  intro t
  dsimp only
  rw [same t]
  exact toEnd_modifyScreen (blind t) t

/-- What is written into the row of the cursor may depend on the terminal, as on its style or its
modes, but not on its window. -/
theorem blind_modifyCursorRow {f : Terminal → Row → Row}
    (same : ∀ t : Terminal, f t.toEnd = f t) : Blind fun t => t.modifyCursorRow (f t) := by
  refine blind_modifyScreen (f := fun t s => s.modifyRow t.cursor.row (f t)) (fun t => ?_)
    fun t => Screen.blind_modifyRow _ _
  rw [same t]
  rfl

/-! ### Motion and scrolling -/

theorem blind_carriageReturn : Blind carriageReturn := blind_modifyCursor fun _ => rfl

/-- The place that was saved is found with the cursor, and so is the same wherever the window
stands. -/
theorem blind_restoreCursor : Blind restoreCursor := by
  intro t
  have same : t.toEnd.cursor = t.cursor := rfl
  unfold restoreCursor
  rw [same]
  split
  · rfl
  next saved _ =>
    have moved : Blind fun t => t.modifyCursor fun c =>
        { c with row := saved.row, col := saved.col } := blind_modifyCursor fun _ => rfl
    exact congrArg (fun t : Terminal => { t with style := saved.style }) (moved t)

/-- The number of steps is told by the region, and each step is blind. -/
theorem blind_scrollUp (n : Nat) : Blind fun t => t.scrollUp n :=
  blind_modifyScreen (fun _ => rfl) fun t =>
    (Screen.blind_scrollUp t.cols t.region.top t.region.bottom t.remembers).iterate _

theorem blind_scrollDown (n : Nat) : Blind fun t => t.scrollDown n :=
  blind_modifyScreen (fun _ => rfl) fun t =>
    (Screen.blind_addLine t.cols t.region.top t.region.bottom).iterate _

/-- Whether the cursor stands in the region does not depend on the window. -/
theorem blind_insertLines (n : Nat) : Blind fun t => t.insertLines n := by
  refine Blind.ite (fun _ => Iff.rfl) (blind_modifyScreen (fun _ => rfl) fun t => ?_) blind_id
  exact (Screen.blind_addLine t.cols t.cursor.row t.region.bottom).iterate _

theorem blind_deleteLines (n : Nat) : Blind fun t => t.deleteLines n := by
  refine Blind.ite (fun _ => Iff.rfl) (blind_modifyScreen (fun _ => rfl) fun t => ?_) blind_id
  exact (Screen.blind_dropLine t.cols t.cursor.row t.region.bottom).iterate _

theorem blind_index : Blind index :=
  Blind.ite (fun _ => Iff.rfl) (blind_scrollUp 1)
    (Blind.ite (fun _ => Iff.rfl) (blind_modifyCursor fun _ => rfl) blind_id)

theorem blind_lineFeed : Blind lineFeed :=
  Blind.ite (fun _ => Iff.rfl) (blind_carriageReturn.comp blind_index) blind_index

theorem blind_reverseIndex : Blind reverseIndex :=
  Blind.ite (fun _ => Iff.rfl) (blind_scrollDown 1) (blind_modifyCursor fun _ => rfl)

/-- A region is compared with the rows there are, and not with those that are seen. -/
theorem blind_setRegion (top bottom : Nat) : Blind fun t => t.setRegion top bottom :=
  Blind.ite (fun _ => Iff.rfl) (fun _ => rfl) blind_id

/-! ### Erasing and printing -/

theorem blind_eraseLine (mode : Nat) : Blind fun t => t.eraseLine mode :=
  blind_modifyCursorRow fun _ => rfl

theorem blind_clearRows (first past : Nat) : Blind fun t => t.clearRows first past :=
  blind_modifyScreen (fun _ => rfl) fun _ _ => rfl

/-- Erasing the history moves the window to the end, so it is blind in the strongest sense: with or
without it, the window ends there. -/
theorem blind_eraseDisplay (mode : Nat) : Blind fun t => t.eraseDisplay mode := by
  intro t
  have cursor_eq : t.toEnd.cursor = t.cursor := rfl
  dsimp only [eraseDisplay]
  rw [rows_screen_toEnd, cursor_eq]
  split
  · exact (blind_clearRows _ _).comp (blind_eraseLine 0) t
  · exact (blind_eraseLine 1).comp (blind_clearRows _ _) t
  · exact blind_clearRows _ _ t
  · exact blind_modifyScreen (fun _ => rfl) (fun _ => Screen.blind_forget) t
  · rfl

theorem blind_insertChars (n : Nat) : Blind fun t => t.insertChars n :=
  blind_modifyCursorRow fun _ => rfl

theorem blind_combine (c : Char) : Blind fun t => t.combine c :=
  blind_modifyCursorRow fun _ => rfl

/-- A wrap is made up of a mark, a return and a line feed. -/
theorem blind_wrapFor (width : Nat) : Blind fun t => t.wrapFor width := by
  have marked : Blind fun t => t.modifyCursorRow fun row => { row with wrapped := true } :=
    blind_modifyCursorRow fun _ => rfl
  exact Blind.ite (fun _ => Iff.rfl)
    (Blind.ite (fun _ => Iff.rfl) ((blind_lineFeed.comp blind_carriageReturn).comp marked)
      (blind_modifyCursor fun _ => rfl))
    blind_id

/-- Writing a character takes the style and the column of the cursor, and no more. -/
theorem blind_put (c : Char) (width : Nat) : Blind fun t => t.put c width := by
  have written : Blind fun t => t.modifyCursorRow fun row =>
      row.write t.cursor.col { glyph := [c], width, style := t.style } :=
    blind_modifyCursorRow fun _ => rfl
  have moved : Blind fun t => t.modifyCursor fun cursor =>
      { cursor with col := cursor.col + width } := blind_modifyCursor fun _ => rfl
  exact moved.comp written

theorem blind_place (c : Char) (width : Nat) : Blind fun t => t.place c width := by
  have shifted : Blind fun t => t.shiftFor width :=
    Blind.ite (fun _ => Iff.rfl) (blind_insertChars width) blind_id
  have placed := Blind.ite (p := fun t => t.cols ≤ t.cursor.col) (fun _ => Iff.rfl) blind_id
    ((blind_put c width).comp shifted)
  intro t
  dsimp only
  rw [place_eq, place_eq]
  exact placed t

/-- Printing is the place where most of these meet: a wrap, an insertion and a character. -/
theorem blind_print (c : Char) : Blind fun t => t.print c := by
  intro t
  dsimp only [print]
  split
  · exact blind_combine c t
  next width _ => exact (blind_place c _).comp (blind_wrapFor _) t

/-! ### Modes -/

/-- Choosing the other screen puts the window of the primary one at the end by itself. -/
theorem blind_switchScreen (toAlternate : Bool) : Blind fun t => t.switchScreen toAlternate :=
  Blind.ite (fun _ => Iff.rfl) blind_id fun _ => rfl

theorem blind_saveCursor : Blind saveCursor := blind_modifyCursor fun _ => rfl

/-- Only the modes that choose a screen touch one at all. The window that is left there is brought
to the live end, with or without a window before. -/
theorem blind_setPrivateMode (mode : Nat) (enable : Bool) :
    Blind fun t => t.setPrivateMode mode enable := by
  intro t
  dsimp only [setPrivateMode]
  split
  · rfl
  · have shown : Blind fun t => t.modifyCursor fun c => { c with visible := enable } :=
      blind_modifyCursor fun _ => rfl
    exact shown t
  · exact blind_switchScreen enable t
  · exact blind_switchScreen enable t
  · split
    · exact blind_saveCursor t
    · exact blind_restoreCursor t
  · split
    · exact congrArg (fun t : Terminal => { t with alternateCursor := {} })
        ((blind_switchScreen true).comp blind_saveCursor t)
    · exact blind_restoreCursor.comp (blind_switchScreen false) t
  · rfl

theorem blind_setMode (mode : Nat) (enable : Bool) : Blind fun t => t.setMode mode enable := by
  intro t
  dsimp only [setMode]
  split <;> rfl

/-! ### All of them -/

/-- No operation sees the window. So terminals that differ in the window alone differ in nothing
else afterwards. -/
theorem blind_perform (op : Operation) : Blind fun t => op.perform t := by
  cases op with
  | print c => exact blind_print c
  | lineFeed => exact blind_lineFeed
  | index => exact blind_index
  | reverseIndex => exact blind_reverseIndex
  | restoreCursor => exact blind_restoreCursor
  | scrollUp n => exact blind_scrollUp n
  | scrollDown n => exact blind_scrollDown n
  | insertLines n => exact blind_insertLines n
  | deleteLines n => exact blind_deleteLines n
  | insertChars n => exact blind_insertChars n
  | deleteChars n => exact blind_modifyCursorRow fun _ => rfl
  | eraseChars n => exact blind_modifyCursorRow fun _ => rfl
  | eraseLine mode => exact blind_eraseLine mode
  | eraseDisplay mode => exact blind_eraseDisplay mode
  | setRegion top bottom => exact blind_setRegion top bottom
  | setMode mode enable => exact blind_setMode mode enable
  | setPrivateMode mode enable => exact blind_setPrivateMode mode enable
  | selectRendition params => exact fun _ => rfl
  | setTitle title => exact fun _ => rfl
  | reset => exact fun _ => rfl
  -- What is left moves the cursor.
  | _ => exact blind_modifyCursor fun _ => rfl

/-- Nor does a list of operations. At each step the window may stand elsewhere, which is why being
blind is stated up to the window. -/
theorem blind_performAll (operations : List Operation) :
    Blind fun t => Operation.performAll t operations := by
  induction operations with
  | nil => exact blind_id
  | cons op rest ih => exact ih.comp (blind_perform op)

/-- Nor does a token of an output stream. -/
theorem blind_execute (token : Token) : Blind fun t => t.execute token := by
  intro t
  dsimp only
  rw [execute_eq_performAll, execute_eq_performAll]
  exact blind_performAll _ t

/-- No reply depends on the window. -/
theorem reply?_toEnd (t : Terminal) (token : Token) : t.toEnd.reply? token = t.reply? token := by
  cases token with
  | sequence s =>
    have same : t.toEnd.answer? = t.answer? := by
      funext f
      cases f <;> rfl
    simp only [reply?, same]
  | _ => rfl

/-- Neither does an overflow: the cursor is the same. -/
theorem overflows_toEnd (t : Terminal) (token : Token) : t.toEnd.overflows token = t.overflows token := by
  cases token <;> rfl

/-- A change of the size does not depend on the window. -/
theorem toEnd_resize (t : Terminal) (cols rows : Nat) :
    (t.resize cols rows).toEnd = (t.toEnd.resize cols rows).toEnd := by
  by_cases same : cols = t.cols ∧ rows = t.rows
  · have same' : cols = t.toEnd.cols ∧ rows = t.toEnd.rows := same
    rw [resize, resize, if_pos same, if_pos same']
    rfl
  · have changed : ¬ (cols = t.toEnd.cols ∧ rows = t.toEnd.rows) := same
    rw [resize, resize, if_neg same, if_neg changed]
    rfl

/-- A window at the end is allowed in any history. -/
theorem WellFormed.toEnd {limit : Nat} {t : Terminal} (wf : t.WellFormed limit) :
    t.toEnd.WellFormed limit :=
  { wf with primary := wf.primary.withOffset (Nat.zero_le _) }

/-- A movement of the window changes nothing else. -/
theorem WellFormed.toEnd_scrollWindow {limit : Nat} {t : Terminal} (wf : t.WellFormed limit)
    (delta : Int) : (t.scrollWindow delta).toEnd = t.toEnd := by
  have alternate_eq : t.alternate.moveWindow delta = t.alternate := wf.alternate.moveWindow_eq delta
  have primary_eq : (t.primary.moveWindow delta).toEnd = t.primary.toEnd :=
    t.primary.toEnd_moveWindow delta
  unfold Terminal.scrollWindow Terminal.modifyScreen
  split
  · exact congrArg (fun s : Screen => { t.toEnd with alternate := s }) alternate_eq
  · exact congrArg (fun s : Screen => { t with primary := s }) primary_eq

end Terminal

/-! ### Emulators -/

namespace Emulator

/-- The emulator with the window of its primary screen at the live end. -/
def toEnd (e : Emulator) : Emulator := { e with terminal := e.terminal.toEnd }

/-- The emulator around a terminal replies, notes and counts the same, wherever the window
stands. -/
theorem toEnd_execute (e : Emulator) (token : Token) :
    (e.execute token).toEnd = (e.toEnd.execute token).toEnd := by
  have terminal_eq := Terminal.blind_execute token e.terminal
  have reply_eq := e.terminal.reply?_toEnd token
  have overflows_eq := e.terminal.overflows_toEnd token
  simp only [execute, toEnd, terminal_eq, reply_eq, overflows_eq]

theorem toEnd_foldl_execute (e : Emulator) (tokens : List Token) :
    (tokens.foldl execute e).toEnd = (tokens.foldl execute e.toEnd).toEnd := by
  induction tokens generalizing e with
  | nil => rfl
  | cons token rest ih =>
    rw [List.foldl_cons, List.foldl_cons, ih, toEnd_execute, ← ih]

/-- What is read does not depend on the window. -/
theorem toEnd_feed (e : Emulator) (bytes : List UInt8) :
    (e.feed bytes).toEnd = (e.toEnd.feed bytes).toEnd := by
  induction bytes generalizing e with
  | nil => rfl
  | cons b rest ih =>
    have read : (e.feedByte b).toEnd = (e.toEnd.feedByte b).toEnd :=
      toEnd_foldl_execute { e with scanner := (e.scanner.step b).1 } (e.scanner.step b).2
    rw [feed_cons, feed_cons, ih, read, ← ih]

end Emulator

end TerminalSession
