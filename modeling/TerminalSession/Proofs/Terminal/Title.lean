import TerminalSession.Proofs.Terminal.Frame
import TerminalSession.Proofs.Text.Lossy

/-!
# The title

The title of a terminal is the one that was set last, or none was set since it began.

## Main statements

* `Terminal.title_perform`, `Terminal.title_performAll`: where the title comes from
* `Terminal.suffix_of_titleOf?`: the title of a command is the end of its text
* `Terminal.byte_mem_of_mem_title`: so each of the first 128 characters in it is a byte of the payload
* `Terminal.titleOf?_encode`: all bytes after the first semicolon are the title
-/

namespace TerminalSession.Terminal

theorem title_modifyScreen (t : Terminal) (f : Screen → Screen) :
    (t.modifyScreen f).title = t.title := by
  unfold modifyScreen
  split <;> rfl

theorem title_modifyCursor (t : Terminal) (f : Cursor → Cursor) :
    (t.modifyCursor f).title = t.title := by
  unfold modifyCursor
  split <;> rfl

theorem title_frame (title : Text) : TitledFrame fun t => t.title = title where
  modifyScreen same _ _ := (title_modifyScreen _ _).trans same
  modifyCursor same f := (title_modifyCursor _ f).trans same
  share same _ _ _ := same

theorem title_switchScreen (t : Terminal) (enable : Bool) :
    (t.switchScreen enable).title = t.title := by
  unfold switchScreen
  split <;> rfl

/-- An operation keeps the title, removes it or sets it. -/
theorem title_perform (t : Terminal) (op : Operation) :
    (op.perform t).title = t.title ∨ (op.perform t).title = [] ∨
      op = .setTitle (op.perform t).title := by
  have switches {t' : Terminal} (same : t'.title = t.title) (enable : Bool) :
      (t'.switchScreen enable).title = t.title := (title_switchScreen t' enable).trans same
  cases op with
  | reset => exact .inr (.inl rfl)
  | setTitle title => exact .inr (.inr rfl)
  | _ =>
    exact .inl ((title_frame t.title).perform_of_switches switches rfl Operation.noConfusion rfl)

/-- After a list of operations the title is the old one, or none, or one of them has set it. None is
what beginning anew leaves; no other operation makes up a title. -/
theorem title_performAll (t : Terminal) (operations : List Operation) :
    let title := (Operation.performAll t operations).title
    title = t.title ∨ title = [] ∨ .setTitle title ∈ operations := by
  intro title
  induction operations generalizing t with
  | nil => exact .inl rfl
  | cons op rest ih =>
    obtain kept | none | set := ih (op.perform t)
    · obtain kept' | none | set := t.title_perform op
      · exact .inl (kept.trans kept')
      · exact .inr (.inl (kept.trans none))
      · exact .inr (.inr (List.mem_cons.mpr (.inl (by rw [set]; exact congrArg _ kept))))
    · exact .inr (.inl none)
    · exact .inr (.inr (List.mem_cons_of_mem op set))

/-! ### Commands -/

variable {payload : List UInt8} {title : Text}

/-- The title of a command is the end of its text. -/
theorem suffix_of_titleOf? (found : titleOf? payload = some title) :
    title <:+ Text.Utf8.lossy payload := by
  unfold titleOf? at found
  dsimp only at found
  split at found
  · exact nomatch found
  next _ rest dropped =>
    split at found
    · obtain rfl := Option.some.inj found
      exact (dropped ▸ List.suffix_cons _ rest).trans (List.dropWhile_suffix _)
    · exact nomatch found

/-- So each of the first 128 characters in the title is a byte of the payload. -/
theorem byte_mem_of_mem_title (found : titleOf? payload = some title) {b : UInt8}
    (ascii : b.toNat < 0x80) (mem : Char.ofNat b.toNat ∈ title) : b ∈ payload := by
  have toNat_eq := Text.Utf8.toNat_charOfNat b
  obtain ⟨other, other_mem, eq⟩ := Text.Utf8.exists_of_mem_lossy
    ((suffix_of_titleOf? found).subset mem) (by rw [toNat_eq]; exact ascii)
  obtain rfl : other = b := UInt8.toNat_inj.mp (eq.trans toNat_eq)
  exact other_mem

/-- What comes after the code and a semicolon is the title, further semicolons too. -/
theorem titleOf?_encode {code : Char} (known : code ∈ ['0', '1', '2']) (bytes : List UInt8) :
    titleOf? (Text.Utf8.encode [code, ';'] ++ bytes) = some (Text.Utf8.lossy bytes) := by
  unfold titleOf?
  rw [Text.Utf8.lossy_encode_append]
  simp only [List.mem_cons, List.not_mem_nil, or_false] at known
  obtain rfl | rfl | rfl := known <;> rfl

end TerminalSession.Terminal
