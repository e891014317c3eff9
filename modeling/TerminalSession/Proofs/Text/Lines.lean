import TerminalSession.Text.Lines

/-!
# Lines and their columns

## Main statements

* `Text.columns_append`, `Text.columns_replicate_space`: the columns of a text that is put together
* `Text.prefix_fitting_iff`: what fits into a number of columns is the longest such beginning
* `Text.columns_fillRow`: a text that fills a row takes just its columns
* `Text.lines_intercalate`: lines that were joined by line feeds are found again
-/

namespace TerminalSession.Text

/-! ### Columns -/

@[simp] theorem columns_append (text rest : Text) :
    columns (text ++ rest) = columns text + columns rest := by
  induction text with
  | nil => simp
  | cons c text ih => rw [List.cons_append, columns_cons, columns_cons, ih, Nat.add_assoc]

theorem charWidth_space : charWidth ' ' = 1 := by decide

@[simp] theorem columns_replicate_space (n : Nat) : columns (List.replicate n ' ') = n := by
  induction n with
  | zero => rfl
  | succ n ih =>
    rw [List.replicate_succ, columns_cons, ih, charWidth_space]
    omega

/-! ### Filling a row -/

/-- What fits is the longest beginning of the text that does: the others that do are the beginnings
of it. So nothing that would still have had room is left out. -/
theorem prefix_fitting_iff (width : Nat) (text other : Text) :
    other <+: fitting width text ↔ other <+: text ∧ columns other ≤ width := by
  induction text generalizing width other with
  | nil => simp +contextual
  | cons c rest ih =>
    cases other with
    | nil => simp
    | cons d other =>
      rw [fitting, columns_cons, List.cons_prefix_cons]
      split
      next fits =>
        rw [List.cons_prefix_cons, ih, and_assoc]
        refine and_congr_right fun eq => and_congr_right fun _ => ?_
        subst eq
        omega
      next too_wide =>
        -- Nothing is taken past a character that is too wide, not even a narrower one.
        rw [List.prefix_nil]
        refine iff_of_false (List.cons_ne_nil d other) ?_
        rintro ⟨⟨rfl, -⟩, le⟩
        omega

/-- A text that fills a row takes just its columns. -/
@[simp] theorem columns_fillRow (width : Nat) (text : Text) :
    columns (fillRow width text) = width := by
  have le := columns_fitting_le width text
  rw [fillRow, columns_append, columns_replicate_space]
  omega

/-- A row is filled with characters of the text and spaces. -/
theorem mem_of_mem_fillRow {width : Nat} {text : Text} {c : Char} (mem : c ∈ fillRow width text) :
    c ∈ text ∨ c = ' ' := by
  obtain taken | filled := List.mem_append.mp mem
  · have begins := ((prefix_fitting_iff width text _).mp List.prefix_rfl).1
    exact .inl (begins.subset taken)
  · exact .inr (List.eq_of_mem_replicate filled)

/-! ### Lines -/

/-- Text without a line feed belongs to the line that was begun. -/
theorem linesAfter_append {text : Text} (one_line : '\n' ∉ text) (begun rest : Text) :
    linesAfter begun (text ++ rest) = linesAfter (text.reverse ++ begun) rest := by
  induction text generalizing begun with
  | nil => rfl
  | cons c text ih =>
    have c_ne : c ≠ '\n' := fun eq => one_line (eq ▸ List.mem_cons_self)
    have rest_one_line : '\n' ∉ text := fun mem => one_line (List.mem_cons_of_mem _ mem)
    rw [List.cons_append, linesAfter, if_neg c_ne, ih rest_one_line]
    simp

theorem lines_of_not_mem {text : Text} (one_line : '\n' ∉ text) : lines text = [text] := by
  have all := linesAfter_append one_line [] []
  simpa [lines, linesAfter] using all

theorem lines_append {text : Text} (one_line : '\n' ∉ text) (rest : Text) :
    lines (text ++ '\n' :: rest) = text :: lines rest := by
  rw [lines, linesAfter_append one_line, linesAfter, if_pos rfl]
  simp [lines]

/-- Lines that were joined by line feeds are found again. -/
theorem lines_intercalate {list : List Text} (ne_nil : list ≠ [])
    (one_line : ∀ text ∈ list, '\n' ∉ text) : lines (['\n'].intercalate list) = list := by
  induction list with
  | nil => exact absurd rfl ne_nil
  | cons text rest ih =>
    have text_one_line := one_line text List.mem_cons_self
    cases rest with
    | nil => simpa using lines_of_not_mem text_one_line
    | cons next rest =>
      have rest_one_line : ∀ text ∈ next :: rest, '\n' ∉ text :=
        fun text mem => one_line text (List.mem_cons_of_mem _ mem)
      rw [List.intercalate_cons_cons, List.append_assoc, List.singleton_append,
        lines_append text_one_line, ih (List.cons_ne_nil _ _) rest_one_line]

end TerminalSession.Text
