import TerminalSession.Text.Combining
import TerminalSession.Text.Wide

/-!
# Display width

How many columns characters take on a screen. Ambiguous characters take one column.

## Main definitions

* `isControl`: the control characters, which have no width at all
* `charWidth?`: the width of one character, 0, 1 or 2
* `charWidth`: the same with 0 where there is none

## Main statements

* `charWidth_le_two`: no character is wider than two columns
* `charWidth?_eq_none_iff`: the control characters are those without a width

## Design notes

* Widths are those of release 0.1.14 of the package unicode-width, whose tables follow Unicode 15.1.
  Another release gives some characters another width.
* What is proved of every text does not depend on the tables: the proofs use the two statements
  above and that a space takes one column, and none looks into `Text.Wide` or `Text.Combining`.
-/

namespace TerminalSession.Text

/-- The control characters U+0000 to U+001F and U+007F to U+009F, which are the only ones without a
width. -/
def isControl (c : Char) : Bool :=
  c.toNat < 0x20 || (0x7F ≤ c.toNat && c.toNat < 0xA0)

/-- Whether a character is drawn over or inside the one before it. An initial Hangul filler is
ignorable, but stands for a whole syllable. -/
def takesNoColumn (c : Char) : Bool :=
  c != '\u115F' &&
    (CodeRange.covers extenders c || CodeRange.covers ignorables c ||
      CodeRange.covers joiningJamo c || CodeRange.covers abovePrevious c)

/-- The width of a character; control characters have none. The tables are asked in this order,
since some characters are in more than one of them. -/
def charWidth? (c : Char) : Option Nat :=
  if isControl c then none
  else if c.toNat < 0x7F then some 1
  else if takesNoColumn c then some 0
  else if CodeRange.covers wideRanges c then some 2
  else some 1

/-- The width of a character, with 0 for control characters. -/
def charWidth (c : Char) : Nat :=
  (charWidth? c).getD 0

/-- No character is wider than two columns, so that a character is one cell or a cell with one
continuation. -/
theorem charWidth_le_two (c : Char) : charWidth c ≤ 2 := by
  unfold charWidth charWidth?
  split
  · simp
  · split
    · simp
    · split
      · simp
      · split <;> simp

/-- A character that has no width is a control character. The tables have no part in this: what they
leave out takes one column. -/
theorem charWidth?_eq_none_iff (c : Char) : charWidth? c = none ↔ isControl c = true := by
  unfold charWidth?
  constructor
  · intro h
    by_cases hc : isControl c = true
    · exact hc
    · simp only [hc, Bool.false_eq_true, if_false] at h
      split at h
      · simp at h
      · split at h
        · simp at h
        · split at h <;> simp at h
  · intro h
    simp [h]

end TerminalSession.Text
