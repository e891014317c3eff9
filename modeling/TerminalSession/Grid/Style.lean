/-!
# Colours and styles

How a character is drawn.

## Main definitions

* `Color`: the colour of a character or of the space behind it
* `Style`: both colours and the eight ways of emphasis
-/

namespace TerminalSession

/-- A colour: the one of the display, an entry of its palette, or a mixture. -/
inductive Color where
  | default
  | indexed (entry : UInt8)
  | rgb (red green blue : UInt8)
  deriving DecidableEq, Repr, Inhabited

/-- How a character is drawn. The plain style is `{}`, in which nothing but the glyph is to be
seen. -/
structure Style where
  foreground : Color := .default
  background : Color := .default
  bold : Bool := false
  dim : Bool := false
  italic : Bool := false
  underline : Bool := false
  blink : Bool := false
  inverse : Bool := false
  hidden : Bool := false
  strikethrough : Bool := false
  deriving DecidableEq, Repr, Inhabited

end TerminalSession
