import TerminalSession.Text.Pictures
import TerminalSession.Text.Width

/-!
# Width of messages

How many columns a text takes that is written at once, where neighbours change each other.

## Main definitions

* `Neighbour`: what the characters after a place begin with
* `addBefore`: one more character before them, and the columns it adds
* `textWidth`: the width of a text

## Design notes

* Pictures that joiners connect are drawn as one picture, and so is a picture with a skin tone. All
  columns are counted for the last one of them, so a text is measured from its end.
* Control characters count one column here, except line feed and the return before it.
-/

namespace TerminalSession.Text

/-- What the characters after a place begin with, as far as it changes how wide a character is
shown. -/
inductive Neighbour where
  | plain
  | lineFeed
  /-- The selector that asks for a picture. -/
  | selector
  | picture
  | tone
  /-- A joiner and a picture. -/
  | joined
  /-- The selector, a joiner and a picture. -/
  | selectorJoined
  | alef
  deriving DecidableEq, Repr

/-- The selector that asks for the picture form of the character before it. -/
def pictureSelector : Char := '\uFE0F'

/-- The joiner that connects pictures. -/
def joiner : Char := '\u200D'

/-- A character on its own: its columns, and what it begins for the character before it. A control
character takes one column here. -/
def single (c : Char) : Nat × Neighbour :=
  if c = '\n' then (0, .lineFeed)
  else if c = pictureSelector then (0, .selector)
  else if CodeRange.covers tones c then (2, .tone)
  else if CodeRange.covers pictures c then (2, .picture)
  else if CodeRange.covers alefs c then (1, .alef)
  else ((charWidth? c).getD 1, .plain)

/-- One more character before others: the columns it adds, and what it begins with them. Only what
comes right after it matters, and of that only how it begins. -/
def addBefore (c : Char) (next : Neighbour) : Nat × Neighbour :=
  match next with
  | .lineFeed => if c = '\r' then (0, .plain) else single c
  | .selector => if CodeRange.covers textPictographs c then (2, .picture) else single c
  | .selectorJoined => if CodeRange.covers textPictographs c then (0, .picture) else single c
  | .picture => if c = joiner then (0, .joined) else single c
  | .tone =>
    if CodeRange.covers toneBases c then (0, .picture)
    else if c = joiner then (0, .joined)
    else single c
  | .joined =>
    if c = pictureSelector then (0, .selectorJoined)
    else if CodeRange.covers tones c then (0, .tone)
    else if CodeRange.covers pictures c then (0, .picture)
    else single c
  | .alef =>
    if CodeRange.covers lams c then (0, .plain)
    else if takesNoColumn c then (0, .alef)
    else single c
  | .plain => single c

/-- A text measured from its end: its columns, and what it begins with. The end is no neighbour to
anything. -/
def measure (text : Text) : Nat × Neighbour :=
  text.foldr
    (fun c rest =>
      let (columns, begun) := addBefore c rest.2
      (rest.1 + columns, begun))
    (0, .plain)

/-- The width of a text that is written at once. -/
def textWidth (text : Text) : Nat := (measure text).1

end TerminalSession.Text
