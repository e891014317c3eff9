import TerminalSession.Grid.Style

/-!
# Graphic rendition

The numbers that select colours and emphasis.

## Main definitions

* `Rendition`: one selection, a single number or a colour
* `Rendition.ofParams`: the selections in a list of parameters
* `Rendition.apply`: the style after a selection
* `Style.select`: the style after all of them

## Design notes

* Colours outside the sixteen basic ones take several parameters, `38` or `48` with a kind and its
  values. Parameters that are missing at the end count as 0 for mixtures; a palette colour without
  its entry, or a kind that is not known, selects nothing.
* Colour values are bytes; of a larger parameter the low byte counts.
-/

namespace TerminalSession

/-- Where a colour goes. -/
inductive Layer where
  | foreground
  | background
  deriving DecidableEq, Repr, Inhabited

/-- One selection of a style. A colour may take up to five parameters of a control sequence; every
other selection is made by one. -/
inductive Rendition where
  /-- A parameter that stands for itself. -/
  | attribute (param : Nat)
  /-- A colour for a layer. -/
  | color (layer : Layer) (value : Color)
  deriving DecidableEq, Repr, Inhabited

namespace Rendition

/-- The layer whose colour follows a parameter. -/
def layer? (param : Nat) : Option Layer :=
  if param = 38 then some .foreground else if param = 48 then some .background else none

/-- A mixture of three colour values. -/
def mixture (layer : Layer) (red green blue : Nat) : Rendition :=
  .color layer (.rgb (UInt8.ofNat red) (UInt8.ofNat green) (UInt8.ofNat blue))

/-- The selections in a list of parameters. A parameter that announces a colour takes those with it
that make up the colour; colour values that are missing at the end count as zero. -/
def ofParams : List Nat → List Rendition
  | [] => []
  | param :: rest =>
    match layer? param with
    | none => .attribute param :: ofParams rest
    | some layer =>
      match rest with
      | 5 :: entry :: rest => .color layer (.indexed (UInt8.ofNat entry)) :: ofParams rest
      | 2 :: red :: green :: blue :: rest => mixture layer red green blue :: ofParams rest
      | [2, red, green] => [mixture layer red green 0]
      | [2, red] => [mixture layer red 0 0]
      | [2] => [mixture layer 0 0 0]
      | _ :: rest => ofParams rest
      | [] => []

/-- The style after a colour was selected for a layer. The other layer and all attributes stay as
they are. -/
def setColor (style : Style) (layer : Layer) (value : Color) : Style :=
  match layer with
  | .foreground => { style with foreground := value }
  | .background => { style with background := value }

/-- The style after a parameter that stands for itself. Colors come in runs of eight, the plain ones
and the bright ones of each layer. A parameter that means nothing leaves the style as it is. -/
def setAttribute (style : Style) (param : Nat) : Style :=
  match param with
  | 0 => {}
  | 1 => { style with bold := true }
  | 2 => { style with dim := true }
  | 3 => { style with italic := true }
  | 4 => { style with underline := true }
  | 5 => { style with blink := true }
  | 7 => { style with inverse := true }
  | 8 => { style with hidden := true }
  | 9 => { style with strikethrough := true }
  | 22 => { style with bold := false, dim := false }
  | 23 => { style with italic := false }
  | 24 => { style with underline := false }
  | 25 => { style with blink := false }
  | 27 => { style with inverse := false }
  | 28 => { style with hidden := false }
  | 29 => { style with strikethrough := false }
  | 39 => { style with foreground := .default }
  | 49 => { style with background := .default }
  | param =>
    if 30 ≤ param ∧ param ≤ 37 then { style with foreground := .indexed (UInt8.ofNat (param - 30)) }
    else if 40 ≤ param ∧ param ≤ 47 then
      { style with background := .indexed (UInt8.ofNat (param - 40)) }
    else if 90 ≤ param ∧ param ≤ 97 then
      { style with foreground := .indexed (UInt8.ofNat (param - 90 + 8)) }
    else if 100 ≤ param ∧ param ≤ 107 then
      { style with background := .indexed (UInt8.ofNat (param - 100 + 8)) }
    else style

/-- The style after a selection. Selections are applied one after the other, so the last one of a
kind counts. -/
def apply (style : Style) : Rendition → Style
  | .attribute param => setAttribute style param
  | .color layer value => setColor style layer value

end Rendition

/-- The style after a list of parameters was selected; no parameter at all selects the plain
style. -/
def Style.select (style : Style) (params : List Nat) : Style :=
  if params.isEmpty then {} else (Rendition.ofParams params).foldl Rendition.apply style

end TerminalSession
