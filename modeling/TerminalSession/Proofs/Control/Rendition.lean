import TerminalSession.Control.Rendition

/-!
# Several selections at once

A list of parameters can select several things. Each selection consumes its own parameters and no other
ones, so the style after the list is the style after the selections one by one.

## Main definitions

* `Rendition.Item`: a selection as a program writes it
* `Rendition.Item.params`: its parameters
* `Style.after`: what a selection makes of each part of a style

## Main statements

* `Rendition.apply_rendition`: what is selected is what `Style.after` says
* `Style.select_flatMap`: a list of parameters selects what its items select from the left to the right

## Design notes

* `Rendition.setAttribute` says for each parameter which parts of a style it changes. `Style.after` says
  for each part which parameters change it, so that a parameter that is missed, or that changes too much,
  makes a difference.
* A parameter is a word of 16 bits. A colour value has the lower eight of them.
-/

namespace TerminalSession

/-! ### Selections -/

/-- The parameter that announces a colour for a layer. -/
def Layer.param : Layer → Nat
  | .foreground => 38
  | .background => 48

/-- A selection as a program writes it: a parameter that announces no colour, or a colour with all of
its parameters. -/
inductive Rendition.Item where
  | single (param : UInt16) (plain : param ≠ 38 ∧ param ≠ 48)
  | palette (layer : Layer) (entry : UInt16)
  | mixture (layer : Layer) (red green blue : UInt16)
  deriving DecidableEq, Repr

namespace Rendition.Item

/-- The parameters of a selection. A colour takes three of them from the palette, and five when it
is mixed. -/
def params : Item → List Nat
  | single param _ => [param.toNat]
  | palette layer entry => [layer.param, 5, entry.toNat]
  | mixture layer red green blue => [layer.param, 2, red.toNat, green.toNat, blue.toNat]

/-- What the parameters of a selection are read as. The numbers of a colour are cut to a byte
each. -/
def rendition : Item → Rendition
  | single param _ => .attribute param.toNat
  | palette layer entry => .color layer (.indexed entry.toUInt8)
  | mixture layer red green blue => .color layer (.rgb red.toUInt8 green.toUInt8 blue.toUInt8)

theorem params_ne_nil (item : Item) : item.params ≠ [] := by
  cases item <;> exact List.cons_ne_nil _ _

theorem length_params_le (item : Item) : item.params.length ≤ 5 := by
  cases item <;> simp [params]

theorem lt_of_mem_params {item : Item} {param : Nat} (mem : param ∈ item.params) : param < 65536 := by
  have layer_lt (layer : Layer) : layer.param < 65536 := by cases layer <;> decide
  cases item <;> simp only [params, List.mem_cons, List.not_mem_nil, or_false] at mem
  case single word _ => exact mem ▸ word.toNat_lt
  case palette layer entry =>
    obtain rfl | rfl | rfl := mem
    · exact layer_lt layer
    · decide
    · exact entry.toNat_lt
  case mixture layer red green blue =>
    obtain rfl | rfl | rfl | rfl | rfl := mem
    · exact layer_lt layer
    · decide
    · exact red.toNat_lt
    · exact green.toNat_lt
    · exact blue.toNat_lt

end Rendition.Item

/-! ### What a selection does -/

/-- A flag that one parameter sets, and that another one and zero clear. -/
def Rendition.flagAfter (sets clears param : Nat) (flag : Bool) : Bool :=
  if param = sets then true else if param = 0 ∨ param = clears then false else flag

/-- A colour that is chosen among eight from `base` on and among eight brighter ones from `base + 60` on,
and that zero and `base + 9` take back. -/
def Rendition.colorAfter (base param : Nat) (color : Color) : Color :=
  if param = 0 ∨ param = base + 9 then .default
  else if base ≤ param ∧ param < base + 8 then .indexed (UInt8.ofNat (param - base))
  else if base + 60 ≤ param ∧ param < base + 68 then .indexed (UInt8.ofNat (param - base - 60 + 8))
  else color

namespace Style

open Rendition (Item flagAfter colorAfter)

/-- The style after a parameter that announces no colour. Each part of the style is changed by its
own numbers only, and a number of no part changes none. -/
def afterParam (style : Style) (param : Nat) : Style where
  foreground := colorAfter 30 param style.foreground
  background := colorAfter 40 param style.background
  bold := flagAfter 1 22 param style.bold
  dim := flagAfter 2 22 param style.dim
  italic := flagAfter 3 23 param style.italic
  underline := flagAfter 4 24 param style.underline
  blink := flagAfter 5 25 param style.blink
  inverse := flagAfter 7 27 param style.inverse
  hidden := flagAfter 8 28 param style.hidden
  strikethrough := flagAfter 9 29 param style.strikethrough

/-- The style with a colour in a layer. -/
def withColor (style : Style) (layer : Layer) (color : Color) : Style :=
  { style with
    foreground := if layer = .foreground then color else style.foreground
    background := if layer = .background then color else style.background }

/-- The style after a selection: the reference that the fold over the parameters is compared
with. -/
def after (style : Style) : Item → Style
  | .single param _ => style.afterParam param.toNat
  | .palette layer entry => style.withColor layer (.indexed entry.toUInt8)
  | .mixture layer red green blue =>
    style.withColor layer (.rgb red.toUInt8 green.toUInt8 blue.toUInt8)

end Style

namespace Rendition

/-- A parameter changes the parts of a style that are said to depend on it, and no others. -/
theorem setAttribute_eq (style : Style) (param : Nat) :
    setAttribute style param = style.afterParam param := by
  -- Where nothing changes, the style is compared with itself part by part.
  cases style
  unfold setAttribute
  split
  any_goals rfl
  -- What is left are the parameters that are compared with ranges.
  next => grind [Style.afterParam, flagAfter, colorAfter]

theorem setColor_eq (style : Style) (layer : Layer) (color : Color) :
    setColor style layer color = style.withColor layer color := by
  cases layer <;> rfl

/-- What the parameters of a selection are read as does what is said of the selection. -/
theorem apply_rendition (style : Style) (item : Item) :
    apply style item.rendition = style.after item := by
  cases item with
  | single param plain => exact setAttribute_eq style param.toNat
  | palette layer entry => exact setColor_eq style layer _
  | mixture layer red green blue => exact setColor_eq style layer _

/-! ### Reading a list -/

/-- A selection takes its own parameters from a list, whatever comes after them. -/
theorem ofParams_params_append (item : Item) (rest : List Nat) :
    ofParams (item.params ++ rest) = item.rendition :: ofParams rest := by
  cases item with
  | single param plain =>
    have announces_none : layer? param.toNat = none := by
      have not_foreground : param.toNat ≠ 38 := fun eq => plain.1 (UInt16.toNat_inj.mp eq)
      have not_background : param.toNat ≠ 48 := fun eq => plain.2 (UInt16.toNat_inj.mp eq)
      rw [layer?, if_neg not_foreground, if_neg not_background]
    simp [Item.params, Item.rendition, ofParams, announces_none]
  | palette layer entry => cases layer <;> rfl
  | mixture layer red green blue => cases layer <;> rfl

theorem ofParams_flatMap (items : List Item) :
    ofParams (items.flatMap Item.params) = items.map Item.rendition := by
  induction items with
  | nil => rfl
  | cons item rest ih => rw [List.flatMap_cons, ofParams_params_append, ih, List.map_cons]

end Rendition

open Rendition (Item) in
/-- The parameters of some selections select what these do one after another. -/
theorem Style.select_flatMap (style : Style) {items : List Item} (some_item : items ≠ []) :
    style.select (items.flatMap Item.params) = items.foldl Style.after style := by
  obtain ⟨item, rest, rfl⟩ := List.exists_cons_of_ne_nil some_item
  have some_param : ((item :: rest).flatMap Item.params).isEmpty = false := by
    rw [List.isEmpty_eq_false_iff, List.flatMap_cons]
    exact List.append_ne_nil_of_left_ne_nil item.params_ne_nil _
  rw [select, some_param, Rendition.ofParams_flatMap, List.foldl_map]
  simp only [Bool.false_eq_true, if_false, Rendition.apply_rendition]

end TerminalSession
