import TerminalSession.Control.Scanner

/-!
# Bytes that steer

In sequences and in strings that are skipped, a byte does no more than to steer the reading: it shows
nothing and completes no command, and nothing that was read of a character or of a command is left over.

## Main definitions

* `Token.steers`: the tokens that neither show a character nor carry a payload
* `Scanner.isBare`: the places where no byte of a character or of a command was read
* `Scanner.isSteered`: the places outside of text and of commands
* `Scanner.Steers`: what a byte does there
* `Scanner.Shown`: the characters that a byte of text shows

## Main statements

* `Scanner.steers_step`: at such a place every byte steers
* `Scanner.steers_or_shown_of_mem_inText`: in text it steers or shows characters

## Design notes

* A property of what was read of a character or of a command holds at every bare place. To prove that
  it lasts, one need only look at text and at commands.
-/

namespace TerminalSession

/-- Whether a token neither shows a character nor carries a payload. Such tokens are the same for
all texts that surround them. -/
def Token.steers : Token → Bool
  | .print _ => false
  | .command _ => false
  | _ => true

namespace Scanner

/-- Whether no byte of a character or of a command was read, so that nothing is kept that a later
byte could complete. -/
def isBare : Scanner → Bool
  | .text part => part.isEmpty
  | .command payload => payload.isEmpty
  | .commandEscape _ => false
  | _ => true

/-- Whether the place is neither in text nor in a command: what is read there is never shown, nor
taken for a title. -/
def isSteered : Scanner → Bool
  | .text _ => false
  | .command _ => false
  | .commandEscape _ => false
  | _ => true

/-- What was read steers, and leaves nothing over: all tokens are others than text, and the stream
is not in the middle of a character. -/
structure Steers (read : Scanner × List Token) : Prop where
  bare : read.1.isBare = true
  tokens : ∀ token ∈ read.2, token.steers = true

/-- Nothing, or one token that steers. -/
theorem steers_none {s : Scanner} (bare : s.isBare = true) : Steers (s, []) :=
  ⟨bare, fun _ mem => nomatch mem⟩

theorem steers_one {s : Scanner} (bare : s.isBare = true) {token : Token}
    (steers : token.steers = true) : Steers (s, [token]) :=
  ⟨bare, fun _ mem => List.mem_singleton.mp mem ▸ steers⟩

theorem steers_control {s : Scanner} (bare : s.isBare = true) (b : UInt8) :
    Steers (s.control b) := by
  unfold control
  split
  · exact steers_none rfl
  split
  · exact steers_none rfl
  · exact steers_one bare rfl

theorem steers_afterEscape (b : UInt8) : Steers (afterEscape b) := by
  unfold afterEscape
  split
  · exact steers_none rfl
  split
  · exact steers_none rfl
  split
  · exact steers_none rfl
  split
  · exact steers_none rfl
  · exact steers_one rfl rfl

theorem steers_inStart (intermediates : List UInt8) (b : UInt8) :
    Steers (inStart intermediates b) := by
  unfold inStart
  split
  · exact steers_none rfl
  split
  · exact steers_none rfl
  split
  · exact steers_none rfl
  split
  · exact steers_none rfl
  split
  · exact steers_one rfl rfl
  · exact steers_none rfl

theorem steers_inParams (intermediates : List UInt8) (params : List Nat) (current : Option Nat)
    (b : UInt8) : Steers (inParams intermediates params current b) := by
  unfold inParams
  split
  · exact steers_none rfl
  split
  · exact steers_none rfl
  split
  · exact steers_none rfl
  split
  · exact steers_one rfl rfl
  · exact steers_none rfl

theorem steers_inIntermediate (intermediates : List UInt8) (params : List Nat) (b : UInt8) :
    Steers (inIntermediate intermediates params b) := by
  unfold inIntermediate
  split
  · exact steers_none rfl
  split
  · exact steers_one rfl rfl
  · exact steers_none rfl

/-- Where a control character comes before what else a byte may be. -/
theorem steers_unless_control {s : Scanner} (bare : s.isBare = true) {b : UInt8}
    {read : Scanner × List Token} (steers : Steers read) :
    Steers (if isControlByte b then s.control b else read) := by
  split
  · exact steers_control bare b
  · exact steers

/-- Outside of text and of commands every byte steers. -/
theorem steers_step {s : Scanner} (steered : s.isSteered = true) (b : UInt8) :
    Steers (s.step b) := by
  unfold step
  cases s with
  | text part => exact nomatch steered
  | command payload => exact nomatch steered
  | commandEscape payload => exact nomatch steered
  | ignored =>
    dsimp only
    split
    · exact steers_none rfl
    split <;> exact steers_none rfl
  | ignoredEscape =>
    dsimp only
    split <;> exact steers_none rfl
  | escape => exact steers_unless_control rfl (steers_afterEscape b)
  | escapeIntermediate =>
    refine steers_unless_control rfl ?_
    split <;> exact steers_none rfl
  | sequenceStart intermediates => exact steers_unless_control rfl (steers_inStart _ b)
  | sequenceParams intermediates params current =>
    exact steers_unless_control rfl (steers_inParams _ _ _ b)
  | sequenceIntermediate intermediates params =>
    exact steers_unless_control rfl (steers_inIntermediate _ _ b)
  | sequenceIgnored =>
    refine steers_unless_control rfl (steers_none ?_)
    split <;> rfl

/-! ### Text -/

/-- The characters that a byte of text shows: the one that it is, the one that it completes, and the
replacement of one that it cuts off. -/
inductive Shown (part : Text.Utf8.Partial) (b : UInt8) : Char → Prop
  | single (graphic : isControlByte b = false) : Shown part b (charOfByte b)
  | completed {c : Char} (pushed : (part.push b).2 = some c) : Shown part b c
  | cut : Shown part b Text.Utf8.replacement

/-- A byte of text steers or shows characters. -/
theorem steers_or_shown_of_mem_inText {part : Text.Utf8.Partial} {b : UInt8} {token : Token}
    (mem : token ∈ (inText part b).2) :
    token.steers = true ∨ ∃ c, token = .print c ∧ Shown part b c := by
  have single (mem : token ∈
      (if isControlByte b then control ground b else (ground, [.print (charOfByte b)])).2) :
      token.steers = true ∨ ∃ c, token = .print c ∧ Shown part b c := by
    split at mem
    · exact .inl ((steers_control rfl b).tokens token mem)
    next graphic =>
      exact .inr ⟨_, List.mem_singleton.mp mem, .single (Bool.eq_false_iff.mpr graphic)⟩
  unfold inText at mem
  split at mem
  · dsimp only at mem
    split at mem
    · exact single mem
    · obtain rfl | mem := List.mem_cons.mp mem
      · exact .inr ⟨_, rfl, .cut⟩
      · exact single mem
  · obtain ⟨c, pushed, rfl⟩ : ∃ c, (part.push b).2 = some c ∧ Token.print c = token := by
      simpa using mem
    exact .inr ⟨c, rfl, .completed pushed⟩

end Scanner

end TerminalSession
