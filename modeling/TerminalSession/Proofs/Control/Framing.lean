import Mathlib.Data.List.TakeWhile
import TerminalSession.Control.Function
import TerminalSession.Proofs.Control.Scanner
import TerminalSession.Proofs.Emulator.Operations

/-!
# The frame of a control sequence

A control sequence begins with `ESC [` and ends with its final byte, whatever is in between. What is in
between decides whether it asks for anything.

## Main definitions

* `ControlSequence.spelling`: the bytes of a control sequence
* `ControlSequence.isWellShaped`: markers of one family, and then parameters
* `Scanner.Reads`: where the scanner is in the middle of a control sequence

## Main statements

* `Scanner.Reads.run`: up to the final byte the scanner is in the sequence, and has no tokens
* `Scanner.function?_of_mem_run_spelling`: a sequence of another shape asks for no function
* `Scanner.run_spelling`: a sequence of this shape is one token

## Design notes

* The intermediates of a token do not tell where they came. An intermediate after the parameters and
  the marker `!` before them are both foreign, so it is enough to know of one of them.
-/

namespace TerminalSession

namespace ControlSequence

/-- The bytes that a control sequence may have between `ESC [` and its final byte. -/
def isInner (b : UInt8) : Bool := 0x20 ≤ b && b ≤ 0x3F

/-- The digits and the separators `:` and `;`, of which parameters are made. -/
def isField (b : UInt8) : Bool := 0x30 ≤ b && b ≤ 0x3B

/-- The markers `>` and `?`, which tell the families of functions. -/
def isFamily (b : UInt8) : Bool := b == 0x3E || b == 0x3F

/-- Parameters: digits and separators. A colon does not come first. -/
def isFields (fields : List UInt8) : Bool := fields.all isField && fields.head? != some 0x3A

/-- No marker, or `?` any number of times, or `>` any number of times; and then parameters. -/
def isWellShaped (inner : List UInt8) : Bool :=
  let markers := inner.takeWhile isFamily
  (markers.all (· == 0x3F) || markers.all (· == 0x3E)) && isFields (inner.dropWhile isFamily)

/-- The bytes of a control sequence, from `ESC` to its final byte. -/
def spelling (inner : List UInt8) (final : UInt8) : List UInt8 :=
  0x1B :: 0x5B :: (inner ++ [final])

/-! ### Ranges of bytes -/

section Ranges

variable {b : UInt8}

/-- The ranges of bytes are compared as numbers, so that one range can be told from another by
arithmetic. -/
theorem isInner_iff : isInner b = true ↔ 0x20 ≤ b.toNat ∧ b.toNat ≤ 0x3F := by
  simp [isInner, UInt8.le_iff_toNat_le]

theorem isField_iff : isField b = true ↔ 0x30 ≤ b.toNat ∧ b.toNat ≤ 0x3B := by
  simp [isField, UInt8.le_iff_toNat_le]

theorem isFamily_iff : isFamily b = true ↔ b.toNat = 0x3E ∨ b.toNat = 0x3F := by
  simp [isFamily, ← UInt8.toNat_inj]

end Ranges

/-! ### The shape of a sequence -/

/-- Parameters can be continued by any digit or separator. That they do not begin with a colon was
settled with the first of them. -/
theorem isFields_append_singleton {fields : List UInt8} (some_field : fields ≠ [])
    (parameters : isFields fields = true) {b : UInt8} (field : isField b = true) :
    isFields (fields ++ [b]) = true := by
  cases fields with
  | nil => exact absurd rfl some_field
  | cons first rest => simp_all [isFields]

/-- Parameters hold no markers. -/
theorem isFamily_eq_false_of_isField {b : UInt8} (field : isField b = true) :
    isFamily b = false := by
  rw [isField_iff] at field
  rw [Bool.eq_false_iff, ne_eq, isFamily_iff]
  omega

/-- Before parameters there are no markers to be taken off. -/
theorem takeWhile_isFamily {fields : List UInt8} (parameters : isFields fields = true) :
    fields.takeWhile isFamily = [] := by
  cases fields with
  | nil => rfl
  | cons first rest =>
    have field : isField first = true := by simp_all [isFields]
    exact List.takeWhile_cons_of_neg (by simp [isFamily_eq_false_of_isField field])

/-- So nothing is dropped from parameters when the markers are. -/
theorem dropWhile_isFamily {fields : List UInt8} (parameters : isFields fields = true) :
    fields.dropWhile isFamily = fields := by
  have parts := List.takeWhile_append_dropWhile (p := isFamily) (l := fields)
  rwa [takeWhile_isFamily parameters, List.nil_append] at parts

/-- Markers of the two families, followed by parameters, can only be malformed by a mixture. -/
theorem isWellShaped_append {markers fields : List UInt8}
    (family : ∀ b ∈ markers, isFamily b = true) (parameters : isFields fields = true) :
    isWellShaped (markers ++ fields) =
      (markers.all (· == 0x3F) || markers.all (· == 0x3E)) := by
  rw [isWellShaped, List.takeWhile_append_of_pos family, List.dropWhile_append_of_pos family,
    takeWhile_isFamily parameters, dropWhile_isFamily parameters, List.append_nil, parameters,
    Bool.and_true]

/-- A byte of neither family makes a sequence foreign. -/
theorem function?_of_foreign {intermediates : List UInt8}
    (foreign : ∃ b ∈ intermediates, isFamily b = false) (params : List Nat) (final : Char) :
    ({ intermediates, params, final } : ControlSequence).function? = none := by
  obtain ⟨b, mem, other⟩ := foreign
  have is_foreign : isForeign { intermediates, params, final } = true :=
    List.any_eq_true.mpr ⟨b, mem, by simp_all [isFamily]⟩
  rw [function?, if_pos is_foreign]

/-- Markers that are not of one family ask for nothing: with a byte of another kind the sequence is
foreign, and no function belongs to both families. -/
theorem function?_of_not_isWellShaped {markers fields : List UInt8}
    (parameters : isFields fields = true) (malformed : isWellShaped (markers ++ fields) = false)
    (params : List Nat) (final : Char) :
    ({ intermediates := markers, params, final } : ControlSequence).function? = none := by
  by_cases family : ∀ b ∈ markers, isFamily b = true
  · -- Both families are there, and no function belongs to both.
    rw [isWellShaped_append family parameters, Bool.or_eq_false_iff, List.all_eq_false,
      List.all_eq_false] at malformed
    obtain ⟨⟨other, other_mem, other_ne⟩, another, another_mem, another_ne⟩ := malformed
    have secondary : (0x3E : UInt8) ∈ markers := by
      have := family other other_mem
      simp_all [isFamily]
    have priv : (0x3F : UInt8) ∈ markers := by
      have := family another another_mem
      simp_all [isFamily]
    simp [function?, isPrivate, isSecondary, secondary, priv]
  · exact function?_of_foreign (by simpa using family) params final

/-- An intermediate asks for nothing. -/
theorem function?_of_isIntermediate {intermediates : List UInt8}
    (collected : ∃ b ∈ intermediates, Scanner.isIntermediate b = true) (params : List Nat)
    (final : Char) :
    ({ intermediates, params, final } : ControlSequence).function? = none := by
  obtain ⟨b, mem, intermediate⟩ := collected
  have other : isFamily b = false := by
    rw [Scanner.isIntermediate_iff] at intermediate
    rw [Bool.eq_false_iff, ne_eq, isFamily_iff]
    omega
  exact function?_of_foreign ⟨b, mem, other⟩ params final

end ControlSequence

namespace Scanner

open ControlSequence

/-! ### Bytes in the middle of a sequence -/

section Bytes

variable {b : UInt8} {markers : List UInt8}

/-- No byte that a sequence may have inside is executed as a control character, and none ends it. -/
theorem isControlByte_of_isInner (inner : isInner b = true) : isControlByte b = false := by
  rw [isInner_iff] at inner
  rw [Bool.eq_false_iff, ne_eq, isControlByte_iff]
  omega

theorem isControlByte_of_isFinal (ends : isFinal b = true) : isControlByte b = false := by
  rw [isFinal_iff] at ends
  rw [Bool.eq_false_iff, ne_eq, isControlByte_iff]
  omega

theorem isFinal_of_isInner (inner : isInner b = true) : isFinal b = false := by
  rw [isInner_iff] at inner
  rw [Bool.eq_false_iff, ne_eq, isFinal_iff]
  omega

/-- Markers and parameters are bytes that a sequence may have inside. -/
theorem isInner_of_isFamily (family : isFamily b = true) : isInner b = true := by
  rw [isFamily_iff] at family
  rw [isInner_iff]
  omega

theorem isInner_of_isField (field : isField b = true) : isInner b = true := by
  rw [isField_iff] at field
  rw [isInner_iff]
  omega

/-- A digit or a separator, by what the scanner asks of it. -/
theorem isField_eq (b : UInt8) :
    isField b = ((digit? b).isSome || b == 0x3B || b == 0x3A) := by
  rw [Bool.eq_iff_iff, isField_iff]
  simp only [Bool.or_eq_true, isSome_digit?_iff, beq_iff_eq, ← UInt8.toNat_inj]
  change _ ↔ ((0x30 ≤ b.toNat ∧ b.toNat ≤ 0x39) ∨ b.toNat = 0x3B) ∨ b.toNat = 0x3A
  omega

/-- A digit alone is a parameter. -/
theorem isFields_of_digit {digit : Nat} (shown : digit? b = some digit) :
    isFields [b] = true := by
  have no_colon : b ≠ 0x3A := by
    rintro rfl
    exact nomatch shown
  simp [isFields, isField_eq, shown, no_colon]

/-- The first byte of the parameters. -/
theorem inStart_of_isField (field : isFields [b] = true) (markers : List UInt8) :
    ∃ params current, inStart markers b = (.sequenceParams markers params current, []) := by
  obtain ⟨field, no_colon⟩ : isField b = true ∧ b ≠ 0x3A := by simpa [isFields] using field
  rw [isField_eq] at field
  unfold inStart
  cases digit : digit? b with
  | some digit => exact ⟨_, _, rfl⟩
  | none =>
    have semicolon : b = 0x3B := by simpa [digit, no_colon] using field
    exact ⟨_, _, if_pos semicolon⟩

/-- A later byte of the parameters. -/
theorem inParams_of_isField (field : isField b = true) (markers : List UInt8) (params : List Nat)
    (current : Option Nat) : ∃ params' current',
    inParams markers params current b = (.sequenceParams markers params' current', []) := by
  rw [isField_eq] at field
  unfold inParams
  cases digit : digit? b with
  | some digit => exact ⟨_, _, rfl⟩
  | none => exact ⟨_, _, if_pos (by simpa [digit] using field)⟩

/-- A final byte is nothing else. -/
theorem digit?_of_isFinal (ends : isFinal b = true) : digit? b = none := by
  rw [isFinal_iff] at ends
  rw [← Option.not_isSome_iff_eq_none, isSome_digit?_iff]
  omega

/-- A final byte is none of the others, so each part of a sequence can be followed by it and ends
with it. -/
theorem isIntermediate_of_isFinal (ends : isFinal b = true) : isIntermediate b = false := by
  rw [isFinal_iff] at ends
  rw [Bool.eq_false_iff, ne_eq, isIntermediate_iff]
  omega

theorem isMarker_of_isFinal (ends : isFinal b = true) : isMarker b = false := by
  rw [isFinal_iff] at ends
  rw [Bool.eq_false_iff, ne_eq, isMarker_iff]
  omega

theorem ne_separator_of_isFinal (ends : isFinal b = true) : b ≠ 0x3B ∧ b ≠ 0x3A := by
  rw [isFinal_iff] at ends
  simp only [ne_eq, ← UInt8.toNat_inj]
  change ¬ b.toNat = 0x3B ∧ ¬ b.toNat = 0x3A
  omega

/-- A final byte right after the markers makes a token without parameters. -/
theorem inStart_of_isFinal (ends : isFinal b = true) :
    inStart markers b = finish markers [] b := by
  simp [inStart, digit?_of_isFinal ends, ne_separator_of_isFinal ends, isMarker_of_isFinal ends,
    isIntermediate_of_isFinal ends, ends]

/-- A final byte after parameters closes the last one of them, and makes a token of all. -/
theorem inParams_of_isFinal (ends : isFinal b = true) (params : List Nat)
    (current : Option Nat) :
    inParams markers params current b = finish markers (closeParams params current) b := by
  simp [inParams, digit?_of_isFinal ends, ne_separator_of_isFinal ends,
    isIntermediate_of_isFinal ends, ends]

/-- After an intermediate no parameter is open any more, so the final byte has none to close. -/
theorem inIntermediate_of_isFinal {intermediates : List UInt8} (ends : isFinal b = true)
    (params : List Nat) : inIntermediate intermediates params b = finish intermediates params b := by
  simp [inIntermediate, isIntermediate_of_isFinal ends, ends]

end Bytes

/-! ### Places in a sequence

A byte that is no control character is read as the place asks for. -/

section Places

variable {b : UInt8} (plain : isControlByte b = false) (intermediates : List UInt8)
  (params : List Nat)
include plain

/-- A byte that is no control character is read by the place in the sequence. -/
theorem step_sequenceStart :
    (sequenceStart intermediates).step b = inStart intermediates b :=
  if_neg (Bool.eq_false_iff.mp plain)

theorem step_sequenceParams (current : Option Nat) :
    (sequenceParams intermediates params current).step b =
      inParams intermediates params current b :=
  if_neg (Bool.eq_false_iff.mp plain)

theorem step_sequenceIntermediate :
    (sequenceIntermediate intermediates params).step b = inIntermediate intermediates params b :=
  if_neg (Bool.eq_false_iff.mp plain)

/-- A sequence that is ignored makes no token, and ends all the same. -/
theorem step_sequenceIgnored :
    sequenceIgnored.step b = (if isFinal b then ground else sequenceIgnored, []) :=
  if_neg (Bool.eq_false_iff.mp plain)

end Places

/-! ### In the middle of a sequence -/

/-- Where the scanner is after `ESC [` and some bytes of a sequence. After an intermediate and in a
malformed sequence it is of no consequence which bytes these were, since no function is asked for
any more; before that they are the markers and the parameters that were read. -/
inductive Reads : List UInt8 → Scanner → Prop
  | start {markers} : Reads markers (.sequenceStart markers)
  | params {markers fields params current} (begun : fields ≠ [])
      (parameters : isFields fields = true) :
      Reads (markers ++ fields) (.sequenceParams markers params current)
  | intermediate {inner intermediates params}
      (foreign : ∃ b ∈ intermediates, isIntermediate b = true) :
      Reads inner (.sequenceIntermediate intermediates params)
  | ignored {inner} : Reads inner .sequenceIgnored

namespace Reads

variable {inner : List UInt8} {s : Scanner} {b : UInt8}

/-- It is not in text. -/
theorem ne_text (reads : Reads inner s) (part : Text.Utf8.Partial) : s ≠ .text part := by
  cases reads <;> exact Scanner.noConfusion

/-- The first byte after the markers is another marker, the first of the parameters, or an
intermediate. Then, or when the sequence is ignored, it has not the shape of one that asks for
anything. -/
theorem of_inStart (markers : List UInt8) (middle : isInner b = true) :
    Reads (markers ++ [b]) (inStart markers b).1 ∧ (inStart markers b).2 = [] := by
  have not_final := isFinal_of_isInner middle
  unfold inStart
  cases digit : digit? b with
  | some _ => exact ⟨.params (List.cons_ne_nil b []) (isFields_of_digit digit), rfl⟩
  | none =>
    dsimp only
    split
    next semicolon =>
      subst semicolon
      exact ⟨.params (List.cons_ne_nil _ []) rfl, rfl⟩
    split
    · exact ⟨.start, rfl⟩
    split
    next intermediate => exact ⟨.intermediate ⟨b, by simp, intermediate⟩, rfl⟩
    rw [not_final]
    exact ⟨.ignored, rfl⟩

/-- Parameters go on with digits and separators. Any other byte is an intermediate after them, or
has the sequence ignored. -/
theorem of_inParams {fields : List UInt8} (begun : fields ≠ [])
    (parameters : isFields fields = true) (markers : List UInt8) (params : List Nat)
    (current : Option Nat) (middle : isInner b = true) :
    Reads (markers ++ fields ++ [b]) (inParams markers params current b).1 ∧
      (inParams markers params current b).2 = [] := by
  have not_final := isFinal_of_isInner middle
  by_cases field : isField b = true
  · obtain ⟨params', current', read⟩ := inParams_of_isField field markers params current
    rw [read, List.append_assoc]
    have more : fields ++ [b] ≠ [] := List.append_ne_nil_of_left_ne_nil begun [b]
    exact ⟨.params more (isFields_append_singleton begun parameters field), rfl⟩
  · obtain ⟨⟨no_digit, no_semicolon⟩, no_colon⟩ :
        (digit? b = none ∧ b ≠ 0x3B) ∧ b ≠ 0x3A := by
      simpa [isField_eq] using field
    unfold inParams
    simp only [no_digit, no_semicolon, no_colon, decide_false, Bool.or_self, Bool.false_eq_true,
      if_false, not_final]
    split
    next intermediate => exact ⟨.intermediate ⟨b, by simp, intermediate⟩, rfl⟩
    · exact ⟨.ignored, rfl⟩

/-- Once there is an intermediate the sequence is foreign, and stays so. -/
theorem of_inIntermediate {intermediates : List UInt8}
    (foreign : ∃ b ∈ intermediates, isIntermediate b = true) (params : List Nat)
    (middle : isInner b = true) :
    Reads (inner ++ [b]) (inIntermediate intermediates params b).1 ∧
      (inIntermediate intermediates params b).2 = [] := by
  obtain ⟨first, mem, intermediate⟩ := foreign
  unfold inIntermediate
  rw [isFinal_of_isInner middle]
  split
  · exact ⟨.intermediate ⟨first, List.mem_append_left [b] mem, intermediate⟩, rfl⟩
  · exact ⟨.ignored, rfl⟩

/-- A byte in the middle of a sequence leaves the scanner in it, with one more byte read and no
token. Which place it is in depends on the kinds of bytes read so far, and `Reads` goes on in
each. -/
theorem step (reads : Reads inner s) (middle : isInner b = true) :
    Reads (inner ++ [b]) (s.step b).1 ∧ (s.step b).2 = [] := by
  have plain := isControlByte_of_isInner middle
  cases reads with
  | start =>
    rw [step_sequenceStart plain]
    exact of_inStart inner middle
  | params begun parameters =>
    rw [step_sequenceParams plain]
    exact of_inParams begun parameters _ _ _ middle
  | intermediate foreign =>
    rw [step_sequenceIntermediate plain]
    exact of_inIntermediate foreign _ middle
  | ignored =>
    rw [step_sequenceIgnored plain, isFinal_of_isInner middle]
    exact ⟨.ignored, rfl⟩

/-- So do any number of them. -/
theorem run {rest : List UInt8} (reads : Reads inner s) (middle : ∀ b ∈ rest, isInner b = true) :
    Reads (inner ++ rest) (s.run rest).1 ∧ (s.run rest).2 = [] := by
  induction rest generalizing inner s with
  | nil => exact ⟨by rwa [List.append_nil], rfl⟩
  | cons b rest ih =>
    obtain ⟨now, no_token⟩ := reads.step (middle b List.mem_cons_self)
    obtain ⟨later, no_tokens⟩ := ih now fun other mem => middle other (List.mem_cons_of_mem b mem)
    rw [run_cons, no_token, no_tokens, List.append_cons]
    exact ⟨later, rfl⟩

/-- The final byte ends the sequence, and a sequence of another shape asks for nothing. It is a
token only where the scanner has not given it up, and then one whose intermediates betray the
shape. -/
theorem step_final (reads : Reads inner s) (ends : isFinal b = true) :
    (s.step b).1 = ground ∧ ∀ token ∈ (s.step b).2, isWellShaped inner = false →
      ∃ sequence, token = .sequence sequence ∧ sequence.function? = none := by
  have plain := isControlByte_of_isFinal ends
  cases reads with
  | start =>
    rw [step_sequenceStart plain, inStart_of_isFinal ends]
    refine ⟨rfl, fun token mem malformed => ⟨_, List.mem_singleton.mp mem, ?_⟩⟩
    rw [← List.append_nil inner] at malformed
    exact function?_of_not_isWellShaped rfl malformed _ _
  | params begun parameters =>
    rw [step_sequenceParams plain, inParams_of_isFinal ends]
    refine ⟨rfl, fun token mem malformed => ⟨_, List.mem_singleton.mp mem, ?_⟩⟩
    exact function?_of_not_isWellShaped parameters malformed _ _
  | intermediate foreign =>
    rw [step_sequenceIntermediate plain, inIntermediate_of_isFinal ends]
    refine ⟨rfl, fun token mem _ => ⟨_, List.mem_singleton.mp mem, ?_⟩⟩
    exact function?_of_isIntermediate foreign _ _
  | ignored =>
    rw [step_sequenceIgnored plain, ends]
    exact ⟨rfl, fun _ mem => absurd mem List.not_mem_nil⟩

end Reads

/-! ### From `ESC` to the final byte -/

section Spelling

variable {inner : List UInt8} {final : UInt8}

/-- The beginning of a sequence. -/
theorem reads_run_opening (middle : ∀ b ∈ inner, isInner b = true) :
    Reads inner (ground.run (0x1B :: 0x5B :: inner)).1 ∧
      (ground.run (0x1B :: 0x5B :: inner)).2 = [] := by
  have begun : Reads [] (.sequenceStart []) := .start
  exact begun.run middle

/-- The final byte is read after all the others. -/
theorem run_spelling_eq (middle : ∀ b ∈ inner, isInner b = true) :
    ground.run (spelling inner final) =
      (ground.run (0x1B :: 0x5B :: inner)).1.step final := by
  have split : spelling inner final = 0x1B :: 0x5B :: inner ++ [final] := rfl
  rw [split, run_append, (reads_run_opening middle).2, run_cons, run_nil, List.nil_append,
    List.append_nil]

/-- The sequence is over after its final byte. -/
theorem run_spelling_fst (middle : ∀ b ∈ inner, isInner b = true) (ends : isFinal final = true) :
    (ground.run (spelling inner final)).1 = ground := by
  rw [run_spelling_eq middle]
  exact ((reads_run_opening middle).1.step_final ends).1

/-- It is not over before: any beginning of it, but for the empty one, leaves the scanner in the
sequence, so that text does not begin with a byte of it. -/
theorem run_take_spelling_ne_text (middle : ∀ b ∈ inner, isInner b = true) {n : Nat}
    (begun : 0 < n) (unfinished : n < (spelling inner final).length) (part : Text.Utf8.Partial) :
    (ground.run ((spelling inner final).take n)).1 ≠ .text part := by
  match n with
  | 1 => exact Scanner.noConfusion
  | n + 2 =>
    have le : n ≤ inner.length := by
      simp only [spelling, List.length_cons, List.length_append, List.length_nil] at unfinished
      omega
    have opening : (spelling inner final).take (n + 2) = 0x1B :: 0x5B :: inner.take n := by
      rw [spelling, List.take_succ_cons, List.take_succ_cons, List.take_append_of_le_length le]
    rw [opening]
    have middle' : ∀ b ∈ inner.take n, isInner b = true :=
      fun b mem => middle b (List.mem_of_mem_take mem)
    exact (reads_run_opening middle').1.ne_text part

/-- Nothing of it is printed. -/
theorem print_not_mem_run_spelling (middle : ∀ b ∈ inner, isInner b = true) (c : Char) :
    Token.print c ∉ (ground.run (spelling inner final)).2 := by
  rw [run_spelling_eq middle]
  exact print_not_mem_step (reads_run_opening middle).1.ne_text final

/-- A sequence of another shape asks for no function. -/
theorem function?_of_mem_run_spelling (middle : ∀ b ∈ inner, isInner b = true)
    (ends : isFinal final = true) (malformed : isWellShaped inner = false) {token : Token}
    (mem : token ∈ (ground.run (spelling inner final)).2) :
    ∃ sequence, token = .sequence sequence ∧ sequence.function? = none := by
  rw [run_spelling_eq middle] at mem
  exact ((reads_run_opening middle).1.step_final ends).2 token mem malformed

end Spelling

/-! ### A sequence with a function -/

/-- Markers are collected. However many there are, they come before the first parameter, and the
scanner stays where parameters begin. -/
theorem run_markers {rest : List UInt8} (family : ∀ b ∈ rest, isFamily b = true)
    (markers : List UInt8) :
    (sequenceStart markers).run rest = (.sequenceStart (markers ++ rest), []) := by
  induction rest generalizing markers with
  | nil => rw [List.append_nil, run_nil]
  | cons b rest ih =>
    have collected : inStart markers b = (.sequenceStart (markers ++ [b]), []) := by
      have marker : b = 0x3E ∨ b = 0x3F := by
        simpa [isFamily] using family b List.mem_cons_self
      obtain rfl | rfl := marker <;> rfl
    have plain := isControlByte_of_isInner (isInner_of_isFamily (family b List.mem_cons_self))
    rw [run_cons, step_sequenceStart plain, collected,
      ih fun other mem => family other (List.mem_cons_of_mem b mem), List.append_cons markers b rest]
    rfl

/-- Parameters are read, and nothing else: the markers stay, and no token comes before the final
byte. Which parameters they are does not matter for the shape. -/
theorem run_fields {rest : List UInt8} (fields : ∀ b ∈ rest, isField b = true)
    (markers : List UInt8) (params : List Nat) (current : Option Nat) : ∃ params' current',
    (sequenceParams markers params current).run rest =
      (.sequenceParams markers params' current', []) := by
  induction rest generalizing params current with
  | nil => exact ⟨params, current, rfl⟩
  | cons b rest ih =>
    have field := fields b List.mem_cons_self
    have plain := isControlByte_of_isInner (isInner_of_isField field)
    obtain ⟨params', current', now⟩ := inParams_of_isField field markers params current
    obtain ⟨lastParams, lastCurrent, later⟩ :=
      ih (fun other mem => fields other (List.mem_cons_of_mem b mem)) params' current'
    refine ⟨lastParams, lastCurrent, ?_⟩
    rw [run_cons, step_sequenceParams plain, now, later]
    rfl

/-- What the final byte makes of markers and parameters: one sequence with these markers, whether
there are parameters or none. -/
theorem run_fields_final {fields : List UInt8} (parameters : isFields fields = true)
    {final : UInt8} (ends : isFinal final = true) (markers : List UInt8) : ∃ params,
    ((sequenceStart markers).run (fields ++ [final])).2 =
      [.sequence { intermediates := markers, params, final := charOfByte final }] := by
  have plain := isControlByte_of_isFinal ends
  cases fields with
  | nil =>
    refine ⟨[], ?_⟩
    rw [List.nil_append, run_cons, step_sequenceStart plain, inStart_of_isFinal ends]
    rfl
  | cons first rest =>
    obtain ⟨one, more⟩ : isFields [first] = true ∧ ∀ b ∈ rest, isField b = true := by
      simp_all [isFields]
    have field : isField first = true := by simp_all [isFields]
    have plain_first := isControlByte_of_isInner (isInner_of_isField field)
    obtain ⟨params, current, begun⟩ := inStart_of_isField one markers
    obtain ⟨params', current', read⟩ := run_fields more markers params current
    refine ⟨closeParams params' current', ?_⟩
    rw [List.cons_append, run_cons, step_sequenceStart plain_first, begun, run_append, read,
      run_cons, step_sequenceParams plain, inParams_of_isFinal ends]
    rfl

/-- A sequence of this shape is one token, with its markers as the intermediates. It is read in
three parts, its markers, its parameters and the final byte. -/
theorem run_spelling {inner : List UInt8} (shape : isWellShaped inner = true) {final : UInt8}
    (ends : isFinal final = true) : ∃ params,
    (ground.run (spelling inner final)).2 =
      [.sequence { intermediates := inner.takeWhile isFamily, params,
                   final := charOfByte final }] := by
  have parameters : isFields (inner.dropWhile isFamily) = true :=
    (Bool.and_eq_true_iff.mp shape).2
  have family : ∀ b ∈ inner.takeWhile isFamily, isFamily b = true :=
    fun b mem => List.mem_takeWhile_imp mem
  obtain ⟨params, read⟩ := run_fields_final parameters ends (inner.takeWhile isFamily)
  refine ⟨params, ?_⟩
  have split : inner ++ [final] =
      inner.takeWhile isFamily ++ (inner.dropWhile isFamily ++ [final]) := by
    rw [← List.append_assoc, List.takeWhile_append_dropWhile]
  have opened : (ground.run (spelling inner final)).2 =
      ((sequenceStart []).run (inner ++ [final])).2 := rfl
  rw [opened, split, run_append, run_markers family, List.nil_append, read]
  rfl

end Scanner

end TerminalSession
