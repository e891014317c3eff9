import TerminalSession.Proofs.Control.Framing
import TerminalSession.Proofs.Control.Recovery

/-!
# Parameters in decimal

Parameters that are written in decimal are read back, whatever numbers they are and however many, up to
the greatest parameter and to the number of those that are kept.

## Main definitions

* `ControlSequence.Field`: a parameter as it is written
* `ControlSequence.Field.bytes`, `ControlSequence.Field.value`: its bytes and its number
* `ControlSequence.fieldBytes`: several of them, with semicolons in between
* `ControlSequence.counted`: the ones that count

## Main statements

* `Scanner.run_digits`: the digits of a number come to the number, or to the greatest parameter
* `Scanner.run_parameters`: what the parameters of a sequence are read as, after some others
* `Scanner.run_spelling_parameters`: the same of a sequence from `ESC` to its final byte
* `Scanner.run_spelling_pair`: a sequence with two parameters

## Design notes

* A digit is read as if the number before it had not been cut off: a number that is beyond the greatest
  parameter stays beyond it.
* Where parameters begin, the scanner also takes markers. Digits, semicolons and final bytes are no
  markers, so they are read there as anywhere in the parameters.
-/

namespace TerminalSession

open Text.Utf8 (Partial encode)

namespace ControlSequence

/-- A parameter as it is written: nothing, or a number in decimal after some zeros. Every string of
digits is one, so that a list of fields is a spelling of parameters in full generality. -/
inductive Field where
  | empty
  | number (zeros value : Nat)
  deriving DecidableEq, Repr

/-- The bytes of a parameter: zeros, and then the number as it is usually written. An empty one has
none. -/
def Field.bytes : Field → List UInt8
  | .empty => []
  | .number zeros value => encode (List.replicate zeros '0' ++ Nat.toDigits 10 value)

/-- The number that a parameter stands for, however large; an empty one stands for zero. -/
def Field.value : Field → Nat
  | .empty => 0
  | .number _ value => value

/-- Parameters with semicolons in between. Two semicolons in a row have an empty parameter between
them. -/
def fieldBytes (fields : List Field) : List UInt8 :=
  [0x3B].intercalate (fields.map Field.bytes)

/-- The parameters that count: all but an empty one at the end. -/
def counted (fields : List Field) : List Field :=
  if fields.getLast? = some .empty then fields.dropLast else fields

theorem fieldBytes_singleton (field : Field) : fieldBytes [field] = field.bytes :=
  List.intercalate_singleton

theorem fieldBytes_cons_cons (field next : Field) (rest : List Field) :
    fieldBytes (field :: next :: rest) = field.bytes ++ 0x3B :: fieldBytes (next :: rest) := by
  rw [fieldBytes, List.map_cons, List.map_cons, List.intercalate_cons_cons, List.append_assoc]
  rfl

theorem counted_cons_cons (field next : Field) (rest : List Field) :
    counted (field :: next :: rest) = field :: counted (next :: rest) := by
  unfold counted
  rw [List.getLast?_cons_cons]
  split <;> rfl

/-- A sequence with two numbers for parameters, written out. -/
theorem spelling_pair (first second : Nat) (final : UInt8) :
    spelling (fieldBytes [.number 0 first, .number 0 second]) final =
      0x1B :: 0x5B :: (encode (Nat.toDigits 10 first) ++
        0x3B :: (encode (Nat.toDigits 10 second) ++ [final])) := by
  rw [spelling, fieldBytes_cons_cons, fieldBytes_singleton]
  simp [Field.bytes]

/-- So is the text of such a sequence. -/
theorem encode_pair (first second : Nat) {final : Char} (ascii : final.toNat < 0x80) :
    encode (['\x1b', '['] ++ Nat.toDigits 10 first ++ [';'] ++ Nat.toDigits 10 second ++ [final]) =
      spelling (fieldBytes [.number 0 first, .number 0 second]) (UInt8.ofNat final.toNat) := by
  have opening : encode ['\x1b', '['] = [0x1B, 0x5B] := by decide
  have separator : encode [';'] = [0x3B] := by decide
  have last : encode [final] = [UInt8.ofNat final.toNat] := by
    rw [Text.Utf8.encode_cons, Text.Utf8.encodeChar_of_lt ascii]
    rfl
  rw [Text.Utf8.encode_append, Text.Utf8.encode_append, Text.Utf8.encode_append,
    Text.Utf8.encode_append, opening, separator, last, spelling_pair]
  simp

end ControlSequence

namespace Scanner

open ControlSequence (Field fieldBytes fieldBytes_singleton fieldBytes_cons_cons counted
  counted_cons_cons spelling)

variable {c : Char} {b final : UInt8} (intermediates : List UInt8)

/-! ### Digits -/

theorem toNat_of_isDigit (decimal : c.isDigit = true) : 48 ≤ c.toNat ∧ c.toNat ≤ 57 := by
  simp only [Char.isDigit, Bool.and_eq_true, decide_eq_true_eq] at decimal
  exact decimal

theorem digit?_ofNat (decimal : c.isDigit = true) :
    digit? (UInt8.ofNat c.toNat) = some (c.toNat - '0'.toNat) := by
  obtain ⟨low, high⟩ := toNat_of_isDigit decimal
  have byte : (UInt8.ofNat c.toNat).toNat = c.toNat := Text.Utf8.toNat_ofNat (by omega)
  have in_range : (0x30 ≤ UInt8.ofNat c.toNat && UInt8.ofNat c.toNat ≤ 0x39) = true := by
    simpa [UInt8.le_iff_toNat_le, byte] using ⟨low, high⟩
  rw [digit?, if_pos in_range, byte]
  rfl

theorem le_of_digit? {digit : Nat} (read : digit? b = some digit) : digit ≤ 9 := by
  have decimal := isSome_digit?_iff.mp (Option.isSome_of_mem read)
  unfold digit? at read
  split at read
  · obtain rfl := Option.some.inj read
    omega
  · exact nomatch read

theorem isControlByte_of_digit? {digit : Nat} (read : digit? b = some digit) :
    isControlByte b = false := by
  have decimal := isSome_digit?_iff.mp (Option.isSome_of_mem read)
  rw [Bool.eq_false_iff, ne_eq, isControlByte_iff]
  omega

theorem encode_digit_cons (decimal : c.isDigit = true) (rest : Text) :
    encode (c :: rest) = UInt8.ofNat c.toNat :: encode rest := by
  have ascii : c.toNat < 0x80 := by
    have := toNat_of_isDigit decimal
    omega
  rw [Text.Utf8.encode_cons, Text.Utf8.encodeChar_of_lt ascii]
  rfl

/-- A digit is read as if the number before it had not been cut off. -/
theorem addDigit_min (value digit : Nat) :
    addDigit (some (min value maxParam)) digit = min (10 * value + digit) maxParam := by
  simp only [addDigit, Option.getD_some, maxParam]
  omega

/-- A digit of a parameter. -/
theorem step_digit (decimal : c.isDigit = true) (params : List Nat) (current : Option Nat) :
    (sequenceParams intermediates params current).step (UInt8.ofNat c.toNat) =
      (.sequenceParams intermediates params (some (addDigit current (c.toNat - '0'.toNat))), []) := by
  have read := digit?_ofNat decimal
  rw [step_sequenceParams (isControlByte_of_digit? read), inParams, read]

/-- The digits of a number come to the number, or to the greatest parameter if it is beyond that. -/
theorem run_digits {digits : Text} (decimal : ∀ c ∈ digits, c.isDigit = true) (params : List Nat)
    (value : Nat) :
    (sequenceParams intermediates params (some (min value maxParam))).run (encode digits) =
      (.sequenceParams intermediates params
        (some (min (Nat.ofDigitChars 10 digits value) maxParam)), []) := by
  induction digits generalizing value with
  | nil => rfl
  | cons c rest ih =>
    have decimal_c := decimal c List.mem_cons_self
    rw [encode_digit_cons decimal_c, run_cons, step_digit intermediates decimal_c, addDigit_min,
      ih fun other mem => decimal other (List.mem_cons_of_mem c mem), Nat.ofDigitChars_cons]
    rfl

/-! ### One parameter -/

/-- A number in decimal after some zeros has a digit and nothing but digits, and they spell it. The
zeros before it do not change the number. -/
theorem exists_digits (zeros value : Nat) : ∃ c rest,
    List.replicate zeros '0' ++ Nat.toDigits 10 value = c :: rest ∧
      (∀ d ∈ c :: rest, d.isDigit = true) ∧ Nat.ofDigitChars 10 (c :: rest) 0 = value := by
  have some_digit : List.replicate zeros '0' ++ Nat.toDigits 10 value ≠ [] :=
    List.append_ne_nil_of_right_ne_nil _ Nat.toDigits_ne_nil
  obtain ⟨c, rest, digits_eq⟩ := List.exists_cons_of_ne_nil some_digit
  refine ⟨c, rest, digits_eq, fun d mem => ?_, ?_⟩
  · rw [← digits_eq] at mem
    obtain zero | digit := List.mem_append.mp mem
    · rw [List.eq_of_mem_replicate zero]
      rfl
    · exact Nat.isDigit_of_mem_toDigits (by decide) (by decide) digit
  · rw [← digits_eq, Nat.ofDigitChars_append, Nat.ofDigitChars_replicate_zero, Nat.mul_zero,
      Nat.ofDigitChars_toDigits (by decide) (by decide)]

/-- What is read of a parameter: nothing of an empty one, and at most the largest value of a
number. -/
def ofField : Field → Option Nat
  | .empty => none
  | .number _ value => some (min value maxParam)

theorem getD_ofField (field : Field) : (ofField field).getD 0 = min field.value maxParam := by
  cases field <;> rfl

/-- The bytes of a parameter are read. Its first digit is read as one after a zero. -/
theorem run_field (field : Field) (params : List Nat) :
    (sequenceParams intermediates params none).run field.bytes =
      (.sequenceParams intermediates params (ofField field), []) := by
  cases field with
  | empty => rfl
  | number zeros value =>
    obtain ⟨c, rest, digits_eq, decimal, spelled⟩ := exists_digits zeros value
    have decimal_c := decimal c List.mem_cons_self
    have read := run_digits intermediates decimal params 0
    rw [spelled, encode_digit_cons decimal_c, run_cons, step_digit intermediates decimal_c] at read
    rw [Field.bytes, digits_eq, encode_digit_cons decimal_c, run_cons,
      step_digit intermediates decimal_c]
    exact read

/-! ### All parameters -/

theorem addParam_eq_take {params : List Nat} (few : params.length ≤ maxParams) (param : Nat) :
    addParam params param = (params ++ [param]).take maxParams := by
  unfold addParam
  split
  next room => rw [List.take_of_length_le (by rw [List.length_append]; exact room)]
  next full => rw [List.take_append_of_le_length (by omega), List.take_of_length_le few]

/-- What is read of the last parameter is added to those before it. -/
theorem closeParams_ofField {params : List Nat} (few : params.length ≤ maxParams) (field : Field) :
    closeParams params (ofField field) =
      (params ++ (counted [field]).map fun field => min field.value maxParam).take maxParams := by
  cases field with
  | empty =>
    change params = (params ++ []).take maxParams
    rw [List.append_nil, List.take_of_length_le few]
  | number zeros value => exact addParam_eq_take few _

/-- A semicolon ends a parameter. -/
theorem step_semicolon (params : List Nat) (current : Option Nat) :
    (sequenceParams intermediates params current).step 0x3B =
      (.sequenceParams intermediates (addParam params (current.getD 0)) none, []) := rfl

/-- What has been dropped for want of room does not matter to what is kept later. -/
theorem take_take_append (params more : List Nat) (n : Nat) :
    (params.take n ++ more).take n = (params ++ more).take n := by
  rw [List.take_append, List.take_append, List.take_take, Nat.min_self, List.length_take]
  congr 2
  omega

/-- Parameters and the final byte, after some parameters that were read. Each is cut to the largest
one, and those for which there is no room are dropped, however many they are. -/
theorem run_parameters {fields : List Field} (some_field : fields ≠ []) (ends : isFinal final = true)
    {params : List Nat} (few : params.length ≤ maxParams) :
    (sequenceParams intermediates params none).run (fieldBytes fields ++ [final]) =
      finish intermediates
        ((params ++ (counted fields).map fun field => min field.value maxParam).take maxParams)
        final := by
  induction fields generalizing params with
  | nil => exact absurd rfl some_field
  | cons field rest ih =>
    cases rest with
    | nil =>
      rw [fieldBytes_singleton, run_append, run_field, run_cons,
        step_sequenceParams (isControlByte_of_isFinal ends), inParams_of_isFinal ends,
        closeParams_ofField few]
      rfl
    | cons next rest =>
      have few' : (addParam params ((ofField field).getD 0)).length ≤ maxParams := by
        rw [addParam_eq_take few]
        exact List.length_take_le _ _
      rw [fieldBytes_cons_cons, List.append_assoc, run_append, run_field, List.cons_append, run_cons,
        step_semicolon, ih (List.cons_ne_nil next rest) few', addParam_eq_take few,
        take_take_append, getD_ofField, List.append_assoc, counted_cons_cons]
      rfl

/-! ### A whole sequence -/

/-- The bytes that parameters can begin with, and those that end a sequence without any. -/
def isOpening (b : UInt8) : Bool := (digit? b).isSome || b == 0x3B || isFinal b

theorem isControlByte_of_isOpening (opening : isOpening b = true) : isControlByte b = false := by
  have ranges : (digit? b).isSome = true ∨ b.toNat = 0x3B ∨ isFinal b = true := by
    simpa [isOpening, or_assoc, ← UInt8.toNat_inj] using opening
  rw [isSome_digit?_iff, isFinal_iff] at ranges
  rw [Bool.eq_false_iff, ne_eq, isControlByte_iff]
  omega

/-- Where parameters begin, such a byte is read as anywhere in them. So nothing has to be said of
the first parameter that does not hold of all. -/
theorem inStart_eq_inParams (opening : isOpening b = true) :
    inStart intermediates b = inParams intermediates [] none b := by
  cases read : digit? b with
  | some digit =>
    have single : addDigit none digit = digit := by
      have := le_of_digit? read
      simp only [addDigit, Option.getD_none, maxParam]
      omega
    simp only [inStart, inParams, read, single]
  | none =>
    obtain rfl | ends : b = 0x3B ∨ isFinal b = true := by simpa [isOpening, read] using opening
    · rfl
    · rw [inStart_of_isFinal ends, inParams_of_isFinal ends]
      rfl

theorem exists_opening_field (field : Field) (opening : isOpening b = true) (rest : List UInt8) :
    ∃ first more, field.bytes ++ b :: rest = first :: more ∧ isOpening first = true := by
  cases field with
  | empty => exact ⟨b, rest, rfl, opening⟩
  | number zeros value =>
    obtain ⟨c, digits, digits_eq, decimal, -⟩ := exists_digits zeros value
    have decimal_c := decimal c List.mem_cons_self
    refine ⟨UInt8.ofNat c.toNat, encode digits ++ b :: rest, ?_, ?_⟩
    · rw [Field.bytes, digits_eq, encode_digit_cons decimal_c]
      rfl
    · simp [isOpening, digit?_ofNat decimal_c]

theorem exists_opening (fields : List Field) (ends : isFinal final = true) :
    ∃ first more, fieldBytes fields ++ [final] = first :: more ∧ isOpening first = true := by
  have opening : isOpening final = true := by simp [isOpening, ends]
  match fields with
  | [] => exact ⟨final, [], rfl, opening⟩
  | [field] =>
    rw [fieldBytes_singleton]
    exact exists_opening_field field opening []
  | field :: next :: rest =>
    rw [fieldBytes_cons_cons, List.append_assoc]
    exact exists_opening_field field (b := 0x3B) rfl _

/-- A sequence with parameters is one token, wherever in text it comes. Those parameters are kept for
which there is room, each of them as it is or as the greatest parameter. -/
theorem run_spelling_parameters (part : Partial) {fields : List Field} (some_field : fields ≠ [])
    (ends : isFinal final = true) :
    (text part).run (spelling (fieldBytes fields) final) =
      (ground, ofCut part ++
        [.sequence { params := (((counted fields).map Field.value).take maxParams).map
                       fun value => min value maxParam,
                     final := charOfByte final }]) := by
  obtain ⟨first, more, bytes_eq, opening⟩ := exists_opening fields ends
  have plain := isControlByte_of_isOpening opening
  have begun : (sequenceStart []).run (first :: more) =
      (sequenceParams [] [] none).run (first :: more) := by
    rw [run_cons, run_cons, step_sequenceStart plain, step_sequenceParams plain,
      inStart_eq_inParams [] opening]
  have read : (sequenceStart []).run (fieldBytes fields ++ [final]) =
      finish [] (((counted fields).map fun field => min field.value maxParam).take maxParams)
        final := by
    rw [bytes_eq, begun, ← bytes_eq, run_parameters [] some_field ends (Nat.zero_le _),
      List.nil_append]
  have bracket : escape.step 0x5B = (.sequenceStart [], []) := rfl
  rw [spelling, run_cons, step_text_escape, run_cons, bracket, read, List.map_take, List.map_map]
  rfl

/-- Two parameters that are not beyond the greatest one are read as they are. -/
theorem run_spelling_pair (part : Partial) {first second : Nat} (first_le : first ≤ maxParam)
    (second_le : second ≤ maxParam) (ends : isFinal final = true) :
    (text part).run (spelling (fieldBytes [.number 0 first, .number 0 second]) final) =
      (ground, ofCut part ++
        [.sequence { params := [first, second], final := charOfByte final }]) := by
  have some_field := List.cons_ne_nil (Field.number 0 first) [.number 0 second]
  have params : (((counted [.number 0 first, .number 0 second]).map Field.value).take
      maxParams).map (fun value => min value maxParam) = [first, second] := by
    show [min first maxParam, min second maxParam] = [first, second]
    rw [Nat.min_eq_left first_le, Nat.min_eq_left second_le]
  rw [run_spelling_parameters part some_field ends, params]

end Scanner

end TerminalSession
