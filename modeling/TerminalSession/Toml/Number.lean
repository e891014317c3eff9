import TerminalSession.Text.CodeRange

/-!
# Numbers of TOML

## Main definitions

* `Toml.ungroup?`: digits, which may be grouped by underscores
* `Toml.integer?`: an integer in base 10, 16, 8 or 2
* `Toml.FloatLiteral`, `Toml.float?`: a number with a fraction or an exponent

## Design notes

* Integers are words of 64 bits. A number outside of their range is no integer of the format.
* A floating number is kept exactly as written. One that is too great for a word of 64 bits is
  refused, while one that is too small is not.
-/

namespace TerminalSession.Toml

/-- The digits of a number without the underscores, each of which has a digit on both sides. -/
def ungroup? (isDigit : Char → Bool) : Text → Option Text
  | [] => none
  | [c] => if isDigit c then some [c] else none
  | c :: '_' :: rest => if isDigit c then (ungroup? isDigit rest).map (c :: ·) else none
  | c :: rest => if isDigit c then (ungroup? isDigit rest).map (c :: ·) else none

/-- The value of a digit in any base up to 16, in letters of either case. -/
def digitValue (c : Char) : Nat :=
  if c.isDigit then c.toNat - '0'.toNat
  else if c.isLower then c.toNat - 'a'.toNat + 10
  else c.toNat - 'A'.toNat + 10

/-- The number that digits spell. -/
def numeral (base : Nat) (digits : Text) : Nat :=
  digits.foldl (fun n c => n * base + digitValue c) 0

/-- Digits of base 16. -/
def isHexDigit (c : Char) : Bool := c.isDigit || ('a' ≤ c && c ≤ 'f') || ('A' ≤ c && c ≤ 'F')

/-- Digits of base 8. -/
def isOctDigit (c : Char) : Bool := '0' ≤ c && c ≤ '7'

/-- Digits of base 2. -/
def isBinDigit (c : Char) : Bool := c == '0' || c == '1'

/-- Whether a number is negative, and the text after its sign. A number without a sign is not. -/
def splitSign : Text → Bool × Text
  | '+' :: rest => (false, rest)
  | '-' :: rest => (true, rest)
  | text => (false, text)

/-- The digits of a number in base 10. A number of several digits does not begin with 0. -/
def decimalDigits? (text : Text) : Option Text :=
  if text.head? = some '0' && 1 < text.length then none else ungroup? Char.isDigit text

/-- A number in the range of 64 bits with a sign. -/
def inRange? (n : Int) : Option Int :=
  if -0x8000000000000000 ≤ n ∧ n < 0x8000000000000000 then some n else none

/-- An integer, in decimal with a sign if it has one, or in one of three other bases after a mark.
It has to fit into 64 bits. -/
def integer? (text : Text) : Option Int :=
  match text with
  | '0' :: 'x' :: rest => (ungroup? isHexDigit rest).bind fun d => inRange? (numeral 16 d)
  | '0' :: 'o' :: rest => (ungroup? isOctDigit rest).bind fun d => inRange? (numeral 8 d)
  | '0' :: 'b' :: rest => (ungroup? isBinDigit rest).bind fun d => inRange? (numeral 2 d)
  | text =>
    let (negative, rest) := splitSign text
    (decimalDigits? rest).bind fun d =>
      let n : Int := numeral 10 d
      inRange? (if negative then -n else n)

/-- A floating number as it was written. -/
inductive FloatLiteral where
  /-- The digits times ten to the exponent. -/
  | finite (negative : Bool) (digits : Nat) (exponent : Int)
  | infinite (negative : Bool)
  | notANumber
  deriving DecidableEq, Repr, Inhabited

/-- The least number that is rounded to infinity in 64 bits. -/
def floatLimit : Nat := 1 <<< 1024 - 1 <<< 970

/-- Whether digits times ten to the exponent are too great for 64 bits. Exact arithmetic is needed
only near the limit, which has 309 digits. -/
def tooGreat (digits : Text) (exponent : Int) : Bool :=
  let digits := digits.dropWhile (· == '0')
  let magnitude := digits.length + exponent
  if digits.isEmpty || magnitude < 300 then false
  else if 320 < magnitude then true
  else if 0 ≤ exponent then floatLimit ≤ numeral 10 digits * Nat.pow 10 exponent.toNat
  else floatLimit * Nat.pow 10 exponent.natAbs ≤ numeral 10 digits

/-- A text up to the first character of a kind, and after it, if there is one. The character itself
is in neither part. -/
def splitAt? (isMark : Char → Bool) (text : Text) : Text × Option Text :=
  (text.takeWhile fun c => !isMark c,
    match text.dropWhile fun c => !isMark c with
    | [] => none
    | _ :: rest => some rest)

/-- The digits after a point; without a point, none. -/
def fractionDigits? : Option Text → Option Text
  | none => some []
  | some text => ungroup? Char.isDigit text

/-- The number of an exponent, which is 0 where there is none. Zeros before it are allowed, unlike
in other numbers. -/
def exponent? : Option Text → Option Int
  | none => some 0
  | some text =>
    let (negative, rest) := splitSign text
    (ungroup? Char.isDigit rest).map fun d =>
      let n : Int := numeral 10 d
      if negative then -n else n

/-- A floating number: a decimal integer with a fraction, an exponent or both, or one of the special
values. -/
def float? (text : Text) : Option FloatLiteral := do
  let (negative, rest) := splitSign text
  if rest = ['i', 'n', 'f'] then return .infinite negative
  if rest = ['n', 'a', 'n'] then return .notANumber
  let (mantissa, power) := splitAt? (fun c => c == 'e' || c == 'E') rest
  let (whole, fraction) := splitAt? (· == '.') mantissa
  if power.isNone && fraction.isNone then none
  else
    let whole ← decimalDigits? whole
    let fraction ← fractionDigits? fraction
    let power ← exponent? power
    let digits := whole ++ fraction
    let exponent := power - fraction.length
    if !negative && tooGreat digits exponent then none
    else return .finite negative (numeral 10 digits) exponent

end TerminalSession.Toml
