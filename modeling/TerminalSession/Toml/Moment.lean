import TerminalSession.Text.CodeRange

/-!
# Moments of TOML

Dates, times of day, and both together, with or without an offset from universal time.

## Main definitions

* `Toml.Date`, `Toml.Clock`, `Toml.Offset`, `Toml.Moment`: the parts and the whole
* `Toml.Moment.read?`: a moment from its text
* `Toml.Moment.describe`: its text in one form
-/

namespace TerminalSession.Toml

/-- A day. -/
structure Date where
  year : Nat
  month : Nat
  day : Nat
  deriving DecidableEq, Repr, Inhabited

/-- A time of day. A minute may have a leap second. -/
structure Clock where
  hour : Nat
  minute : Nat
  second : Nat
  nanosecond : Nat := 0
  deriving DecidableEq, Repr, Inhabited

/-- The offset from universal time. -/
inductive Offset where
  | universal
  | minutes (n : Int)
  deriving DecidableEq, Repr, Inhabited

/-- A moment, of which some parts may be missing. -/
structure Moment where
  date : Option Date := none
  clock : Option Clock := none
  offset : Option Offset := none
  deriving DecidableEq, Repr, Inhabited

/-! ### Reading -/

/-- A number of exactly so many digits, and the text after it. What comes after may be another
digit. -/
def fixedDigits? (count : Nat) (text : Text) : Option (Nat × Text) :=
  let digits := text.take count
  if digits.length = count && digits.all Char.isDigit then
    some (digits.foldl (fun n c => n * 10 + (c.toNat - '0'.toNat)) 0, text.drop count)
  else none

/-- A number of two digits in a range, and the text after it; a number outside the range is as good
as none. -/
def twoDigits? (least greatest : Nat) (text : Text) : Option (Nat × Text) :=
  match fixedDigits? 2 text with
  | some (n, rest) => if least ≤ n ∧ n ≤ greatest then some (n, rest) else none
  | none => none

/-- The text after a mark. -/
def mark? (mark : Char) : Text → Option Text
  | c :: rest => if c = mark then some rest else none
  | [] => none

/-- Whether a year has a leap day. -/
def isLeapYear (year : Nat) : Bool :=
  year % 4 == 0 && (year % 100 != 0 || year % 400 == 0)

/-- The days of a month, in a year that may be a leap year. -/
def daysOfMonth (year month : Nat) : Nat :=
  if month = 2 then if isLeapYear year then 29 else 28
  else if month ∈ [4, 6, 9, 11] then 30
  else 31

/-- A date at the beginning of a text: year, month and day with dashes between them. Days that the
month does not have are no dates. -/
def Date.read? (text : Text) : Option (Date × Text) := do
  let (year, rest) ← fixedDigits? 4 text
  let rest ← mark? '-' rest
  let (month, rest) ← twoDigits? 1 12 rest
  let rest ← mark? '-' rest
  let (day, rest) ← twoDigits? 1 (daysOfMonth year month) rest
  return ({ year, month, day }, rest)

/-- The nanoseconds of a fraction; digits after the ninth do not count. -/
def nanoseconds (digits : Text) : Nat :=
  (digits.take 9 ++ List.replicate (9 - digits.length) '0').foldl
    (fun n c => n * 10 + (c.toNat - '0'.toNat)) 0

/-- The fraction of a second at the beginning of a text; without a point, none. A point has to be
followed by a digit. -/
def fraction? (text : Text) : Option (Nat × Text) :=
  match text with
  | '.' :: rest =>
    let digits := rest.takeWhile Char.isDigit
    if digits.isEmpty then none else some (nanoseconds digits, rest.drop digits.length)
  | text => some (0, text)

/-- A time of day at the beginning of a text, to the second at least. A leap second is admitted in
any minute. -/
def Clock.read? (text : Text) : Option (Clock × Text) := do
  let (hour, rest) ← twoDigits? 0 23 text
  let rest ← mark? ':' rest
  let (minute, rest) ← twoDigits? 0 59 rest
  let rest ← mark? ':' rest
  let (second, rest) ← twoDigits? 0 60 rest
  let (nanosecond, rest) ← fraction? rest
  return ({ hour, minute, second, nanosecond }, rest)

/-- An offset that is the whole text: a letter for universal time, or hours and minutes with a sign
before them. -/
def Offset.read? (text : Text) : Option Offset :=
  match text with
  | ['Z'] => some .universal
  | ['z'] => some .universal
  | sign :: rest => do
    let negative ← if sign = '+' then some false else if sign = '-' then some true else none
    let (hour, rest) ← twoDigits? 0 23 rest
    let rest ← mark? ':' rest
    let (minute, rest) ← twoDigits? 0 59 rest
    let n : Int := hour * 60 + minute
    if rest.isEmpty then some (.minutes (if negative then -n else n)) else none
  | [] => none

namespace Moment

/-- A time of day with an optional offset that are the whole text, on a date. Without a date there
is no offset. -/
def ofClock? (date : Date) (text : Text) : Option Moment := do
  let (clock, rest) ← Clock.read? text
  if rest.isEmpty then return { date := some date, clock := some clock }
  else
    let offset ← Offset.read? rest
    return { date := some date, clock := some clock, offset := some offset }

/-- A moment that is the whole text: a date, a time of day, or both with a `T` between them and an
offset if there is one. -/
def read? (text : Text) : Option Moment :=
  match Date.read? text with
  | some (date, []) => some { date := some date }
  | some (date, c :: rest) => if c = 'T' ∨ c = 't' then ofClock? date rest else none
  | none =>
    match Clock.read? text with
    | some (clock, []) => some { clock := some clock }
    | _ => none

/-- Whether a text is a date and nothing more. -/
def isDate (text : Text) : Bool :=
  match Date.read? text with
  | some (_, []) => true
  | _ => false

end Moment

/-! ### Writing -/

/-- A number with zeros before it, as many as the width needs. -/
def padded (width n : Nat) : Text :=
  let digits := Nat.toDigits 10 n
  List.replicate (width - digits.length) '0' ++ digits

/-- A date as text. -/
def Date.describe (d : Date) : Text :=
  padded 4 d.year ++ '-' :: padded 2 d.month ++ '-' :: padded 2 d.day

/-- The fraction of a second as text, without zeros at its end. -/
def fractionText (nanosecond : Nat) : Text :=
  if nanosecond = 0 then []
  else '.' :: ((padded 9 nanosecond).reverse.dropWhile (· == '0')).reverse

/-- A time of day as text. -/
def Clock.describe (c : Clock) : Text :=
  padded 2 c.hour ++ ':' :: padded 2 c.minute ++ ':' :: padded 2 c.second ++
    fractionText c.nanosecond

/-- An offset as text, with two digits for hours and for minutes. -/
def Offset.describe : Offset → Text
  | .universal => ['Z']
  | .minutes n =>
    (if n < 0 then '-' else '+') :: padded 2 (n.natAbs / 60) ++ ':' :: padded 2 (n.natAbs % 60)

/-- A moment as text; a `T` stands between date and time. The parts that it does not have are left
out. -/
def Moment.describe (m : Moment) : Text :=
  (m.date.map Date.describe).getD [] ++
    (if m.date.isSome && m.clock.isSome then ['T'] else []) ++
    (m.clock.map Clock.describe).getD [] ++ (m.offset.map Offset.describe).getD []

end TerminalSession.Toml
