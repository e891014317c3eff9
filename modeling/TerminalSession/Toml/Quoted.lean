import TerminalSession.Toml.Lexical

/-!
# Quoted text of TOML

Four kinds of quoted text: with escapes or literal, on one line or on several.

## Main definitions

* `Toml.Quotation`: a kind
* `Toml.Quotation.read?`: the content of a quoted text whose opening quotes were read
* `Toml.shortText?`, `Toml.quotedText?`: a text on one line, and one of any kind

## Design notes

* Reading is one step per character with a place, so every function here is recursion on the text.
* A text on several lines may hold one or two quotes in a row, also right before the closing three.
-/

namespace TerminalSession.Toml

/-- A kind of quoted text. -/
structure Quotation where
  quote : Char
  /-- A backslash begins an escape. -/
  escapes : Bool
  /-- The text may go over several lines, and its quotes are tripled. -/
  long : Bool
  deriving DecidableEq, Repr

/-- Where the reader of a quoted text stands. -/
inductive QuotePlace where
  | text
  /-- After a backslash. -/
  | escape
  /-- In the digits of a code point: how many are missing, and the number so far. -/
  | code (missing value : Nat)
  /-- After a backslash and blanks: the line has to end. -/
  | lineEnd
  /-- At the beginning of the lines after that, where white space is left out. -/
  | margin
  deriving DecidableEq, Repr

/-- What one character comes to: the reader goes on, or the text is complete with so many characters
of the rest. -/
inductive QuoteStep where
  | go (place : QuotePlace) (done : Text)
  | stop (done : Text) (dropped : Nat)
  | fail
  deriving DecidableEq, Repr

/-- The value of a hexadecimal digit, in letters of either case. -/
def hexDigit? (c : Char) : Option Nat :=
  if '0' ≤ c ∧ c ≤ '9' then some (c.toNat - '0'.toNat)
  else if 'a' ≤ c ∧ c ≤ 'f' then some (c.toNat - 'a'.toNat + 10)
  else if 'A' ≤ c ∧ c ≤ 'F' then some (c.toNat - 'A'.toNat + 10)
  else none

/-- The character of a one-letter escape, if there is one for the letter. -/
def letterEscape? : Char → Option Char
  | 'b' => some '\x08'
  | 't' => some '\t'
  | 'n' => some '\n'
  | 'f' => some '\x0c'
  | 'r' => some '\r'
  | '"' => some '"'
  | '\\' => some '\\'
  | _ => none

namespace Quotation

/-- A quote in the text, with what comes after it. Of a run of five or more, two belong to a text on
several lines, and three close it. -/
def quoteStep (q : Quotation) (done rest : Text) : QuoteStep :=
  if q.long then
    let run := 1 + ((rest.take 4).takeWhile (· == q.quote)).length
    if run < 3 then .go .text (q.quote :: done)
    else .stop (List.replicate (run - 3) q.quote ++ done) (run - 1)
  else .stop done 0

/-- A character of the text proper; `rest` is what follows it. Line ends belong to long texts only,
and are written with a line feed. -/
def textStep (q : Quotation) (done : Text) (c : Char) (rest : Text) : QuoteStep :=
  if c = q.quote then q.quoteStep done rest
  else if c = '\\' && q.escapes then .go .escape done
  else if c = '\n' && q.long then .go .text (c :: done)
  else if c = '\r' && q.long && rest.head? = some '\n' then .go .text done
  else if isPlain c then .go .text (c :: done)
  else .fail

/-- A character after a backslash. In a long text a backslash at the end of a line takes away the
white space up to the next text. -/
def escapeStep (q : Quotation) (done : Text) (c : Char) (rest : Text) : QuoteStep :=
  match letterEscape? c with
  | some e => .go .text (e :: done)
  | none =>
    if c = 'u' then .go (.code 4 0) done
    else if c = 'U' then .go (.code 8 0) done
    else if !q.long then .fail
    else if isBlank c then .go .lineEnd done
    else if c = '\n' then .go .margin done
    else if c = '\r' && rest.head? = some '\n' then .go .lineEnd done
    else .fail

/-- A digit of a code point. After the last one the number has to be a character. -/
def codeStep (missing value : Nat) (done : Text) (c : Char) : QuoteStep :=
  match hexDigit? c with
  | none => .fail
  | some digit =>
    let value := value * 16 + digit
    if 1 < missing then .go (.code (missing - 1) value) done
    else if value.isValidChar then .go .text (Char.ofNat value :: done)
    else .fail

/-- One character, wherever the reader stands; `rest` is what follows it. -/
def step (q : Quotation) (place : QuotePlace) (done : Text) (c : Char) (rest : Text) : QuoteStep :=
  match place with
  | .text => q.textStep done c rest
  | .escape => q.escapeStep done c rest
  | .code missing value => codeStep missing value done c
  | .lineEnd =>
    if isBlank c then .go .lineEnd done
    else if c = '\n' then .go .margin done
    else if c = '\r' && rest.head? = some '\n' then .go .lineEnd done
    else .fail
  | .margin =>
    if isBlank c || c == '\n' || (c == '\r' && rest.head? = some '\n') then .go .margin done
    else q.textStep done c rest

/-- The content up to the closing quotes, and the text after them. What was read already is given
last character first. -/
def readFrom? (q : Quotation) (place : QuotePlace) (done : Text) : Text → Option (Text × Text)
  | [] => none
  | c :: rest =>
    match q.step place done c rest with
    | .go place done => q.readFrom? place done rest
    | .stop done dropped => some (done.reverse, rest.drop dropped)
    | .fail => none

/-- The content of a quoted text after its opening quotes, and the text after the closing ones. A
line end right after the opening quotes is left out. -/
def read? (q : Quotation) (text : Text) : Option (Text × Text) :=
  q.readFrom? .text [] (if q.long then (newline? text).getD text else text)

end Quotation

/-- A quoted text on one line. Between single quotes nothing is escaped. -/
def shortText? : Text → Option (Text × Text)
  | '"' :: rest => { quote := '"', escapes := true, long := false : Quotation }.read? rest
  | '\'' :: rest => { quote := '\'', escapes := false, long := false : Quotation }.read? rest
  | _ => none

/-- A quoted text of any kind. Three quotes begin one that may go over several lines. -/
def quotedText? (text : Text) : Option (Text × Text) :=
  match text with
  | '"' :: '"' :: '"' :: rest =>
    { quote := '"', escapes := true, long := true : Quotation }.read? rest
  | '\'' :: '\'' :: '\'' :: rest =>
    { quote := '\'', escapes := false, long := true : Quotation }.read? rest
  | text => shortText? text

end TerminalSession.Toml
