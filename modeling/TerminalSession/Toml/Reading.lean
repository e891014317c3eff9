import TerminalSession.Toml.Path

/-!
# Reading TOML values

## Main definitions

* `Toml.word?`: numbers, moments and truth values
* `Toml.items?`, `Toml.pairs?`: the inside of arrays and of tables in braces
* `Toml.value?`: a value at the beginning of a text

## Design notes

* Values are nested 79 times at most, so reading is recursion on the depth that is left. The number
  of items is bounded by the length of the document.
-/

namespace TerminalSession.Toml

/-- How often values can be nested. -/
def deepest : Nat := 79

/-- The value of one word: one of two names, a moment or a number. A moment is tried first, because
it begins as a number does. -/
def scalar? (word : Text) : Option Value :=
  if word = ['t', 'r', 'u', 'e'] then some (.boolean true)
  else if word = ['f', 'a', 'l', 's', 'e'] then some (.boolean false)
  else
    match Moment.read? word, float? word, integer? word with
    | some m, _, _ => some (.moment m)
    | none, some x, _ => some (.float x)
    | none, none, some n => some (.integer n)
    | none, none, none => none

/-- A number, a moment or a truth value at the beginning of a text. A blank may stand between the
date and the time of a moment. -/
def word? (text : Text) : Option (Value × Text) :=
  let word := text.takeWhile isWordChar
  let rest := text.dropWhile isWordChar
  match rest with
  | ' ' :: c :: later =>
    if c.isDigit && Moment.isDate word then
      let clock := (c :: later).takeWhile isWordChar
      (Moment.read? (word ++ 'T' :: clock)).map fun m =>
        (.moment m, (c :: later).dropWhile isWordChar)
    else (scalar? word).map fun v => (v, rest)
  | rest => (scalar? word).map fun v => (v, rest)

/-- The items of an array after its bracket, with the text after the closing one. Items that were
read already are given last one first. -/
def items? (read : Text → Option (Value × Text)) :
    Nat → List Value → Text → Option (List Value × Text)
  | 0, _, _ => none
  | room + 1, done, text =>
    match skipFiller false text with
    | none => none
    | some (']' :: rest) => some (done.reverse, rest)
    | some text =>
      match read text with
      | none => none
      | some (item, rest) =>
        match skipFiller false rest with
        | some (',' :: rest) => items? read room (item :: done) rest
        | some (']' :: rest) => some ((item :: done).reverse, rest)
        | _ => none

/-- A path, an equals sign and a value at the beginning of a text, and what follows them. -/
def pair? (read : Text → Option (Value × Text)) (text : Text) : Option (Path × Value × Text) :=
  match path? text with
  | some (path, '=' :: rest) =>
    (read (skipBlanks rest)).map fun (value, rest) => (path, value, rest)
  | _ => none

/-- The entries of a table in braces after its first pair has begun, with the text after the closing
brace. It is written on one line and without a comma at its end. -/
def pairs? (read : Text → Option (Value × Text)) :
    Nat → Entries → Text → Option (Entries × Text)
  | 0, _, _ => none
  | room + 1, done, text =>
    match pair? read text with
    | none => none
    | some (path, value, rest) =>
      match done.put? path value with
      | none => none
      | some done =>
        match skipBlanks rest with
        | ',' :: rest => pairs? read room done rest
        | '\x7d' :: rest => some (done, rest)
        | _ => none

/-- The entries of a table in braces after the opening one. There may be none. -/
def braces? (read : Text → Option (Value × Text)) (room : Nat) (text : Text) :
    Option (Entries × Text) :=
  match skipBlanks text with
  | '\x7d' :: rest => some ([], rest)
  | text => pairs? read room [] text

/-- A value at the beginning of a text, with so many items and so deeply nested at most. The first
character tells what kind it is, unless it is one word. -/
def value? (room : Nat) : Nat → Text → Option (Value × Text)
  | _, '"' :: rest => (quotedText? ('"' :: rest)).map fun (t, rest) => (.text t, rest)
  | _, '\'' :: rest => (quotedText? ('\'' :: rest)).map fun (t, rest) => (.text t, rest)
  | depth + 1, '[' :: rest =>
    (items? (value? room depth) room [] rest).map fun (items, rest) => (.array items, rest)
  | depth + 1, '\x7b' :: rest =>
    (braces? (value? room depth) room rest).map fun (entries, rest) =>
      (.table .braces entries, rest)
  | _, text => word? text

end TerminalSession.Toml
