import TerminalSession.Toml.Reading

/-!
# TOML documents

## Main definitions

* `Toml.Reader`: the entries read so far, and the header under which the next ones go
* `Toml.Reader.statement?`: one line, or several when a value goes over several
* `Toml.document?`: the entries of a document

## Design notes

* Every statement takes at least one character, so the number of statements is bounded by the length
  of the document.
-/

namespace TerminalSession.Toml

/-- The entries read so far, and the header under which the next ones go. -/
structure Reader where
  entries : Entries := []
  header : List Text := []
  deriving Inhabited

namespace Reader

/-- The rest of a header after its path: the closing mark and nothing more on the line. -/
def headerEnd? (closing : Text) (text : Text) : Option Text :=
  if closing.isPrefixOf text then lineEnd? (text.drop closing.length) else none

/-- A header after its opening marks: its path, the marks that close it and the end of the line. The
entries after it belong to the table that it opens. -/
def heading? (r : Reader) (opening : Entries → Path → Option Entries) (closing text : Text) :
    Option (Reader × Text) := do
  let (path, rest) ← path? text
  let rest ← headerEnd? closing rest
  let entries ← opening r.entries path
  return ({ entries, header := path.parents ++ [path.key] }, rest)

/-- One entry, which ends its line. It is put under the header that was opened last. -/
def entry? (r : Reader) (room : Nat) (text : Text) : Option (Reader × Text) := do
  let (path, value, rest) ← pair? (value? room deepest) text
  let rest ← lineEnd? rest
  let entries ← r.entries.putUnder? r.header path value
  return ({ r with entries }, rest)

/-- One statement of a text that is not empty: an empty line, a comment, a header or an entry. -/
def statement? (r : Reader) (room : Nat) (text : Text) : Option (Reader × Text) :=
  match text with
  | '[' :: '[' :: rest => r.heading? Entries.openTables? [']', ']'] rest
  | '[' :: rest => r.heading? Entries.openTable? [']'] rest
  | c :: rest =>
    if c ∈ ['#', '\n', '\r'] then (lineEnd? (c :: rest)).map fun rest => (r, rest)
    else r.entry? room (c :: rest)
  | [] => some (r, [])

/-- The statements of a text, so many at most. A text has no more of them than characters, so the
bound is never reached by a whole text. -/
def run? (room : Nat) : Nat → Reader → Text → Option Reader
  | 0, _, _ => none
  | count + 1, r, text =>
    match skipBlanks text with
    | [] => some r
    | text =>
      match r.statement? room text with
      | some (r, rest) => run? room count r rest
      | none => none

end Reader

/-- The mark of byte order, which may stand at the beginning of a document. -/
def byteOrderMark : Char := '\uFEFF'

/-- The entries of a document, if it is well-formed. A byte order mark before it is passed over. -/
def document? (text : Text) : Option Entries :=
  let text := if text.head? = some byteOrderMark then text.tail else text
  let room := text.length + 1
  (Reader.run? room room {} text).map Reader.entries

end TerminalSession.Toml
