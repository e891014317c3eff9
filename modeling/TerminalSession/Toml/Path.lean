import TerminalSession.Toml.Lexical
import TerminalSession.Toml.Quoted
import TerminalSession.Toml.Value

/-!
# Paths of TOML

Dotted keys, and the tables they lead to.

## Main definitions

* `Toml.Path`: the tables on the way, and the key in the last of them
* `Toml.path?`: a path from its text
* `Toml.descend?`: a change of the table at the end of a path
* `Toml.Entries.put?`, `Toml.Entries.openTable?`, `Toml.Entries.openTables?`: what an entry and the
  two kinds of headers do

## Design notes

* Tables on the way that do not exist come into being, and remember how: those of a dotted key are
  closed to headers, and those under a header of their own are closed to dotted keys.
* A path through an array of tables leads to its latest table.
-/

namespace TerminalSession.Toml

/-- The tables on the way, and the key in the last of them. -/
structure Path where
  parents : List Text
  key : Text
  deriving DecidableEq, Repr, Inhabited

/-- The most keys that a path can have. -/
def longestPath : Nat := 79

/-- One key at the beginning of a text: bare, or quoted on one line. A bare key has a character at
least, a quoted one need not. -/
def key? (text : Text) : Option (Text × Text) :=
  match text with
  | '"' :: _ => shortText? text
  | '\'' :: _ => shortText? text
  | text =>
    let key := text.takeWhile isBareKeyChar
    if key.isEmpty then none else some (key, text.dropWhile isBareKeyChar)

/-- The path at the beginning of a text, of so many keys at most. Blanks around keys do not
count. -/
def pathUpTo? : Nat → Text → Option (Path × Text)
  | 0, _ => none
  | room + 1, text =>
    match key? (skipBlanks text) with
    | none => none
    | some (key, rest) =>
      match skipBlanks rest with
      | '.' :: rest =>
        (pathUpTo? room rest).map fun (path, rest) =>
          ({ path with parents := key :: path.parents }, rest)
      | rest => some ({ parents := [], key }, rest)

/-- The path at the beginning of a text. -/
def path? (text : Text) : Option (Path × Text) := pathUpTo? longestPath text

/-- Whether a path may go on through a table. One in braces is complete, and dotted keys do not go
into a table that has a header. -/
def TableForm.admits (form way : TableForm) : Bool :=
  match form with
  | .braces => false
  | .header => way != .dotted
  | .implied => true
  | .dotted => true

/-- A change of the table at the end of a way, seen from a table and its form. `way` is the form of
the tables that come into being. -/
def descend? (way : TableForm) (change : TableForm → Entries → Option Entries) :
    List Text → TableForm → Entries → Option Entries
  | [], form, entries => change form entries
  | key :: later, _, entries =>
    match entries.find? key with
    | none =>
      (descend? way change later way []).map fun inner => (key, .table way inner) :: entries
    | some (.table form inner) =>
      if form.admits way then
        (descend? way change later form inner).map fun inner =>
          entries.replace key (.table form inner)
      else none
    | some (.tables latest earlier) =>
      (descend? way change later .header latest).map fun latest =>
        entries.replace key (.tables latest earlier)
    | some _ => none

namespace Entries

/-- An entry at a dotted path. The last table on the way has to be one of dotted keys, so that an
entry does not come to a table by two ways. -/
def put? (entries : Entries) (path : Path) (value : Value) : Option Entries :=
  descend? .dotted
    (fun form inner =>
      if (form == .dotted) == path.parents.isEmpty then none else inner.add? path.key value)
    path.parents .header entries

/-- A header in brackets: a new table, or one that was only named on the way to others. A table is
opened once. -/
def openTable? (entries : Entries) (path : Path) : Option Entries :=
  descend? .implied
    (fun _ inner =>
      match inner.find? path.key with
      | none => some ((path.key, .table .header []) :: inner)
      | some (.table .implied old) => some (inner.replace path.key (.table .header old))
      | some _ => none)
    path.parents .header entries

/-- A header in double brackets: one more table of an array of tables. Nothing else may have the
name. -/
def openTables? (entries : Entries) (path : Path) : Option Entries :=
  descend? .implied
    (fun _ inner =>
      match inner.find? path.key with
      | none => some ((path.key, .tables [] []) :: inner)
      | some (.tables latest earlier) =>
        some (inner.replace path.key (.tables [] (latest :: earlier)))
      | some _ => none)
    path.parents .header entries

/-- An entry under a header. -/
def putUnder? (entries : Entries) (header : List Text) (path : Path) (value : Value) :
    Option Entries :=
  descend? .implied (fun _ inner => inner.put? path value) header .header entries

end Entries

end TerminalSession.Toml
