import TerminalSession.Text.CodeRange
import TerminalSession.Toml.Moment
import TerminalSession.Toml.Number

/-!
# TOML values

## Main definitions

* `Toml.Value`: the values of the format
* `Toml.TableForm`: how a table was written, which decides what later lines may add to it
* `Toml.Entries`: the entries of a table
* `Toml.Entries.find?`, `Toml.Entries.add?`, `Toml.Entries.replace`: the entry of a key
* `Toml.Value.entries?`: the entries of whatever reads as a table

## Design notes

* The order of entries carries no meaning, so a new entry goes to the front.
* An array of tables has a latest table, to which the lines after its header add.
-/

namespace TerminalSession.Toml

/-- How a table was written. -/
inductive TableForm where
  /-- Between braces; it is complete. -/
  | braces
  /-- Under a header of its own, or as the document itself. -/
  | header
  /-- Named only as a part of the path in a header. -/
  | implied
  /-- Named only as a part of a dotted key. -/
  | dotted
  deriving DecidableEq, Repr, Inhabited

/-- A value of the format. -/
inductive Value where
  | text (content : Text)
  | integer (n : Int)
  | float (x : FloatLiteral)
  | boolean (b : Bool)
  | moment (m : Moment)
  | array (items : List Value)
  | table (form : TableForm) (entries : List (Text × Value))
  /-- Tables under headers in double brackets, of which the latest can still grow. -/
  | tables (latest : List (Text × Value)) (earlier : List (List (Text × Value)))
  deriving Inhabited

/-- The entries of a table. -/
abbrev Entries := List (Text × Value)

namespace Entries

/-- The value of a key. -/
def find? (entries : Entries) (key : Text) : Option Value :=
  List.lookup key entries

/-- The entries with one more, unless the key is in use. -/
def add? (entries : Entries) (key : Text) (value : Value) : Option Entries :=
  if (entries.find? key).isSome then none else some ((key, value) :: entries)

/-- The entries with another value for a key in use. -/
def replace (entries : Entries) (key : Text) (value : Value) : Entries :=
  entries.map fun entry => if entry.1 = key then (key, value) else entry

end Entries

namespace Value

/-- The key under which a moment keeps its text where a table is read. -/
def momentKey : Text := "$__toml_private_datetime".toList

/-- The entries of a value that reads as a table. A moment reads as a table with one private
entry. -/
def entries? : Value → Option Entries
  | .table _ entries => some entries
  | .moment m => some [(momentKey, .text m.describe)]
  | _ => none

/-- The items of a value that reads as an array. Tables with headers in double brackets are one, in
the order of their headers. -/
def items? : Value → Option (List Value)
  | .array items => some items
  | .tables latest earlier => some ((latest :: earlier).reverse.map (.table .header))
  | _ => none

end Value

end TerminalSession.Toml
