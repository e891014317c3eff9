import TerminalSession.Emulator

/-!
# Operations of a terminal

Whatever output a terminal executes, it is a short list of operations. A property of the terminal
that every operation keeps is therefore kept by every stream of output.

## Main definitions

* `Operation`: the operations of a terminal, with their arguments
* `Operation.perform`, `Operation.performAll`: the terminal after one of them, and after a list
* `Operation.overflows`, `Operation.overflowsAll`: whether one of them computes a column that is no
  word, and whether one of a list does in its turn
* `Token.operations`: the operations that a token asks for
* `Terminal.shiftFor`, `Terminal.put`: printing in insert mode, step by step

## Main statements

* `Terminal.place_eq`: printing makes room in insert mode, and then writes
* `Terminal.execute_eq_performAll`: executing a token is performing its operations
* `Terminal.overflows_eq_overflowsAll`: a token overflows where one of its operations does

## Design notes

* A token asks for a region down to the last row without naming it, so its operations depend on the
  number of rows, and on nothing else of the terminal.
-/

namespace TerminalSession

/-- An operation of a terminal. Rows, columns, counts and modes are numbers of any size, and every
list of operations can be performed; output is read as such a list. -/
inductive Operation where
  | print (c : Char)
  | carriageReturn
  | lineFeed
  | backspace
  | tab
  | index
  | reverseIndex
  | cursorUp (n : Nat)
  | cursorDown (n : Nat)
  | cursorForward (n : Nat)
  | cursorBackward (n : Nat)
  | moveTo (row col : Nat)
  | moveToRow (row : Nat)
  | moveToCol (col : Nat)
  | saveCursor
  | restoreCursor
  | scrollUp (n : Nat)
  | scrollDown (n : Nat)
  | insertLines (n : Nat)
  | deleteLines (n : Nat)
  | insertChars (n : Nat)
  | deleteChars (n : Nat)
  | eraseChars (n : Nat)
  | eraseLine (mode : Nat)
  | eraseDisplay (mode : Nat)
  | setRegion (top bottom : Nat)
  | setMode (mode : Nat) (enable : Bool)
  | setPrivateMode (mode : Nat) (enable : Bool)
  | selectRendition (params : List Nat)
  | setTitle (title : Text)
  | reset
  deriving DecidableEq, Repr

namespace Operation

/-- The terminal after an operation. It has a result for all arguments, sensible or not: counts,
rows and columns are brought into their ranges by the functions themselves. -/
def perform (t : Terminal) : Operation → Terminal
  | .print c => t.print c
  | .carriageReturn => t.carriageReturn
  | .lineFeed => t.lineFeed
  | .backspace => t.backspace
  | .tab => t.tab
  | .index => t.index
  | .reverseIndex => t.reverseIndex
  | .cursorUp n => t.cursorUp n
  | .cursorDown n => t.cursorDown n
  | .cursorForward n => t.cursorForward n
  | .cursorBackward n => t.cursorBackward n
  | .moveTo row col => t.moveTo row col
  | .moveToRow row => t.moveToRow row
  | .moveToCol col => t.moveToCol col
  | .saveCursor => t.saveCursor
  | .restoreCursor => t.restoreCursor
  | .scrollUp n => t.scrollUp n
  | .scrollDown n => t.scrollDown n
  | .insertLines n => t.insertLines n
  | .deleteLines n => t.deleteLines n
  | .insertChars n => t.insertChars n
  | .deleteChars n => t.deleteChars n
  | .eraseChars n => t.eraseChars n
  | .eraseLine mode => t.eraseLine mode
  | .eraseDisplay mode => t.eraseDisplay mode
  | .setRegion top bottom => t.setRegion top bottom
  | .setMode mode enable => t.setMode mode enable
  | .setPrivateMode mode enable => t.setPrivateMode mode enable
  | .selectRendition params => { t with style := t.style.select params }
  | .setTitle title => { t with title }
  | .reset => t.reset

/-- The terminal after a list of operations, performed in order. -/
def performAll (t : Terminal) (operations : List Operation) : Terminal :=
  operations.foldl perform t

@[simp] theorem performAll_nil (t : Terminal) : performAll t [] = t := rfl

@[simp] theorem performAll_cons (t : Terminal) (op : Operation) (rest : List Operation) :
    performAll t (op :: rest) = performAll (op.perform t) rest := rfl

theorem performAll_append (t : Terminal) (first rest : List Operation) :
    performAll t (first ++ rest) = performAll (performAll t first) rest := List.foldl_append

/-- A property that every operation keeps, a list of operations keeps. -/
theorem performAll_induction {P : Terminal → Prop}
    (keeps : ∀ (t : Terminal) (op : Operation), P t → P (op.perform t)) {t : Terminal}
    (start : P t) (operations : List Operation) : P (performAll t operations) := by
  induction operations generalizing t with
  | nil => exact start
  | cons op rest ih => exact ih (keeps t op start)

/-- Whether an operation computes a column that is no word of 16 bits. Only a tab can: all other
columns are compared with the margin before they grow. -/
def overflows (t : Terminal) : Operation → Bool
  | .tab => t.tabOverflows
  | _ => false

/-- Whether one of the operations does, each in its turn. The terminal goes on after it, so that
later ones can be looked at as well. -/
def overflowsAll (t : Terminal) : List Operation → Bool
  | [] => false
  | op :: rest => op.overflows t || overflowsAll (op.perform t) rest

theorem overflowsAll_append (t : Terminal) (first rest : List Operation) :
    overflowsAll t (first ++ rest) =
      (overflowsAll t first || overflowsAll (performAll t first) rest) := by
  induction first generalizing t with
  | nil => rfl
  | cons op first ih => rw [List.cons_append, overflowsAll, overflowsAll, ih, Bool.or_assoc,
      performAll_cons]

theorem overflows_of_ne_tab {op : Operation} (ne : op ≠ .tab) (t : Terminal) :
    op.overflows t = false := by
  cases op with
  | tab => exact absurd rfl ne
  | _ => rfl

theorem overflowsAll_of_tab_not_mem {operations : List Operation} (no_tab : tab ∉ operations)
    (t : Terminal) : overflowsAll t operations = false := by
  induction operations generalizing t with
  | nil => rfl
  | cons op rest ih =>
    have ne : op ≠ .tab := fun eq => no_tab (eq ▸ List.mem_cons_self)
    have rest_eq := ih (mt (List.mem_cons_of_mem op) no_tab) (op.perform t)
    rw [overflowsAll, overflows_of_ne_tab ne, Bool.false_or, rest_eq]

end Operation

/-! ### The operations of a token -/

/-- The operations of a control character. The tab, the backspace and the ends of a line have one;
all others have none. -/
def Operation.ofControl (code : UInt8) : List Operation :=
  if code = 0x08 then [.backspace]
  else if code = 0x09 then [.tab]
  else if 0x0A ≤ code && code ≤ 0x0C then [.lineFeed]
  else if code = 0x0D then [.carriageReturn]
  else []

/-- The operations of `ESC` and one character. -/
def Operation.ofEscape (final : Char) : List Operation :=
  match final with
  | '7' => [.saveCursor]
  | '8' => [.restoreCursor]
  | 'D' => [.index]
  | 'E' => [.carriageReturn, .index]
  | 'M' => [.reverseIndex]
  | 'c' => [.reset]
  | _ => []

/-- The operations of a function, on a terminal of so many rows. The rows are needed for a region
whose lower end is left out; a list of modes is one operation for each of them. -/
def ControlFunction.operations (rows : Nat) : ControlFunction → List Operation
  | .cursorUp n => [.cursorUp n]
  | .cursorDown n => [.cursorDown n]
  | .cursorForward n => [.cursorForward n]
  | .cursorBackward n => [.cursorBackward n]
  | .nextLine n => [.cursorDown n, .carriageReturn]
  | .previousLine n => [.cursorUp n, .carriageReturn]
  | .moveToCol col => [.moveToCol col]
  | .moveToRow row => [.moveToRow row]
  | .moveTo row col => [.moveTo row col]
  | .eraseDisplay mode => [.eraseDisplay mode]
  | .eraseLine mode => [.eraseLine mode]
  | .insertLines n => [.insertLines n]
  | .deleteLines n => [.deleteLines n]
  | .insertChars n => [.insertChars n]
  | .deleteChars n => [.deleteChars n]
  | .eraseChars n => [.eraseChars n]
  | .scrollUp n => [.scrollUp n]
  | .scrollDown n => [.scrollDown n]
  | .setRegion top bottom => [.setRegion top (bottom.getD rows), .moveTo 1 1]
  | .selectRendition params => [.selectRendition params]
  | .saveCursor => [.saveCursor]
  | .restoreCursor => [.restoreCursor]
  | .report _ => []
  | .identify => []
  | .identifySecondary => []
  | .setModes modes enable => modes.map fun mode => .setMode mode enable
  | .setPrivateModes modes enable => modes.map fun mode => .setPrivateMode mode enable

/-- The operations of a token, on a terminal of so many rows. The number is needed for a region
without an end, which goes down to the last row. -/
def Token.operations (rows : Nat) : Token → List Operation
  | .print c => [.print c]
  | .control code => Operation.ofControl code
  | .escape final => Operation.ofEscape final
  | .sequence s => (s.function?.map (ControlFunction.operations rows)).getD []
  | .command payload =>
    ((Terminal.titleOf? payload.toList).map fun title => [Operation.setTitle title]).getD []

/-- Only the control character of that name asks for a tab. There is no sequence and no short escape
that does, so this is the only way to an overflow. -/
theorem Token.tab_mem_operations {rows : Nat} {token : Token} :
    .tab ∈ token.operations rows ↔ token = .control 0x09 := by
  cases token with
  | print c => simp [operations]
  | control code =>
    simp only [operations, Operation.ofControl, control.injEq]
    split
    next backspace => simp [backspace]
    split
    next tab => simp [tab]
    next no_tab =>
      repeat' split
      all_goals simp [no_tab]
  | escape final =>
    simp only [operations, Operation.ofEscape, reduceCtorEq, iff_false]
    split <;> simp
  | sequence s =>
    simp only [operations, reduceCtorEq, iff_false]
    cases s.function? with
    | none => simp
    | some f => cases f <;> simp [ControlFunction.operations]
  | command payload =>
    simp only [operations, reduceCtorEq, iff_false]
    cases Terminal.titleOf? payload.toList <;> simp

namespace Terminal

open Operation (performAll overflowsAll)

theorem control_eq_performAll (t : Terminal) (code : UInt8) :
    t.control code = performAll t (Operation.ofControl code) := by
  unfold control Operation.ofControl
  split
  · rfl
  split
  · rfl
  split
  · rfl
  split <;> rfl

theorem escape_eq_performAll (t : Terminal) (final : Char) :
    t.escape final = performAll t (Operation.ofEscape final) := by
  unfold escape
  split
  all_goals first
    | rfl
    | next h7 h8 hD hE hM hc => simp only [Operation.ofEscape, Operation.performAll_nil]

theorem call_eq_performAll (t : Terminal) (f : ControlFunction) :
    t.call f = performAll t (f.operations t.rows) := by
  cases f with
  | setModes modes enable =>
    simp only [call, ControlFunction.operations, performAll, List.foldl_map, Operation.perform]
  | setPrivateModes modes enable =>
    simp only [call, ControlFunction.operations, performAll, List.foldl_map, Operation.perform]
  | _ => rfl

/-- Executing a token is performing its operations. So whatever is preserved by operations is
preserved by output, and what output does can be told by a list of them. -/
theorem execute_eq_performAll (t : Terminal) (token : Token) :
    t.execute token = performAll t (token.operations t.rows) := by
  cases token with
  | print c => rfl
  | control code => exact t.control_eq_performAll code
  | escape final => exact t.escape_eq_performAll final
  | sequence s =>
    simp only [execute, Token.operations]
    cases s.function? with
    | none => rfl
    | some f => exact t.call_eq_performAll f
  | command payload =>
    simp only [execute, Token.operations]
    cases titleOf? payload.toList with
    | none => rfl
    | some title => rfl

/-- A token overflows where one of its operations does. -/
theorem overflows_eq_overflowsAll (t : Terminal) (token : Token) :
    t.overflows token = overflowsAll t (token.operations t.rows) := by
  by_cases asked : token = .control 0x09
  · subst asked
    exact (Bool.or_false t.tabOverflows).symm
  · rw [Operation.overflowsAll_of_tab_not_mem (mt Token.tab_mem_operations.mp asked)]
    cases token with
    | control code =>
      have no_tab : code ≠ 0x09 := fun eq => asked (congrArg Token.control eq)
      rw [overflows, decide_eq_false no_tab, Bool.false_and]
    | _ => rfl

/-! ### Printing step by step -/

/-- Makes room in the cursor's row for a character of a width, in insert mode. -/
def shiftFor (t : Terminal) (width : Nat) : Terminal :=
  if t.modes.insert then t.insertChars width else t

/-- Writes a character over the cursor's cell and moves past it: what is left of printing once the
cursor stands where there is room. -/
def put (t : Terminal) (c : Char) (width : Nat) : Terminal :=
  (t.modifyCursorRow fun row =>
    row.write t.cursor.col { glyph := [c], width, style := t.style }).modifyCursor
      fun cursor => { cursor with col := cursor.col + width }

theorem cursor_insertChars (t : Terminal) (n : Nat) : (t.insertChars n).cursor = t.cursor :=
  cursor_modifyScreen t _

/-- The cursor does not move while room is made, so the character goes where it was. -/
theorem place_eq (t : Terminal) (c : Char) (width : Nat) :
    t.place c width = if t.cols ≤ t.cursor.col then t else (t.shiftFor width).put c width := by
  unfold place shiftFor put
  dsimp only
  split
  · rfl
  · split
    · rw [cursor_insertChars]
    · rfl

end Terminal

end TerminalSession
