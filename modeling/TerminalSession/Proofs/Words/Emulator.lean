import TerminalSession.Proofs.Emulator.Columns
import TerminalSession.Proofs.Words.Terminal

/-!
# Emulators in words

Output is executed with columns and rows that are words of 16 bits. In a run whose sizes are words,
only a tab from the last tab stop that is one, or from beyond it, leads out of them. The emulator
tells so: `Emulator.overflowed` is the outcome of such a tab.

## Main definitions

* `Words.feed`: output arrives, and fails where a column or a row is no word
* `Words.act`, `Words.run`: so do an action and a run
* `Emulator.Action.inWords`: the actions with sizes that are words

## Main statements

* `Words.feed_eq`: output fails where one of its operations overflows, and nowhere else
* `Words.run_eq`: a run fails just if the emulator tells of an overflow after it
* `Emulator.words_run`: what this means during and after a run
* `Emulator.not_forall_fits`: a run that overflows

## Design notes

* An emulator goes on after an overflow with the column modulo 2^16. So the operations of a state that
  was reached are compared one by one, whether or not an overflow came before; the run as a whole
  fails with the first one.
-/

namespace TerminalSession

open Operation (overflowsAll)

/-! ### Checked output and runs -/

namespace Words

/-- The reply to a token, if its numbers are words. Tokens that ask for nothing are not answered. -/
def reply (t : Terminal) : Token → Option (Option Reply)
  | .sequence s =>
    match s.function? with
    | some f => answer t f
    | none => some none
  | _ => some none

/-- One token is executed, if all columns and rows are words. What does not compute any is taken
over from the total function. -/
def execute (e : Emulator) (token : Token) : Option Emulator := do
  let reply ← reply e.terminal token
  let terminal ← performAll e.terminal (token.operations e.terminal.rows)
  some { e.execute token with terminal, replies := e.replies ++ reply.toArray }

/-- One byte of output, if all columns and rows are words. -/
def feedByte (e : Emulator) (b : UInt8) : Option Emulator :=
  let (scanner, tokens) := e.scanner.step b
  tokens.foldlM execute { e with scanner }

/-- Output arrives, if all columns and rows are words. The first that is none ends it. -/
def feed (e : Emulator) (bytes : List UInt8) : Option Emulator :=
  bytes.foldlM feedByte e

/-- The emulator after an action, if all columns and rows are words. A change of the size and a movement
of the window compute none. -/
def act (e : Emulator) : Emulator.Action → Option Emulator
  | .output bytes => feed e bytes
  | .operate op => (perform e.terminal op).map (e.perform op).withTerminal
  | action => some (e.act action)

/-- The emulator after a list of actions, if all columns and rows are words in all of them. -/
def run (e : Emulator) (actions : List Emulator.Action) : Option Emulator :=
  actions.foldlM act e

end Words

namespace Emulator

/-- Whether an action has a size of words, or none. -/
def Action.inWords : Action → Bool
  | .resize cols rows _ _ => cols ≤ Dimensions.greatest && rows ≤ Dimensions.greatest
  | _ => true

/-- The sides of a terminal stay words as long as the sizes that are asked for are. -/
theorem inWords_act {e : Emulator} (words : e.terminal.InWords) {action : Action}
    (admitted : action.inWords = true) : (e.act action).terminal.InWords := by
  have size_eq := size_act e action
  cases action with
  | resize cols rows _ _ =>
    obtain ⟨cols_le, rows_le⟩ := Bool.and_eq_true_iff.mp admitted
    obtain ⟨cols_eq, rows_eq⟩ := Prod.mk.inj size_eq
    exact ⟨cols_eq.le.trans (of_decide_eq_true cols_le), rows_eq.le.trans (of_decide_eq_true rows_le)⟩
  | _ => exact words.of_size_eq size_eq

theorem inWords_run {e : Emulator} (words : e.terminal.InWords) {actions : List Action}
    (admitted : ∀ action ∈ actions, action.inWords = true) : (e.run actions).terminal.InWords := by
  induction actions generalizing e with
  | nil => exact words
  | cons action rest ih =>
    have acted := inWords_act words (admitted action List.mem_cons_self)
    exact ih acted fun other mem => admitted other (List.mem_cons_of_mem _ mem)

/-- An overflow stays known. -/
theorem overflowed_act {e : Emulator} (exceeded : e.overflowed = true) (action : Action) :
    (e.act action).overflowed = true := by
  cases action with
  | output bytes =>
    rw [act, overflowed_feed, exceeded, Bool.or_true]
  | operate op => exact (congrArg (op.overflows e.terminal || ·) exceeded).trans (Bool.or_true _)
  | _ => exact exceeded

theorem overflowed_run {e : Emulator} (exceeded : e.overflowed = true) (actions : List Action) :
    (e.run actions).overflowed = true := by
  induction actions generalizing e with
  | nil => exact exceeded
  | cons action rest ih => exact ih (overflowed_act exceeded action)

end Emulator

namespace Words

section Feeding

variable {limit : Nat} {e : Emulator} (wf : e.WellFormed limit) (words : e.terminal.InWords)
include wf words

theorem reply_eq_some (token : Token) : reply e.terminal token = some (e.terminal.reply? token) := by
  cases token with
  | sequence s =>
    rw [reply, Terminal.reply?]
    cases s.function? with
    | none => rfl
    | some f => exact answer_eq_some wf.terminal words f
  | _ => rfl

theorem execute_eq (token : Token) :
    execute e token = if overflowsAll e.terminal (token.operations e.terminal.rows) then none
      else some (e.execute token) := by
  rw [execute, reply_eq_some wf words, Option.bind_eq_bind, Option.bind_some,
    performAll_eq wf.terminal words, ← Terminal.execute_eq_performAll]
  split <;> rfl

/-- Tokens are executed one after the other, and the first whose operations overflow is the last.
Since the rows stay the same, the operations can be told from the tokens at once. -/
theorem foldlM_execute_eq (tokens : List Token) :
    tokens.foldlM execute e =
      if overflowsAll e.terminal (tokens.flatMap (Token.operations e.terminal.rows)) then none
      else some (tokens.foldl Emulator.execute e) := by
  induction tokens generalizing e with
  | nil => rfl
  | cons token rest ih =>
    have same : (e.execute token).terminal.size = e.terminal.size := e.terminal.size_execute token
    have rest_eq := ih (wf.execute token) (words.of_size_eq same)
    have after : Operation.performAll e.terminal (token.operations e.terminal.rows) =
        (e.execute token).terminal := (e.terminal.execute_eq_performAll token).symm
    rw [List.foldlM_cons, execute_eq wf words, List.flatMap_cons, Operation.overflowsAll_append, after]
    cases overflowsAll e.terminal (token.operations e.terminal.rows) with
    | true => rfl
    | false => rwa [Terminal.rows_eq_of_size_eq same] at rest_eq

theorem feedByte_eq (b : UInt8) :
    feedByte e b =
      if overflowsAll e.terminal (e.operations [b]) then none else some (e.feedByte b) := by
  have read : ({ e with scanner := (e.scanner.step b).1 } : Emulator).WellFormed limit :=
    { terminal := wf.terminal, scanner := Scanner.hasRoom_step e.scanner b }
  have operations_eq : e.operations [b] =
      (e.scanner.step b).2.flatMap (Token.operations e.terminal.rows) := by
    simp [Emulator.operations]
  rw [operations_eq]
  exact foldlM_execute_eq read words (e.scanner.step b).2

/-- Output fails where one of its operations overflows, and nowhere else. Whether one does is told
by the operations alone, each on the terminal that the ones before it leave. -/
theorem feed_eq (bytes : List UInt8) :
    feed e bytes =
      if overflowsAll e.terminal (e.operations bytes) then none else some (e.feed bytes) := by
  induction bytes generalizing e with
  | nil => rfl
  | cons b rest ih =>
    have after : (e.feedByte b).terminal = Operation.performAll e.terminal (e.operations [b]) :=
      e.terminal_feed [b]
    have same : (e.feedByte b).terminal.size = e.terminal.size :=
      after ▸ e.terminal.size_performAll (e.operations [b])
    have operations_eq : e.operations (b :: rest) =
        e.operations [b] ++ (e.feedByte b).operations rest := e.operations_append [b] rest
    rw [feed, List.foldlM_cons, feedByte_eq wf words, operations_eq, Operation.overflowsAll_append,
      ← after]
    cases overflowsAll e.terminal (e.operations [b]) with
    | true => rfl
    | false => exact ih (wf.feedByte?_eq_some b).2 (words.of_size_eq same)

/-- Where nothing overflowed before, an action fails just if the emulator tells of an overflow after
it. -/
theorem act_eq (fits : e.overflowed = false) (action : Emulator.Action) :
    act e action = if (e.act action).overflowed then none else some (e.act action) := by
  cases action with
  | output bytes => rw [act, feed_eq wf words, Emulator.act, e.overflowed_feed, fits, Bool.or_false]
  | operate op =>
    have over_eq : (e.perform op).overflowed = op.overflows e.terminal := by
      rw [Emulator.perform, fits, Bool.or_false]
    rw [act, perform_eq wf.terminal words, Emulator.act, over_eq]
    split <;> rfl
  | resize cols rows _ _ => exact (if_neg (ne_true_of_eq_false fits)).symm
  | scroll delta => exact (if_neg (ne_true_of_eq_false fits)).symm

end Feeding

/-- A run fails just if the emulator tells of an overflow after it. The first overflow ends it; the total
run goes on and keeps it in mind. -/
theorem run_eq {limit : Nat} {e : Emulator} (wf : e.WellFormed limit) (words : e.terminal.InWords)
    (fits : e.overflowed = false) {actions : List Emulator.Action}
    (admitted : ∀ action ∈ actions, action.inWords = true) :
    run e actions = if (e.run actions).overflowed then none else some (e.run actions) := by
  induction actions generalizing e with
  | nil => exact (if_neg (ne_true_of_eq_false fits)).symm
  | cons action rest ih =>
    have acted := Emulator.inWords_act words (admitted action List.mem_cons_self)
    rw [run, List.foldlM_cons, act_eq wf words fits]
    cases exceeded : (e.act action).overflowed with
    | true => exact (if_pos (Emulator.overflowed_run exceeded rest)).symm
    | false =>
      exact ih (wf.act action) acted exceeded fun other mem =>
        admitted other (List.mem_cons_of_mem _ mem)

end Words

namespace Emulator

open Words in
/-- A run whose sizes are words fails in words just if the emulator tells of an overflow after it. In any
state that such a run reaches, an operation has a result in words unless it is a tab from the last
stop or from beyond it. So has output, unless one of its operations is such a tab in its turn: then,
and only then, the emulator tells of a new overflow, and this needs a terminal with columns that far.
Replies and the cursor in the window are always words. A tab that has a result leads to the next stop
or to the last column, and so never to the left. -/
theorem words_run {cols rows : Nat} (cols_pos : 0 < cols) (cols_le : cols ≤ Dimensions.greatest)
    (rows_pos : 0 < rows) (rows_le : rows ≤ Dimensions.greatest) (limit : Nat)
    {actions : List Action} (admitted : ∀ action ∈ actions, action.inWords = true) :
    let e := (fresh cols rows limit).run actions
    let t := e.terminal
    Words.run (fresh cols rows limit) actions = (if e.overflowed then none else some e) ∧
      (∀ op, Words.perform t op =
        if op = .tab ∧ lastStop ≤ t.cursor.col then none else some (op.perform t)) ∧
      (∀ bytes, Words.feed e bytes =
        if overflowsAll t (e.operations bytes) then none else some (e.feed bytes)) ∧
      (∀ bytes, (e.feed bytes).overflowed = (overflowsAll t (e.operations bytes) || e.overflowed)) ∧
      (t.cols < lastStop → ∀ bytes, Words.feed e bytes = some (e.feed bytes)) ∧
      (∀ f, Words.answer t f = some (t.answer? f)) ∧
      Words.cursorReport t = some t.cursorReport ∧
      ∀ t', Words.perform t .tab = some t' →
        t'.cursor.col = min (8 * (t.cursor.col / 8 + 1)) (t.cols - 1) ∧
          (t.cursor.col < t.cols → t.cursor.col ≤ t'.cursor.col) := by
  intro e t
  have new : (fresh cols rows limit).WellFormed limit := WellFormed.fresh limit cols_pos rows_pos
  have wf : e.WellFormed limit := new.run actions
  have words : t.InWords := inWords_run ⟨cols_le, rows_le⟩ admitted
  refine ⟨run_eq new ⟨cols_le, rows_le⟩ rfl admitted, fun op => ?performed, feed_eq wf words,
    e.overflowed_feed, fun narrow bytes => ?narrow, answer_eq_some wf.terminal words,
    cursorReport_eq_some wf.terminal words, fun t' stops =>
      ⟨col_of_tab wf.terminal words stops, le_col_of_tab wf.terminal words stops⟩⟩
  case performed =>
    rw [perform_eq wf.terminal words]
    exact if_congr overflows_iff rfl rfl
  case narrow =>
    rw [feed_eq wf words, overflowsAll_eq_false wf.terminal narrow]
    rfl

/-- In the widest terminal the cursor is sent to column 65530. Nothing has overflowed there, a character
can be printed, and the cursor is reported; but a tab has no result, and the emulator tells so. -/
theorem words_run_widest :
    let actions := [Action.output (Text.Utf8.encode "\x1b[65530G".toList)]
    let start := fresh 65535 1 0
    let e := start.run actions
    e.overflowed = false ∧ e.terminal.cursor.col = 65529 ∧ Words.run start actions = some e ∧
      Words.perform e.terminal .tab = none ∧ Words.feed e [0x09] = none ∧
      (e.feed [0x09]).overflowed = true ∧
      Words.perform e.terminal (.print 'x') = some (e.terminal.print 'x') ∧
      Words.cursorReport e.terminal = some { col := 65530, row := 1, valid := true } := by
  intro actions start e
  have admitted : ∀ action ∈ actions, action.inWords = true := by
    simp [actions, Action.inWords]
  obtain ⟨ran, performed, fed, overflowed_eq, -, -, reported, -⟩ :=
    words_run (by decide) (by decide : 65535 ≤ Dimensions.greatest) Nat.one_pos (by decide) 0 admitted
  have fits : e.overflowed = false := by decide +kernel
  have col_eq : e.terminal.cursor.col = 65529 := by decide +kernel
  have beyond : Words.lastStop ≤ e.terminal.cursor.col := by
    rw [col_eq]
    decide
  have exceeds : overflowsAll e.terminal (e.operations [0x09]) = true := by decide +kernel
  have report_eq : e.terminal.cursorReport = { col := 65530, row := 1, valid := true } := by
    decide +kernel
  refine ⟨fits, col_eq, ran.trans (if_neg (ne_true_of_eq_false fits)),
    (performed .tab).trans (if_pos ⟨rfl, beyond⟩), (fed [0x09]).trans (if_pos exceeds),
    (overflowed_eq [0x09]).trans ?_, (performed (.print 'x')).trans (if_neg (by simp)),
    reported.trans (congrArg some report_eq)⟩
  rw [exceeds, Bool.true_or]

/-- Not every run whose sizes are words stays in words: this one overflows with its last byte. -/
theorem not_forall_fits :
    ¬ ∀ (cols rows limit : Nat) (actions : List Action), 0 < cols → cols ≤ Dimensions.greatest →
      0 < rows → rows ≤ Dimensions.greatest → (∀ action ∈ actions, action.inWords = true) →
        ((fresh cols rows limit).run actions).overflowed = false := by
  intro fits
  have fits_widest := fits 65535 1 0 [.output (Text.Utf8.encode "\x1b[65530G\t".toList)] (by decide)
    (by decide) Nat.one_pos (by decide) (by simp [Action.inWords])
  exact absurd fits_widest (by decide +kernel)

end Emulator

end TerminalSession
