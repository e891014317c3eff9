import Mathlib.Data.List.DropRight
import TerminalSession.Proofs.Control.Registers

/-!
# How much a scanner retains

There is a limit to the parameters of a sequence, to the payload of a command and to the bytes of a
character. There is none to the markers and intermediates of a sequence: all that came since the last
`ESC` may be held.

## Main definitions

* `Registers.isCollected`: the markers and intermediates
* `Registers.sinceEscape`: the end of a stream, after its last `ESC`
* `Registers.Gathers`: what a byte does to the intermediates

## Main statements

* `Registers.intermediates_sublist`: the intermediates that are held came since the last `ESC`
* `Registers.retained_run`: the limits that hold after any stream
* `Registers.retained_run_unlimited`: the registers may hold more than any number of elements

## Design notes

* The intermediates are not cleared when a sequence ends, so they are counted from `ESC` on.
-/

namespace TerminalSession.Registers

open Text.Utf8 (Partial)

/-- The markers and intermediates, which sequences collect. -/
def isCollected (b : UInt8) : Bool := Scanner.isMarker b || Scanner.isIntermediate b

/-- The end of a stream, after its last `ESC`. -/
def sinceEscape (bytes : List UInt8) : List UInt8 := bytes.rtakeWhile (· != 0x1B)

/-- Markers and intermediates are what is collected. -/
theorem isCollected_of_isMarker {b : UInt8} (marker : Scanner.isMarker b = true) :
    isCollected b = true := Bool.or_eq_true_iff.mpr (.inl marker)

theorem isCollected_of_isIntermediate {b : UInt8} (intermediate : Scanner.isIntermediate b = true) :
    isCollected b = true := Bool.or_eq_true_iff.mpr (.inr intermediate)

/-! ### The intermediates after a byte -/

/-- What a byte does to the intermediates: it keeps them, clears them, or is one more. There is no
fourth possibility, and in particular none that drops a byte for want of room. -/
inductive Gathers (b : UInt8) (before : List UInt8) : List UInt8 → Prop
  | keeps : Gathers b before before
  | clears : Gathers b before []
  | adds (collected : isCollected b = true) : Gathers b before (before ++ [b])

section Step

variable (r : Registers) (b : UInt8)

/-- A control character clears the register when it begins a sequence, and leaves it otherwise. -/
theorem gathers_control : Gathers b r.intermediates (r.control b).1.intermediates := by
  unfold control
  split
  · exact .clears
  split
  · exact .keeps
  · exact .keeps

theorem gathers_afterEscape : Gathers b r.intermediates (r.afterEscape b).1.intermediates := by
  unfold afterEscape
  split
  · exact .clears
  split
  · exact .keeps
  split
  · exact .keeps
  split
  next intermediate => exact .adds (isCollected_of_isIntermediate intermediate)
  · exact .keeps

/-- After the start of a sequence a byte is put behind those that were collected, or it is no such
byte and the register stays. -/
theorem gathers_inStart : Gathers b r.intermediates (r.inStart b).1.intermediates := by
  unfold inStart
  cases Scanner.digit? b with
  | some digit => exact .keeps
  | none =>
    dsimp only
    split
    · exact .keeps
    split
    next marker => exact .adds (isCollected_of_isMarker marker)
    split
    next intermediate => exact .adds (isCollected_of_isIntermediate intermediate)
    split
    · exact .keeps
    · exact .keeps

theorem gathers_inParams : Gathers b r.intermediates (r.inParams b).1.intermediates := by
  unfold inParams
  cases Scanner.digit? b with
  | some digit => exact .keeps
  | none =>
    dsimp only
    split
    · exact .keeps
    split
    next intermediate => exact .adds (isCollected_of_isIntermediate intermediate)
    split
    · exact .keeps
    · exact .keeps

theorem gathers_inIntermediate :
    Gathers b r.intermediates (r.inIntermediate b).1.intermediates := by
  unfold inIntermediate
  split
  next intermediate => exact .adds (isCollected_of_isIntermediate intermediate)
  split
  · exact .keeps
  · exact .keeps

/-- In text and in strings nothing is collected. -/
theorem gathers_inText : Gathers b r.intermediates (r.inText b).1.intermediates := by
  unfold inText
  split
  · exact .keeps
  · exact .keeps

theorem gathers_inCommand : Gathers b r.intermediates (r.inCommand b).1.intermediates := by
  unfold inCommand
  split
  · exact .keeps
  split
  · exact .keeps
  split
  · exact .keeps
  · exact .keeps

/-- After `ESC` in a command there is nothing to keep, because a new escape begins. -/
theorem gathers_inCommandEscape (empty : r.intermediates = []) :
    Gathers b r.intermediates (r.inCommandEscape b).1.intermediates := by
  unfold inCommandEscape
  split
  · exact .keeps
  · rw [empty]
    exact gathers_afterEscape r.execute.1.beginEscape b

/-- So whatever place the stream is at, a byte is collected or the register stays or is cleared. A
string begins with an empty register. -/
theorem gathers_read (empty : r.inString = true → r.intermediates = []) :
    Gathers b r.intermediates (r.read b).1.intermediates := by
  unfold read
  split
  · exact r.gathers_inText b
  · exact r.gathers_afterEscape b
  · split
    next intermediate => exact .adds (isCollected_of_isIntermediate intermediate)
    · exact .keeps
  · exact r.gathers_inStart b
  · exact r.gathers_inParams b
  · exact r.gathers_inIntermediate b
  · split
    · exact .keeps
    · exact .keeps
  · exact r.gathers_inCommand b
  next mode => exact r.gathers_inCommandEscape b (empty (by rw [inString, mode]))
  · split
    · exact .keeps
    split
    · exact .keeps
    · exact .keeps
  · exact .keeps

/-- A character that is cut off is in none of the registers of sequences. -/
theorem cutOff_eq : (r.cutOff b).1.intermediates = r.intermediates ∧
    (r.cutOff b).1.inString = r.inString := by
  unfold cutOff
  split <;> exact ⟨rfl, rfl⟩

/-- A byte first cuts off what it does not complete, and is then a control character or read by the
place in the stream. -/
theorem step_fst : (r.step b).1 =
    if Scanner.isControlByte b && !r.inString then ((r.cutOff b).1.control b).1
    else ((r.cutOff b).1.read b).1 := by
  unfold step
  dsimp only
  rw [(r.cutOff_eq b).2]
  split <;> rfl

end Step

namespace StandFor

variable {r : Registers} {s : Scanner}

/-- So it is for each step, if the registers stand for a scanner. -/
theorem gathers_step (stands : StandFor r s) (b : UInt8) :
    Gathers b r.intermediates (r.step b).1.intermediates := by
  have empty : r.inString = true → r.intermediates = [] := fun inside => (stands.cleared inside).2
  obtain ⟨intermediates_eq, inString_eq⟩ := r.cutOff_eq b
  rw [step_fst, ← intermediates_eq]
  split
  · exact gathers_control _ b
  · exact gathers_read _ b (by rw [intermediates_eq, inString_eq]; exact empty)

/-- Nothing is left of the intermediates after `ESC`. -/
theorem intermediates_step_escape (stands : StandFor r s) :
    (r.step 0x1B).1.intermediates = [] := by
  cases inside : r.inString with
  | false =>
    rw [step_fst, inside]
    rfl
  | true =>
    have gathers := stands.gathers_step 0x1B
    rw [(stands.cleared inside).2] at gathers
    generalize (r.step 0x1B).1.intermediates = after at gathers
    cases gathers with
    | keeps => rfl
    | clears => rfl
    | adds collected => exact absurd collected (by decide)

end StandFor

/-! ### Any stream -/

/-- What came since the last `ESC` grows by each byte, and begins anew with an `ESC`. -/
theorem sinceEscape_concat (bytes : List UInt8) (b : UInt8) :
    sinceEscape (bytes ++ [b]) = if b = 0x1B then [] else sinceEscape bytes ++ [b] := by
  rw [sinceEscape, List.rtakeWhile_concat]
  by_cases escape : b = 0x1B <;> simp [escape, sinceEscape]

/-- The intermediates that are held came since the last `ESC`, in this order. -/
theorem intermediates_sublist (bytes : List UInt8) :
    List.Sublist (new.run bytes).1.intermediates ((sinceEscape bytes).filter isCollected) := by
  induction bytes using List.reverseRecOn with
  | nil => exact List.nil_sublist _
  | append_singleton bytes b ih =>
    have stands := (agree_run_new bytes).place
    have run_eq : (new.run (bytes ++ [b])).1 = ((new.run bytes).1.step b).1 := by
      rw [run_append, run_cons, run_nil]
    rw [run_eq, sinceEscape_concat]
    split
    next escape =>
      rw [escape, stands.intermediates_step_escape]
      exact List.nil_sublist _
    next =>
      have gathers := stands.gathers_step b
      generalize ((new.run bytes).1.step b).1.intermediates = after at gathers
      rw [List.filter_append]
      cases gathers with
      | keeps => exact ih.trans (List.sublist_append_left _ _)
      | clears => exact List.nil_sublist _
      | adds collected =>
        rw [List.filter_cons_of_pos collected]
        exact ih.append_right [b]

/-- The limits of the registers after any stream, from which the same tokens are read as by a scanner
without them: of the parameters, of the payload and of the bytes of a character. The intermediates are
those since the last `ESC` at most, and this is the only limit that there is to them. -/
theorem retained_run (bytes : List UInt8) :
    let r := (new.run bytes).1
    let collected := (sinceEscape bytes).filter isCollected
    (new.run bytes).2 = (Scanner.ground.run bytes).2 ∧
      r.params.length ≤ Scanner.maxParams ∧ r.payload.size ≤ Scanner.maxPayload ∧
      r.part.length < Partial.bufferSize ∧ List.Sublist r.intermediates collected ∧
      r.retained ≤ max Scanner.maxPayload (Scanner.maxParams + collected.length) := by
  intro r collected
  have agree := agree_run_new bytes
  have stands := agree.place
  have few : r.params.length ≤ Scanner.maxParams := stands.length_params_le
  have short : r.payload.size ≤ Scanner.maxPayload := stands.size_payload_le
  have sublist : List.Sublist r.intermediates collected := intermediates_sublist bytes
  refine ⟨agree.tokens, few, short, stands.length_part_lt, sublist, ?_⟩
  cases inside : r.inString with
  | true =>
    -- A string has its payload only.
    obtain ⟨no_params, no_intermediates⟩ := stands.cleared inside
    have retained_eq : r.retained = r.payload.size := by
      rw [retained, no_params, no_intermediates, List.length_nil, List.length_nil, Nat.zero_add]
    rw [retained_eq]
    exact Nat.le_trans short (Nat.le_max_left _ _)
  | false =>
    have no_payload : r.payload = #[] := stands.payload_eq inside
    have retained_eq : r.retained = r.params.length + r.intermediates.length := by
      rw [retained, no_payload]
      rfl
    rw [retained_eq]
    exact Nat.le_trans (Nat.add_le_add few sublist.length_le) (Nat.le_max_right _ _)

/-- Markers are held without a limit. -/
theorem run_markers (intermediates : List UInt8) (n : Nat) :
    (run { mode := .sequenceStart, intermediates } (List.replicate n 0x21)).1 =
      { mode := .sequenceStart, intermediates := intermediates ++ List.replicate n 0x21 } := by
  induction n generalizing intermediates with
  | zero => rw [List.replicate_zero, List.append_nil, run_nil]
  | succ n ih =>
    have step_eq : step { mode := .sequenceStart, intermediates } 0x21 =
        ({ mode := .sequenceStart, intermediates := intermediates ++ [0x21] }, []) := rfl
    rw [List.replicate_succ, run_cons, step_eq, ih, List.append_assoc]
    rfl

/-- As many markers as one likes are retained. -/
theorem retained_markers (n : Nat) :
    (new.run (0x1B :: 0x5B :: List.replicate n 0x21)).1.retained = n := by
  have run_eq : (new.run (0x1B :: 0x5B :: List.replicate n 0x21)).1 =
      (run { mode := .sequenceStart } (List.replicate n 0x21)).1 := rfl
  rw [run_eq, run_markers [] n]
  simp [retained]

/-- No number limits what the registers of sequences and commands hold. -/
theorem retained_run_unlimited :
    ¬ ∃ limit, ∀ bytes, let r := (new.run bytes).1
      r.params.length ≤ 32 ∧ r.payload.size ≤ 4096 ∧ r.part.length ≤ 4 ∧ r.retained ≤ limit := by
  rintro ⟨limit, limited⟩
  have le := (limited (0x1B :: 0x5B :: List.replicate (limit + 1) 0x21)).2.2.2
  rw [retained_markers] at le
  exact Nat.not_succ_le_self limit le

end TerminalSession.Registers
