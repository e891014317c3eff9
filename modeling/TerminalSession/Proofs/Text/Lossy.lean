import Mathlib.Algebra.Group.Nat.Defs
import Mathlib.Data.List.Basic
import TerminalSession.Proofs.Text.Utf8

/-!
# Reading back what was written

A text that was written as bytes is read back from them, whatever comes after. So only bytes that are
damaged, or cut off in the middle of a character, are read as something else.

## Main statements

* `Text.Utf8.Spells.held`: the bytes of a character lie in the ranges that its lead byte leaves open
* `Text.Utf8.Reading.run_encode`: a text is read back from its bytes, with more bytes behind them
* `Text.Utf8.lossy_encode`: a text is read back from its bytes
* `Text.Utf8.exists_of_mem_encode`: a byte below 0x80 stands for its own character

## Design notes

* The range that is open to a second byte is narrower after four of the lead bytes. That the bytes of a
  character lie in it follows from the number they spell: it needs that many bytes, and it is a
  character.
-/

namespace TerminalSession.Text.Utf8

variable {c : Char} {lead b : UInt8} {tail : List UInt8}

/-! ### Ranges -/

theorem holds_iff {range : ByteRange} :
    range.holds b = true ↔ range.1.toNat ≤ b.toNat ∧ b.toNat ≤ range.2.toNat := by
  simp [ByteRange.holds, UInt8.le_iff_toNat_le]

theorem isContinuation_iff : isContinuation b = true ↔ 0x80 ≤ b.toNat ∧ b.toNat ≤ 0xBF := by
  simp [isContinuation, UInt8.le_iff_toNat_le, UInt8.lt_iff_toNat_lt]
  omega

/-- A byte that continues a character lies in the range of these. -/
theorem holds_continuation (continues : isContinuation b = true) : continuation.holds b = true :=
  holds_iff.mpr (isContinuation_iff.mp continues)

/-- A number that was decoded needs that many bytes, and is a character. -/
theorem codePoint_of_decodeSequence {bytes : List UInt8} (decoded : decodeSequence bytes = some c) :
    leastOfLength bytes.length ≤ codePoint bytes ∧ (codePoint bytes).isValidChar := by
  unfold decodeSequence at decoded
  dsimp only at decoded
  split at decoded
  next valid => exact valid
  next => exact nomatch decoded

/-- Bytes that follow a number shift it, and add low bits. How many bytes they are tells by how
much, so that a bound on the whole is one on the number before. -/
theorem exists_low_bits (value : Nat) (bytes : List UInt8) :
    ∃ low < 64 ^ bytes.length,
      bytes.foldl (fun value b => value * 64 + b.toNat % 64) value =
        value * 64 ^ bytes.length + low := by
  induction bytes generalizing value with
  | nil => exact ⟨0, Nat.one_pos, by simp⟩
  | cons b rest ih =>
    obtain ⟨low, low_lt, rest_eq⟩ := ih (value * 64 + b.toNat % 64)
    have bits_le : b.toNat % 64 * 64 ^ rest.length ≤ 63 * 64 ^ rest.length :=
      Nat.mul_le_mul_right _ (Nat.le_of_lt_succ (Nat.mod_lt _ (by decide)))
    refine ⟨b.toNat % 64 * 64 ^ rest.length + low, ?_, ?_⟩
    · rw [List.length_cons, Nat.pow_succ]
      omega
    · rw [List.foldl_cons, rest_eq, List.length_cons, Nat.pow_succ', Nat.add_mul, Nat.mul_assoc,
        Nat.add_assoc]

namespace Spells

/-- The lead byte tells how many bytes follow. -/
theorem length_tail (spells : Spells c lead tail) {n : Nat} (total : length? lead = some (n + 1)) :
    tail.length = n := by
  have eq := total.symm.trans spells.length_eq
  rw [Option.some_inj] at eq
  omega

/-- Most lead bytes leave all bytes open that continue a character. -/
theorem held_replicate (continues : ∀ b ∈ tail, isContinuation b = true) :
    List.Forall₂ (fun range b => ByteRange.holds range b = true)
      (List.replicate tail.length continuation) tail := by
  induction tail with
  | nil => exact .nil
  | cons b rest ih =>
    exact .cons (holds_continuation (continues b List.mem_cons_self))
      (ih fun other mem => continues other (List.mem_cons_of_mem b mem))

/-- Other lead bytes narrow the range of the second byte. -/
theorem held_cons {range : ByteRange} (spells : Spells c lead (b :: tail))
    (holds : range.holds b = true) :
    List.Forall₂ (fun range b => ByteRange.holds range b = true)
      (range :: List.replicate tail.length continuation) (b :: tail) :=
  .cons holds (held_replicate fun other mem => spells.continues other (List.mem_cons_of_mem b mem))

/-- Some lead bytes narrow the range of the second byte. It lies in such a range if the number that is
spelled puts it there, whatever bits the bytes after it add. -/
theorem held_second (spells : Spells c lead tail) {n : Nat} (total : length? lead = some (n + 2))
    {range : ByteRange}
    (narrow : ∀ x low : Nat, 0x80 ≤ x → x ≤ 0xBF → low < 64 ^ n →
      let value := (lead.toNat % 1 <<< (6 - (n + 1)) * 64 + x % 64) * 64 ^ n + low
      leastOfLength (n + 2) ≤ value → value.isValidChar → range.1.toNat ≤ x ∧ x ≤ range.2.toNat) :
    List.Forall₂ (fun range b => ByteRange.holds range b = true)
      (range :: List.replicate n continuation) tail := by
  have length_eq := spells.length_tail total
  obtain ⟨b, rest, rfl⟩ := List.exists_cons_of_length_eq_add_one length_eq
  obtain rfl : rest.length = n := Nat.succ.inj length_eq
  obtain ⟨least, valid⟩ := codePoint_of_decodeSequence spells.decoded
  have bounds := isContinuation_iff.mp (spells.continues b List.mem_cons_self)
  obtain ⟨low, low_lt, value_eq⟩ := exists_low_bits
    (lead.toNat % 1 <<< (6 - (rest.length + 1)) * 64 + b.toNat % 64) rest
  have spelled : codePoint (lead :: b :: rest) = _ := value_eq
  rw [spelled] at least valid
  exact spells.held_cons (holds_iff.mpr (narrow b.toNat low bounds.1 bounds.2 low_lt least valid))

/-- The bytes that a character needs next are held by the ranges that its lead byte leaves open.
After four lead bytes the second range is narrower: what it leaves out would be a character spelled
with too many bytes, a surrogate or no character. -/
theorem held (spells : Spells c lead tail) :
    List.Forall₂ (fun range b => ByteRange.holds range b = true) (followers lead) tail := by
  unfold followers
  split
  next lead_eq =>
    subst lead_eq
    refine spells.held_second rfl fun x low _ _ low_lt least _ => ?_
    change 0x800 ≤ (0xE0 % 16 * 64 + x % 64) * 64 + low at least
    show 0xA0 ≤ x ∧ x ≤ 0xBF
    omega
  split
  next lead_eq =>
    subst lead_eq
    refine spells.held_second rfl fun x low _ _ low_lt _ valid => ?_
    change ((0xED % 16 * 64 + x % 64) * 64 + low).isValidChar at valid
    rw [Nat.isValidChar] at valid
    show 0x80 ≤ x ∧ x ≤ 0x9F
    omega
  split
  next lead_eq =>
    subst lead_eq
    refine spells.held_second rfl fun x low _ _ low_lt least _ => ?_
    change 0x10000 ≤ (0xF0 % 8 * 64 + x % 64) * 4096 + low at least
    show 0x90 ≤ x ∧ x ≤ 0xBF
    omega
  split
  next lead_eq =>
    subst lead_eq
    refine spells.held_second rfl fun x low _ _ low_lt _ valid => ?_
    change ((0xF4 % 8 * 64 + x % 64) * 4096 + low).isValidChar at valid
    rw [Nat.isValidChar] at valid
    show 0x80 ≤ x ∧ x ≤ 0x8F
    omega
  · rw [spells.length_eq]
    exact held_replicate spells.continues

end Spells

/-! ### Reading back -/

namespace Reading

variable {seen rest : List UInt8} {owed : List ByteRange}

/-- The bytes that a character still needs complete it. Each of them is in the range that is open to
it, and nothing comes out before the last. -/
theorem run_of_held (spells : Spells c lead (seen ++ rest)) (more : rest ≠ [])
    (held : List.Forall₂ (fun range b => ByteRange.holds range b = true) owed rest)
    (bytes : List UInt8) :
    run { seen := lead :: seen, owed } (rest ++ bytes) = c :: run {} bytes := by
  induction held generalizing seen with
  | nil => exact absurd rfl more
  | @cons range b later rest holds held ih =>
    rw [List.cons_append, run_cons]
    unfold step
    dsimp only
    rw [if_pos holds]
    cases held with
    | nil =>
      have decoded : decodeSequence (lead :: seen ++ [b]) = some c := spells.decoded
      rw [if_pos (by rfl), decoded]
      rfl
    | cons next_holds next_held =>
      rw [List.append_cons] at spells
      rw [if_neg (by simp)]
      exact ih spells (List.cons_ne_nil _ _)

/-- A character is read back from its bytes. One byte is read by itself; several begin with a lead
byte, and the others are held by the ranges after it. -/
theorem run_encodeChar (c : Char) (bytes : List UInt8) :
    run {} (String.utf8EncodeChar c ++ bytes) = c :: run {} bytes := by
  rcases Nat.lt_or_ge c.toNat 0x80 with ascii | wide
  · have byte : (UInt8.ofNat c.toNat).toNat = c.toNat := toNat_ofNat (by omega)
    have low : UInt8.ofNat c.toNat < 0x80 := UInt8.lt_iff_toNat_lt.mpr (by rw [byte]; exact ascii)
    have first_eq : first (UInt8.ofNat c.toNat) = ([c], {}) := by
      rw [first, if_pos low, byte, Char.ofNat_toNat]
    rw [encodeChar_of_lt ascii, List.singleton_append, run_cons]
    show (first (UInt8.ofNat c.toNat)).1 ++ (first (UInt8.ofNat c.toNat)).2.run bytes = _
    rw [first_eq]
    rfl
  · obtain ⟨lead, tail, bytes_eq, more, spells⟩ := exists_spells wide
    have held := spells.held
    have owed : (followers lead).isEmpty = false := by
      rw [List.isEmpty_eq_false_iff]
      intro none
      rw [none] at held
      cases held
      exact more rfl
    have first_eq : first lead = ([], { seen := [lead], owed := followers lead }) := by
      rw [first, if_neg (spells.wide lead List.mem_cons_self), owed]
      rfl
    rw [bytes_eq, List.cons_append, run_cons]
    show (first lead).1 ++ (first lead).2.run (tail ++ bytes) = _
    rw [first_eq]
    have none_seen : Spells c lead ([] ++ tail) := spells
    exact run_of_held none_seen more held bytes

/-- A text is read back from its bytes, and what is behind them is read as if it stood alone. -/
theorem run_encode (text : Text) (bytes : List UInt8) :
    run {} (encode text ++ bytes) = text ++ run {} bytes := by
  induction text with
  | nil => rfl
  | cons c rest ih => rw [encode_cons, List.append_assoc, run_encodeChar, ih, List.cons_append]

end Reading

theorem lossy_encode_append (text : Text) (bytes : List UInt8) :
    lossy (encode text ++ bytes) = text ++ lossy bytes := Reading.run_encode text bytes

/-- A text is read back from its bytes. -/
theorem lossy_encode (text : Text) : lossy (encode text) = text := by
  have read := lossy_encode_append text []
  rwa [List.append_nil, lossy_nil, List.append_nil] at read

/-- A byte below 0x80 in the bytes of a text stands for its own character. -/
theorem exists_of_mem_encode {text : Text} (mem : b ∈ encode text) (ascii : b.toNat < 0x80) :
    ∃ c ∈ text, c.toNat = b.toNat := by
  obtain ⟨c, c_mem, mem⟩ := List.mem_flatMap.mp mem
  refine ⟨c, c_mem, ?_⟩
  rcases Nat.lt_or_ge c.toNat 0x80 with low | wide
  · rw [encodeChar_of_lt low, List.mem_singleton] at mem
    rw [mem, toNat_ofNat (by omega)]
  · obtain ⟨lead, tail, bytes_eq, -, spells⟩ := exists_spells wide
    rw [bytes_eq] at mem
    exact absurd (UInt8.lt_iff_toNat_lt.mpr ascii) (spells.wide b mem)

end TerminalSession.Text.Utf8
