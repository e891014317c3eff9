import TerminalSession.Text.Utf8

/-!
# Reading bytes as text

The bytes of a character are put together again as that character, and no damage makes one of the first
128 characters out of other bytes.

## Main definitions

* `Text.Utf8.Spells`: a lead byte and continuation bytes that encode a character
* `Text.Utf8.Reading.Fits`: what was read of a character leaves it four bytes long at most

## Main statements

* `Text.Utf8.encodeChar_of_lt`: a character below U+0080 is one byte
* `Text.Utf8.exists_spells`: any other one is spelled by its bytes
* `Text.Utf8.Partial.push_of_more`, `Text.Utf8.Partial.push_last`: the bytes that spell a character
  wait for the last one of them, and give the character then
* `Text.Utf8.le_toNat_of_decodeSequence`: several bytes give none of the first 128 characters
* `Text.Utf8.exists_of_mem_lossy`: so each of these in a text stands for its own byte

## Design notes

* What is said of the bytes is just what a reader looks at: the number of bytes that the lead byte
  announces, that the others continue it, and the number that they spell.
-/

namespace TerminalSession.Text.Utf8

/-- A lead byte and continuation bytes that encode a character. -/
structure Spells (c : Char) (lead : UInt8) (tail : List UInt8) : Prop where
  length_eq : length? lead = some (tail.length + 1)
  continues : ∀ b ∈ tail, isContinuation b = true
  decoded : decodeSequence (lead :: tail) = some c

/-- A character below U+0080 is one byte. -/
theorem encodeChar_of_lt {c : Char} (ascii : c.toNat < 0x80) :
    String.utf8EncodeChar c = [UInt8.ofNat c.toNat] :=
  if_pos (Nat.le_of_lt_succ ascii)

theorem toNat_ofNat {n : Nat} (lt : n < 256) : (UInt8.ofNat n).toNat = n :=
  UInt8.toNat_ofNat_of_lt' lt

/-- The number of bytes that a lead byte announces, told from its number. -/
theorem length?_ofNat {n : Nat} (lt : n < 256) :
    length? (UInt8.ofNat n) =
      if 194 ≤ n ∧ n ≤ 223 then some 2
      else if 224 ≤ n ∧ n ≤ 239 then some 3
      else if 240 ≤ n ∧ n ≤ 244 then some 4
      else none := by
  simp [length?, UInt8.le_iff_toNat_le, toNat_ofNat lt]

theorem isContinuation_ofNat (n : Nat) : isContinuation (UInt8.ofNat (n % 64 + 128)) = true := by
  simp [isContinuation, UInt8.le_iff_toNat_le, UInt8.lt_iff_toNat_lt]
  omega

/-- A lead byte is not one below 0x80, nor is a byte that continues a character. -/
theorem Spells.wide {c : Char} {lead : UInt8} {tail : List UInt8} (spells : Spells c lead tail) :
    ∀ b ∈ lead :: tail, ¬ b < 0x80 := by
  intro b mem low
  rcases List.mem_cons.mp mem with rfl | mem
  · have none : length? b = none := by
      have lt : b.toNat < 128 := UInt8.lt_iff_toNat_lt.mp low
      rw [← UInt8.ofNat_toNat (x := b), length?_ofNat b.toNat_lt, if_neg (by omega),
        if_neg (by omega), if_neg (by omega)]
    exact nomatch none.symm.trans spells.length_eq
  · have continues := spells.continues b mem
    simp only [isContinuation, Bool.and_eq_true, decide_eq_true_eq] at continues
    exact UInt8.not_lt.mpr continues.1 low

/-- The number that was encoded is read again, when it has the least number of bytes. -/
theorem decodeSequence_of_codePoint {bytes : List UInt8} {c : Char}
    (spelled : codePoint bytes = c.toNat) (least : leastOfLength bytes.length ≤ c.toNat) :
    decodeSequence bytes = some c := by
  unfold decodeSequence
  dsimp only
  rw [spelled, if_pos ⟨least, c.valid⟩, Char.ofNat_toNat]

/-- The bytes of a character from U+0080 on: the lead byte has the higher bits of its number, and each
of the others has six more. -/
theorem encodeChar_of_le {c : Char} (wide : 0x80 ≤ c.toNat) :
    String.utf8EncodeChar c =
      if c.toNat < 0x800 then
        [UInt8.ofNat (c.toNat / 64 % 32 + 192), UInt8.ofNat (c.toNat % 64 + 128)]
      else if c.toNat < 0x10000 then
        [UInt8.ofNat (c.toNat / 4096 % 16 + 224), UInt8.ofNat (c.toNat / 64 % 64 + 128),
          UInt8.ofNat (c.toNat % 64 + 128)]
      else
        [UInt8.ofNat (c.toNat / 262144 % 8 + 240), UInt8.ofNat (c.toNat / 4096 % 64 + 128),
          UInt8.ofNat (c.toNat / 64 % 64 + 128), UInt8.ofNat (c.toNat % 64 + 128)] := by
  simp only [Nat.lt_iff_le_pred (by decide : 0 < 0x800),
    Nat.lt_iff_le_pred (by decide : 0 < 0x10000)]
  exact if_neg (by change ¬ c.toNat ≤ 127; omega)

/-- So such a character is spelled by its bytes, whether two, three or four of them are needed: a
lead byte, and bytes that continue it. -/
theorem exists_spells {c : Char} (wide : 0x80 ≤ c.toNat) :
    ∃ lead tail, String.utf8EncodeChar c = lead :: tail ∧ tail ≠ [] ∧ Spells c lead tail := by
  have lt : c.toNat < 0x110000 := by
    rcases c.valid with low | ⟨-, high⟩
    · exact Nat.lt_trans low (by decide)
    · exact high
  rw [encodeChar_of_le wide]
  split
  next two =>
    refine ⟨_, _, rfl, List.cons_ne_nil _ _, ?_, ?_, decodeSequence_of_codePoint ?_ wide⟩
    · rw [length?_ofNat (by omega), if_pos (by omega)]
      rfl
    · simp only [List.mem_cons, List.not_mem_nil, or_false, forall_eq, isContinuation_ofNat]
    · simp (disch := omega) only [codePoint, List.foldl_cons, List.foldl_nil, List.length_cons,
        List.length_nil, Nat.reduceSub, Nat.reduceAdd, Nat.reduceShiftLeft, toNat_ofNat]
      omega
  next more =>
  split
  next three =>
    refine ⟨_, _, rfl, List.cons_ne_nil _ _, ?_, ?_,
      decodeSequence_of_codePoint ?_ (Nat.le_of_not_lt more)⟩
    · rw [length?_ofNat (by omega), if_neg (by omega), if_pos (by omega)]
      rfl
    · simp only [List.mem_cons, List.not_mem_nil, or_false, forall_eq_or_imp, forall_eq,
        isContinuation_ofNat, and_self]
    · simp (disch := omega) only [codePoint, List.foldl_cons, List.foldl_nil, List.length_cons,
        List.length_nil, Nat.reduceSub, Nat.reduceAdd, Nat.reduceShiftLeft, toNat_ofNat]
      omega
  next four =>
    refine ⟨_, _, rfl, List.cons_ne_nil _ _, ?_, ?_,
      decodeSequence_of_codePoint ?_ (Nat.le_of_not_lt four)⟩
    · rw [length?_ofNat (by omega), if_neg (by omega), if_neg (by omega), if_pos (by omega)]
      rfl
    · simp only [List.mem_cons, List.not_mem_nil, or_false, forall_eq_or_imp, forall_eq,
        isContinuation_ofNat, and_self]
    · simp (disch := omega) only [codePoint, List.foldl_cons, List.foldl_nil, List.length_cons,
        List.length_nil, Nat.reduceSub, Nat.reduceAdd, Nat.reduceShiftLeft, toNat_ofNat]
      omega

/-! ### Reading -/

namespace Partial

variable {c : Char} {lead b : UInt8} {seen rest : List UInt8}

/-- The first byte of a character waits for the others. -/
theorem start_of_spells (spells : Spells c lead rest) : start lead = ([lead], none) := by
  rw [start, spells.length_eq]
  rfl

/-- So does every further one but the last. -/
theorem push_of_more (spells : Spells c lead (seen ++ b :: rest)) (more : rest ≠ []) :
    push (lead :: seen) b = (lead :: (seen ++ [b]), none) := by
  have continues : isContinuation b = true := spells.continues b (by simp)
  have few : (lead :: seen ++ [b]).length < (length? lead).getD 0 := by
    have pos := List.length_pos_iff.mpr more
    rw [spells.length_eq, Option.getD_some]
    simp only [List.length_append, List.length_cons, List.length_nil]
    omega
  simp only [push, if_pos continues, if_pos few]
  rfl

/-- The last byte completes the character. -/
theorem push_last (spells : Spells c lead (seen ++ [b])) :
    push (lead :: seen) b = ([], some c) := by
  have continues : isContinuation b = true := spells.continues b (by simp)
  have all : ¬ (lead :: seen ++ [b]).length < (length? lead).getD 0 := by
    rw [spells.length_eq, Option.getD_some]
    simp
  have decoded : decodeSequence (lead :: seen ++ [b]) = some c := spells.decoded
  simp only [push, if_pos continues, if_neg all, decoded, Option.getD_some]

end Partial

/-! ### Single bytes -/

theorem toNat_charOfNat (b : UInt8) : (Char.ofNat b.toNat).toNat = b.toNat := by
  have bound := b.toNat_lt
  rw [Char.ofNat, dif_pos (Or.inl (by omega))]
  rfl

/-- A character of several bytes is none of the first 128. With two bytes or more only numbers are
accepted that need as many. -/
theorem le_toNat_of_decodeSequence {bytes : List UInt8} (two_le : 2 ≤ bytes.length)
    (le_four : bytes.length ≤ 4) {c : Char} (decoded : decodeSequence bytes = some c) :
    0x80 ≤ c.toNat := by
  have least : 0x80 ≤ leastOfLength bytes.length := by
    obtain length | length | length :
        bytes.length = 2 ∨ bytes.length = 3 ∨ bytes.length = 4 := by omega
    all_goals rw [length]; decide
  unfold decodeSequence at decoded
  dsimp only at decoded
  split at decoded
  next valid =>
    obtain rfl := Option.some.inj decoded
    rw [Char.ofNat, dif_pos valid.2]
    exact Nat.le_trans least valid.1
  · exact nomatch decoded

theorem le_toNat_replacement : 0x80 ≤ replacement.toNat := by decide

/-- Nor is what stands for several bytes, damaged or not. -/
theorem le_toNat_of_getD {bytes : List UInt8} (two_le : 2 ≤ bytes.length)
    (le_four : bytes.length ≤ 4) : 0x80 ≤ ((decodeSequence bytes).getD replacement).toNat := by
  cases decoded : decodeSequence bytes with
  | none => exact le_toNat_replacement
  | some c => exact le_toNat_of_decodeSequence two_le le_four decoded

theorem length?_le (lead : UInt8) : (length? lead).getD 0 ≤ 4 := by
  unfold length?
  repeat' split
  all_goals decide

theorem length_followers_le (lead : UInt8) : (followers lead).length ≤ 3 := by
  unfold followers
  iterate 4
    split
    · decide
  cases found : length? lead with
  | none => decide
  | some n =>
    have le := length?_le lead
    rw [found, Option.getD_some] at le
    simp only [List.length_replicate]
    omega

namespace Reading

variable {place : Reading} {b : UInt8} {c : Char}

/-- What was read of a character, and what is owed, are the bytes of one character. So there are
four of them at most. -/
structure Fits (place : Reading) : Prop where
  begun : place.owed ≠ [] → place.seen ≠ []
  short : place.seen.length + place.owed.length ≤ 4

theorem fits_between : Fits {} where
  begun owed := absurd rfl owed
  short := Nat.zero_le 4

theorem fits_first (b : UInt8) : (first b).2.Fits := by
  unfold first
  split
  · exact fits_between
  split
  · exact fits_between
  · refine ⟨fun _ => List.cons_ne_nil b [], ?_⟩
    have := length_followers_le b
    simp only [List.length_singleton]
    omega

theorem Fits.step (fits : place.Fits) (b : UInt8) : (place.step b).2.Fits := by
  unfold Reading.step
  split
  · exact fits_first b
  next range later owed =>
    split
    · split
      · exact fits_between
      · refine ⟨fun _ => by simp, ?_⟩
        have short := fits.short
        simp only [owed, List.length_cons] at short
        simp only [List.length_append, List.length_singleton]
        omega
    · exact fits_first b

theorem toNat_of_mem_first (shown : c ∈ (first b).1) (ascii : c.toNat < 0x80) :
    b.toNat = c.toNat := by
  unfold first at shown
  split at shown
  · rw [List.mem_singleton.mp shown, toNat_charOfNat]
  split at shown
  · rw [List.mem_singleton.mp shown] at ascii
    exact absurd ascii (Nat.not_lt.mpr le_toNat_replacement)
  · exact absurd shown List.not_mem_nil

theorem Fits.toNat_of_mem_step (fits : place.Fits) (shown : c ∈ (place.step b).1)
    (ascii : c.toNat < 0x80) : b.toNat = c.toNat := by
  unfold Reading.step at shown
  split at shown
  · exact toNat_of_mem_first shown ascii
  next range later owed =>
    split at shown
    · split at shown
      · have wide : 0x80 ≤ ((decodeSequence (place.seen ++ [b])).getD replacement).toNat := by
          have begun : 0 < place.seen.length :=
            List.length_pos_iff.mpr (fits.begun (by simp [owed]))
          have short := fits.short
          simp only [owed, List.length_cons] at short
          refine le_toNat_of_getD ?_ ?_ <;>
            simp only [List.length_append, List.length_singleton] <;> omega
        rw [List.mem_singleton.mp shown] at ascii
        exact absurd ascii (Nat.not_lt.mpr wide)
      · exact absurd shown List.not_mem_nil
    · obtain rfl | first := List.mem_cons.mp shown
      · exact absurd ascii (Nat.not_lt.mpr le_toNat_replacement)
      · exact toNat_of_mem_first first ascii

theorem Fits.exists_of_mem_run {bytes : List UInt8} (fits : place.Fits)
    (shown : c ∈ place.run bytes) (ascii : c.toNat < 0x80) : ∃ b ∈ bytes, b.toNat = c.toNat := by
  induction bytes generalizing place with
  | nil =>
    rw [run_nil] at shown
    split at shown
    · exact absurd shown List.not_mem_nil
    · rw [List.mem_singleton.mp shown] at ascii
      exact absurd ascii (Nat.not_lt.mpr le_toNat_replacement)
  | cons b rest ih =>
    rw [run_cons] at shown
    obtain now | later := List.mem_append.mp shown
    · exact ⟨b, List.mem_cons_self, fits.toNat_of_mem_step now ascii⟩
    · obtain ⟨other, mem, eq⟩ := ih (fits.step b) later
      exact ⟨other, List.mem_cons_of_mem b mem, eq⟩

end Reading

/-- Each of the first 128 characters stands for its own byte, however damaged the bytes are. -/
theorem exists_of_mem_lossy {bytes : List UInt8} {c : Char} (shown : c ∈ lossy bytes)
    (ascii : c.toNat < 0x80) : ∃ b ∈ bytes, b.toNat = c.toNat :=
  Reading.fits_between.exists_of_mem_run shown ascii

end TerminalSession.Text.Utf8
