import TerminalSession.FramePacer

/-!
# The pace of frames

Frames are wanted at any time and drawn when they are due. Between two of them lies the interval, and
something that wanted the second one.

## Main definitions

* `FramePacer.Call`: a frame is wanted, or may be drawn now
* `FramePacer.call`, `FramePacer.run`: the pacer after such a call, and after a list of them
* `FramePacer.draws`, `FramePacer.rests`: whether a call draws a frame, and whether no call of a list does

## Main statements

* `FramePacer.draws_poll_iff`: when a frame is drawn
* `FramePacer.due_iff`: a frame is due just when there is nothing left to wait for
* `FramePacer.run_of_rests`: calls that draw nothing do nothing but want a frame
* `FramePacer.paced_run`: two frames in a row, and the frame that is wanted, after any calls

## Design notes

* The clock may go back. Then no time has passed, and the wait is the whole interval.
-/

namespace TerminalSession.FramePacer

/-- What a pacer is asked. -/
inductive Call where
  | request
  | poll (now : Nat)
  deriving DecidableEq, Repr

/-- The pacer after a call. A poll may fail to draw, and then changes nothing. -/
def call (p : FramePacer) : Call → FramePacer
  | .request => p.request
  | .poll now => (p.poll now).1

/-- The pacer after some calls. -/
def run (p : FramePacer) (calls : List Call) : FramePacer := calls.foldl call p

/-- Whether a frame is drawn at a call. A request alone draws none. -/
def draws (p : FramePacer) : Call → Bool
  | .request => false
  | .poll now => (p.poll now).2

/-- Whether no frame is drawn at any of some calls, each at its time. Requests among them are kept,
and may be answered later. -/
def rests (p : FramePacer) : List Call → Bool
  | [] => true
  | next :: rest => !p.draws next && (p.call next).rests rest

variable {p : FramePacer} {now : Nat}

/-! ### One call -/

/-- A frame is drawn if it is wanted and due. -/
theorem draws_poll_iff : p.draws (.poll now) = true ↔ p.pending = true ∧ p.due now = true := by
  rw [draws, poll, ← Bool.and_eq_true]
  split
  next both => rw [both]
  next not_both => rw [Bool.eq_false_iff.mpr not_both]

theorem call_poll_of_draws (drawn : p.draws (.poll now) = true) :
    p.call (.poll now) = { p with pending := false, last := some now } := by
  have both := Bool.and_eq_true_iff.mpr (draws_poll_iff.mp drawn)
  rw [call, poll, if_pos both]

/-- A call that asks for a frame in vain does nothing. -/
theorem call_poll_of_not_draws (not_drawn : p.draws (.poll now) = false) :
    p.call (.poll now) = p := by
  have not_both : ¬(p.pending && p.due now) = true := by
    rw [Bool.and_eq_true, ← draws_poll_iff, not_drawn]
    exact Bool.false_ne_true
  rw [call, poll, if_neg not_both]

/-- A frame is due when there is nothing left to wait for. -/
theorem due_iff : p.due now = true ↔ p.wait now = 0 := by
  unfold due wait
  cases p.last with
  | none => simp
  | some last => simp [Nat.sub_eq_zero_iff_le]

/-- One that is waited for is due, unless the clock has gone back. -/
theorem due_add_wait (forward : ∀ last, p.last = some last → last ≤ now) :
    p.due (now + p.wait now) = true := by
  unfold due wait
  cases drawn : p.last with
  | none => rfl
  | some last =>
    have le := forward last drawn
    dsimp only
    rw [decide_eq_true_eq]
    omega

/-! ### Several calls -/

theorem interval_call (p : FramePacer) (next : Call) : (p.call next).interval = p.interval := by
  cases next with
  | request => rfl
  | poll now =>
    unfold call poll
    dsimp only
    split <;> rfl

theorem interval_run (p : FramePacer) (calls : List Call) : (p.run calls).interval = p.interval := by
  induction calls generalizing p with
  | nil => rfl
  | cons next rest ih => exact (ih (p.call next)).trans (p.interval_call next)

/-- Calls at which no frame is drawn do nothing, except that one may be wanted after them. -/
theorem run_of_rests {calls : List Call} (resting : p.rests calls = true) :
    p.run calls = { p with pending := p.pending || decide (Call.request ∈ calls) } := by
  induction calls generalizing p with
  | nil => simp [run]
  | cons next rest ih =>
    obtain ⟨not_drawn, resting⟩ := Bool.and_eq_true_iff.mp resting
    have not_drawn : p.draws next = false := by simpa using not_drawn
    have run_eq : p.run (next :: rest) = (p.call next).run rest := rfl
    rw [run_eq, ih resting]
    -- A call that draws nothing wants a frame, or it asks for one in vain.
    cases next with
    | request => simp [call, request]
    | poll now => rw [call_poll_of_not_draws not_drawn]; simp

/-- Whatever is asked of a pacer before: two frames in a row are at least the interval apart, and one was
wanted between them. A call that draws nothing does nothing. A frame that is wanted stays so until one is
drawn. As long as the clock does not go back behind the last frame, one that is wanted is drawn just when
the wait is over, and the wait does come to its end then. -/
theorem paced_run (interval : Nat) (calls : List Call) :
    let p := ({ interval } : FramePacer).run calls
    (∀ first between second, p.draws (.poll first) = true →
        let drawn := p.call (.poll first)
        drawn.rests between = true → (drawn.run between).draws (.poll second) = true →
          interval ≤ second - first ∧ Call.request ∈ between) ∧
      (∀ now, p.draws (.poll now) = false → p.call (.poll now) = p) ∧
      (∀ later, (p.call .request).rests later = true →
        ((p.call .request).run later).pending = true) ∧
      ∀ now, p.pending = true → (∀ last, p.last = some last → last ≤ now) →
        (p.draws (.poll now) = true ↔ p.wait now = 0) ∧
          p.draws (.poll (now + p.wait now)) = true := by
  intro p
  have interval_eq : p.interval = interval := interval_run _ calls
  refine ⟨?_, fun _ => call_poll_of_not_draws, ?_, ?_⟩
  · intro first between second first_drawn drawn resting second_drawn
    have drawn_eq : drawn = { p with pending := false, last := some first } :=
      call_poll_of_draws first_drawn
    obtain ⟨pending, due⟩ := draws_poll_iff.mp second_drawn
    rw [run_of_rests resting, drawn_eq] at pending due
    refine ⟨?_, by simpa using pending⟩
    rw [← interval_eq]
    exact of_decide_eq_true due
  · intro later resting
    rw [run_of_rests resting]
    rfl
  · intro now pending forward
    refine ⟨?_, draws_poll_iff.mpr ⟨pending, due_add_wait forward⟩⟩
    rw [draws_poll_iff, and_iff_right pending, due_iff]

/-- Two frames with polls in vain between them, one of them before the first frame. -/
theorem paced_run_back :
    let p := ({ interval := 16 } : FramePacer).run [.request, .poll 100, .request]
    let between : List Call := [.poll 120, .request, .poll 90, .request, .poll 135]
    p.pending = true ∧ p.last = some 100 ∧ p.draws (.poll 120) = true ∧
      (p.call (.poll 120)).rests between = true ∧
      ((p.call (.poll 120)).run between).draws (.poll 136) = true ∧
      16 ≤ 136 - 120 ∧ Call.request ∈ between ∧
      (p.draws (.poll 115) = true ↔ p.wait 115 = 0) ∧
      p.draws (.poll (115 + p.wait 115)) = true := by
  intro p between
  obtain ⟨apart, -, -, waits⟩ := paced_run 16 [.request, .poll 100, .request]
  have forward : ∀ last, p.last = some last → last ≤ 115 := by
    rintro last ⟨⟩
    decide
  obtain ⟨distance, wanted⟩ := apart 120 between 136 (by decide) (by decide) (by decide)
  obtain ⟨exactly, ends⟩ := waits 115 (by decide) forward
  exact ⟨by decide, by decide, by decide, by decide, by decide, distance, wanted, exactly, ends⟩

end TerminalSession.FramePacer
