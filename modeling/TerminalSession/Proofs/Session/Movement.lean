import TerminalSession.Proofs.Grid.Window
import TerminalSession.Viewport

/-!
# Movements of the window

A viewport moves before it knows how far the window can go. It decides by its estimate which
movement to ask for, and what it asks for is what the user meant.

## Main definitions

* `ScrollCommand.target`: the offset that a command asks for
* `Viewport.Tracks`: a viewport that knows the offset of the window
* `Viewport.Moved`: a viewport that has moved, and the movement it asks for

## Main statements

* `Viewport.Tracks.apply`, `Viewport.Tracks.wheel`: from a viewport that knows the offset, the
  movement asked for leads to the offset meant
* `Viewport.Moved.sync`: told the new offset, a viewport that has moved knows it

## Design notes

* A viewport that follows does not listen to the engine. It may therefore follow only if the window
  is certain to arrive at the live end, which is what a jump of the greatest length is for.
-/

namespace TerminalSession

/-! ### What the user means -/

/-- The offset that a command asks for. -/
def ScrollCommand.target (s : Screen) : ScrollCommand → Nat
  | .lines n => s.clampOffset n
  | .top => s.history.size
  | .bottom => 0

namespace Screen

variable {s : Screen}

/-- A jump to the top reaches the oldest row of a history that is not too long. -/
theorem clampOffset_jumpToTop (history_le : s.history.size ≤ Viewport.maxLines) :
    s.clampOffset Viewport.jumpToTop = s.history.size := by
  unfold clampOffset Viewport.jumpToTop
  omega

/-- A jump to the bottom reaches the live end. -/
theorem clampOffset_jumpToBottom (offset_le : s.offset ≤ Viewport.maxLines) :
    s.clampOffset Viewport.jumpToBottom = 0 := by
  unfold clampOffset Viewport.jumpToBottom
  omega

theorem clampOffset_zero (offset_le : s.offset ≤ s.history.size) :
    s.clampOffset 0 = s.offset := by
  unfold clampOffset
  omega

/-- At the live end there is nothing newer to go to. -/
theorem clampOffset_of_atEnd {delta : Int} (at_end : s.offset = 0) (nonneg : 0 ≤ delta) :
    s.clampOffset delta = 0 := by
  unfold clampOffset
  omega

/-- A movement towards newer rows that is longer than the offset reaches the live end. -/
theorem clampOffset_of_offset_le {delta : Int} (le : (s.offset : Int) ≤ delta) :
    s.clampOffset delta = 0 := by
  unfold clampOffset
  omega

end Screen

/-! ### What the viewport does -/

namespace Viewport

variable {v : Viewport} {s : Screen}

/-- A viewport that knows how far the window stands back, and follows exactly at the live end. The
offset is told apart from the flag, which is what a display goes by. -/
structure Tracks (v : Viewport) (actual : Nat) : Prop where
  offset_eq : v.offset = actual
  following_iff : v.following = true ↔ actual = 0

/-- A viewport that has moved, over a screen whose window has not moved yet, with the movement that
it asks for and the offset that is meant. -/
structure Moved (s : Screen) (target : Nat) (moved : Viewport × Option Int) : Prop where
  /-- Without a movement the window stands where it should, and the viewport knows it. -/
  stays : moved.2 = none → target = s.offset ∧ moved.1.Tracks s.offset
  /-- A movement leads to the offset meant. -/
  reaches : ∀ delta, moved.2 = some delta → s.clampOffset delta = target
  /-- The viewport follows only towards the live end. -/
  follows : moved.1.following = true → moved.1.offset = 0 ∧ target = 0

theorem Tracks.fresh : Tracks {} 0 where
  offset_eq := rfl
  following_iff := by simp

/-- The wheel's remainder has no part in it. -/
theorem Tracks.withRemainder {actual : Nat} (tracks : v.Tracks actual) (remainder : Float) :
    ({ v with remainder } : Viewport).Tracks actual where
  offset_eq := tracks.offset_eq
  following_iff := tracks.following_iff

/-- The engine tells its offset to a viewport that either listens or stands at the live end with
it. -/
theorem tracks_sync {actual : Nat} (at_end : v.following = true → v.offset = 0 ∧ actual = 0) :
    (v.sync actual).Tracks actual := by
  unfold sync
  split
  next following =>
    obtain ⟨offset_eq, rfl⟩ := at_end following
    exact ⟨offset_eq, by simp [following]⟩
  · exact ⟨rfl, by simp⟩

/-- Told the new offset, a viewport that has moved knows it. -/
theorem Moved.sync {target : Nat} {moved : Viewport × Option Int} (m : Moved s target moved) :
    (moved.1.sync target).Tracks target :=
  tracks_sync m.follows

theorem Moved.of_stays {actual : Nat} (tracks : v.Tracks s.offset) (eq : actual = s.offset) :
    Moved s actual (v, none) where
  stays _ := ⟨eq, tracks⟩
  reaches _ none := nomatch none
  follows following := by
    have at_end := tracks.following_iff.mp following
    exact ⟨tracks.offset_eq.trans at_end, eq.trans at_end⟩

theorem Moved.of_toTop (history_le : s.history.size ≤ maxLines) :
    Moved s s.history.size (v.toTop.1, some v.toTop.2) where
  stays none := nomatch none
  reaches := by
    rintro delta ⟨rfl⟩
    exact Screen.clampOffset_jumpToTop history_le
  follows following := nomatch following

theorem Moved.of_toBottom (offset_le : s.offset ≤ maxLines) :
    Moved s 0 (v.toBottom.1, some v.toBottom.2) where
  stays none := nomatch none
  reaches := by
    rintro delta ⟨rfl⟩
    exact Screen.clampOffset_jumpToBottom offset_le
  follows _ := ⟨rfl, rfl⟩

namespace Tracks

variable (tracks : v.Tracks s.offset) (offset_le : s.offset ≤ s.history.size)
  (history_le : s.history.size ≤ maxLines)
include tracks offset_le history_le

/-- A movement by lines leads where clamping leads, although the viewport only knows the offset and
not the length of the history. -/
theorem scrollLines (n : Int) : Moved s (s.clampOffset n) (v.scrollLines n) := by
  unfold Viewport.scrollLines
  split
  next older =>
    -- The viewport listens from now on, and the engine is asked for just what was meant.
    exact
      { stays := fun none => nomatch none
        reaches := by rintro delta ⟨rfl⟩; rfl
        follows := fun following => nomatch following }
  next newer =>
    split
    next still =>
      refine Moved.of_stays tracks ?_
      rcases Bool.or_eq_true_iff.mp still with zero | following
      · rw [of_decide_eq_true zero]
        exact Screen.clampOffset_zero offset_le
      · have at_end := tracks.following_iff.mp following
        rw [at_end]
        exact Screen.clampOffset_of_atEnd at_end (Int.not_lt.mp newer)
    next moving =>
      dsimp only
      split
      next arrived =>
        -- The viewport knew the offset, so the movement is at least as long.
        have le : (s.offset : Int) ≤ n := by
          have := tracks.offset_eq
          omega
        rw [Screen.clampOffset_of_offset_le le]
        exact Moved.of_toBottom (Nat.le_trans offset_le history_le)
      next short =>
        have listens : v.following = false := by simp_all
        exact
          { stays := fun none => nomatch none
            reaches := by rintro delta ⟨rfl⟩; rfl
            follows := fun following => by simp [listens] at following }

/-- A command leads to the offset it asks for. -/
theorem apply (command : ScrollCommand) : Moved s (command.target s) (v.apply command) := by
  cases command with
  | lines n => exact tracks.scrollLines offset_le history_le n
  | top => exact Moved.of_toTop history_le
  | bottom => exact Moved.of_toBottom (Nat.le_trans offset_le history_le)

/-- A movement of the wheel is a movement by lines, or none. -/
theorem wheel (deltaY glyphHeight : Float) :
    ∃ target, Moved s target (v.wheel deltaY glyphHeight) := by
  unfold Viewport.wheel
  split
  · exact ⟨_, Moved.of_stays tracks rfl⟩
  · dsimp only
    split
    · exact ⟨_, Moved.of_stays (tracks.withRemainder _) rfl⟩
    · exact ⟨_, (tracks.withRemainder _).scrollLines offset_le history_le _⟩

end Tracks

end Viewport

end TerminalSession
