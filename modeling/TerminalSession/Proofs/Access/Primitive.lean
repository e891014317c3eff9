/-!
# Accesses that can fail

The functions of this library are total: a read out of range gives nothing, a write out of range
changes nothing, and a subtraction stops at zero. The same accesses are given here so that they
fail in these cases.

## Main definitions

* `Access.get`, `Access.set`, `Access.remove`, `Access.insert`: one place of an array
* `Access.slice`, `Access.split`, `Access.take`: a range of an array
* `Access.sub`: the difference of two numbers
* `Access.iterate`: a step that may fail, repeated

## Main statements

* each access succeeds, with the result of the total function, when it is in range
* `Access.iterate_eq_some`, `Access.foldlM_eq_some`: so do repeated steps, if an invariant keeps
  them in range
-/

namespace TerminalSession.Access

variable {α : Type}

/-- The element at an index, which has to be one of the array. -/
def get (xs : Array α) (i : Nat) : Option α := xs[i]?

/-- The array with another element at an index, which has to be one of the array. -/
def set (xs : Array α) (i : Nat) (x : α) : Option (Array α) :=
  if i < xs.size then some (xs.setIfInBounds i x) else none

/-- The element at an index, and the array without it. There has to be such an element. -/
def remove (xs : Array α) (i : Nat) : Option (α × Array α) :=
  (get xs i).map fun x => (x, xs.eraseIdxIfInBounds i)

/-- The array with an element put in before an index, or at the end. Beyond the end it fails. -/
def insert (xs : Array α) (i : Nat) (x : α) : Option (Array α) :=
  if i ≤ xs.size then some (xs.insertIdxIfInBounds i x) else none

/-- The elements from one index up to but not including another. The two have to be in order, and
within the array. -/
def slice (xs : Array α) (first past : Nat) : Option (Array α) :=
  if first ≤ past ∧ past ≤ xs.size then some (xs.extract first past) else none

/-- The array cut in two before an index, which may be its end. -/
def split (xs : Array α) (i : Nat) : Option (Array α × Array α) :=
  if i ≤ xs.size then some (xs.take i, xs.drop i) else none

/-- The first elements of an array, of which there have to be so many. -/
def take (xs : Array α) (n : Nat) : Option (Array α) := slice xs 0 n

/-- The difference of two numbers, if the first is not the smaller one. -/
def sub (a b : Nat) : Option Nat := if b ≤ a then some (a - b) else none

/-- A step repeated. The first step that fails ends it, so that it succeeds only if each of its
steps does so where it is taken. -/
def iterate (f : α → Option α) : Nat → α → Option α
  | 0, a => some a
  | n + 1, a => (iterate f n a).bind f

theorem get_eq_some {xs : Array α} {i : Nat} (bound : i < xs.size) : get xs i = some xs[i] :=
  Array.getElem?_eq_getElem bound

theorem set_eq_some {xs : Array α} {i : Nat} (bound : i < xs.size) (x : α) :
    set xs i x = some (xs.setIfInBounds i x) := if_pos bound

theorem remove_eq_some {xs : Array α} {i : Nat} (bound : i < xs.size) :
    remove xs i = some (xs[i], xs.eraseIdxIfInBounds i) := by
  rw [remove, get_eq_some bound]
  rfl

theorem insert_eq_some {xs : Array α} {i : Nat} (bound : i ≤ xs.size) (x : α) :
    insert xs i x = some (xs.insertIdxIfInBounds i x) := if_pos bound

theorem slice_eq_some {xs : Array α} {first past : Nat} (ordered : first ≤ past)
    (bound : past ≤ xs.size) : slice xs first past = some (xs.extract first past) :=
  if_pos ⟨ordered, bound⟩

theorem split_eq_some {xs : Array α} {i : Nat} (bound : i ≤ xs.size) :
    split xs i = some (xs.take i, xs.drop i) := if_pos bound

theorem take_eq_some {xs : Array α} {n : Nat} (bound : n ≤ xs.size) :
    take xs n = some (xs.take n) := slice_eq_some (Nat.zero_le n) bound

theorem sub_eq_some {a b : Nat} (le : b ≤ a) : sub a b = some (a - b) := if_pos le

/-- A step that succeeds wherever an invariant holds, and keeps it, can be repeated. -/
theorem iterate_eq_some {f : α → Option α} {g : α → α} {P : α → Prop}
    (step : ∀ a, P a → f a = some (g a)) (keeps : ∀ a, P a → P (g a)) {a : α} (start : P a)
    (n : Nat) : iterate f n a = some (Nat.repeat g n a) ∧ P (Nat.repeat g n a) := by
  induction n with
  | zero => exact ⟨rfl, start⟩
  | succ n ih =>
    obtain ⟨eq, holds⟩ := ih
    refine ⟨?_, keeps _ holds⟩
    rw [iterate, eq, Option.bind_some, step _ holds]
    rfl

/-- Steps that succeed wherever an invariant holds, and keep it, can be taken one after the other. -/
theorem foldlM_eq_some {β : Type} {f : β → α → Option β} {g : β → α → β} {P : β → Prop}
    (step : ∀ b a, P b → f b a = some (g b a)) (keeps : ∀ b a, P b → P (g b a)) (list : List α)
    {b : β} (start : P b) : list.foldlM f b = some (list.foldl g b) ∧ P (list.foldl g b) := by
  induction list generalizing b with
  | nil => exact ⟨rfl, start⟩
  | cons a rest ih =>
    rw [List.foldlM_cons, step b a start]
    exact ih (keeps b a start)

end TerminalSession.Access
