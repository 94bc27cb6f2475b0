import Mathlib.Algebra.Order.Group.Basic

/-!
Moments grouped in windows of one length, which open when a moment finds none open.

A window holds at most so many moments, and a new one opens only after the length of the
last.  Whatever interval of that length is taken, it meets at most two of them.
-/

namespace KarmaSakshi.Library

set_option autoImplicit false

section Counts

variable {Time : Type} [LinearOrder Time] {moments : List Time} {first last : Time}

/-- How many moments there are from a time on. -/
def countSince (moments : List Time) (first : Time) : Nat :=
  moments.countP (fun moment => first ≤ moment)

/-- How many moments there are between two times, both included. -/
def countBetween (moments : List Time) (first last : Time) : Nat :=
  moments.countP (fun moment => first ≤ moment ∧ moment ≤ last)

theorem count_since_append (left right : List Time) :
    countSince (left ++ right) first = countSince left first + countSince right first :=
  List.countP_append

theorem count_between_append (left right : List Time) :
    countBetween (left ++ right) first last =
      countBetween left first last + countBetween right first last :=
  List.countP_append

theorem count_since_le_length : countSince moments first ≤ moments.length := List.countP_le_length

theorem count_between_le_since : countBetween moments first last ≤ countSince moments first := by
  apply List.countP_mono_left
  intro moment _ held
  simp only [decide_eq_true_eq] at held ⊢
  exact held.1

theorem count_since_none (before : ∀ moment ∈ moments, moment < first) :
    countSince moments first = 0 := by
  apply List.countP_eq_zero.mpr
  intro moment listed
  simpa using before moment listed

theorem count_between_none (after : ∀ moment ∈ moments, last < moment) :
    countBetween moments first last = 0 := by
  apply List.countP_eq_zero.mpr
  intro moment listed
  simp [after moment listed]

end Counts

variable {Time : Type} [AddCommGroup Time] [LinearOrder Time]

/-- The moments before the open window and those in it. -/
structure Windowed (most : Nat) (length : Time) (closed inside : List Time) (opened : Time) :
    Prop where
  earlier : ∀ moment ∈ closed, moment < opened
  within : ∀ moment ∈ inside, opened ≤ moment ∧ moment < opened + length
  bounded : inside.length ≤ most
  recent : ∀ first, opened ≤ first + length → countSince closed first ≤ most
  total : ∀ first, countBetween closed first (first + length) ≤ 2 * most

namespace Windowed

variable {most : Nat} {length opened now : Time} {closed inside : List Time}

/-- One more moment in the open window. -/
theorem add (windowed : Windowed most length closed inside opened) (room : inside.length < most)
    (since : opened ≤ now) (open_still : now < opened + length) :
    Windowed most length closed (inside ++ [now]) opened where
  earlier := windowed.earlier
  within := by
    intro moment listed
    rcases List.mem_append.mp listed with before | last
    · exact windowed.within moment before
    · rw [List.mem_singleton.mp last]
      exact ⟨since, open_still⟩
  bounded := by
    rw [List.length_append, List.length_singleton]
    exact room
  recent := windowed.recent
  total := windowed.total

/-- No interval of the length of a window holds more than two windows. -/
theorem any_interval (windowed : Windowed most length closed inside opened) (first : Time) :
    countBetween (closed ++ inside) first (first + length) ≤ 2 * most := by
  rw [count_between_append]
  by_cases reaches : opened ≤ first + length
  · have earlier : countBetween closed first (first + length) ≤ most :=
      count_between_le_since.trans (windowed.recent first reaches)
    have later : countBetween inside first (first + length) ≤ most :=
      List.countP_le_length.trans windowed.bounded
    omega
  · have beyond : countBetween inside first (first + length) = 0 := by
      apply count_between_none
      intro moment listed
      exact (not_le.mp reaches).trans_le (windowed.within moment listed).1
    rw [beyond, Nat.add_zero]
    exact windowed.total first

variable [IsOrderedAddMonoid Time]

/-- The first window. -/
theorem start (positive : 0 < most) (lasts : 0 < length) :
    Windowed most length [] [now] now where
  earlier := fun _ listed => absurd listed List.not_mem_nil
  within := by
    intro moment listed
    rw [List.mem_singleton.mp listed]
    exact ⟨le_refl now, lt_add_of_pos_right now lasts⟩
  bounded := positive
  recent := fun _ _ => Nat.zero_le most
  total := fun _ => Nat.zero_le _

/-- The next window opens no sooner than one length after the last. -/
theorem reopen (windowed : Windowed most length closed inside opened) (positive : 0 < most)
    (lasts : 0 < length) (ended : opened + length ≤ now) :
    Windowed most length (closed ++ inside) [now] now where
  earlier := by
    intro moment listed
    rcases List.mem_append.mp listed with before | last
    · have early := (windowed.earlier moment before).trans (lt_add_of_pos_right opened lasts)
      exact early.trans_le ended
    · exact (windowed.within moment last).2.trans_le ended
  within := (start positive lasts).within
  bounded := positive
  recent := by
    intro first reaches
    have after : opened ≤ first := le_of_add_le_add_right (ended.trans reaches)
    have none : countSince closed first = 0 := by
      apply count_since_none
      intro moment listed
      exact (windowed.earlier moment listed).trans_le after
    rw [count_since_append, none, Nat.zero_add]
    exact count_since_le_length.trans windowed.bounded
  total := windowed.any_interval

/-- The whole window lies in any shorter past. -/
theorem recent_moments (windowed : Windowed most length closed inside opened)
    (running : now < opened + length) :
    inside.length ≤ (closed ++ inside).countP (fun moment => now < moment + length) := by
  have all : inside.countP (fun moment => now < moment + length) = inside.length := by
    apply List.countP_eq_length.mpr
    intro moment listed
    have bound := add_le_add_left (windowed.within moment listed).1 length
    simp only [decide_eq_true_eq]
    exact running.trans_le (by simpa [add_comm] using bound)
  rw [List.countP_append, all]
  exact Nat.le_add_left _ _

end Windowed

end KarmaSakshi.Library
