import Mathlib.Data.List.MinMax
import Mathlib.Order.SuccPred.Basic

/-!
Periods of time, and when some of them have an instant in common.

A period opens at an instant and may close at one, both included.  Finitely many periods share
an instant exactly when each opens before every other closes.
-/

namespace KarmaSakshi.Library

set_option autoImplicit false

structure Period (Time : Type) : Type where
  opening : Time
  closing : Option Time

namespace Period

variable {Time : Type} [LinearOrder Time]

def Holds (period : Period Time) (now : Time) : Prop :=
  period.opening ≤ now ∧ ∀ closing ∈ period.closing, now ≤ closing

/-- When the periods have all closed by some time, or never hold together. -/
def Expire (periods : List (Period Time)) (limit : Time) : Prop :=
  ∃ period ∈ periods, ∃ closing ∈ period.closing,
    closing ≤ limit ∨ ∃ other ∈ periods, closing < other.opening

/-- Lower and upper bounds have a common point when they do pairwise. -/
theorem common_point_iff {base : Time} {lows highs : List Time} :
    (∃ point, (∀ low ∈ base :: lows, low ≤ point) ∧ ∀ high ∈ highs, point ≤ high) ↔
      ∀ low ∈ base :: lows, ∀ high ∈ highs, low ≤ high := by
  constructor
  · rintro ⟨point, above, below⟩ low listed high listedToo
    exact (above low listed).trans (below high listedToo)
  · intro pairwise
    have some_low : 0 < (base :: lows).length := Nat.zero_lt_succ _
    refine ⟨(base :: lows).maximum_of_length_pos some_low, ?_, ?_⟩
    · intro low listed
      exact List.le_maximum_of_length_pos_of_mem listed some_low
    · intro high listed
      exact pairwise _ (List.maximum_of_length_pos_mem some_low) high listed

/-- Periods expire by a time when no later instant is in all of them. -/
theorem expire_iff [SuccOrder Time] [NoMaxOrder Time] {periods : List (Period Time)}
    {limit : Time} :
    Expire periods limit ↔ ∀ now, (∀ period ∈ periods, period.Holds now) → now ≤ limit := by
  rw [← not_iff_not]
  have together : (¬ ∀ now, (∀ period ∈ periods, period.Holds now) → now ≤ limit) ↔
      ∃ now, (∀ low ∈ Order.succ limit :: periods.map opening, low ≤ now) ∧
        ∀ high ∈ periods.filterMap closing, now ≤ high := by
    constructor
    · intro fails
      obtain ⟨now, fails⟩ := not_forall.mp fails
      obtain ⟨held, late⟩ := Classical.not_imp.mp fails
      refine ⟨now, ?_, ?_⟩
      · intro low listed
        rcases List.mem_cons.mp listed with rfl | opens
        · exact Order.succ_le_of_lt (not_le.mp late)
        · obtain ⟨period, member, rfl⟩ := List.mem_map.mp opens
          exact (held period member).1
      · intro high listed
        obtain ⟨period, member, closes⟩ := List.mem_filterMap.mp listed
        exact (held period member).2 high closes
    · rintro ⟨now, opened, closes⟩ always
      have held : ∀ period ∈ periods, period.Holds now := by
        intro period member
        refine ⟨opened _ (List.mem_cons_of_mem _ (List.mem_map_of_mem member)), ?_⟩
        exact fun closing closed => closes closing (List.mem_filterMap.mpr ⟨period, member, closed⟩)
      have late := Order.succ_le_iff.mp (opened _ List.mem_cons_self)
      exact absurd (always now held) (not_le.mpr late)
  rw [together, common_point_iff]
  constructor
  · intro lasting low listed high listedToo
    obtain ⟨period, member, closes⟩ := List.mem_filterMap.mp listedToo
    rcases List.mem_cons.mp listed with rfl | opens
    · apply Order.succ_le_of_lt
      by_contra early
      exact lasting ⟨period, member, high, closes, Or.inl (not_lt.mp early)⟩
    · obtain ⟨other, memberToo, rfl⟩ := List.mem_map.mp opens
      by_contra before
      exact lasting ⟨period, member, high, closes, Or.inr ⟨other, memberToo, not_le.mp before⟩⟩
  · rintro pairwise ⟨period, member, high, closes, early⟩
    have listed := List.mem_filterMap.mpr ⟨period, member, closes⟩
    rcases early with early | ⟨other, memberToo, before⟩
    · exact absurd early (not_le.mpr (Order.succ_le_iff.mp
        (pairwise _ List.mem_cons_self high listed)))
    · exact absurd before (not_lt.mpr
        (pairwise _ (List.mem_cons_of_mem _ (List.mem_map_of_mem memberToo)) high listed))

end Period

end KarmaSakshi.Library
