import Mathlib.Algebra.Order.Floor.Ring
import Mathlib.Tactic.Linarith

/-!
# Truncation toward zero

The integer part of a number and what is cut off from it, and the least that is lost when the
integer part does not fit between two bounds.
-/

namespace Truncate

variable {α : Type*} [Field α] [LinearOrder α] [IsStrictOrderedRing α] [FloorRing α]

/-- The integer part of a number. -/
def truncate (a : α) : ℤ := if 0 ≤ a then ⌊a⌋ else ⌈a⌉

/-- What is cut off. -/
def fraction (a : α) : α := a - truncate a

variable {a : α} {lo hi n : ℤ}

theorem fraction_nonneg (nonneg : 0 ≤ a) : 0 ≤ fraction a := by
  rw [fraction, truncate, if_pos nonneg]
  exact sub_nonneg.mpr (Int.floor_le a)

theorem fraction_nonpos (nonpos : a ≤ 0) : fraction a ≤ 0 := by
  obtain rfl | neg := nonpos.eq_or_lt
  · simp [fraction, truncate]
  · rw [fraction, truncate, if_neg neg.not_ge]
    exact sub_nonpos.mpr (Int.le_ceil a)

theorem abs_fraction_lt_one (a : α) : |fraction a| < 1 := by
  by_cases nonneg : 0 ≤ a
  · have below := Int.lt_floor_add_one a
    rw [abs_of_nonneg (fraction_nonneg nonneg), fraction, truncate, if_pos nonneg]
    linarith
  · have nonpos := (not_le.mp nonneg).le
    have above := Int.ceil_lt_add_one a
    rw [abs_of_nonpos (fraction_nonpos nonpos), fraction, truncate, if_neg nonneg]
    linarith

/-- A number that is too large is at least one away from all that fits. -/
theorem one_le_sub_of_nonneg (nonneg : 0 ≤ a) (zero : lo ≤ 0)
    (large : ¬ (lo ≤ truncate a ∧ truncate a ≤ hi)) (le : n ≤ hi) : 1 ≤ a - n := by
  rw [truncate, if_pos nonneg] at large
  have floor := Int.floor_nonneg.mpr nonneg
  have next : n + 1 ≤ ⌊a⌋ := by omega
  have : ((n + 1 : ℤ) : α) ≤ a := Int.le_floor.mp next
  push_cast at this
  linarith

theorem sub_le_neg_one_of_nonpos (nonpos : a ≤ 0) (zero : 0 ≤ hi)
    (large : ¬ (lo ≤ truncate a ∧ truncate a ≤ hi)) (le : lo ≤ n) : a - n ≤ -1 := by
  have ceil : truncate a = ⌈a⌉ := by
    obtain rfl | neg := nonpos.eq_or_lt
    · simp [truncate]
    · rw [truncate, if_neg neg.not_ge]
  rw [ceil] at large
  have : ⌈a⌉ ≤ 0 := Int.ceil_le.mpr (by simpa using nonpos)
  have next : ⌈a⌉ ≤ n - 1 := by omega
  have : a ≤ ((n - 1 : ℤ) : α) := Int.ceil_le.mp next
  push_cast at this
  linarith

theorem one_le_abs_sub (lower : lo ≤ 0) (upper : 0 ≤ hi)
    (large : ¬ (lo ≤ truncate a ∧ truncate a ≤ hi)) (le : lo ≤ n ∧ n ≤ hi) : 1 ≤ |a - n| := by
  obtain nonneg | nonpos := le_total 0 a
  · exact (one_le_sub_of_nonneg nonneg lower large le.2).trans (le_abs_self _)
  · have := sub_le_neg_one_of_nonpos nonpos upper large le.1
    exact le_abs.mpr (.inr (by linarith))

end Truncate
