import Mathlib.Algebra.Order.Floor.Ring
import Mathlib.Tactic.Linarith

/-!
# Truncation and grids

Rounding toward zero, as a cast to a machine integer does, and the cells of a
grid it puts a number in.

* `trunc_halve` — a cell of the finer grid lies in one of the coarser.
-/

namespace PriceMap.Lib

variable {K : Type*} [Field K] [LinearOrder K] [FloorRing K]

/-- `x` rounded toward zero. -/
def trunc (x : K) : ℤ := if 0 ≤ x then ⌊x⌋ else ⌈x⌉

theorem trunc_of_nonneg {x : K} (h : 0 ≤ x) : trunc x = ⌊x⌋ := if_pos h

theorem trunc_of_neg {x : K} (h : x < 0) : trunc x = ⌈x⌉ := if_neg (not_le.mpr h)

variable [IsStrictOrderedRing K]

/-- Truncation is symmetric. -/
theorem trunc_neg (x : K) : trunc (-x) = -trunc x := by
  rcases lt_trichotomy x 0 with h | rfl | h
  · rw [trunc_of_neg h, trunc_of_nonneg (neg_pos.mpr h).le, Int.floor_neg]
  · simp [trunc]
  · rw [trunc_of_nonneg h.le, trunc_of_neg (neg_neg_of_pos h), Int.ceil_neg]

/-- Cells nest for floors, too. -/
theorem floor_halve (x : K) : ⌊2 * x⌋ / 2 = ⌊x⌋ := by
  have hLow : 2 * ⌊x⌋ ≤ ⌊2 * x⌋ := by
    rw [Int.le_floor]
    push_cast
    linarith [Int.floor_le x]
  have hHigh : ⌊2 * x⌋ < 2 * (⌊x⌋ + 1) := by
    rw [Int.floor_lt]
    push_cast
    linarith [Int.lt_floor_add_one x]
  omega

/-- **Cells nest**: halving the width of the cells cuts each in two. -/
theorem trunc_halve (x : K) : (trunc (2 * x)).tdiv 2 = trunc x := by
  have hNonneg : ∀ y : K, 0 ≤ y → (trunc (2 * y)).tdiv 2 = trunc y := by
    intro y hy
    have hDouble : 0 ≤ 2 * y := by linarith
    rw [trunc_of_nonneg hDouble, trunc_of_nonneg hy,
      Int.tdiv_eq_ediv_of_nonneg (Int.floor_nonneg.mpr hDouble), floor_halve]
  rcases le_total 0 x with h | h
  · exact hNonneg x h
  · have hNeg := hNonneg (-x) (neg_nonneg.mpr h)
    rw [mul_neg, trunc_neg, trunc_neg, Int.neg_tdiv] at hNeg
    omega

end PriceMap.Lib
