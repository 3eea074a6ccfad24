import Mathlib
import PriceMap.Lib.Grids

/-!
# Interpolation

Tables of break points, read with a cursor that only moves forward, and points
on a wheel of circumference one.

* `seek_drop`      — for ascending queries the cursor stands behind the break
  points that are at most the query, wherever it started.
* `wheelDistance_turn` — a turn by a fraction of the way from one point of the
  wheel to another goes that fraction of the shorter way round.
-/

namespace PriceMap.Lib

-- ---------------------------------------------------------------------------
-- Break points
-- ---------------------------------------------------------------------------

section Cursor

variable {K : Type*} [LinearOrder K] {xs : List K} {t : K}

/-- Moves a cursor on while the entry under it is at most `t`; the list is what
lies from the cursor on. -/
def seek (t : K) : List K → ℕ → ℕ
  | [], cur => cur
  | x :: rest, cur => if x ≤ t then seek t rest (cur + 1) else cur

/-- How many break points are at most `t`. -/
def passed (xs : List K) (t : K) : ℕ := xs.countP fun x => decide (x ≤ t)

/-- At most all points are passed. -/
theorem passed_le_length : passed xs t ≤ xs.length := List.countP_le_length

/-- A greater value passes no fewer points. -/
theorem passed_mono {t t' : K} (h : t ≤ t') : passed xs t ≤ passed xs t' := by
  refine List.countP_mono_left fun x _ hx => ?_
  exact decide_eq_true ((of_decide_eq_true hx).trans h)

/-- In a sorted list the points passed are the first ones. -/
theorem getElem_le_iff (hSorted : xs.Pairwise (· ≤ ·)) {i : ℕ} (hi : i < xs.length) :
    xs[i] ≤ t ↔ i < passed xs t := by
  induction xs generalizing i with
  | nil => exact absurd hi (Nat.not_lt_zero i)
  | cons x rest ih =>
    obtain ⟨hHead, hRest⟩ := List.pairwise_cons.mp hSorted
    by_cases hx : x ≤ t
    · have hCount : passed (x :: rest) t = passed rest t + 1 :=
        List.countP_cons_of_pos (decide_eq_true hx)
      cases i with
      | zero => simp [hx, hCount]
      | succ i => simp [ih hRest (Nat.lt_of_succ_lt_succ hi), hCount]
    · have hNone : passed (x :: rest) t = 0 := by
        refine List.countP_eq_zero.mpr fun y hy => ?_
        rcases List.mem_cons.mp hy with rfl | hIn
        · simpa using hx
        · simpa using (not_le.mp hx).trans_le (hHead y hIn)
      have hAbove : ¬ (x :: rest)[i] ≤ t := by
        cases i with
        | zero => exact hx
        | succ i =>
          exact not_le.mpr ((not_le.mp hx).trans_le (hHead _ (List.getElem_mem _)))
      simp [hAbove, hNone]

/-- **The cursor finds its place** from anywhere behind it. -/
theorem seek_drop (hSorted : xs.Pairwise (· ≤ ·)) {cur : ℕ} (h : cur ≤ passed xs t) :
    seek t (xs.drop cur) cur = passed xs t := by
  have hLength : passed xs t ≤ xs.length := passed_le_length
  induction hLeft : xs.length - cur generalizing cur with
  | zero =>
    rw [List.drop_eq_nil_of_le (by omega), seek]
    omega
  | succ left ih =>
    have hCur : cur < xs.length := by omega
    rw [List.drop_eq_getElem_cons hCur, seek]
    split_ifs with hEntry
    · exact ih ((getElem_le_iff hSorted hCur).mp hEntry) (by omega)
    · have hNot := (getElem_le_iff hSorted hCur).not.mp hEntry
      omega

end Cursor

-- ---------------------------------------------------------------------------
-- The line
-- ---------------------------------------------------------------------------

section Line

variable {K : Type*} [Field K] [LinearOrder K] [IsStrictOrderedRing K]

/-- A number is some fraction of the way between two break points around it. -/
theorem fraction_mem {s s' t : K} (h : s ≤ t) (h' : t < s') :
    0 ≤ (t - s) / (s' - s) ∧ (t - s) / (s' - s) ≤ 1 := by
  have hApart : 0 < s' - s := sub_pos.mpr (h.trans_lt h')
  exact ⟨div_nonneg (sub_nonneg.mpr h) hApart.le,
    (div_le_one hApart).mpr (sub_le_sub_right h'.le s)⟩

/-- Between two numbers of the unit interval there are only such. -/
theorem between_mem {x y r : K} (hx : 0 ≤ x ∧ x ≤ 1) (hy : 0 ≤ y ∧ y ≤ 1) (hr : 0 ≤ r ∧ r ≤ 1) :
    0 ≤ x + (y - x) * r ∧ x + (y - x) * r ≤ 1 := by
  constructor <;> nlinarith

end Line

-- ---------------------------------------------------------------------------
-- The wheel
-- ---------------------------------------------------------------------------

section Wheel

variable {K : Type*} [Field K] [LinearOrder K] [FloorRing K]

/-- The remainder of a division by one, with the sign of `x`. -/
def fmodOne (x : K) : K := x - trunc x

/-- The point reached from `a` after the fraction `r` of the way to `b`. -/
def turn (a b r : K) : K :=
  if 0.5 < b - a then fmodOne (1 + a + (b - a - 1) * r)
  else if b - a < -0.5 then fmodOne (a + (b + 1 - a) * r)
  else a + (b - a) * r

/-- How far apart two points are, the shorter way round. -/
def wheelDistance (a b : K) : K := |b - a - round (b - a)|

variable [IsStrictOrderedRing K] {a b d r : K}

/-- A number up to a half is its own distance from the nearest integer. -/
theorem abs_sub_round_of_abs_le (h : |d| ≤ 1 / 2) : |d - round d| = |d| := by
  obtain ⟨hLow, hHigh⟩ := abs_le.mp h
  rcases hHigh.lt_or_eq with hLt | rfl
  · rw [round_eq_zero_iff.mpr ⟨hLow, hLt⟩, Int.cast_zero, sub_zero]
  · rw [one_div, round_two_inv, Int.cast_one, abs_sub_comm]
    norm_num

/-- The distance round the wheel, if the turn is given. -/
theorem wheelDistance_of_eq {n : ℤ} (h : b - a = d + n) (hd : |d| ≤ 1 / 2) :
    wheelDistance a b = |d| := by
  rw [wheelDistance, h, round_add_intCast, Int.cast_add, add_sub_add_right_eq_sub,
    abs_sub_round_of_abs_le hd]

/-- The remainder is in the unit interval. -/
theorem fmodOne_mem {x : K} (h : 0 ≤ x) : 0 ≤ fmodOne x ∧ fmodOne x < 1 := by
  rw [fmodOne, trunc_of_nonneg h, Int.self_sub_floor]
  exact ⟨Int.fract_nonneg x, Int.fract_lt_one x⟩

/-- A turn goes the fraction `r` of a way of at most half the wheel. -/
theorem turn_spec (ha : 0 ≤ a ∧ a ≤ 1) (hb : 0 ≤ b ∧ b ≤ 1) (r : K) :
    ∃ d, ∃ n m : ℤ, |d| ≤ 1 / 2 ∧ b - a = d + n ∧ turn a b r = a + d * r + m := by
  unfold turn
  split_ifs with hUp hDown
  · refine ⟨b - a - 1, 1, 1 - trunc (1 + a + (b - a - 1) * r), ?_, by push_cast; ring, ?_⟩
    · rw [abs_le]
      constructor <;> linarith
    · rw [fmodOne]
      push_cast
      ring
  · refine ⟨b + 1 - a, -1, -trunc (a + (b + 1 - a) * r), ?_, by push_cast; ring, ?_⟩
    · rw [abs_le]
      constructor <;> linarith
    · rw [fmodOne]
      push_cast
      ring
  · refine ⟨b - a, 0, 0, ?_, by simp, by simp⟩
    rw [abs_le]
    constructor <;> linarith

/-- **The shorter way round.** -/
theorem wheelDistance_turn (ha : 0 ≤ a ∧ a ≤ 1) (hb : 0 ≤ b ∧ b ≤ 1) (hr : 0 ≤ r ∧ r ≤ 1) :
    wheelDistance a (turn a b r) = r * wheelDistance a b ∧
      wheelDistance (turn a b r) b = (1 - r) * wheelDistance a b := by
  obtain ⟨d, n, m, hd, hWay, hTurn⟩ := turn_spec ha hb r
  have hPart : ∀ s : K, 0 ≤ s → s ≤ 1 → |s * d| ≤ 1 / 2 := by
    intro s hs0 hs1
    rw [abs_mul, abs_of_nonneg hs0]
    exact (mul_le_of_le_one_left (abs_nonneg d) hs1).trans hd
  rw [wheelDistance_of_eq hWay hd]
  constructor
  · have hTo : turn a b r - a = r * d + m := by rw [hTurn]; ring
    rw [wheelDistance_of_eq hTo (hPart r hr.1 hr.2), abs_mul, abs_of_nonneg hr.1]
  · have hFrom : b - turn a b r = (1 - r) * d + (n - m : ℤ) := by
      push_cast
      linear_combination hWay - hTurn
    rw [wheelDistance_of_eq hFrom (hPart _ (sub_nonneg.mpr hr.2) (sub_le_self 1 hr.1)), abs_mul,
      abs_of_nonneg (sub_nonneg.mpr hr.2)]

/-- A turn ends on the wheel. -/
theorem turn_mem (ha : 0 ≤ a ∧ a ≤ 1) (hb : 0 ≤ b ∧ b ≤ 1) (hr : 0 ≤ r ∧ r ≤ 1) :
    0 ≤ turn a b r ∧ turn a b r ≤ 1 := by
  unfold turn
  split_ifs with hUp hDown
  · have hPos : 0 ≤ 1 + a + (b - a - 1) * r := by nlinarith
    exact ⟨(fmodOne_mem hPos).1, (fmodOne_mem hPos).2.le⟩
  · have hPos : 0 ≤ a + (b + 1 - a) * r := by nlinarith
    exact ⟨(fmodOne_mem hPos).1, (fmodOne_mem hPos).2.le⟩
  · constructor <;> nlinarith

end Wheel

end PriceMap.Lib
