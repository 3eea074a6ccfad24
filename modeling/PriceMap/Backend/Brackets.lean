import Mathlib.Analysis.Real.Pi.Irrational
import Mathlib.Analysis.SpecialFunctions.Trigonometric.Complex
import PriceMap.Backend.DbService

/-!
# Backend — the bracket on the ground

The lookups scale degrees to kilometres by 110.574 km per degree of latitude
and `111.32 * Math.cos(lat)` km per degree of longitude. Two things go wrong:
the radius is used as a width, and `Math.cos` is handed degrees.

* `covers_iff` — how far around the point a bracket reaches; never as far as
  its radius (`not_covers_radius`).
* `square_iff` — the latitudes at which the bracket is a square on the ground;
  of those a request can write, only the equator (`square_latitude_rational`).
-/

namespace PriceMap.Backend

open Real

variable {lookup : Lookup} {lat long radius ρ x y : ℝ}

/-- Degrees in radians. -/
noncomputable def toRadians (degrees : ℝ) : ℝ := degrees * π / 180

/-- Between the poles a degree of longitude has a length. -/
theorem cos_toRadians_pos (hSouth : -90 < lat) (hNorth : lat < 90) : 0 < cos (toRadians lat) := by
  refine cos_pos_of_mem_Ioo ⟨?_, ?_⟩
  · have h : -(π / 2) = toRadians (-90) := by
      unfold toRadians
      ring
    rw [h]
    unfold toRadians
    gcongr
  · have h : π / 2 = toRadians 90 := by
      unfold toRadians
      ring
    rw [h]
    unfold toRadians
    gcongr

/-- The bracket a lookup hands to `find` for a point and a radius. -/
noncomputable def Lookup.bracketAt (lookup : Lookup) (lat long radius : ℝ) : Bracket ℝ :=
  bracket cos (.finite lat) (.finite long) (lookup.scaled (.finite radius))

/-- The bracket in km north and east. -/
theorem bracketAt_contains (hRadius : 0 < radius) :
    (lookup.bracketAt lat long radius).contains x y = true ↔
      |x - lat| * 110.574 ≤ lookup.reach radius ∧
        |y - long| * (111.32 * |cos lat|) ≤ lookup.reach radius := by
  have hScaled : 0 < radius * (lookup.factor : ℝ) := mul_pos hRadius (factor_pos lookup)
  rw [Lookup.bracketAt, Lookup.scaled_finite]
  exact contains_iff cos hScaled

-- ---------------------------------------------------------------------------
-- What a bracket covers
-- ---------------------------------------------------------------------------

/-- The stored row is within `ρ` km of the point, by the scale of the code. -/
def Within (lat long ρ : ℝ) (d : Document ℝ) : Prop :=
  ((d.Latitude - lat) * 110.574) ^ 2 +
    ((d.Longitude - long) * (111.32 * cos (toRadians lat))) ^ 2 ≤ ρ ^ 2

/-- Every row that may be stored within `ρ` km of the point is in the bracket
of the lookup for `radius`. -/
def Covers (lookup : Lookup) (lat long radius ρ : ℝ) : Prop :=
  ∀ d : Document ℝ, Within lat long ρ d →
    (lookup.bracketAt lat long radius).contains d.Latitude d.Longitude = true

/-- **What is covered**: half the scaled radius to the north and south, and
that much times the quotient of the two cosines to the east and west. -/
theorem covers_iff (hSouth : -90 < lat) (hNorth : lat < 90) (hRadius : 0 < radius) (hρ : 0 ≤ ρ) :
    Covers lookup lat long radius ρ ↔
      ρ ≤ lookup.reach radius ∧ ρ * |cos lat| ≤ lookup.reach radius * cos (toRadians lat) := by
  have hCos := cos_toRadians_pos hSouth hNorth
  have hDegree : 0 < 111.32 * cos (toRadians lat) := by positivity
  refine ⟨?_, ?_⟩
  · intro h
    -- a row due north and a row due east at the full distance
    have hDueNorth := h ⟨"", lat + ρ / 110.574, long, .absent⟩ (by
      show ((lat + ρ / 110.574 - lat) * 110.574) ^ 2 + ((long - long) * _) ^ 2 ≤ ρ ^ 2
      have h1 : (lat + ρ / 110.574 - lat) * 110.574 = ρ := by ring
      rw [h1, sub_self, zero_mul]
      simp)
    have hDueEast := h ⟨"", lat, long + ρ / (111.32 * cos (toRadians lat)), .absent⟩ (by
      show ((lat - lat) * _) ^ 2 + ((long + ρ / (111.32 * cos (toRadians lat)) - long) * _) ^ 2 ≤ _
      rw [add_sub_cancel_left, div_mul_cancel₀ _ (ne_of_gt hDegree), sub_self, zero_mul]
      simp)
    rw [bracketAt_contains hRadius] at hDueNorth hDueEast
    refine ⟨?_, ?_⟩
    · have hLe := hDueNorth.1
      rw [add_sub_cancel_left, abs_of_nonneg (by positivity)] at hLe
      calc ρ = ρ / 110.574 * 110.574 := by ring
        _ ≤ lookup.reach radius := hLe
    · have hLe := hDueEast.2
      rw [add_sub_cancel_left, abs_of_nonneg (by positivity)] at hLe
      calc ρ * |cos lat|
          = ρ / (111.32 * cos (toRadians lat)) * (111.32 * |cos lat|) * cos (toRadians lat) := by
            field_simp
        _ ≤ lookup.reach radius * cos (toRadians lat) := by gcongr
  · rintro ⟨hLat, hLong⟩ d hWithin
    rw [bracketAt_contains hRadius]
    refine ⟨?_, ?_⟩
    · have hLe : |(d.Latitude - lat) * 110.574| ≤ ρ := by
        refine abs_le_of_sq_le_sq ?_ hρ
        exact (le_add_of_nonneg_right (sq_nonneg _)).trans hWithin
      rw [abs_mul, abs_of_pos (by norm_num : (0 : ℝ) < 110.574)] at hLe
      exact hLe.trans hLat
    · have hLe : |(d.Longitude - long) * (111.32 * cos (toRadians lat))| ≤ ρ := by
        refine abs_le_of_sq_le_sq ?_ hρ
        exact (le_add_of_nonneg_left (sq_nonneg _)).trans hWithin
      rw [abs_mul, abs_of_pos hDegree] at hLe
      refine le_of_mul_le_mul_right ?_ hCos
      calc |d.Longitude - long| * (111.32 * |cos lat|) * cos (toRadians lat)
          = |d.Longitude - long| * (111.32 * cos (toRadians lat)) * |cos lat| := by ring
        _ ≤ ρ * |cos lat| := by gcongr
        _ ≤ lookup.reach radius * cos (toRadians lat) := hLong

/-- Either way a bracket reaches less than the radius. -/
theorem reach_lt (hRadius : 0 < radius) : lookup.reach radius < radius := by
  have hFactor := factor_lt_two (K := ℝ) lookup
  unfold Lookup.reach
  nlinarith

/-- **No bracket covers its radius.** -/
theorem not_covers_radius (lookup : Lookup) (lat long radius : ℝ) (hSouth : -90 < lat)
    (hNorth : lat < 90) (hRadius : 0 < radius) : ¬ Covers lookup lat long radius radius := by
  rw [covers_iff hSouth hNorth hRadius hRadius.le]
  rintro ⟨hReach, -⟩
  exact absurd hReach (not_le.mpr (reach_lt hRadius))

/-- Areas around Brighton within 100 km. -/
theorem covers_radius_fails :
    ¬ ∀ (lookup : Lookup) (lat long radius : ℝ), -90 < lat → lat < 90 → 0 < radius →
      Covers lookup lat long radius radius := by
  intro h
  -- areas around Brighton, 100 km
  have hCovers := h .getAreas 50.8 (-0.1) 100 (by norm_num) (by norm_num) (by norm_num)
  rw [covers_iff (by norm_num) (by norm_num) (by norm_num) (by norm_num)] at hCovers
  exact absurd hCovers.1 (not_le.mpr (reach_lt (by norm_num)))

theorem not_covers_radius_sectors : ¬ Covers .getSectors 50.8 (-0.1) 20 20 :=
  not_covers_radius .getSectors 50.8 (-0.1) 20 (by norm_num) (by norm_num) (by norm_num)

-- ---------------------------------------------------------------------------
-- When a bracket is a square
-- ---------------------------------------------------------------------------

/-- The bracket of a lookup is as wide as it is high on the ground, so that a
row due east of the point is inside if and only if one equally far due north
is. -/
def Square (lookup : Lookup) (lat long radius : ℝ) : Prop :=
  longdiff cos (.finite lat) (lookup.scaled (.finite radius)) * .finite 111.32 *
      .finite (cos (toRadians lat)) =
    latdiff (lookup.scaled (.finite radius)) * .finite 110.574 ∧
  ∀ d : ℝ,
    (lookup.bracketAt lat long radius).contains lat (long + d / (111.32 * cos (toRadians lat))) =
      (lookup.bracketAt lat long radius).contains (lat + d / 110.574) long

/-- In kilometres, the width of a bracket is to its height as the cosine of the
latitude in radians to the one `Math.cos` computes. -/
theorem width_eq_height_iff (hCos : 0 < cos (toRadians lat)) (hRadius : 0 < radius) :
    longdiff cos (.finite lat) (lookup.scaled (.finite radius)) * .finite 111.32 *
        .finite (cos (toRadians lat)) =
      latdiff (lookup.scaled (.finite radius)) * .finite 110.574 ↔
    |cos lat| = cos (toRadians lat) := by
  have hScaled : 0 < radius * (lookup.factor : ℝ) := mul_pos hRadius (factor_pos lookup)
  rw [Lookup.scaled_finite]
  generalize radius * (lookup.factor : ℝ) = r at hScaled
  have hHeight : latdiff (.finite r) * .finite 110.574 = (.finite r : Number ℝ) := by
    rw [latdiff_finite, Number.finite_mul]
    congr 1
    ring
  rw [hHeight, longdiff_eq_div]
  rcases eq_or_ne (cos lat) 0 with hZero | hNe
  · -- the bracket is infinitely wide
    rw [hZero, abs_zero, mul_zero, Number.finite_div_zero hScaled,
      Number.posInfinity_mul (by norm_num), Number.posInfinity_mul hCos]
    exact iff_of_false (by simp) (ne_of_lt hCos)
  · have hAbs : 0 < |cos lat| := abs_pos.mpr hNe
    have hPos : 0 < 111.32 * |cos lat| := degree_pos hNe
    rw [Number.finite_div (ne_of_gt hPos), Number.finite_mul, Number.finite_mul,
      Number.finite.injEq]
    have hRatio : r / (111.32 * |cos lat|) * 111.32 * cos (toRadians lat) =
        r * (cos (toRadians lat) / |cos lat|) := by
      field_simp
    rw [hRatio, mul_eq_left₀ (ne_of_gt hScaled), div_eq_one_iff_eq (ne_of_gt hAbs)]
    exact eq_comm

/-- Where the two cosines agree, east and north are alike. -/
theorem contains_east_eq_north (hCos : 0 < cos (toRadians lat)) (hRadius : 0 < radius)
    (hEq : |cos lat| = cos (toRadians lat)) (d : ℝ) :
    (lookup.bracketAt lat long radius).contains lat (long + d / (111.32 * cos (toRadians lat))) =
      (lookup.bracketAt lat long radius).contains (lat + d / 110.574) long := by
  have hReach : 0 ≤ lookup.reach radius := by
    have hFactor := factor_pos (K := ℝ) lookup
    unfold Lookup.reach
    positivity
  have hDegree : (0 : ℝ) < 111.32 * cos (toRadians lat) := by positivity
  rw [Bool.eq_iff_iff, bracketAt_contains hRadius, bracketAt_contains hRadius, hEq,
    add_sub_cancel_left, add_sub_cancel_left, sub_self, sub_self, abs_zero, zero_mul, zero_mul,
    abs_div, abs_div, abs_of_pos hDegree, abs_of_pos (by norm_num : (0 : ℝ) < 110.574),
    div_mul_cancel₀ _ (ne_of_gt hDegree), div_mul_cancel₀ _ (by norm_num)]
  exact and_comm

/-- The latitudes whose cosine does not depend on the unit. -/
theorem abs_cos_eq_iff (hCos : 0 < cos (toRadians lat)) :
    |cos lat| = cos (toRadians lat) ↔
      ∃ k : ℤ, lat = 180 * k * π / (180 + π) ∨ lat = 180 * k * π / (180 - π) := by
  have hSum : 180 + π ≠ 0 := by positivity
  have hDiff : 180 - π ≠ 0 := by
    have hPi := pi_le_four
    linarith
  have hDouble : |cos lat| = cos (toRadians lat) ↔ cos (2 * lat) = cos (2 * toRadians lat) := by
    rw [← abs_of_pos hCos, cos_two_mul, cos_two_mul, ← sq_eq_sq_iff_abs_eq_abs]
    constructor <;> intro h <;> linarith
  rw [hDouble, cos_eq_cos_iff]
  unfold toRadians
  refine ⟨?_, ?_⟩
  · rintro ⟨k, hk | hk⟩
    · refine ⟨-k, Or.inr ?_⟩
      rw [eq_div_iff hDiff]
      push_cast
      linarith
    · refine ⟨k, Or.inl ?_⟩
      rw [eq_div_iff hSum]
      linarith
  · rintro ⟨k, hk | hk⟩
    · rw [eq_div_iff hSum] at hk
      exact ⟨k, Or.inr (by linarith)⟩
    · rw [eq_div_iff hDiff] at hk
      refine ⟨-k, Or.inl ?_⟩
      push_cast
      linarith

/-- **A square bracket, only at isolated latitudes.** -/
theorem square_iff (lookup : Lookup) (lat long radius : ℝ) (hSouth : -90 < lat) (hNorth : lat < 90)
    (hRadius : 0 < radius) :
    Square lookup lat long radius ↔
      ∃ k : ℤ, lat = 180 * k * π / (180 + π) ∨ lat = 180 * k * π / (180 - π) := by
  have hCos := cos_toRadians_pos hSouth hNorth
  rw [← abs_cos_eq_iff hCos, Square, width_eq_height_iff hCos hRadius]
  refine ⟨And.left, fun hEq => ⟨hEq, contains_east_eq_north hCos hRadius hEq⟩⟩

theorem square_iff_equator :
    Square .getPostCodes 0 0 0.5 ↔
      ∃ k : ℤ, (0 : ℝ) = 180 * k * π / (180 + π) ∨ (0 : ℝ) = 180 * k * π / (180 - π) :=
  square_iff .getPostCodes 0 0 0.5 (by norm_num) (by norm_num) (by norm_num)

/-- Of the latitudes a request can write, only the equator is among them. -/
theorem square_latitude_rational (q : ℚ) :
    (∃ k : ℤ, (q : ℝ) = 180 * k * π / (180 + π) ∨ (q : ℝ) = 180 * k * π / (180 - π)) ↔
      q = 0 := by
  have hSum : 180 + π ≠ 0 := by positivity
  have hDiff : 180 - π ≠ 0 := by
    have hPi := pi_le_four
    linarith
  refine ⟨?_, ?_⟩
  · intro h
    by_contra hq
    have hqReal : (q : ℝ) ≠ 0 := by exact_mod_cast hq
    -- otherwise π would be rational
    have hRational : ∀ a : ℚ, (q : ℝ) * 180 = a * π → False := by
      intro a ha
      have haReal : (a : ℝ) ≠ 0 := by
        intro hZero
        rw [hZero, zero_mul] at ha
        simp [hq] at ha
      refine irrational_pi ⟨q * 180 / a, ?_⟩
      push_cast
      rw [ha, mul_div_cancel_left₀ _ haReal]
    obtain ⟨k, hk | hk⟩ := h
    · rw [eq_div_iff hSum] at hk
      refine hRational (180 * k - q) ?_
      push_cast
      linarith
    · rw [eq_div_iff hDiff] at hk
      refine hRational (180 * k + q) ?_
      push_cast
      linarith
  · rintro rfl
    exact ⟨0, Or.inl (by simp)⟩

/-- At 51 degrees north no bracket is a square. -/
theorem square_fails :
    ¬ ∀ (lookup : Lookup) (lat long radius : ℝ), -90 < lat → lat < 90 → 0 < radius →
      Square lookup lat long radius := by
  intro h
  have hCos : 0 < cos (toRadians (51 : ℚ)) := cos_toRadians_pos (by norm_num) (by norm_num)
  have hSquare := h .getAreas (51 : ℚ) 0 100 (by norm_num) (by norm_num) (by norm_num)
  have hLatitude := (abs_cos_eq_iff hCos).mp ((width_eq_height_iff hCos (by norm_num)).mp hSquare.1)
  exact absurd ((square_latitude_rational 51).mp hLatitude) (by norm_num)

end PriceMap.Backend
