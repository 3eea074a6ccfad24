import PriceMap.Backend.ApiService
import PriceMap.Backend.Brackets

/-!
# Backend — what a request searches

`getPricesAtAround` chooses a lookup by the radius, and the lookup scales the
radius its own way. `searched` is the bracket that comes out and is handed to
`find`.

* `dbService_models` — over a database in memory the lookups of `dbService.js`
  are what is run.
* `zoom_iff` — a larger radius searches a coarser collection and a larger
  bracket, except just above 40 km, where the factor 1.5 of the sectors is lost.
-/

namespace PriceMap.Backend

variable {K : Type*} [Field K] [LinearOrder K]

-- ---------------------------------------------------------------------------
-- The bracket that is searched
-- ---------------------------------------------------------------------------

/-- The bracket `getPricesAtAround` has searched. -/
def searched (cos : K → K) (lat long : Number K) (radius : Radius K) : Bracket K :=
  bracket cos lat long ((level radius).scaled radius.toNumber)

/-- `find` of the four mongoose models; the database may also fail. -/
abbrev Models (K ε : Type*) := Lookup → Bracket K → Except ε (List (Document Decimal))

/-- The lookups over these models. -/
def dbService {ε : Type*} (cos : K → K) (models : Models K ε) : DbService K ε :=
  fun lookup lat long radius =>
    models lookup (bracket cos lat long (lookup.scaled radius.toNumber))

/-- The models of a database that answers. -/
def Collections.models (db : Collections Decimal) (value : Decimal → K) : Models K Empty :=
  fun lookup req => .ok (find value req (lookup.collection db))

/-- Over a database in memory the service runs the lookup. -/
theorem dbService_models (cos : K → K) (db : Collections Decimal) (value : Decimal → K)
    (lookup : Lookup) (lat long : Number K) (radius : Radius K) :
    dbService cos (db.models value) lookup lat long radius =
      .ok (lookup.run cos value db lat long radius) := by
  rw [Lookup.run_eq_find]
  rfl

/-- A request makes one query, with the bracket `searched`. -/
theorem getPricesAtAround_dbService {ε : Type*} (cos : K → K) (models : Models K ε)
    (lat long : Number K) (radius : Radius K) :
    getPricesAtAround (dbService cos models) lat long radius =
      (models (level radius) (searched cos lat long radius)).map (List.map priceRecord) :=
  getPricesAtAround_eq _ lat long radius

-- ---------------------------------------------------------------------------
-- Levels
-- ---------------------------------------------------------------------------

/-- Postcodes, sectors, districts, areas. -/
def Lookup.coarseness : Lookup → ℕ
  | .getPostCodes => 0
  | .getSectors => 1
  | .getDistricts => 2
  | .getAreas => 3

/-- The thresholds of the levels. -/
theorem level_some_finite (r : K) :
    level (some (.finite r)) =
      if r < 1 then .getPostCodes
      else if 90 < r then .getAreas
      else if 40 < r then .getDistricts
      else .getSectors := by
  simp [level, Radius.toNumber, Number.lt, Number.gt]

section Levels

variable [IsStrictOrderedRing K] {r r₁ r₂ : K}

/-- The level counts the thresholds that the radius has passed. -/
theorem coarseness_level (r : K) :
    (level (some (.finite r))).coarseness =
      (if r < 1 then 0 else 1) + (if 40 < r then 1 else 0) + (if 90 < r then 1 else 0) := by
  have hForty : 90 < r → 40 < r := by
    intro h
    linarith
  have hOne : 40 < r → ¬ r < 1 := by
    intro h h'
    linarith
  rw [level_some_finite]
  split_ifs <;> simp_all [Lookup.coarseness]

/-- A greater radius is searched no finer. -/
theorem coarseness_level_mono (h : r₁ ≤ r₂) :
    (level (some (.finite r₁))).coarseness ≤ (level (some (.finite r₂))).coarseness := by
  have hPassed : ∀ t : K, (if t < r₁ then 1 else 0) ≤ if t < r₂ then 1 else 0 := by
    intro t
    by_cases hBefore : t < r₁
    · rw [if_pos hBefore, if_pos (hBefore.trans_le h)]
    · rw [if_neg hBefore]
      exact Nat.zero_le _
  have hReached : (if r₁ < 1 then 0 else 1) ≤ if r₂ < 1 then 0 else 1 := by
    by_cases hBelow : r₂ < 1
    · rw [if_pos (h.trans_lt hBelow), if_pos hBelow]
    · rw [if_neg hBelow]
      split_ifs <;> decide
  rw [coarseness_level, coarseness_level]
  exact Nat.add_le_add (Nat.add_le_add hReached (hPassed 40)) (hPassed 90)

/-- Sectors and postcodes, up to 40 km, scale the radius, the others do not. -/
theorem factor_level (r : K) :
    ((level (some (.finite r))).factor : K) = if 40 < r then 1 else 1.5 := by
  have hOne : r < 1 → ¬ 40 < r := by
    intro h h'
    linarith
  have hNinety : 90 < r → 40 < r := by
    intro h
    linarith
  rw [level_some_finite]
  split_ifs <;> simp_all [Lookup.factor]

end Levels

-- ---------------------------------------------------------------------------
-- Zooming out
-- ---------------------------------------------------------------------------

instance bracketSubset : HasSubset (Bracket K) :=
  ⟨fun b c => ∀ x y, b.contains x y = true → c.contains x y = true⟩

/-- Going from the radius `r₁` to `r₂` serves no finer level and searches all
of the bracket searched before. -/
structure ZoomsOut (cos : K → K) (lat long r₁ r₂ : K) : Prop where
  level : (level (some (.finite r₁))).coarseness ≤ (level (some (.finite r₂))).coarseness
  bracket : searched cos (.finite lat) (.finite long) (some (.finite r₁)) ⊆
    searched cos (.finite lat) (.finite long) (some (.finite r₂))

section Zoom

variable [IsStrictOrderedRing K] {cos : K → K} {lat long r r₁ r₂ x y : K}

/-- The bracket in km north and east. -/
theorem searched_contains_iff (hCos : cos lat ≠ 0) :
    (searched cos (.finite lat) (.finite long) (some (.finite r))).contains x y = true ↔
      |x - lat| * 110.574 ≤ (level (some (.finite r))).reach r ∧
        |y - long| * (111.32 * |cos lat|) ≤ (level (some (.finite r))).reach r := by
  have hScaled : (level (some (.finite r))).scaled (Radius.toNumber (some (.finite r))) =
      .finite (r * (level (some (.finite r))).factor) := Lookup.scaled_finite _ r
  rw [searched, hScaled]
  exact contains_iff_of_cos_ne_zero cos hCos

/-- Brackets around one point are nested as they reach. -/
theorem searched_subset_iff (hCos : cos lat ≠ 0)
    (hReach : 0 ≤ (level (some (.finite r₁))).reach r₁) :
    searched cos (.finite lat) (.finite long) (some (.finite r₁)) ⊆
        searched cos (.finite lat) (.finite long) (some (.finite r₂)) ↔
      (level (some (.finite r₁))).reach r₁ ≤ (level (some (.finite r₂))).reach r₂ := by
  refine ⟨fun h => ?_, fun hLe x y hContains => ?_⟩
  · -- the northern edge of the smaller bracket
    have hEdge : |lat + (level (some (.finite r₁))).reach r₁ / 110.574 - lat| * 110.574 =
        (level (some (.finite r₁))).reach r₁ := by
      rw [add_sub_cancel_left, abs_of_nonneg (by positivity), div_mul_cancel₀ _ (by norm_num)]
    have hInside := h (lat + (level (some (.finite r₁))).reach r₁ / 110.574) long (by
      rw [searched_contains_iff hCos, hEdge, sub_self, abs_zero, zero_mul]
      exact ⟨le_rfl, hReach⟩)
    rw [searched_contains_iff hCos, hEdge] at hInside
    exact hInside.1
  · rw [searched_contains_iff hCos] at hContains ⊢
    exact ⟨hContains.1.trans hLe, hContains.2.trans hLe⟩

/-- How far the bracket reaches. -/
theorem reach_level (r : K) :
    (level (some (.finite r))).reach r = if 40 < r then r / 2 else 1.5 * r / 2 := by
  rw [Lookup.reach, factor_level]
  split_ifs
  · rw [mul_one]
  · rw [mul_comm]

/-- It reaches no negative distance. -/
theorem reach_level_nonneg (hRadius : 0 ≤ r) : 0 ≤ (level (some (.finite r))).reach r := by
  rw [reach_level]
  split_ifs <;> positivity

/-- The one step down is at 40 km, where districts take over. -/
theorem reach_level_le_iff (hLe : r₁ ≤ r₂) :
    (level (some (.finite r₁))).reach r₁ ≤ (level (some (.finite r₂))).reach r₂ ↔
      ¬ (r₁ ≤ 40 ∧ 40 < r₂ ∧ r₂ < 1.5 * r₁) := by
  rw [reach_level, reach_level]
  by_cases hFar : 40 < r₂
  · by_cases hNear : 40 < r₁
    · rw [if_pos hNear, if_pos hFar]
      exact iff_of_true (by linarith) fun h => absurd hNear (not_lt.mpr h.1)
    · rw [if_neg hNear, if_pos hFar, div_le_div_iff_of_pos_right two_pos, ← not_lt, not_iff_not]
      exact ⟨fun h => ⟨not_lt.mp hNear, hFar, h⟩, fun h => h.2.2⟩
  · have hNear : ¬ 40 < r₁ := fun h => hFar (h.trans_le hLe)
    rw [if_neg hNear, if_neg hFar]
    exact iff_of_true (by linarith) fun h => hFar h.2.1

/-- **Zooming out never loses ground, except from the sectors to the
districts.** -/
theorem zoom_iff (cos : K → K) (lat long r₁ r₂ : K) (hCos : cos lat ≠ 0) (hRadius : 0 ≤ r₁)
    (hLe : r₁ ≤ r₂) :
    ZoomsOut cos lat long r₁ r₂ ↔ ¬ (r₁ ≤ 40 ∧ 40 < r₂ ∧ r₂ < 1.5 * r₁) := by
  have hReach := reach_level_nonneg hRadius
  rw [← reach_level_le_iff hLe]
  rw [← searched_subset_iff hCos hReach]
  exact ⟨ZoomsOut.bracket, fun h => ⟨coarseness_level_mono hLe, h⟩⟩

end Zoom

/-- `Math.cos` is not 0 at a number that can be written down. -/
theorem cos_ratCast_ne_zero (q : ℚ) : Real.cos q ≠ 0 := by
  intro h
  obtain ⟨k, hk⟩ := Real.cos_eq_zero_iff.mp h
  have hOdd : (2 * (k : ℝ) + 1) ≠ 0 := by
    have hInt : (2 * k + 1 : ℤ) ≠ 0 := by omega
    exact_mod_cast hInt
  refine irrational_pi ⟨2 * q / (2 * k + 1), ?_⟩
  push_cast
  rw [hk]
  field_simp

/-- From 40 km to 41 km, the bracket shrinks from 60 km to 41 km. -/
theorem zoom_fails :
    ¬ ∀ lat long r₁ r₂ : ℝ, Real.cos lat ≠ 0 → 0 ≤ r₁ → r₁ ≤ r₂ →
      ZoomsOut Real.cos lat long r₁ r₂ := by
  intro h
  have hCos := cos_ratCast_ne_zero 51
  have hZoom := h (51 : ℚ) 0 40 41 hCos (by norm_num) (by norm_num)
  have hLe := (searched_subset_iff hCos (reach_level_nonneg (by norm_num))).mp hZoom.bracket
  rw [reach_level_le_iff (by norm_num)] at hLe
  exact hLe (by norm_num)

theorem zoom_iff_brighton :
    ZoomsOut Real.cos ((50.8 : ℚ) : ℝ) (-0.1) 20 100 ↔
      ¬ ((20 : ℝ) ≤ 40 ∧ (40 : ℝ) < 100 ∧ (100 : ℝ) < 1.5 * 20) :=
  zoom_iff Real.cos (50.8 : ℚ) (-0.1) 20 100 (cos_ratCast_ne_zero 50.8) (by norm_num) (by norm_num)

end PriceMap.Backend
