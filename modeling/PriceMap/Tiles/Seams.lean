import PriceMap.Tiles.Smoothing

/-!
# Heatmap tiles — the seams between tiles

Each tile is drawn on its own, from the points of its part of the world and a
margin. Put together the tiles of a zoom are one picture: a pixel depends on its
place in the world and not on the tile it is drawn in.

* `inArray_points`, `inArray_wrappedPoints` — every point found has its cell in
  the arrays.
* `density` — what all the points give a pixel of the world.
* `tile_density` — each pixel of each tile has the density of its place.
-/

namespace PriceMap.Tiles

open Lib

variable {K : Type} [Field K] [LinearOrder K] [IsStrictOrderedRing K]

-- ---------------------------------------------------------------------------
-- Places in a tile
-- ---------------------------------------------------------------------------

/-- A pixel has a width. -/
theorem bucketWidth_pos (zoom : ℕ) : 0 < (bucketWidth zoom : K) := by
  rw [bucketWidth, tileWidth, kGMUTileSize]
  positivity

/-- The width of a tile in pixels. -/
theorem tileWidth_eq (zoom : ℕ) : (tileWidth zoom : K) = bucketWidth zoom * kGMUTileSize := by
  rw [bucketWidth, kGMUTileSize]
  push_cast
  ring

/-- The width of a margin in pixels. -/
theorem padding_eq (radius zoom : ℕ) : (padding radius zoom : K) = bucketWidth zoom * radius := by
  rw [padding, bucketWidth]
  ring

/-- The width of the world in pixels. -/
theorem bucketWidth_world (zoom : ℕ) :
    (bucketWidth zoom : K) * (2 ^ zoom * kGMUTileSize : ℤ) = 2 := by
  have hPow : (2 : K) ^ zoom ≠ 0 := by positivity
  rw [bucketWidth, tileWidth, kGMUTileSize]
  push_cast
  field_simp
  norm_num

variable {radius x y zoom : ℕ}

/-- `x` of a place, in pixels from the left margin of a tile. -/
def placeX (radius x y zoom : ℕ) (v : K) : K :=
  (v - (tileBounds radius x y zoom : GQTBounds K).minX) / bucketWidth zoom

/-- `y` of a place, in pixels from the top margin of a tile. -/
def placeY (radius x y zoom : ℕ) (v : K) : K :=
  ((tileBounds radius x y zoom : GQTBounds K).maxY - v) / bucketWidth zoom

/-- From the left of the world to the left of a tile. -/
theorem placeX_eq (v : K) : placeX radius x y zoom v =
    (v + 1) / bucketWidth zoom + ((radius - x * kGMUTileSize : ℤ) : K) := by
  have hPos := (bucketWidth_pos (K := K) zoom).ne'
  rw [placeX, tileBounds, padding_eq, tileWidth_eq]
  push_cast
  field_simp
  ring

/-- From the top of the world to the top of a tile. -/
theorem placeY_eq (v : K) : placeY radius x y zoom v =
    (1 - v) / bucketWidth zoom + ((radius - y * kGMUTileSize : ℤ) : K) := by
  have hPos := (bucketWidth_pos (K := K) zoom).ne'
  rw [placeY, tileBounds, padding_eq, tileWidth_eq]
  push_cast
  field_simp
  ring

/-- Right of the left bound. -/
theorem placeX_nonneg {v : K} :
    0 ≤ placeX radius x y zoom v ↔ (tileBounds radius x y zoom : GQTBounds K).minX ≤ v := by
  rw [placeX, le_div_iff₀ (bucketWidth_pos zoom), zero_mul, sub_nonneg]

/-- Below the upper bound. -/
theorem placeY_nonneg {v : K} :
    0 ≤ placeY radius x y zoom v ↔ v ≤ (tileBounds radius x y zoom : GQTBounds K).maxY := by
  rw [placeY, le_div_iff₀ (bucketWidth_pos zoom), zero_mul, sub_nonneg]

/-- The bounds are as wide as the padded tile. -/
theorem tileBounds_maxX : (tileBounds radius x y zoom : GQTBounds K).maxX =
    (tileBounds radius x y zoom : GQTBounds K).minX + paddedTileSize radius * bucketWidth zoom := by
  rw [tileBounds, padding_eq, tileWidth_eq, paddedTileSize]
  push_cast
  ring

/-- And as high. -/
theorem tileBounds_minY : (tileBounds radius x y zoom : GQTBounds K).minY =
    (tileBounds radius x y zoom : GQTBounds K).maxY - paddedTileSize radius * bucketWidth zoom := by
  rw [tileBounds, padding_eq, tileWidth_eq, paddedTileSize]
  push_cast
  ring

/-- Left of the right bound. -/
theorem placeX_le {v : K} : placeX radius x y zoom v ≤ paddedTileSize radius ↔
    v ≤ (tileBounds radius x y zoom : GQTBounds K).maxX := by
  rw [placeX, div_le_iff₀ (bucketWidth_pos zoom), sub_le_iff_le_add', tileBounds_maxX]

/-- Above the lower bound. -/
theorem placeY_le {v : K} : placeY radius x y zoom v ≤ paddedTileSize radius ↔
    (tileBounds radius x y zoom : GQTBounds K).minY ≤ v := by
  rw [placeY, div_le_iff₀ (bucketWidth_pos zoom), tileBounds_minY, sub_le_comm]

/-- The places between the margins of a tile. -/
def InWindow (radius : ℕ) (t : K) : Prop := 0 ≤ t ∧ t ≤ paddedTileSize radius

/-- A point is in the bounds of a tile if its place is between the margins. -/
theorem tileBounds_contains {p : GQTPoint K} :
    (tileBounds radius x y zoom).contains p = true ↔
      InWindow radius (placeX radius x y zoom p.x) ∧
        InWindow radius (placeY radius x y zoom p.y) := by
  rw [Box.contains_iff, InWindow, InWindow, placeX_nonneg, placeX_le, placeY_nonneg, placeY_le,
    and_comm (a := (tileBounds radius x y zoom).minY ≤ p.y)]

/-- When the left margin reaches across the antimeridian. -/
theorem tileBounds_minX_lt :
    (tileBounds radius x y zoom : GQTBounds K).minX < -1 ↔ x * kGMUTileSize < radius := by
  have hMinX : (tileBounds radius x y zoom : GQTBounds K).minX =
      -1 + bucketWidth zoom * ((x * kGMUTileSize : ℕ) - radius) := by
    rw [tileBounds, padding_eq, tileWidth_eq]
    push_cast
    ring
  rw [hMinX, add_lt_iff_neg_left, ← not_le, mul_nonneg_iff_of_pos_left (bucketWidth_pos zoom),
    not_le, sub_neg, Nat.cast_lt]

/-- When the right margin does. -/
theorem lt_tileBounds_maxX : 1 < (tileBounds radius x y zoom : GQTBounds K).maxX ↔
    2 ^ zoom * kGMUTileSize < (x + 1) * kGMUTileSize + radius := by
  have hMaxX : (tileBounds radius x y zoom : GQTBounds K).maxX =
      1 + bucketWidth zoom *
        (((x + 1) * kGMUTileSize + radius : ℕ) - (2 ^ zoom * kGMUTileSize : ℕ)) := by
    have hWorld := bucketWidth_world (K := K) zoom
    push_cast at hWorld
    rw [tileBounds, padding_eq, tileWidth_eq]
    push_cast
    linear_combination hWorld
  rw [hMaxX, lt_add_iff_pos_right, mul_pos_iff_of_pos_left (bucketWidth_pos zoom), sub_pos,
    Nat.cast_lt]

variable (y zoom) in
/-- Then points are looked for one world to the right. -/
theorem wrappedBounds_left (h : x * kGMUTileSize < radius) :
    ∃ wrapped, wrappedBounds (tileBounds radius x y zoom) = some (wrapped, 2 * ((-1 : ℤ) : K)) := by
  have hOffset : (-2.0 : K) = 2 * ((-1 : ℤ) : K) := by norm_num
  rw [wrappedBounds, if_pos (tileBounds_minX_lt.mpr h), hOffset]
  exact ⟨_, rfl⟩

/-- And then one world to the left. -/
theorem wrappedBounds_right (h : ¬ x * kGMUTileSize < radius)
    (h' : 2 ^ zoom * kGMUTileSize < (x + 1) * kGMUTileSize + radius) :
    ∃ wrapped, wrappedBounds (tileBounds radius x y zoom) = some (wrapped, 2 * ((1 : ℤ) : K)) := by
  have hOffset : (2.0 : K) = 2 * ((1 : ℤ) : K) := by norm_num
  rw [wrappedBounds, if_neg (tileBounds_minX_lt.not.mpr h), if_pos (lt_tileBounds_maxX.mpr h'),
    hOffset]
  exact ⟨_, rfl⟩

/-- Else nothing is wrapped. -/
theorem wrappedBounds_none (h : ¬ x * kGMUTileSize < radius)
    (h' : ¬ 2 ^ zoom * kGMUTileSize < (x + 1) * kGMUTileSize + radius) :
    wrappedBounds (tileBounds radius x y zoom : GQTBounds K) = none := by
  rw [wrappedBounds, if_neg (tileBounds_minX_lt.not.mpr h), if_neg (lt_tileBounds_maxX.not.mpr h')]

variable (radius y) in
/-- A tile of the zoom overlaps the world. -/
theorem tileBounds_inWorld (hx : x < 2 ^ zoom) :
    (tileBounds radius x y zoom : GQTBounds K).minX ≤ 1 ∧
      -1 ≤ (tileBounds radius x y zoom : GQTBounds K).maxX := by
  have hWidth := bucketWidth_pos (K := K) zoom
  have hPadding : 0 ≤ (bucketWidth zoom : K) * radius :=
    mul_nonneg hWidth.le (Nat.cast_nonneg radius)
  have hSide : 0 ≤ (tileWidth zoom : K) := by
    rw [tileWidth]
    positivity
  have hPlace : (x : K) * tileWidth zoom ≤ 2 := by
    have hTwo : (2.0 : K) = 2 := by norm_num
    rw [tileWidth, hTwo, ← mul_div_assoc, div_le_iff₀ (by positivity), mul_comm]
    exact mul_le_mul_of_nonneg_left (by exact_mod_cast hx.le) zero_le_two
  have hRight : 0 ≤ ((x : K) + 1) * tileWidth zoom :=
    mul_nonneg (by positivity) hSide
  rw [tileBounds, padding_eq]
  constructor
  · linarith
  · linarith

-- ---------------------------------------------------------------------------
-- Cells
-- ---------------------------------------------------------------------------

variable [FloorRing K]

theorem paddedTileSize_pos (radius : ℕ) : 0 < paddedTileSize radius := by
  rw [paddedTileSize, kGMUTileSize]
  omega

/-- A clamped index is below the side of the array. -/
theorem clampBucket_lt (radius : ℕ) (i : ℤ) : clampBucket radius i < paddedTileSize radius := by
  rw [clampBucket]
  split_ifs <;> omega

/-- The casts of places between the margins are in the range of an `int`. -/
theorem quotient_of_inWindow (fp : FloatingPoint K) (hRadius : Drawable radius) {v : K}
    (h : InWindow radius (v / bucketWidth zoom)) :
    fp.quotient v (bucketWidth zoom) = trunc (v / bucketWidth zoom) := by
  refine fp.quotient_of_fits (bucketWidth_pos zoom).ne' ?_
  have hLow : 0 ≤ ⌊v / bucketWidth zoom⌋ := Int.floor_nonneg.mpr h.1
  have hHigh : ⌊v / bucketWidth zoom⌋ ≤ paddedTileSize radius := by
    exact_mod_cast (Int.floor_le _).trans h.2
  have hSize := paddedTileSize_cast radius
  have hMost := hRadius.2
  rw [kGMUTileSize] at hSize
  rw [trunc_of_nonneg h.1, FitsInt]
  omega

omit [IsStrictOrderedRing K] in
/-- Between the margins it is in the array. -/
theorem clampBucket_mem {t : K} (h : InWindow radius t) :
    0 ≤ clampBucket radius (trunc t) ∧ clampBucket radius (trunc t) < paddedTileSize radius := by
  refine ⟨?_, clampBucket_lt _ _⟩
  have hFloor : 0 ≤ ⌊t⌋ := Int.floor_nonneg.mpr h.1
  have hSize := paddedTileSize_pos radius
  rw [clampBucket, trunc_of_nonneg h.1]
  split_ifs <;> omega

/-- The row of a place between the margins. -/
theorem rowOf_of_inWindow (fp : FloatingPoint K) (hRadius : Drawable radius)
    {item : GMUWeightedLatLng K} (h : InWindow radius (placeY radius x y zoom item.point.y)) :
    rowOf fp radius zoom (tileBounds radius x y zoom) item =
      clampBucket radius (trunc (placeY radius x y zoom item.point.y)) := by
  rw [rowOf, quotient_of_inWindow fp hRadius h]
  rfl

/-- And its column. -/
theorem columnOf_of_inWindow (fp : FloatingPoint K) (hRadius : Drawable radius)
    {item : GMUWeightedLatLng K} (h : InWindow radius (placeX radius x y zoom item.point.x)) :
    columnOf fp radius zoom (tileBounds radius x y zoom) item =
      clampBucket radius (trunc (placeX radius x y zoom item.point.x)) := by
  rw [columnOf, quotient_of_inWindow fp hRadius h]
  rfl

/-- Across the antimeridian the column is that of the shifted place. -/
theorem wrappedColumnOf_of_inWindow (fp : FloatingPoint K) (hRadius : Drawable radius) {offset : K}
    {item : GMUWeightedLatLng K}
    (h : InWindow radius (placeX radius x y zoom (item.point.x + offset))) :
    wrappedColumnOf fp radius zoom (tileBounds radius x y zoom) offset item =
      clampBucket radius (trunc (placeX radius x y zoom (item.point.x + offset))) := by
  have hMem := clampBucket_mem h
  rw [wrappedColumnOf, quotient_of_inWindow fp hRadius h]
  exact if_neg (not_lt.mpr hMem.1)

variable {points : List (GMUWeightedLatLng K)}

variable (points) in
/-- Every point of a tile has its cell. -/
theorem inArray_points (fp : FloatingPoint K) (hRadius : Drawable radius)
    (h : ∀ item ∈ points, (tileBounds radius x y zoom).contains item.point = true) :
    InArray radius (rowOf fp radius zoom (tileBounds radius x y zoom))
      (columnOf fp radius zoom (tileBounds radius x y zoom)) points := by
  intro item hItem
  obtain ⟨hX, hY⟩ := tileBounds_contains.mp (h item hItem)
  rw [rowOf_of_inWindow fp hRadius hY, columnOf_of_inWindow fp hRadius hX]
  exact ⟨clampBucket_mem hY, clampBucket_mem hX⟩

omit [IsStrictOrderedRing K] [FloorRing K] in
/-- Wrapping leaves the latitudes. -/
theorem wrappedBounds_y {bounds wrapped : GQTBounds K} {offset : K}
    (h : wrappedBounds bounds = some (wrapped, offset)) :
    wrapped.minY = bounds.minY ∧ wrapped.maxY = bounds.maxY := by
  rw [wrappedBounds] at h
  split_ifs at h <;> (cases h; exact ⟨rfl, rfl⟩)

/-- Every point across the antimeridian has its cell, whatever its column is cast to. -/
theorem inArray_wrappedPoints (fp : FloatingPoint K) (hRadius : Drawable radius)
    {wrapped : GQTBounds K} {offset : K}
    (hWrapped : wrappedBounds (tileBounds radius x y zoom) = some (wrapped, offset))
    (h : ∀ item ∈ points, wrapped.contains item.point = true) :
    InArray radius (rowOf fp radius zoom (tileBounds radius x y zoom))
      (wrappedColumnOf fp radius zoom (tileBounds radius x y zoom) offset) points := by
  intro item hItem
  obtain ⟨-, hMinY, hMaxY⟩ := Box.contains_iff.mp (h item hItem)
  obtain ⟨hEqMin, hEqMax⟩ := wrappedBounds_y hWrapped
  have hY : InWindow radius (placeY radius x y zoom item.point.y) :=
    ⟨placeY_nonneg.mpr (hEqMax ▸ hMaxY), placeY_le.mpr (hEqMin ▸ hMinY)⟩
  rw [rowOf_of_inWindow fp hRadius hY]
  refine ⟨clampBucket_mem hY, ?_⟩
  have hLt := clampBucket_lt radius (fp.quotient (item.point.x + offset -
    (tileBounds radius x y zoom).minX) (bucketWidth zoom))
  have hSize := paddedTileSize_pos radius
  simp only [wrappedColumnOf]
  split_ifs with hBefore
  · omega
  · exact ⟨not_lt.mp hBefore, hLt⟩

-- ---------------------------------------------------------------------------
-- What a place gives a pixel
-- ---------------------------------------------------------------------------

variable {expf : K → K} {fp : FloatingPoint K}

/-- The clamp moves only places on the very edge, and these matter only to the
last pixel. -/
theorem smoothing_clampBucket {t : K} (h : InWindow radius t) {pixel : ℤ}
    (hEdge : pixel + 1 < kGMUTileSize ∨ t ≠ paddedTileSize radius) :
    smoothing expf radius (pixel + radius - clampBucket radius (trunc t)) =
      smoothing expf radius (pixel + radius - ⌊t⌋) := by
  have hSize := paddedTileSize_cast radius
  rw [clampBucket, trunc_of_nonneg h.1]
  split_ifs with hClamp
  · have hAtEdge : t = paddedTileSize radius :=
      le_antisymm h.2 (by exact_mod_cast Int.le_floor.mp hClamp)
    have hLast := hEdge.resolve_right (not_not.mpr hAtEdge)
    have hFloor : ⌊t⌋ = paddedTileSize radius := by rw [hAtEdge, Int.floor_natCast]
    rw [smoothing_of_lt, smoothing_of_lt] <;> rw [lt_abs] <;> omega
  · rfl

omit [IsStrictOrderedRing K] in
/-- A place beyond the margins gives no pixel anything. -/
theorem smoothing_outside {t : K} (h : ¬ InWindow radius t) {pixel : ℤ}
    (hPixel : 0 ≤ pixel ∧ pixel < kGMUTileSize) :
    smoothing expf radius (pixel + radius - ⌊t⌋) = 0 := by
  have hSize := paddedTileSize_cast radius
  rcases not_and_or.mp h with hBefore | hBehind
  · have hFloor : ⌊t⌋ < 0 := Int.floor_lt.mpr (by simpa using hBefore)
    rw [smoothing_of_lt]
    rw [lt_abs]
    omega
  · have hFloor : (paddedTileSize radius : ℤ) ≤ ⌊t⌋ :=
      Int.le_floor.mpr (by exact_mod_cast (not_le.mp hBehind).le)
    rw [smoothing_of_lt]
    rw [lt_abs]
    omega

-- ---------------------------------------------------------------------------
-- What all the points give a pixel
-- ---------------------------------------------------------------------------

omit [IsStrictOrderedRing K] [LinearOrder K] [FloorRing K] in
/-- Points that give nothing may be left out. -/
theorem sum_filter {term term' : GMUWeightedLatLng K → K} {found : GMUWeightedLatLng K → Bool}
    {data : List (GMUWeightedLatLng K)}
    (hFound : ∀ item ∈ data, found item = true → term item = term' item)
    (hRest : ∀ item ∈ data, found item = false → term' item = 0) :
    ((data.filter found).map term).sum = (data.map term').sum := by
  induction data with
  | nil => rfl
  | cons item rest ih =>
    have hTail := ih (fun other h => hFound other (List.mem_cons_of_mem _ h))
      fun other h => hRest other (List.mem_cons_of_mem _ h)
    cases hItem : found item with
    | true =>
      rw [List.filter_cons_of_pos hItem, List.map_cons, List.sum_cons, List.map_cons, List.sum_cons,
        hTail, hFound item (List.mem_cons_self ..) hItem]
    | false =>
      rw [List.filter_cons_of_neg (by simp [hItem]), List.map_cons, List.sum_cons, hTail,
        hRest item (List.mem_cons_self ..) hItem, zero_add]

/-- The points shifted by `offset` to the east, unclamped. -/
def shifted (expf : K → K) (radius x y zoom : ℕ) (data : List (GMUWeightedLatLng K)) (offset : K)
    (py px : ℤ) : K :=
  (data.map fun item => item.intensity *
    smoothing expf radius (px + radius - ⌊placeX radius x y zoom (item.point.x + offset)⌋) *
    smoothing expf radius (py + radius - ⌊placeY radius x y zoom item.point.y⌋)).sum

/-- A pixel in front of the last row and column, or no point on the far edge of
the margin. -/
def OffEdge (radius x y zoom : ℕ) (data : List (GMUWeightedLatLng K)) (offset : K) (py px : ℤ) :
    Prop :=
  (px + 1 < kGMUTileSize ∨ ∀ item ∈ data,
      item.point.x + offset ≠ (tileBounds radius x y zoom : GQTBounds K).maxX) ∧
    (py + 1 < kGMUTileSize ∨ ∀ item ∈ data,
      item.point.y ≠ (tileBounds radius x y zoom : GQTBounds K).minY)

omit [FloorRing K] in
/-- Only points on the right bound are placed on the edge. -/
theorem placeX_ne {v : K} (h : v ≠ (tileBounds radius x y zoom : GQTBounds K).maxX) :
    placeX radius x y zoom v ≠ paddedTileSize radius := by
  intro hEq
  rw [placeX, div_eq_iff (bucketWidth_pos zoom).ne', sub_eq_iff_eq_add'] at hEq
  exact h (by rw [hEq, tileBounds_maxX])

omit [FloorRing K] in
/-- Only points on the lower bound are. -/
theorem placeY_ne {v : K} (h : v ≠ (tileBounds radius x y zoom : GQTBounds K).minY) :
    placeY radius x y zoom v ≠ paddedTileSize radius := by
  intro hEq
  rw [placeY, div_eq_iff (bucketWidth_pos zoom).ne', sub_eq_iff_eq_add] at hEq
  exact h (by rw [tileBounds_minY, hEq, add_sub_cancel_left])

variable {data : List (GMUWeightedLatLng K)} {py px : ℤ}

/-- What the points of a tile give a pixel. -/
theorem smoothed_points (hRadius : Drawable radius) (hPy : 0 ≤ py ∧ py < kGMUTileSize)
    (hPx : 0 ≤ px ∧ px < kGMUTileSize) (hEdge : OffEdge radius x y zoom data 0 py px) :
    smoothed expf radius (rowOf fp radius zoom (tileBounds radius x y zoom))
        (columnOf fp radius zoom (tileBounds radius x y zoom))
        (data.filter fun item => (tileBounds radius x y zoom).contains item.point) py px =
      shifted expf radius x y zoom data 0 py px := by
  refine sum_filter (fun item hItem hFound => ?_) fun item hItem hFound => ?_
  · obtain ⟨hX, hY⟩ := tileBounds_contains.mp hFound
    have hEdgeX := hEdge.1.imp_right fun h => placeX_ne (h item hItem)
    rw [add_zero] at hEdgeX ⊢
    rw [columnOf_of_inWindow fp hRadius hX, rowOf_of_inWindow fp hRadius hY,
      smoothing_clampBucket hX hEdgeX,
      smoothing_clampBucket hY (hEdge.2.imp_right fun h => placeY_ne (h item hItem))]
  · rw [← Bool.not_eq_true, tileBounds_contains, not_and_or] at hFound
    rw [add_zero]
    rcases hFound with hX | hY
    · rw [smoothing_outside hX hPx, mul_zero, zero_mul]
    · rw [smoothing_outside hY hPy, mul_zero]

/-- The world is from -1 to 1. -/
def InWorld (data : List (GMUWeightedLatLng K)) : Prop :=
  ∀ item ∈ data, -1 ≤ item.point.x ∧ item.point.x ≤ 1

omit [FloorRing K] in
/-- A point is found across the antimeridian if its shifted place is between the
margins. -/
theorem wrappedBounds_contains {wrapped : GQTBounds K} {offset : K} {item : GMUWeightedLatLng K}
    (hx : x < 2 ^ zoom)
    (hWrapped : wrappedBounds (tileBounds radius x y zoom) = some (wrapped, offset))
    (hWorld : -1 ≤ item.point.x ∧ item.point.x ≤ 1) :
    wrapped.contains item.point = true ↔
      InWindow radius (placeX radius x y zoom (item.point.x + offset)) ∧
        InWindow radius (placeY radius x y zoom item.point.y) := by
  obtain ⟨hMinX, hMaxX⟩ := tileBounds_inWorld (K := K) radius y hx
  rw [Box.contains_iff, InWindow, InWindow, placeX_nonneg, placeX_le, placeY_nonneg, placeY_le,
    and_comm (a := item.point.y ≤ _)]
  rw [wrappedBounds] at hWrapped
  split_ifs at hWrapped with hLeft hRight
  · cases hWrapped
    refine and_congr_left' ?_
    constructor
    · rintro ⟨hLow, -⟩
      constructor <;> linarith
    · rintro ⟨hLow, -⟩
      exact ⟨by simp only; linarith, hWorld.2⟩
  · cases hWrapped
    refine and_congr_left' ?_
    constructor
    · rintro ⟨-, hHigh⟩
      simp only at hHigh
      constructor <;> linarith
    · rintro ⟨-, hHigh⟩
      exact ⟨hWorld.1, by simp only; linarith⟩

/-- What the points across the antimeridian give a pixel. -/
theorem smoothed_wrappedPoints (hRadius : Drawable radius) {wrapped : GQTBounds K} {offset : K}
    (hx : x < 2 ^ zoom)
    (hWrapped : wrappedBounds (tileBounds radius x y zoom) = some (wrapped, offset))
    (hWorld : InWorld data) (hPy : 0 ≤ py ∧ py < kGMUTileSize)
    (hPx : 0 ≤ px ∧ px < kGMUTileSize) (hEdge : OffEdge radius x y zoom data offset py px) :
    smoothed expf radius (rowOf fp radius zoom (tileBounds radius x y zoom))
        (wrappedColumnOf fp radius zoom (tileBounds radius x y zoom) offset)
        (data.filter fun item => wrapped.contains item.point) py px =
      shifted expf radius x y zoom data offset py px := by
  refine sum_filter (fun item hItem hFound => ?_) fun item hItem hFound => ?_
  · obtain ⟨hX, hY⟩ := (wrappedBounds_contains hx hWrapped (hWorld item hItem)).mp hFound
    rw [wrappedColumnOf_of_inWindow fp hRadius hX, rowOf_of_inWindow fp hRadius hY,
      smoothing_clampBucket hX (hEdge.1.imp_right fun h => placeX_ne (h item hItem)),
      smoothing_clampBucket hY (hEdge.2.imp_right fun h => placeY_ne (h item hItem))]
  · rw [← Bool.not_eq_true, wrappedBounds_contains hx hWrapped (hWorld item hItem),
      not_and_or] at hFound
    rcases hFound with hX | hY
    · rw [smoothing_outside hX hPx, mul_zero, zero_mul]
    · rw [smoothing_outside hY hPy, mul_zero]

-- ---------------------------------------------------------------------------
-- The picture
-- ---------------------------------------------------------------------------

/-- The column of a point, in pixels from the left of the world. -/
def globalColumn (zoom : ℕ) (item : GMUWeightedLatLng K) : ℤ :=
  ⌊(item.point.x + 1) / bucketWidth zoom⌋

/-- The row of a point, in pixels from the top of the world. -/
def globalRow (zoom : ℕ) (item : GMUWeightedLatLng K) : ℤ :=
  ⌊(1 - item.point.y) / bucketWidth zoom⌋

/-- The pixels round the world. -/
def worldSize (zoom : ℕ) : ℤ := 2 ^ zoom * kGMUTileSize

/-- What the points give the pixel `(gy, gx)` of the world, whose left and right
edges meet. -/
def density (expf : K → K) (radius zoom : ℕ) (data : List (GMUWeightedLatLng K)) (gy gx : ℤ) : K :=
  (data.map fun item => item.intensity *
    (smoothing expf radius (gx - globalColumn zoom item) +
      smoothing expf radius (gx - globalColumn zoom item - worldSize zoom) +
      smoothing expf radius (gx - globalColumn zoom item + worldSize zoom)) *
    smoothing expf radius (gy - globalRow zoom item)).sum

/-- The column in a tile is that in the world, shifted. -/
theorem floor_placeX (c : ℤ) (item : GMUWeightedLatLng K) :
    ⌊placeX radius x y zoom (item.point.x + 2 * c)⌋ =
      globalColumn zoom item + c * worldSize zoom + (radius - x * kGMUTileSize) := by
  have hShift : (item.point.x + 2 * c + 1) / bucketWidth zoom =
      (item.point.x + 1) / bucketWidth zoom + ((c * worldSize zoom : ℤ) : K) := by
    have hPos := (bucketWidth_pos (K := K) zoom).ne'
    have hWorld := bucketWidth_world (K := K) zoom
    rw [← worldSize] at hWorld
    rw [div_add' _ _ _ hPos, Int.cast_mul]
    congr 1
    linear_combination (c : K) * -hWorld
  rw [placeX_eq, hShift, Int.floor_add_intCast, Int.floor_add_intCast, globalColumn]

/-- The row in a tile is that in the world, shifted. -/
theorem floor_placeY (item : GMUWeightedLatLng K) :
    ⌊placeY radius x y zoom item.point.y⌋ =
      globalRow zoom item + (radius - y * kGMUTileSize) := by
  rw [placeY_eq, Int.floor_add_intCast, globalRow]

/-- A shifted sum in pixels of the world. -/
theorem shifted_eq (c : ℤ) :
    shifted expf radius x y zoom data (2 * c) py px =
      (data.map fun item => item.intensity *
        smoothing expf radius (x * kGMUTileSize + px - globalColumn zoom item -
          c * worldSize zoom) *
        smoothing expf radius (y * kGMUTileSize + py - globalRow zoom item)).sum := by
  refine congrArg List.sum (List.map_congr_left fun item _ => ?_)
  have hX : px + radius - (globalColumn zoom item + c * worldSize zoom +
      (radius - x * kGMUTileSize)) =
      x * kGMUTileSize + px - globalColumn zoom item - c * worldSize zoom := by ring
  have hY : py + radius - (globalRow zoom item + (radius - y * kGMUTileSize)) =
      y * kGMUTileSize + py - globalRow zoom item := by ring
  rw [floor_placeX, floor_placeY, hX, hY]

section Prepared

variable {C : Type} {ui : UIColors C K} {layer : LayerProperties C K}
  {tileData : GMUHeatmapTileCreationData C K}

omit [IsStrictOrderedRing K] in
/-- What a tile finds. -/
theorem findPoints_spec (h : prepare ui fp layer = some tileData) (bounds : GQTBounds K) :
    (findPoints tileData bounds).points.Perm
        (layer.weightedData.filter fun item => bounds.contains item.point) ∧
      ((wrappedBounds bounds = none ∧ (findPoints tileData bounds).wrappedPoints = []) ∨
        ∃ wrapped, wrappedBounds bounds =
            some (wrapped, (findPoints tileData bounds).wrappedPointsOffset) ∧
          (findPoints tileData bounds).wrappedPoints.Perm
            (layer.weightedData.filter fun item => wrapped.contains item.point)) := by
  rw [findPoints, (prepare_fields h).1]
  cases hWrapped : wrappedBounds bounds with
  | none => exact ⟨fillQuadTree_search bounds, Or.inl ⟨rfl, rfl⟩⟩
  | some found =>
    exact ⟨fillQuadTree_search bounds, Or.inr ⟨found.1, rfl, fillQuadTree_search found.1⟩⟩

/-- **No tile reads or writes outside its arrays.** -/
theorem finalIntensity_spec (h : prepare ui fp layer = some tileData)
    (hRadius : Drawable layer.radius) (x y zoom : ℕ) :
    ∃ intensities, finalIntensity fp tileData x y zoom = some intensities ∧
      intensities.length = kGMUTileSize * kGMUTileSize ∧
      ∀ py px : ℤ, 0 ≤ py ∧ py < kGMUTileSize → 0 ≤ px ∧ px < kGMUTileSize →
        readAt intensities (py * kGMUTileSize + px) =
          some (smoothed fp.expf layer.radius
              (rowOf fp layer.radius zoom (tileBounds layer.radius x y zoom))
              (columnOf fp layer.radius zoom (tileBounds layer.radius x y zoom))
              (findPoints tileData (tileBounds layer.radius x y zoom)).points py px +
            smoothed fp.expf layer.radius
              (rowOf fp layer.radius zoom (tileBounds layer.radius x y zoom))
              (wrappedColumnOf fp layer.radius zoom (tileBounds layer.radius x y zoom)
                (findPoints tileData (tileBounds layer.radius x y zoom)).wrappedPointsOffset)
              (findPoints tileData (tileBounds layer.radius x y zoom)).wrappedPoints py px) := by
  obtain ⟨-, hKernel, hData, -⟩ := prepare_fields h
  obtain ⟨hPoints, hWrapped⟩ := findPoints_spec h (tileBounds layer.radius x y zoom)
  have hIn := inArray_points (findPoints tileData (tileBounds layer.radius x y zoom)).points fp
    hRadius fun item hItem => (List.mem_filter.mp (hPoints.mem_iff.mp hItem)).2
  rw [finalIntensity, hKernel, hData]
  refine drawIntensity_spec fp hRadius hIn ?_
  rcases hWrapped with ⟨-, hNone⟩ | ⟨wrapped, hBounds, hPerm⟩
  · rw [hNone]
    exact fun item hItem => absurd hItem List.not_mem_nil
  · exact inArray_wrappedPoints fp hRadius hBounds fun item hItem =>
      (List.mem_filter.mp (hPerm.mem_iff.mp hItem)).2

/-- A pixel of a tile: the points, and those shifted across the antimeridian. -/
theorem finalIntensity_shifted (h : prepare ui fp layer = some tileData)
    (hRadius : Drawable layer.radius) (hx : x < 2 ^ zoom) (hWorld : InWorld layer.weightedData)
    (hPy : 0 ≤ py ∧ py < kGMUTileSize)
    (hPx : 0 ≤ px ∧ px < kGMUTileSize)
    (hEdge : ∀ c : ℤ, OffEdge layer.radius x y zoom layer.weightedData (2 * c) py px) :
    ∃ intensities, finalIntensity fp tileData x y zoom = some intensities ∧
      readAt intensities (py * kGMUTileSize + px) =
        some (shifted fp.expf layer.radius x y zoom layer.weightedData (2 * (0 : ℤ)) py px +
          if x * kGMUTileSize < layer.radius then
            shifted fp.expf layer.radius x y zoom layer.weightedData (2 * (-1 : ℤ)) py px
          else if 2 ^ zoom * kGMUTileSize < (x + 1) * kGMUTileSize + layer.radius then
            shifted fp.expf layer.radius x y zoom layer.weightedData (2 * (1 : ℤ)) py px
          else 0) := by
  obtain ⟨intensities, hRun, -, hRead⟩ := finalIntensity_spec h hRadius x y zoom
  obtain ⟨hPoints, hWrapped⟩ := findPoints_spec h (tileBounds layer.radius x y zoom)
  refine ⟨intensities, hRun, ?_⟩
  rw [hRead py px hPy hPx, smoothed_perm hPoints]
  have hOwn : OffEdge layer.radius x y zoom layer.weightedData 0 py px := by simpa using hEdge 0
  have hShifted : ∀ (c : ℤ) wrapped,
      wrappedBounds (tileBounds layer.radius x y zoom) = some (wrapped, 2 * (c : K)) →
      smoothed fp.expf layer.radius (rowOf fp layer.radius zoom (tileBounds layer.radius x y zoom))
          (wrappedColumnOf fp layer.radius zoom (tileBounds layer.radius x y zoom)
            (findPoints tileData (tileBounds layer.radius x y zoom)).wrappedPointsOffset)
          (findPoints tileData (tileBounds layer.radius x y zoom)).wrappedPoints py px =
        shifted fp.expf layer.radius x y zoom layer.weightedData (2 * (c : K)) py px := by
    intro c wrapped hBounds
    rcases hWrapped with ⟨hNone, -⟩ | ⟨wrapped', hSome, hPerm⟩
    · rw [hBounds] at hNone
      cases hNone
    · rw [hBounds] at hSome
      obtain ⟨rfl, hOffset⟩ := Prod.mk.inj (Option.some.inj hSome)
      rw [← hOffset, smoothed_perm hPerm, smoothed_wrappedPoints hRadius hx
        hBounds hWorld hPy hPx (hEdge c)]
  rw [smoothed_points hRadius hPy hPx hOwn]
  refine congrArg some (congrArg₂ _ (by simp) ?_)
  split_ifs with hLeft hRight
  · obtain ⟨wrapped, hBounds⟩ := wrappedBounds_left (K := K) y zoom hLeft
    exact hShifted (-1) wrapped hBounds
  · obtain ⟨wrapped, hBounds⟩ := wrappedBounds_right (K := K) (y := y) hLeft hRight
    exact hShifted 1 wrapped hBounds
  · have hNone := wrappedBounds_none (K := K) (y := y) hLeft hRight
    rcases hWrapped with ⟨-, hEmpty⟩ | ⟨wrapped', hSome, -⟩
    · rw [hEmpty]
      rfl
    · rw [hNone] at hSome
      cases hSome

variable (zoom) in
/-- The columns of points of the world go round it. -/
theorem globalColumn_mem {item : GMUWeightedLatLng K}
    (h : -1 ≤ item.point.x ∧ item.point.x ≤ 1) :
    0 ≤ globalColumn zoom item ∧ globalColumn zoom item ≤ worldSize zoom := by
  have hPos := bucketWidth_pos (K := K) zoom
  constructor
  · exact Int.floor_nonneg.mpr (div_nonneg (by linarith) hPos.le)
  · have hPlace : (item.point.x + 1) / bucketWidth zoom ≤ ((worldSize zoom : ℤ) : K) := by
      rw [div_le_iff₀ hPos, mul_comm, worldSize, bucketWidth_world]
      linarith
    exact_mod_cast (Int.floor_le _).trans hPlace

variable (expf) in
/-- Round the world there is no way from a point to a pixel both ways. -/
theorem smoothing_round (item : GMUWeightedLatLng K) (hZoom : 1 ≤ zoom) (hx : x < 2 ^ zoom)
    (hRadius : 0 < radius ∧ radius < kGMUTileSize)
    (hItem : -1 ≤ item.point.x ∧ item.point.x ≤ 1) (hPx : 0 ≤ px ∧ px < kGMUTileSize) :
    (x * kGMUTileSize < radius ∨
        ¬ 2 ^ zoom * kGMUTileSize < (x + 1) * kGMUTileSize + radius →
      smoothing expf radius (x * kGMUTileSize + px - globalColumn zoom item - worldSize zoom) = 0) ∧
    (¬ x * kGMUTileSize < radius →
      smoothing expf radius (x * kGMUTileSize + px - globalColumn zoom item + worldSize zoom) =
        0) := by
  obtain ⟨hLeft, hRight⟩ := globalColumn_mem zoom hItem
  have hWorld : worldSize zoom = ((2 ^ zoom * kGMUTileSize : ℕ) : ℤ) := by
    rw [worldSize]
    push_cast
    rfl
  have hTwo : 2 * kGMUTileSize ≤ 2 ^ zoom * kGMUTileSize :=
    Nat.mul_le_mul_right _ (by simpa using Nat.pow_le_pow_right two_pos hZoom)
  have hRow : x * kGMUTileSize + kGMUTileSize ≤ 2 ^ zoom * kGMUTileSize := by
    rw [← Nat.succ_mul]
    exact Nat.mul_le_mul_right _ hx
  have hFirst : x = 0 ∨ kGMUTileSize ≤ x * kGMUTileSize :=
    (Nat.eq_zero_or_pos x).imp_right (Nat.le_mul_of_pos_left _)
  rw [hWorld] at hRight
  have hCast : (x : ℤ) * kGMUTileSize = ((x * kGMUTileSize : ℕ) : ℤ) := by push_cast; rfl
  rw [hWorld, hCast, Nat.add_one_mul]
  generalize 2 ^ zoom * kGMUTileSize = world at hRight hTwo hRow ⊢
  constructor
  · intro h
    refine smoothing_of_lt ?_
    rw [lt_abs]
    rcases hFirst with rfl | hFirst <;> omega
  · intro h
    refine smoothing_of_lt ?_
    rw [lt_abs]
    rcases hFirst with rfl | hFirst <;> omega

omit [LinearOrder K] [IsStrictOrderedRing K] [FloorRing K] in
/-- Radii below the size of a tile can be drawn. -/
theorem drawable_of_lt (h : 0 < radius ∧ radius < kGMUTileSize) : Drawable radius :=
  ⟨h.1, h.2.le.trans (by decide)⟩

/-- **The tiles of a zoom are one picture.** Tiles smoothed over less than their
size give each pixel the density of its place in the world. -/
theorem tile_density (h : prepare ui fp layer = some tileData)
    (hRadius : 0 < layer.radius ∧ layer.radius < kGMUTileSize) (hZoom : 1 ≤ zoom)
    (hx : x < 2 ^ zoom) (hWorld : InWorld layer.weightedData)
    (hPy : 0 ≤ py ∧ py < kGMUTileSize) (hPx : 0 ≤ px ∧ px < kGMUTileSize)
    (hEdge : ∀ c : ℤ, OffEdge layer.radius x y zoom layer.weightedData (2 * c) py px) :
    ∃ intensities, finalIntensity fp tileData x y zoom = some intensities ∧
      readAt intensities (py * kGMUTileSize + px) =
        some (density fp.expf layer.radius zoom layer.weightedData (y * kGMUTileSize + py)
          (x * kGMUTileSize + px)) := by
  obtain ⟨intensities, hRun, hRead⟩ :=
    finalIntensity_shifted h (drawable_of_lt hRadius) hx hWorld hPy hPx hEdge
  refine ⟨intensities, hRun, hRead.trans (congrArg some ?_)⟩
  have hRound := fun item hItem =>
    smoothing_round fp.expf item hZoom hx hRadius (hWorld item hItem) hPx
  rw [density]
  split_ifs with hLeft hRight
  · rw [shifted_eq, shifted_eq, ← List.sum_map_add]
    refine congrArg List.sum (List.map_congr_left fun item hItem => ?_)
    rw [(hRound item hItem).1 (Or.inl hLeft), add_zero, zero_mul, sub_zero, neg_one_mul,
      sub_neg_eq_add]
    ring
  · rw [shifted_eq, shifted_eq, ← List.sum_map_add]
    refine congrArg List.sum (List.map_congr_left fun item hItem => ?_)
    rw [(hRound item hItem).2 hLeft, add_zero, zero_mul, sub_zero, one_mul]
    ring
  · rw [shifted_eq, add_zero]
    refine congrArg List.sum (List.map_congr_left fun item hItem => ?_)
    rw [(hRound item hItem).1 (Or.inr hRight), (hRound item hItem).2 hLeft, add_zero, add_zero,
      zero_mul, sub_zero]

end Prepared

theorem tile_density_onePoint :
    ∃ data, prepare GMUGradient.ownComponents .exp .onePoint = some data ∧
      ∃ intensities, finalIntensity .exp data 1 0 1 = some intensities ∧
        readAt intensities (3 * kGMUTileSize + 5) =
          some (density Real.exp 80 1 [⟨7, ⟨0.25, 0.75⟩⟩] 3 (kGMUTileSize + 5)) := by
  obtain ⟨data, hData⟩ := exists_prepare (.onePoint (K := ℝ)) GMUGradient.ownComponents .exp
    (by decide)
  have hWorld : InWorld (LayerProperties.onePoint (K := ℝ)).weightedData := by
    intro item hItem
    rw [List.mem_singleton.mp hItem]
    constructor <;> norm_num
  have hDensity := tile_density (x := 1) (y := 0) hData (by decide) (le_refl 1) (by decide) hWorld
    (by decide : (0 : ℤ) ≤ 3 ∧ (3 : ℤ) < kGMUTileSize)
    (by decide : (0 : ℤ) ≤ 5 ∧ (5 : ℤ) < kGMUTileSize)
    fun c => ⟨Or.inl (by decide), Or.inl (by decide)⟩
  refine ⟨data, hData, ?_⟩
  simpa [LayerProperties.onePoint, FloatingPoint.exp_expf] using hDensity

end PriceMap.Tiles
