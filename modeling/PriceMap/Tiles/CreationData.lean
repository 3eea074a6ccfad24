import PriceMap.Backend.Brackets
import PriceMap.Lib.Arrays
import PriceMap.Lib.Tallies
import PriceMap.Tiles.Gradient
import PriceMap.Tiles.QuadTree

/-!
# Heatmap tiles — what tiles are created from

`prepare` of `GMUHeatmapTileLayer`: from the properties of the layer it builds
the data its tiles are drawn from, a quad tree of the points, the colours, the
greatest intensity to expect at each zoom, and the kernel of the smoothing.
`double` and `float` values are taken exactly. `expf` is a parameter, and so is
what a cast makes of a number that is no `int`. Radii fit an `int`.

* `fillQuadTree_search` — no point is lost: the bounds of the tree are those of
  the data.
* `calculateIntensities_greatest` — an entry for each zoom, the greatest weight of
  a bucket, and an exception exactly if the zoom limits are the wrong way round;
  the entries decrease as far as the casts to buckets are in range.
-/

namespace PriceMap.Tiles

open Lib

universe u

def kGMUTileSize : ℕ := 512

def kGMUMaxZoom : ℕ := 22

-- ---------------------------------------------------------------------------
-- Casts
-- ---------------------------------------------------------------------------

/-- What is left to the platform: `expf`, and `(int)(dividend / divisor)` where the
quotient is no number or out of the range of an `int`. -/
structure FloatingPoint (K : Type u) where
  expf : K → K
  outOfRange (dividend divisor : K) : ℤ

/-- The range of an `int`. -/
def FitsInt (i : ℤ) : Prop := -2 ^ 31 ≤ i ∧ i < 2 ^ 31

instance (i : ℤ) : Decidable (FitsInt i) := inferInstanceAs (Decidable (_ ∧ _))

/-- Half an `int` is one. -/
theorem FitsInt.tdiv_two {i : ℤ} (h : FitsInt i) : FitsInt (i.tdiv 2) := by
  rw [FitsInt] at *
  have hHalf : (i.tdiv 2).natAbs = i.natAbs / 2 := Int.natAbs_tdiv i 2
  omega

section Casts

variable {K : Type u} [Field K] [LinearOrder K] [FloorRing K] (fp : FloatingPoint K)

/-- `(int)(dividend / divisor)` -/
def FloatingPoint.quotient (dividend divisor : K) : ℤ :=
  if divisor ≠ 0 ∧ FitsInt (trunc (dividend / divisor)) then trunc (dividend / divisor)
  else fp.outOfRange dividend divisor

/-- In the range of an `int` a cast rounds toward zero. -/
theorem FloatingPoint.quotient_of_fits {dividend divisor : K} (hDivisor : divisor ≠ 0)
    (hFits : FitsInt (trunc (dividend / divisor))) :
    fp.quotient dividend divisor = trunc (dividend / divisor) :=
  if_pos ⟨hDivisor, hFits⟩

end Casts

/-- Casts out of the range give the least `int`. -/
noncomputable def FloatingPoint.exp : FloatingPoint ℝ where
  expf := Real.exp
  outOfRange _ _ := -2 ^ 31

theorem FloatingPoint.exp_expf : FloatingPoint.exp.expf = Real.exp := rfl

structure GMUWeightedLatLng (K : Type u) where
  intensity : K
  /-- `_point` -/
  point : GQTPoint K
  deriving DecidableEq, Repr

/-- `initWithCoordinate:intensity:`; `GMSProject` is the projection of the map SDK. -/
def GMUWeightedLatLng.initWithCoordinate {K : Type u} {Coordinate : Type*}
    (GMSProject : Coordinate → GQTPoint K) (coordinate : Coordinate) (intensity : K) :
    GMUWeightedLatLng K :=
  { intensity := intensity, point := GMSProject coordinate }

/-- The Mercator projection of the maps SDK. -/
noncomputable def GMSProject (latitude longitude : ℝ) : GQTPoint ℝ where
  x := Backend.toRadians longitude / Real.pi
  y := Real.arsinh (Real.tan (Backend.toRadians latitude)) / Real.pi

/-- The properties that a layer is configured with. -/
structure LayerProperties (C K : Type u) [LinearOrder K] [Zero K] [One K] where
  weightedData : List (GMUWeightedLatLng K)
  radius : ℕ
  gradient : GMUGradient C K
  minimumZoomIntensity : ℕ
  maximumZoomIntensity : ℕ

/-- "Holder for data which must be consistent when accessed from tile creation
threads." -/
structure GMUHeatmapTileCreationData (C K : Type u) where
  quadTree : GQTPointQuadTree (GMUWeightedLatLng K) K
  bounds : GQTBounds K
  radius : ℕ
  colorMap : List C
  maxIntensities : List K
  /-- `none` is NaN. -/
  kernel : List (Option K)

-- ---------------------------------------------------------------------------
-- Bounds
-- ---------------------------------------------------------------------------

section Bounds

variable {K : Type u} [LinearOrder K] [Zero K]

/-- One round of the loop of `calculateBounds`. -/
def extendBounds (result : GQTBounds K) (dataPoint : GMUWeightedLatLng K) : GQTBounds K :=
  let point := dataPoint.point
  { minX := if point.x < result.minX then point.x else result.minX
    maxX := if result.maxX < point.x then point.x else result.maxX
    minY := if point.y < result.minY then point.y else result.minY
    maxY := if result.maxY < point.y then point.y else result.maxY }

def calculateBounds : List (GMUWeightedLatLng K) → GQTBounds K
  | [] => { minX := 0, minY := 0, maxX := 0, maxY := 0 }
  | first :: rest =>
    rest.foldl extendBounds
      { minX := first.point.x, minY := first.point.y
        maxX := first.point.x, maxY := first.point.y }

omit [Zero K] in
/-- A round of the loop extends the box by the point. -/
theorem extendBounds_eq (result : GQTBounds K) (dataPoint : GMUWeightedLatLng K) :
    extendBounds result dataPoint = result.extend dataPoint.point := by
  rw [extendBounds, Box.extend, min_comm result.minX, min_comm result.minY, min_def_lt, min_def_lt,
    max_def_lt, max_def_lt]

/-- The bounds of the data have every point of it. -/
theorem calculateBounds_contains {weightedData : List (GMUWeightedLatLng K)}
    {dataPoint : GMUWeightedLatLng K} (h : dataPoint ∈ weightedData) :
    (calculateBounds weightedData).contains dataPoint.point = true := by
  cases weightedData with
  | nil => exact absurd h List.not_mem_nil
  | cons first rest =>
    have hHull : calculateBounds (first :: rest) =
        Box.hull first.point (rest.map GMUWeightedLatLng.point) := by
      rw [calculateBounds, Box.hull, List.foldl_map]
      congr 1
      funext result dataPoint
      exact extendBounds_eq result dataPoint
    rw [hHull]
    exact Box.contains_hull (List.mem_map_of_mem (f := GMUWeightedLatLng.point) h)

end Bounds

-- ---------------------------------------------------------------------------
-- The greatest intensity at a zoom
-- ---------------------------------------------------------------------------

section Intensities

variable {K : Type u} [Field K] [LinearOrder K] [FloorRing K]

def magicalFactor : K := 0.5

def bucketSize (radius zoom : ℕ) : K := radius / 128 / (2 ^ zoom : ℕ) * magicalFactor

variable (fp : FloatingPoint K)

def xBucket (radius zoom : ℕ) (dataPoint : GMUWeightedLatLng K) : ℤ :=
  fp.quotient (dataPoint.point.x + 1) (bucketSize radius zoom)

def yBucket (radius zoom : ℕ) (dataPoint : GMUWeightedLatLng K) : ℤ :=
  fp.quotient (dataPoint.point.y + 1) (bucketSize radius zoom)

/-- `lookupX`: for each `xBucket` the dictionary `lookupY` from `yBucket` to values. -/
abbrev Lookup (K : Type u) := ℤ → Option (ℤ → Option K)

/-- One round of the loop of `maxValueForZoom:`. -/
def maxValueStep (radius zoom : ℕ) (state : Lookup K × K) (dataPoint : GMUWeightedLatLng K) :
    Lookup K × K :=
  let (lookupX, max) := state
  let x := xBucket fp radius zoom dataPoint
  let y := yBucket fp radius zoom dataPoint
  let lookupY := (lookupX x).getD fun _ => none
  let newValue := (lookupY y).getD 0 + dataPoint.intensity
  (Function.update lookupX x (some (Function.update lookupY y (some newValue))),
    if max < newValue then newValue else max)

def maxValueForZoom (radius : ℕ) (weightedData : List (GMUWeightedLatLng K)) (zoom : ℕ) : K :=
  (weightedData.foldl (maxValueStep fp radius zoom) (fun _ => none, 0)).2

/-- The bucket of a point at a zoom. -/
def bucket (radius zoom : ℕ) (dataPoint : GMUWeightedLatLng K) : ℤ × ℤ :=
  (xBucket fp radius zoom dataPoint, yBucket fp radius zoom dataPoint)

/-- The weight in a bucket. -/
def bucketWeight (radius zoom : ℕ) (weightedData : List (GMUWeightedLatLng K)) (b : ℤ × ℤ) : K :=
  total (bucket fp radius zoom) GMUWeightedLatLng.intensity weightedData b

/-- Both levels of the dictionary at once. -/
def Lookup.flat (lookupX : Lookup K) (b : ℤ × ℤ) : Option K :=
  ((lookupX b.1).getD fun _ => none) b.2

variable {fp} {radius zoom : ℕ} {weightedData : List (GMUWeightedLatLng K)}

/-- The dictionaries of a round are the tally of a library of sums. -/
theorem maxValueStep_flat (state : Lookup K × K) (dataPoint : GMUWeightedLatLng K) :
    ((maxValueStep fp radius zoom state dataPoint).1.flat,
        (maxValueStep fp radius zoom state dataPoint).2) =
      tallyStep (bucket fp radius zoom) GMUWeightedLatLng.intensity (state.1.flat, state.2)
        dataPoint := by
  refine Prod.ext ?_ rfl
  funext b
  obtain ⟨x, y⟩ := b
  by_cases hx : x = xBucket fp radius zoom dataPoint
  · subst hx
    by_cases hy : y = yBucket fp radius zoom dataPoint
    · subst hy
      simp [maxValueStep, tallyStep, Lookup.flat, bucket]
    · have hKey : (xBucket fp radius zoom dataPoint, y) ≠ bucket fp radius zoom dataPoint := by
        simp [bucket, hy]
      simp [maxValueStep, tallyStep, Lookup.flat, Function.update_of_ne hKey,
        Function.update_of_ne hy]
  · have hKey : (x, y) ≠ bucket fp radius zoom dataPoint := by simp [bucket, hx]
    simp [maxValueStep, tallyStep, Lookup.flat, Function.update_of_ne hKey,
      Function.update_of_ne hx]

/-- The dictionaries keep a tally of the buckets. -/
theorem maxValueForZoom_eq :
    maxValueForZoom fp radius weightedData zoom =
      (tally (bucket fp radius zoom) GMUWeightedLatLng.intensity weightedData).2 := by
  have hFold : ∀ state : Lookup K × K,
      ((weightedData.foldl (maxValueStep fp radius zoom) state).1.flat,
          (weightedData.foldl (maxValueStep fp radius zoom) state).2) =
        weightedData.foldl (tallyStep (bucket fp radius zoom) GMUWeightedLatLng.intensity)
          (state.1.flat, state.2) := by
    induction weightedData with
    | nil => exact fun state => rfl
    | cons dataPoint rest ih =>
      intro state
      rw [List.foldl_cons, List.foldl_cons, ih, maxValueStep_flat]
  exact congrArg Prod.snd (hFold (fun _ => none, 0))

variable [IsStrictOrderedRing K]

variable (fp radius zoom) in
/-- **The greatest weight of a bucket.** -/
theorem maxValueForZoom_isGreatest
    (hWeight : ∀ dataPoint ∈ weightedData, 0 ≤ dataPoint.intensity) :
    IsGreatest (Set.range (bucketWeight fp radius zoom weightedData))
      (maxValueForZoom fp radius weightedData zoom) := by
  rw [maxValueForZoom_eq]
  exact tally_isGreatest hWeight

variable (fp radius zoom) in
/-- No point weighs more than its bucket. -/
theorem intensity_le_maxValueForZoom
    (hWeight : ∀ dataPoint ∈ weightedData, 0 ≤ dataPoint.intensity)
    {dataPoint : GMUWeightedLatLng K} (h : dataPoint ∈ weightedData) :
    dataPoint.intensity ≤ maxValueForZoom fp radius weightedData zoom := by
  refine le_trans ?_ ((maxValueForZoom_isGreatest fp radius zoom hWeight).2
    ⟨bucket fp radius zoom dataPoint, rfl⟩)
  exact weight_le_total hWeight h

/-- The casts of all points to buckets at a zoom are in the range of an `int`. -/
def BucketsFit (radius zoom : ℕ) (weightedData : List (GMUWeightedLatLng K)) : Prop :=
  ∀ dataPoint ∈ weightedData,
    FitsInt (trunc ((dataPoint.point.x + 1) / bucketSize radius zoom)) ∧
      FitsInt (trunc ((dataPoint.point.y + 1) / bucketSize radius zoom))

variable (zoom) in
/-- Buckets have a width. -/
theorem bucketSize_pos (hRadius : 0 < radius) : 0 < (bucketSize radius zoom : K) := by
  rw [bucketSize, magicalFactor]
  positivity

omit [FloorRing K] in
/-- Zooming in, the buckets are halved. -/
theorem div_bucketSize_succ (v : K) :
    v / bucketSize radius (zoom + 1) = 2 * (v / bucketSize radius zoom) := by
  rw [bucketSize, bucketSize, pow_succ, Nat.cast_mul, Nat.cast_ofNat]
  field_simp

/-- What is in range at a zoom was so at the one before. -/
theorem BucketsFit.of_succ (h : BucketsFit radius (zoom + 1) weightedData) :
    BucketsFit radius zoom weightedData := by
  intro dataPoint hData
  have hFits := h dataPoint hData
  rw [div_bucketSize_succ, div_bucketSize_succ] at hFits
  have hX := hFits.1.tdiv_two
  have hY := hFits.2.tdiv_two
  rw [trunc_halve] at hX hY
  exact ⟨hX, hY⟩

/-- What is in range at a zoom was so at those before. -/
theorem BucketsFit.of_le {zoom' : ℕ} (hZoom : zoom ≤ zoom')
    (h : BucketsFit radius zoom' weightedData) : BucketsFit radius zoom weightedData := by
  induction hZoom with
  | refl => exact h
  | step _ ih => exact ih h.of_succ

/-- Points of the world are in range up to the zoom where an `int` cannot number
the buckets. -/
theorem bucketsFit_of_world (hRadius : 0 < radius) (hZoom : 2 ^ zoom < 2 ^ 22 * radius)
    (hWorld : ∀ dataPoint ∈ weightedData, (-1 ≤ dataPoint.point.x ∧ dataPoint.point.x ≤ 1) ∧
      -1 ≤ dataPoint.point.y ∧ dataPoint.point.y ≤ 1) :
    BucketsFit radius zoom weightedData := by
  have hSize := bucketSize_pos (K := K) zoom hRadius
  have hFits : ∀ v : K, -1 ≤ v ∧ v ≤ 1 → FitsInt (trunc ((v + 1) / bucketSize radius zoom)) := by
    intro v hv
    have hNonneg : 0 ≤ (v + 1) / bucketSize radius zoom := div_nonneg (by linarith) hSize.le
    have hNumber : 1 < ((2 ^ 22 * radius : ℕ) : K) / (2 ^ zoom : ℕ) := by
      rw [one_lt_div (by positivity)]
      exact_mod_cast hZoom
    have hWorldSize : ((2 ^ 31 : ℤ) : K) * bucketSize radius zoom =
        2 * (((2 ^ 22 * radius : ℕ) : K) / (2 ^ zoom : ℕ)) := by
      rw [bucketSize, magicalFactor]
      push_cast
      ring
    have hLt : (v + 1) / bucketSize radius zoom < ((2 ^ 31 : ℤ) : K) := by
      rw [div_lt_iff₀ hSize, hWorldSize]
      linarith
    rw [trunc_of_nonneg hNonneg]
    exact ⟨by have := Int.floor_nonneg.mpr hNonneg; omega, Int.floor_lt.mpr hLt⟩
  exact fun dataPoint hData =>
    ⟨hFits _ (hWorld dataPoint hData).1, hFits _ (hWorld dataPoint hData).2⟩

/-- A bucket of the next zoom lies in one of this. -/
theorem bucket_succ (hRadius : 0 < radius) (hFits : BucketsFit radius (zoom + 1) weightedData)
    {dataPoint : GMUWeightedLatLng K} (h : dataPoint ∈ weightedData) :
    bucket fp radius zoom dataPoint =
      ((bucket fp radius (zoom + 1) dataPoint).1.tdiv 2,
        (bucket fp radius (zoom + 1) dataPoint).2.tdiv 2) := by
  have hSize := (bucketSize_pos (K := K) zoom hRadius).ne'
  have hSize' := (bucketSize_pos (K := K) (zoom + 1) hRadius).ne'
  obtain ⟨hX, hY⟩ := hFits.of_succ dataPoint h
  obtain ⟨hX', hY'⟩ := hFits dataPoint h
  simp only [bucket, xBucket, yBucket, fp.quotient_of_fits hSize hX, fp.quotient_of_fits hSize hY,
    fp.quotient_of_fits hSize' hX', fp.quotient_of_fits hSize' hY', div_bucketSize_succ,
    trunc_halve]

/-- One zoom further in, no bucket gets heavier. -/
theorem maxValueForZoom_succ_le (hRadius : 0 < radius)
    (hFits : BucketsFit radius (zoom + 1) weightedData)
    (hWeight : ∀ dataPoint ∈ weightedData, 0 ≤ dataPoint.intensity) :
    maxValueForZoom fp radius weightedData (zoom + 1) ≤
      maxValueForZoom fp radius weightedData zoom := by
  obtain ⟨b, hb⟩ := (maxValueForZoom_isGreatest fp radius (zoom + 1) hWeight).1
  rw [← hb]
  refine le_trans ?_ ((maxValueForZoom_isGreatest fp radius zoom hWeight).2
    ⟨(b.1.tdiv 2, b.2.tdiv 2), rfl⟩)
  exact total_le_total hWeight (fun b => (b.1.tdiv 2, b.2.tdiv 2))
    (fun _ hData => bucket_succ hRadius hFits hData) b

/-- **Zooming in**, the greatest weight of a bucket gets no greater, as far as
the buckets are in range. -/
theorem maxValueForZoom_le (hRadius : 0 < radius)
    (hWeight : ∀ dataPoint ∈ weightedData, 0 ≤ dataPoint.intensity) {zoom' : ℕ}
    (hZoom : zoom ≤ zoom') (hFits : BucketsFit radius zoom' weightedData) :
    maxValueForZoom fp radius weightedData zoom' ≤ maxValueForZoom fp radius weightedData zoom := by
  induction hZoom with
  | refl => exact le_rfl
  | step _ ih => exact (maxValueForZoom_succ_le hRadius hFits hWeight).trans (ih hFits.of_succ)

end Intensities

-- ---------------------------------------------------------------------------
-- Preparing
-- ---------------------------------------------------------------------------

section Prepare

variable {C K : Type u} [Field K] [LinearOrder K] [FloorRing K]

/-- `calculateIntensities`; reading or writing an array past its end raises. -/
def calculateIntensities (fp : FloatingPoint K) (layer : LayerProperties C K) :
    Option (List K) := do
  let low := layer.minimumZoomIntensity
  let high := layer.maximumZoomIntensity
  let intensities ← (List.range' 0 low).foldlM (fun xs i => do setAt xs i (← some 0)) []
  let intensities ← (List.range' low (high + 1 - low)).foldlM
    (fun xs i => do setAt xs i (← some (maxValueForZoom fp layer.radius layer.weightedData i)))
    intensities
  let intensities ← (List.range low).foldlM (fun xs i => do setAt xs i (← xs[low]?)) intensities
  (List.range' (high + 1) (kGMUMaxZoom - (high + 1))).foldlM
    (fun xs i => do setAt xs i (← xs[high]?)) intensities

/-- The zoom whose intensities a zoom is drawn with. -/
def LayerProperties.clampZoom (layer : LayerProperties C K) (zoom : ℕ) : ℕ :=
  max layer.minimumZoomIntensity (min zoom layer.maximumZoomIntensity)

def sd (radius : ℕ) : K := radius / 3.0

/-- `expf(-i * i / (2 * sd * sd))` -/
def bell (expf : K → K) (radius : ℕ) (i : ℤ) : K :=
  expf ((-i * i : ℤ) / ((2 : ℕ) * sd radius * sd radius))

/-- The kernel at the distance `i` from its centre; a radius of 0 makes it
`expf(0 / 0)`, and a square that is no `int` may make anything of it. -/
def kernelValue (expf : K → K) (radius : ℕ) (i : ℤ) : Option K :=
  if radius = 0 ∨ ¬ FitsInt (-i * i) then none else some (bell expf radius i)

/-- `generateKernel`: entry `i + radius` is the value at distance `i`. -/
def generateKernel (expf : K → K) (radius : ℕ) : List (Option K) :=
  (Int.range (-radius) (radius + 1)).map (kernelValue expf radius)

/-- The midpoint of a side of a quad. -/
def halfway (a b : K) : K := (a + b) / (2 : ℕ)

def fillQuadTree (weightedData : List (GMUWeightedLatLng K)) :
    GQTPointQuadTree (GMUWeightedLatLng K) K :=
  weightedData.foldl
    (fun tree dataPoint => (tree.add halfway GMUWeightedLatLng.point (some dataPoint)).2)
    (.initWithBounds (calculateBounds weightedData))

/-- The data that `prepare` creates; `none` if it raises. -/
def prepare (ui : UIColors C K) (fp : FloatingPoint K) (layer : LayerProperties C K) :
    Option (GMUHeatmapTileCreationData C K) := do
  let colorMap ← layer.gradient.generateColorMap ui
  let maxIntensities ← calculateIntensities fp layer
  some
    { bounds := calculateBounds layer.weightedData
      quadTree := fillQuadTree layer.weightedData
      colorMap, maxIntensities
      kernel := generateKernel fp.expf layer.radius
      radius := layer.radius }

variable {fp : FloatingPoint K} {layer : LayerProperties C K}
  {weightedData : List (GMUWeightedLatLng K)}

variable (weightedData) in
omit [FloorRing K] in
/-- The tree holds all the data. -/
theorem fillQuadTree_holds :
    GQTPointQuadTree.Holds halfway GMUWeightedLatLng.point (calculateBounds weightedData)
      (fillQuadTree weightedData) weightedData := by
  have hEmpty : GQTPointQuadTree.Holds halfway GMUWeightedLatLng.point
      (calculateBounds weightedData) _ 0 := .init
  have hAll := hEmpty.foldl_add fun dataPoint h => calculateBounds_contains h
  rwa [add_zero] at hAll

omit [FloorRing K] in
/-- **No point is lost**: a search finds every point of its bounds. -/
theorem fillQuadTree_search (searchBounds : GQTBounds K) :
    ((fillQuadTree weightedData).searchWithBounds halfway GMUWeightedLatLng.point searchBounds).Perm
      (weightedData.filter fun dataPoint => searchBounds.contains dataPoint.point) :=
  (fillQuadTree_holds weightedData).search_perm searchBounds

/-- The third loop reads an entry that the second has not written. -/
theorem calculateIntensities_of_lt (h : layer.maximumZoomIntensity < layer.minimumZoomIntensity) :
    calculateIntensities fp layer = none := by
  have hHolders := foldlM_setAt (fun _ _ => some (0 : K)) (fun _ => 0)
    layer.minimumZoomIntensity [] fun _ _ _ => rfl
  obtain ⟨n, hn⟩ := Nat.exists_eq_succ_of_ne_zero (Nat.ne_zero_of_lt h)
  have hNone : layer.maximumZoomIntensity + 1 - layer.minimumZoomIntensity = 0 := by omega
  simp only [calculateIntensities, hNone, List.range'_zero, List.foldlM_nil]
  rw [List.length_nil, List.nil_append] at hHolders
  rw [hHolders]
  simp [hn, List.range_succ_eq_map]

omit [Field K] [LinearOrder K] [FloorRing K] in
/-- What the loops write below, between and above the limits. -/
theorem range_clamp (f : ℕ → K) {low high : ℕ} (h : low ≤ high) (k : ℕ) :
    (List.replicate low (f low) ++ (List.range' low (high + 1 - low)).map f) ++
        (List.range' (high + 1) k).map (fun _ => f high) =
      (List.range (high + 1 + k)).map fun i => f (max low (min i high)) := by
  refine List.ext_getElem (by simp; omega) fun i hi hi' => ?_
  rw [List.getElem_map, List.getElem_range, List.getElem_append]
  split_ifs with hAbove
  · rw [List.getElem_append]
    split_ifs with hBelow
    · rw [List.length_replicate] at hBelow
      rw [List.getElem_replicate, min_eq_left (by omega), max_eq_left hBelow.le]
    · rw [List.length_append, List.length_replicate] at hAbove
      simp at hAbove hBelow ⊢
      congr 1
      omega
  · simp at hAbove ⊢
    congr 1
    omega

/-- With the limits the right way round the loops fill the array. -/
theorem calculateIntensities_of_le (h : layer.minimumZoomIntensity ≤ layer.maximumZoomIntensity) :
    calculateIntensities fp layer =
      some ((List.range (max kGMUMaxZoom (layer.maximumZoomIntensity + 1))).map fun zoom =>
        maxValueForZoom fp layer.radius layer.weightedData (layer.clampZoom zoom)) := by
  simp only [calculateIntensities, LayerProperties.clampZoom]
  generalize layer.minimumZoomIntensity = low at h ⊢
  generalize layer.maximumZoomIntensity = high at h ⊢
  generalize maxValueForZoom fp layer.radius layer.weightedData = f
  -- the place holders
  have hHolders := foldlM_setAt (fun _ _ => some (0 : K)) (fun _ => 0)
    low [] fun _ _ _ => rfl
  rw [List.length_nil, List.nil_append] at hHolders
  generalize hHoldersEq : (List.range' 0 low).map (fun _ => (0 : K)) = holders at hHolders
  have hHoldersLength : holders.length = low := by simp [← hHoldersEq]
  -- between the limits
  have hBetween := foldlM_setAt (fun _ i => some (f i)) f
    (high + 1 - low) holders fun _ _ _ => rfl
  rw [hHoldersLength] at hBetween
  have hRead : ∀ i, low ≤ i → i ≤ high → ∀ ys : List K, ys.length ≤ low →
      (ys ++ (holders ++ (List.range' low (high + 1 - low)).map f).drop ys.length)[i]? =
        some (f i) := by
    intro i hi hi' ys hys
    rw [List.getElem?_append_right (by omega), List.getElem?_drop,
      List.getElem?_append_right (by omega), List.getElem?_map, List.getElem?_range' (by omega)]
    exact congrArg (fun j => some (f j)) (by omega)
  -- over the place holders
  have hBelow := foldlM_overwrite (fun xs => xs[low]?) (f low)
    (holders ++ (List.range' low (high + 1 - low)).map f) low (by simp [hHoldersLength])
    (hRead low le_rfl h)
  have hDrop : (holders ++ (List.range' low (high + 1 - low)).map f).drop low =
      (List.range' low (high + 1 - low)).map f := by
    rw [← hHoldersLength, List.drop_left]
  -- above the limits
  have hLast := hRead high h le_rfl (List.replicate low (f low)) (by simp)
  rw [List.length_replicate, hDrop] at hLast
  rw [hDrop] at hBelow
  have hLength : (List.replicate low (f low) ++ (List.range' low (high + 1 - low)).map f).length =
      high + 1 := by
    simp
    omega
  have hAbove := foldlM_setAt (fun xs _ => xs[high]?) (fun _ => f high)
    (kGMUMaxZoom - (high + 1))
    (List.replicate low (f low) ++ (List.range' low (high + 1 - low)).map f) fun ys i _ => by
      rw [List.getElem?_append_left (by omega), hLast]
  rw [hLength, range_clamp f h] at hAbove
  refine Option.bind_eq_some_iff.mpr ⟨_, hHolders, Option.bind_eq_some_iff.mpr ⟨_, hBetween,
    Option.bind_eq_some_iff.mpr ⟨_, hBelow, ?_⟩⟩⟩
  rw [hAbove]
  congr 3
  omega

/-- **An exception or an entry for each zoom**, the one of the nearest zoom
between the limits. -/
theorem calculateIntensities_eq :
    calculateIntensities fp layer =
      if layer.minimumZoomIntensity ≤ layer.maximumZoomIntensity then
        some ((List.range (max kGMUMaxZoom (layer.maximumZoomIntensity + 1))).map fun zoom =>
          maxValueForZoom fp layer.radius layer.weightedData (layer.clampZoom zoom))
      else none := by
  split_ifs with h
  · exact calculateIntensities_of_le h
  · exact calculateIntensities_of_lt (not_le.mp h)

omit [LinearOrder K] [FloorRing K] in
/-- The kernel has `2 * radius + 1` values, each a number unless the radius is 0 or
its square is no `int`. -/
theorem generateKernel_readAt (expf : K → K) {radius : ℕ} (hRadius : 0 < radius ∧ radius < 2 ^ 15)
    {d : ℤ} (h : |d| ≤ radius) :
    readAt (generateKernel expf radius) (d + radius) = some (some (bell expf radius d)) := by
  obtain ⟨hLow, hHigh⟩ := abs_le.mp h
  have hIn : (d + radius).toNat < ((radius : ℤ) + 1 - -radius).toNat := by omega
  have hSquare : d * d ≤ radius * radius := by
    rw [← abs_mul_abs_self d]
    exact mul_self_le_mul_self (abs_nonneg d) h
  have hFits : FitsInt (-d * d) := by
    have hNonneg := mul_self_nonneg d
    have hMax : (radius : ℤ) * radius < 2 ^ 15 * 2 ^ 15 := by
      exact_mod_cast Nat.mul_self_lt_mul_self hRadius.2
    rw [FitsInt, neg_mul]
    omega
  have hValue : kernelValue expf radius d = some (bell expf radius d) :=
    if_neg (not_or.mpr ⟨hRadius.1.ne', not_not.mpr hFits⟩)
  rw [readAt_eq_some_iff, generateKernel, Int.range, List.map_map, List.getElem?_map,
    List.getElem?_range hIn]
  have hCell : -(radius : ℤ) + (d + radius).toNat = d := by omega
  exact ⟨by omega, (congrArg (fun i => some (kernelValue expf radius i)) hCell).trans
    (congrArg some hValue)⟩

omit [FloorRing K] in
/-- No zoom is drawn beyond the upper limit. -/
theorem LayerProperties.clampZoom_le (h : layer.minimumZoomIntensity ≤ layer.maximumZoomIntensity)
    (zoom : ℕ) : layer.clampZoom zoom ≤ layer.maximumZoomIntensity :=
  max_le h (min_le_right _ _)

/-- **What the intensities are for**: they raise exactly if the zoom limits are the
wrong way round, and without negative weights an entry is the greatest weight of a
bucket at its zoom. They get no greater zooming in, as far as the buckets are in
range. -/
theorem calculateIntensities_greatest [IsStrictOrderedRing K] (fp : FloatingPoint K)
    (layer : LayerProperties C K)
    (hWeight : ∀ dataPoint ∈ layer.weightedData, 0 ≤ dataPoint.intensity) :
    (calculateIntensities fp layer = none ↔
        layer.maximumZoomIntensity < layer.minimumZoomIntensity) ∧
      ∀ intensities, calculateIntensities fp layer = some intensities →
        intensities.length = max kGMUMaxZoom (layer.maximumZoomIntensity + 1) ∧
        (∀ zoom, (h : zoom < intensities.length) →
          IsGreatest (Set.range (bucketWeight fp layer.radius (layer.clampZoom zoom)
            layer.weightedData)) intensities[zoom]) ∧
        (0 < layer.radius →
          BucketsFit layer.radius layer.maximumZoomIntensity layer.weightedData →
          intensities.Pairwise (· ≥ ·)) := by
  rw [calculateIntensities_eq]
  refine ⟨by simp, fun intensities hRun => ?_⟩
  split_ifs at hRun with h
  cases hRun
  refine ⟨by simp, fun zoom hZoom => ?_, fun hRadius hFits => ?_⟩
  · rw [List.getElem_map, List.getElem_range]
    exact maxValueForZoom_isGreatest _ _ _ hWeight
  · refine List.pairwise_map.mpr (List.pairwise_lt_range.imp fun {a b} hab => ?_)
    have hClamp : layer.clampZoom a ≤ layer.clampZoom b :=
      max_le_max le_rfl (min_le_min hab.le le_rfl)
    exact maxValueForZoom_le hRadius hWeight hClamp (hFits.of_le (layer.clampZoom_le h b))

/-- The layer of the map view, with one point. -/
def LayerProperties.onePoint [IsStrictOrderedRing K] : LayerProperties (HSBA K) K where
  weightedData := [⟨7, ⟨0.25, 0.75⟩⟩]
  radius := 80
  gradient := .greenRed
  minimumZoomIntensity := 5
  maximumZoomIntensity := 10

theorem calculateIntensities_greatest_onePoint :
    ∃ intensities, calculateIntensities .exp (LayerProperties.onePoint (K := ℝ)) =
        some intensities ∧
      intensities.length = 22 ∧ intensities.Pairwise (· ≥ ·) := by
  obtain ⟨hRaises, hRun⟩ := calculateIntensities_greatest .exp
    (LayerProperties.onePoint (K := ℝ)) (by simp [LayerProperties.onePoint])
  obtain ⟨intensities, hSome⟩ := Option.ne_none_iff_exists'.mp (hRaises.not.mpr (by decide))
  obtain ⟨hLength, -, hPairwise⟩ := hRun intensities hSome
  refine ⟨intensities, hSome, hLength, hPairwise (by decide) ?_⟩
  refine bucketsFit_of_world (by decide) (by decide) fun dataPoint hData => ?_
  rw [List.mem_singleton.mp hData]
  norm_num

section Prepared

variable [IsStrictOrderedRing K] {ui : UIColors C K} {fp : FloatingPoint K}

variable (ui fp layer) in
/-- With the limits the right way round nothing raises. -/
theorem exists_prepare (h : layer.minimumZoomIntensity ≤ layer.maximumZoomIntensity) :
    ∃ data, prepare ui fp layer = some data := by
  obtain ⟨colorMap, hColors, -⟩ := GMUGradient.generateColorMap_shades ui layer.gradient
  exact ⟨_, by rw [prepare, hColors, calculateIntensities_of_le h]; rfl⟩

/-- With the limits the wrong way round `prepare` raises. -/
theorem prepare_of_lt (h : layer.maximumZoomIntensity < layer.minimumZoomIntensity) :
    prepare ui fp layer = none := by
  obtain ⟨colorMap, hColors, -⟩ := GMUGradient.generateColorMap_shades ui layer.gradient
  rw [prepare, hColors, calculateIntensities_of_lt h]
  rfl

omit [IsStrictOrderedRing K] in
/-- The parts of what was prepared. -/
theorem prepare_fields {data : GMUHeatmapTileCreationData C K}
    (h : prepare ui fp layer = some data) :
    data.quadTree = fillQuadTree layer.weightedData ∧
      data.kernel = generateKernel fp.expf layer.radius ∧ data.radius = layer.radius ∧
      layer.gradient.generateColorMap ui = some data.colorMap ∧
      calculateIntensities fp layer = some data.maxIntensities := by
  rw [prepare] at h
  obtain ⟨colorMap, hColors, h⟩ := Option.bind_eq_some_iff.mp h
  obtain ⟨maxIntensities, hIntensities, h⟩ := Option.bind_eq_some_iff.mp h
  cases h
  exact ⟨rfl, rfl, rfl, hColors, hIntensities⟩

end Prepared

end Prepare

end PriceMap.Tiles
