import PriceMap.Tiles.Tile

/-!
# Heatmap tiles — what the smoothing computes

For radii that can be drawn the arrays of `tileForX:y:zoom:` never fail, and two
passes over them, with their clipping and the values they skip, come to one sum
over the points.

* `convolveHorizontally_spec`, `convolveVertically_spec` — one pass is a sum
  over the cells of a row, or of a column.
* `drawIntensity_spec` — the cell of a pixel is the sum over the points of their
  weight times the kernel at the distance in `x` and at that in `y`.
-/

namespace PriceMap.Tiles

open Lib

variable {K : Type} [Field K]

/-- The kernel, 0 beyond the radius. -/
def smoothing (expf : K → K) (radius : ℕ) (d : ℤ) : K :=
  if |d| ≤ radius then bell expf radius d else 0

/-- The radii whose kernel is a number everywhere, and whose arrays an `int` can
count. -/
def Drawable (radius : ℕ) : Prop := 0 < radius ∧ radius ≤ 22914

/-- Nothing is smoothed beyond the radius. -/
theorem smoothing_of_lt {expf : K → K} {radius : ℕ} {d : ℤ} (h : (radius : ℤ) < |d|) :
    smoothing expf radius d = 0 :=
  if_neg (not_le.mpr h)

/-- What the points give the pixel `(y, x)`. -/
def smoothed (expf : K → K) (radius : ℕ) (row column : GMUWeightedLatLng K → ℤ)
    (points : List (GMUWeightedLatLng K)) (y x : ℤ) : K :=
  (points.map fun item => item.intensity * smoothing expf radius (x + radius - column item) *
    smoothing expf radius (y + radius - row item)).sum

variable {expf : K → K} {radius : ℕ}

/-- The order of the points does not matter. -/
theorem smoothed_perm {row column : GMUWeightedLatLng K → ℤ}
    {points points' : List (GMUWeightedLatLng K)} (h : points.Perm points') {y x : ℤ} :
    smoothed expf radius row column points y x = smoothed expf radius row column points' y x :=
  (h.map _).sum_eq

variable (radius) in
/-- The side of the padded tile as an integer. -/
theorem paddedTileSize_cast : (paddedTileSize radius : ℤ) = kGMUTileSize + 2 * radius := by
  rw [paddedTileSize]
  push_cast
  rfl

/-- Up to which radius an `int` counts the cells. -/
theorem fitsInt_paddedTileSize_sq (radius : ℕ) :
    FitsInt (paddedTileSize radius * paddedTileSize radius) ↔ radius ≤ 22914 := by
  have hSquare : paddedTileSize radius * paddedTileSize radius < 2 ^ 31 ↔
      paddedTileSize radius < 46341 := by
    constructor
    · intro h
      by_contra hLarge
      have hAtLeast := Nat.mul_self_le_mul_self (not_lt.mp hLarge)
      omega
    · intro h
      have hAtMost := Nat.mul_self_le_mul_self (Nat.le_pred_of_lt h)
      exact hAtMost.trans_lt (by decide)
  have hPixels : paddedTileSize radius < 46341 ↔ radius ≤ 22914 := by
    rw [paddedTileSize, kGMUTileSize]
    omega
  rw [FitsInt, ← hPixels, ← hSquare]
  have hNonneg : (0 : ℤ) ≤ paddedTileSize radius * paddedTileSize radius := by positivity
  omega

variable (K) in
/-- Then the array is all zeros. -/
theorem callocPadded_of_drawable (h : Drawable radius) : callocPadded radius =
    some (List.replicate (paddedTileSize radius * paddedTileSize radius) (0 : K)) :=
  if_pos ((fitsInt_paddedTileSize_sq radius).mpr h.2)

/-- Both passes over the cell of one point. -/
theorem sum_sum_oneCell {s : Finset ℤ} {row column : ℤ} (hRow : row ∈ s) (hColumn : column ∈ s)
    (v : K) (f g : ℤ → K) :
    ∑ y ∈ s, (∑ x ∈ s, oneCell (row, column) v (y, x) * f x) * g y = v * f column * g row := by
  rw [Finset.sum_eq_single row]
  · rw [Finset.sum_eq_single column]
    · rw [oneCell, if_pos rfl]
    · intro x _ hx
      rw [oneCell, if_neg fun h => hx (Prod.mk.inj h).2, zero_mul]
    · exact fun h => absurd hColumn h
  · intro y _ hy
    rw [Finset.sum_eq_zero, zero_mul]
    intro x _
    rw [oneCell, if_neg fun h => hy (Prod.mk.inj h).1, zero_mul]
  · exact fun h => absurd hRow h

/-- What the points put into the cells. -/
def quantized (row column : GMUWeightedLatLng K → ℤ) (points : List (GMUWeightedLatLng K))
    (p : ℤ × ℤ) : K :=
  (points.map fun item => oneCell (row item, column item) item.intensity p).sum

/-- The cells of the points are in the array. -/
def InArray (radius : ℕ) (row column : GMUWeightedLatLng K → ℤ)
    (points : List (GMUWeightedLatLng K)) : Prop :=
  ∀ item ∈ points, (0 ≤ row item ∧ row item < paddedTileSize radius) ∧
    0 ≤ column item ∧ column item < paddedTileSize radius

variable {row column : GMUWeightedLatLng K → ℤ} {points : List (GMUWeightedLatLng K)}

/-- Both passes over the cells of all points. -/
theorem sum_sum_quantized (h : InArray radius row column points) (y x : ℤ) :
    ∑ y' ∈ Finset.Ico 0 (paddedTileSize radius : ℤ),
      (∑ x' ∈ Finset.Ico 0 (paddedTileSize radius : ℤ),
        quantized row column points (y', x') * smoothing expf radius (x - x')) *
        smoothing expf radius (y - y') =
      (points.map fun item => item.intensity * smoothing expf radius (x - column item) *
        smoothing expf radius (y - row item)).sum := by
  induction points with
  | nil => simp [quantized]
  | cons item rest ih =>
    obtain ⟨hRow, hColumn⟩ := h item (List.mem_cons_self ..)
    rw [List.map_cons, List.sum_cons,
      ← ih fun other hOther => h other (List.mem_cons_of_mem _ hOther),
      ← sum_sum_oneCell (Finset.mem_Ico.mpr hRow) (Finset.mem_Ico.mpr hColumn) item.intensity
        (fun x' => smoothing expf radius (x - x')) fun y' => smoothing expf radius (y - y'),
      ← Finset.sum_add_distrib]
    refine Finset.sum_congr rfl fun y' _ => ?_
    rw [← add_mul, ← Finset.sum_add_distrib]
    refine congrArg (· * _) (Finset.sum_congr rfl fun x' _ => ?_)
    rw [← add_mul]
    rfl

/-- The loop over points adds each in its cell. -/
theorem addPoints_adds (h : InArray radius row column points) :
    Adds (paddedTileSize radius) (paddedTileSize radius) (quantized row column points)
      fun intensity => points.foldlM (addPoint radius row column) intensity :=
  Adds.foldlM fun item hItem => Adds.addAt (h item hItem).1 (h item hItem).2 item.intensity

-- ---------------------------------------------------------------------------
-- The inner loop
-- ---------------------------------------------------------------------------

/-- What one call of the inner loop adds to the place `j` of its line, if `p` is
that place: `a` says that the line is the one `p` lies in. -/
theorem sum_spread {cell : ℤ → ℤ × ℤ} {p : ℤ × ℤ} {center j : ℤ} {value : K} {a : Prop}
    [Decidable a] (hCell : ∀ i, cell i = p ↔ a ∧ i = j)
    (hj : lowerLimit radius ≤ j ∧ j ≤ upperLimit radius) :
    ∑ i ∈ Finset.Ico (max (lowerLimit radius) (center - radius))
        (min (upperLimit radius) (center + radius) + 1),
      oneCell (cell i) (value * bell expf radius (i - center)) p =
      if a then value * smoothing expf radius (j - center) else 0 := by
  have hTerm : ∀ i, oneCell (cell i) (value * bell expf radius (i - center)) p =
      if a ∧ i = j then value * bell expf radius (i - center) else 0 :=
    fun i => if_congr (eq_comm.trans (hCell i)) rfl rfl
  simp only [hTerm]
  by_cases ha : a
  · have hMem : j ∈ Finset.Ico (max (lowerLimit radius) (center - radius))
        (min (upperLimit radius) (center + radius) + 1) ↔ |j - center| ≤ radius := by
      rw [Finset.mem_Ico, abs_le]
      omega
    simp only [ha, true_and, if_true, Finset.sum_ite_eq', hMem, smoothing, mul_ite, mul_zero]
  · simp [ha]

variable [LinearOrder K]

/-- The inner loop adds the kernel around its place. -/
theorem spread_adds (hRadius : Drawable radius) {h w : ℕ} {cell : ℤ → ℤ} (row column : ℤ → ℤ)
    {center : ℤ} {value : K}
    (hCell : ∀ i, lowerLimit radius ≤ i → i ≤ upperLimit radius →
      cell i = row i * w + column i ∧ (0 ≤ row i ∧ row i < h) ∧ 0 ≤ column i ∧ column i < w) :
    Adds h w
      (fun p => ∑ i ∈ Finset.Ico (max (lowerLimit radius) (center - radius))
          (min (upperLimit radius) (center + radius) + 1),
        oneCell (row i, column i) (value * bell expf radius (i - center)) p)
      (spread radius (generateKernel expf radius) cell center value) := by
  by_cases hValue : value = 0
  · have hNone : spread radius (generateKernel expf radius) cell center value = some := by
      funext buffer
      rw [spread, if_pos hValue]
    have hZero : ∀ i p, oneCell (row i, column i) (value * bell expf radius (i - center)) p =
        0 := fun i p => by simp [oneCell, hValue]
    simp only [hNone, hZero, Finset.sum_const_zero]
    exact Adds.skip
  · have hLoop : spread radius (generateKernel expf radius) cell center value = fun buffer =>
        (Int.range (max (lowerLimit radius) (center - radius))
          (min (upperLimit radius) (center + radius) + 1)).foldlM (fun buffer i => do
            let k ← readAt (generateKernel expf radius) (i - center + radius)
            addAt buffer (cell i) (value * (← k))) buffer := by
      funext buffer
      rw [spread, if_neg hValue]
    rw [hLoop]
    refine Adds.foldlM_range _ _ fun i hLow hHigh => ?_
    obtain ⟨hIndex, hRow, hColumn⟩ := hCell i (by omega) (by omega)
    have hRead := generateKernel_readAt expf ⟨hRadius.1, by have := hRadius.2; omega⟩
      (d := i - center) (by rw [abs_le]; omega)
    simp only [hRead, hIndex]
    exact Adds.addAt hRow hColumn _

-- ---------------------------------------------------------------------------
-- The two passes
-- ---------------------------------------------------------------------------

variable (expf) in
/-- **Smoothing along the rows.** -/
theorem convolveHorizontally_spec (hRadius : Drawable radius) {intensity : List K} {c : ℤ × ℤ → K}
    (hCells : ∀ y x : ℤ, 0 ≤ y ∧ y < paddedTileSize radius → 0 ≤ x ∧ x < paddedTileSize radius →
      readAt intensity (y * paddedTileSize radius + x) = some (c (y, x))) :
    ∃ intermediate, convolveHorizontally radius (generateKernel expf radius) intensity =
        some intermediate ∧
      ∀ y x : ℤ, 0 ≤ y ∧ y < paddedTileSize radius →
        lowerLimit radius ≤ x ∧ x ≤ upperLimit radius →
        readAt intermediate (y * paddedTileSize radius + x) =
          some (∑ x' ∈ Finset.Ico 0 (paddedTileSize radius : ℤ),
            c (y, x') * smoothing expf radius (x - x')) := by
  have hSize := paddedTileSize_cast radius
  have hAdds := Adds.foldlM_range (h := paddedTileSize radius) (w := paddedTileSize radius)
    (f := fun intermediate y => (Int.range 0 (paddedTileSize radius)).foldlM
      (fun intermediate x => do
        let value ← readAt intensity (y * paddedTileSize radius + x)
        spread radius (generateKernel expf radius) (fun x2 => y * paddedTileSize radius + x2) x
          value intermediate) intermediate) 0 (paddedTileSize radius)
    fun y hy hy' => Adds.foldlM_range _ _ fun x hx hx' => by
      have hValue := hCells y x ⟨hy, hy'⟩ ⟨hx, hx'⟩
      simp only [hValue, Option.bind_eq_bind, Option.bind_some]
      refine spread_adds hRadius (fun _ => y) id fun i hLow hHigh => ?_
      rw [lowerLimit] at hLow
      rw [upperLimit] at hHigh
      exact ⟨rfl, ⟨hy, hy'⟩, by simp only [id]; omega⟩
  obtain ⟨intermediate, hRun, -, hRead⟩ := hAdds.of_zeros
  refine ⟨intermediate, ?_, fun y x hy hx => ?_⟩
  · rw [convolveHorizontally, callocPadded_of_drawable K hRadius, Option.bind_eq_bind,
      Option.bind_some]
    exact hRun
  have hx' := hx
  rw [lowerLimit, upperLimit] at hx'
  rw [hRead y x hy (by omega)]
  refine congrArg some ?_
  rw [Finset.sum_eq_single y]
  · refine Finset.sum_congr rfl fun x' _ => ?_
    rw [sum_spread (a := True) (j := x) (fun i => by simp) hx, if_pos trivial]
  · intro y' _ hy'
    refine Finset.sum_eq_zero fun x' _ => ?_
    rw [sum_spread (a := False) (j := x) (fun i => by simp [hy']) hx, if_neg not_false]
  · intro hNot
    exact absurd (Finset.mem_Ico.mpr hy) hNot

variable (expf) in
/-- **Smoothing along the columns**, which cuts the margins off. -/
theorem convolveVertically_spec (hRadius : Drawable radius) {intermediate : List K} {c : ℤ × ℤ → K}
    (hCells : ∀ y x : ℤ, 0 ≤ y ∧ y < paddedTileSize radius →
      lowerLimit radius ≤ x ∧ x ≤ upperLimit radius →
      readAt intermediate (y * paddedTileSize radius + x) = some (c (y, x))) :
    ∃ finalIntensity, convolveVertically radius (generateKernel expf radius) intermediate =
        some finalIntensity ∧ finalIntensity.length = kGMUTileSize * kGMUTileSize ∧
      ∀ y x : ℤ, 0 ≤ y ∧ y < kGMUTileSize → 0 ≤ x ∧ x < kGMUTileSize →
        readAt finalIntensity (y * kGMUTileSize + x) =
          some (∑ y' ∈ Finset.Ico 0 (paddedTileSize radius : ℤ),
            c (y', x + radius) * smoothing expf radius (y + radius - y')) := by
  have hSize := paddedTileSize_cast radius
  have hAdds := Adds.foldlM_range (h := kGMUTileSize) (w := kGMUTileSize)
    (f := fun finalIntensity x => (Int.range 0 (paddedTileSize radius)).foldlM
      (fun finalIntensity y => do
        let value ← readAt intermediate (y * paddedTileSize radius + x)
        spread radius (generateKernel expf radius)
          (fun y2 => (y2 - lowerLimit radius) * kGMUTileSize + x - lowerLimit radius) y value
          finalIntensity) finalIntensity) (lowerLimit radius) (upperLimit radius + 1)
    fun x hx hx' => Adds.foldlM_range _ _ fun y hy hy' => by
      have hValue := hCells y x ⟨hy, hy'⟩ ⟨hx, by omega⟩
      simp only [hValue, Option.bind_eq_bind, Option.bind_some]
      refine spread_adds hRadius (fun i => i - lowerLimit radius) (fun _ => x - lowerLimit radius)
        fun i hLow hHigh => ?_
      rw [upperLimit] at hx' hHigh
      rw [lowerLimit] at hx hLow ⊢
      exact ⟨by rw [add_sub_assoc], by omega, by omega⟩
  obtain ⟨finalIntensity, hRun, hLength, hRead⟩ := hAdds.of_zeros
  refine ⟨finalIntensity, hRun, hLength, fun y x hy hx => ?_⟩
  have hPlace : ∀ {z : ℤ}, 0 ≤ z ∧ z < kGMUTileSize →
      lowerLimit radius ≤ z + radius ∧ z + radius ≤ upperLimit radius := by
    intro z hz
    rw [lowerLimit, upperLimit]
    omega
  rw [hRead y x hy hx]
  refine congrArg some ?_
  rw [Finset.sum_eq_single (x + radius)]
  · refine Finset.sum_congr rfl fun y' _ => ?_
    rw [sum_spread (a := True) (j := y + radius) (fun i => ?_) (hPlace hy), if_pos trivial]
    rw [lowerLimit, Prod.mk.injEq, true_and]
    omega
  · intro x' _ hx'
    refine Finset.sum_eq_zero fun y' _ => ?_
    rw [sum_spread (a := False) (j := y + radius) (fun i => ?_) (hPlace hy), if_neg not_false]
    rw [lowerLimit, Prod.mk.injEq, false_and, iff_false]
    omega
  · intro hNot
    have hIn := hPlace hx
    exact absurd (Finset.mem_Ico.mpr ⟨hIn.1, by omega⟩) hNot

-- ---------------------------------------------------------------------------
-- The whole drawing
-- ---------------------------------------------------------------------------

variable [FloorRing K]

/-- **The drawing** of points in the array fails nowhere, and sums up what each
of them gives a pixel. -/
theorem drawIntensity_spec (fp : FloatingPoint K) (hRadius : Drawable radius) {zoom : ℕ}
    {bounds : GQTBounds K} {wrappedPointsOffset : K}
    {wrappedPoints : List (GMUWeightedLatLng K)}
    (hPoints : InArray radius (rowOf fp radius zoom bounds) (columnOf fp radius zoom bounds) points)
    (hWrapped : InArray radius (rowOf fp radius zoom bounds)
      (wrappedColumnOf fp radius zoom bounds wrappedPointsOffset) wrappedPoints) :
    ∃ finalIntensity, drawIntensity fp radius zoom (generateKernel expf radius) bounds
        wrappedPointsOffset points wrappedPoints = some finalIntensity ∧
      finalIntensity.length = kGMUTileSize * kGMUTileSize ∧
      ∀ y x : ℤ, 0 ≤ y ∧ y < kGMUTileSize → 0 ≤ x ∧ x < kGMUTileSize →
        readAt finalIntensity (y * kGMUTileSize + x) =
          some (smoothed expf radius (rowOf fp radius zoom bounds) (columnOf fp radius zoom bounds)
              points y x +
            smoothed expf radius (rowOf fp radius zoom bounds)
              (wrappedColumnOf fp radius zoom bounds wrappedPointsOffset) wrappedPoints y x) := by
  obtain ⟨intensity, hQuantize, -, hCells⟩ :=
    ((addPoints_adds hPoints).bind (addPoints_adds hWrapped)).of_zeros
  obtain ⟨intermediate, hHorizontal, hRows⟩ := convolveHorizontally_spec expf hRadius hCells
  obtain ⟨finalIntensity, hVertical, hLength, hFinal⟩ := convolveVertically_spec expf hRadius
    (c := fun p => ∑ x' ∈ Finset.Ico 0 (paddedTileSize radius : ℤ),
      (quantized (rowOf fp radius zoom bounds) (columnOf fp radius zoom bounds) points +
        quantized (rowOf fp radius zoom bounds)
          (wrappedColumnOf fp radius zoom bounds wrappedPointsOffset) wrappedPoints) (p.1, x') *
        smoothing expf radius (p.2 - x')) hRows
  refine ⟨finalIntensity, ?_, hLength, fun y x hy hx => ?_⟩
  · have hQuantized : quantize fp radius zoom bounds wrappedPointsOffset points wrappedPoints =
        some intensity := by
      rw [quantize, callocPadded_of_drawable K hRadius, Option.bind_eq_bind, Option.bind_some]
      exact hQuantize
    rw [drawIntensity, hQuantized, Option.bind_eq_bind, Option.bind_some, hHorizontal,
      Option.bind_some]
    exact hVertical
  · rw [hFinal y x hy hx, smoothed, smoothed, ← sum_sum_quantized hPoints,
      ← sum_sum_quantized hWrapped, ← Finset.sum_add_distrib]
    refine congrArg some (Finset.sum_congr rfl fun y' _ => ?_)
    rw [← add_mul, ← Finset.sum_add_distrib]
    refine congrArg (· * _) (Finset.sum_congr rfl fun x' _ => ?_)
    rw [← add_mul]
    rfl

end PriceMap.Tiles
