import PriceMap.Tiles.CreationData

/-!
# Heatmap tiles — drawing a tile

`tileForX:y:zoom:` of `GMUHeatmapTileLayer`: the points of the tile and of a
margin of `radius` pixels around it are put in buckets, one a pixel, smoothed
along the rows, then along the columns, and turned into colours.

Arrays are read and written with checked indices, so that a value says that no
index was out of range, and that nothing was done that the language leaves
undefined but for the casts of `FloatingPoint` and of colour components. `double`
and `float` values are taken exactly.

What the smoothing computes is proved in the next module.
-/

namespace PriceMap.Tiles

open Lib

-- ---------------------------------------------------------------------------
-- The part of the world a tile covers
-- ---------------------------------------------------------------------------

section Window

variable {K : Type} [Field K] [LinearOrder K]

/-- "Zoom 0 tile covers the world [-1, 1]." -/
def tileWidth (zoom : ℕ) : K := 2.0 / (2 ^ zoom : ℕ)

def padding (radius zoom : ℕ) : K := tileWidth zoom * radius / kGMUTileSize

/-- "One bucket per pixel." -/
def bucketWidth (zoom : ℕ) : K := tileWidth zoom / kGMUTileSize

/-- `minX`, `minY`, `maxX` and `maxY`; the y axis is inverted. -/
def tileBounds (radius x y zoom : ℕ) : GQTBounds K where
  minX := -1 + x * tileWidth zoom - padding radius zoom
  maxX := -1 + (x + 1) * tileWidth zoom + padding radius zoom
  maxY := 1 - y * tileWidth zoom + padding radius zoom
  minY := 1 - (y + 1) * tileWidth zoom - padding radius zoom

/-- `wrappedBounds` and `wrappedPointsOffset`: what lies across the antimeridian. -/
def wrappedBounds (bounds : GQTBounds K) : Option (GQTBounds K × K) :=
  if bounds.minX < -1 then some ({ bounds with minX := bounds.minX + 2.0, maxX := 1 }, -2.0)
  else if 1 < bounds.maxX then some ({ bounds with minX := -1, maxX := bounds.maxX - 2.0 }, 2.0)
  else none

end Window

-- ---------------------------------------------------------------------------
-- Buckets
-- ---------------------------------------------------------------------------

def paddedTileSize (radius : ℕ) : ℕ := kGMUTileSize + 2 * radius

section Drawing

variable {K : Type} [Field K] [LinearOrder K] [FloorRing K] (fp : FloatingPoint K)

/-- `calloc(paddedTileSize * paddedTileSize, sizeof(float))`; a product that is no
`int` is undefined. -/
def callocPadded (radius : ℕ) : Option (List K) :=
  if FitsInt (paddedTileSize radius * paddedTileSize radius) then
    some (List.replicate (paddedTileSize radius * paddedTileSize radius) 0)
  else none

/-- "If the point is just on the edge of the query area, the bucketing could put
it outside bounds." -/
def clampBucket (radius : ℕ) (i : ℤ) : ℤ :=
  if paddedTileSize radius ≤ i then paddedTileSize radius - 1 else i

/-- `y` of a point. -/
def rowOf (radius zoom : ℕ) (bounds : GQTBounds K) (item : GMUWeightedLatLng K) : ℤ :=
  clampBucket radius (fp.quotient (bounds.maxY - item.point.y) (bucketWidth zoom))

/-- `x` of a point. -/
def columnOf (radius zoom : ℕ) (bounds : GQTBounds K) (item : GMUWeightedLatLng K) : ℤ :=
  clampBucket radius (fp.quotient (item.point.x - bounds.minX) (bucketWidth zoom))

/-- `x` of a wrapped point; "additional shifting risks bucketing slipping just
outside". -/
def wrappedColumnOf (radius zoom : ℕ) (bounds : GQTBounds K) (wrappedPointsOffset : K)
    (item : GMUWeightedLatLng K) : ℤ :=
  let x := clampBucket radius
    (fp.quotient (item.point.x + wrappedPointsOffset - bounds.minX) (bucketWidth zoom))
  if x < 0 then 0 else x

/-- `intensity[y * paddedTileSize + x] += item.intensity` -/
def addPoint (radius : ℕ) (row column : GMUWeightedLatLng K → ℤ) (intensity : List K)
    (item : GMUWeightedLatLng K) : Option (List K) :=
  addAt intensity (row item * paddedTileSize radius + column item) item.intensity

/-- "Quantize points." -/
def quantize (radius zoom : ℕ) (bounds : GQTBounds K) (wrappedPointsOffset : K)
    (points wrappedPoints : List (GMUWeightedLatLng K)) : Option (List K) := do
  let intensity ← callocPadded radius
  let intensity ← points.foldlM
    (addPoint radius (rowOf fp radius zoom bounds) (columnOf fp radius zoom bounds)) intensity
  wrappedPoints.foldlM
    (addPoint radius (rowOf fp radius zoom bounds)
      (wrappedColumnOf fp radius zoom bounds wrappedPointsOffset)) intensity

-- ---------------------------------------------------------------------------
-- Convolution
-- ---------------------------------------------------------------------------

def lowerLimit (radius : ℕ) : ℤ := radius

def upperLimit (radius : ℕ) : ℤ := paddedTileSize radius - radius - 1

/-- The inner loop of either pass: a value not 0 is spread on either side of its
place, "bounded by the limit we care about", to the index `cell i` for each `i`. What
a kernel value that is NaN is added to stays NaN, and no pixel can be cast from it. -/
def spread (radius : ℕ) (kernel : List (Option K)) (cell : ℤ → ℤ) (center : ℤ) (value : K)
    (buffer : List K) : Option (List K) :=
  if value = 0 then some buffer
  else
    let start := max (lowerLimit radius) (center - radius)
    let stop := min (upperLimit radius) (center + radius)
    (Int.range start (stop + 1)).foldlM (fun buffer i => do
      let k ← readAt kernel (i - center + radius)
      addAt buffer (cell i) (value * (← k))) buffer

/-- "Convolve horizontally first." -/
def convolveHorizontally (radius : ℕ) (kernel : List (Option K)) (intensity : List K) :
    Option (List K) := do
  let intermediate ← callocPadded radius
  (Int.range 0 (paddedTileSize radius)).foldlM (fun intermediate y =>
    (Int.range 0 (paddedTileSize radius)).foldlM (fun intermediate x => do
      let value ← readAt intensity (y * paddedTileSize radius + x)
      spread radius kernel (fun x2 => y * paddedTileSize radius + x2) x value intermediate)
      intermediate)
    intermediate

/-- "Convole vertically to get final intensity." -/
def convolveVertically (radius : ℕ) (kernel : List (Option K)) (intermediate : List K) :
    Option (List K) :=
  (Int.range (lowerLimit radius) (upperLimit radius + 1)).foldlM (fun finalIntensity x =>
    (Int.range 0 (paddedTileSize radius)).foldlM (fun finalIntensity y => do
      let value ← readAt intermediate (y * paddedTileSize radius + x)
      spread radius kernel
        (fun y2 => (y2 - lowerLimit radius) * kGMUTileSize + x - lowerLimit radius) y value
        finalIntensity)
      finalIntensity)
    (List.replicate (kGMUTileSize * kGMUTileSize) 0)

/-- The arrays from the points to `finalIntensity`. -/
def drawIntensity (radius zoom : ℕ) (kernel : List (Option K)) (bounds : GQTBounds K)
    (wrappedPointsOffset : K) (points wrappedPoints : List (GMUWeightedLatLng K)) :
    Option (List K) := do
  let intensity ← quantize fp radius zoom bounds wrappedPointsOffset points wrappedPoints
  let intermediate ← convolveHorizontally radius kernel intensity
  convolveVertically radius kernel intermediate

end Drawing

-- ---------------------------------------------------------------------------
-- Colours
-- ---------------------------------------------------------------------------

structure RGBA (K : Type) where
  red : K
  green : K
  blue : K
  alpha : K
  deriving DecidableEq, Repr

section Coloring

variable {C K : Type} [Field K] [LinearOrder K] [FloorRing K] (fp : FloatingPoint K)

/-- `colorMapIndex`, clamped to the last colour. Multiplying by infinity (`max`
is 0) can give NaN, and casting NaN or a value beyond its range to `NSUInteger` is
undefined. -/
def colorMapIndex (count : ℕ) (max value : K) : Option ℕ :=
  if max = 0 then none
  else
    let scaled := value * ((count - 1 : ℕ) / max)
    if scaled ≤ -1 ∨ (2 ^ 64 : ℕ) ≤ scaled then none
    else
      let index := (trunc scaled).toNat
      some (if count ≤ index then count - 1 else index)

/-- The bytes of a colour, alpha first; `getRed` is `getRed:green:blue:alpha:`. -/
def rgba (getRed : C → Option (RGBA K)) (color : C) : BitVec 32 :=
  match getRed color with
  | none => 0
  | some c =>
    (BitVec.ofInt 32 (trunc (c.alpha * 255)) <<< 24) +
      (BitVec.ofInt 32 (trunc (c.blue * 255)) <<< 16) +
      (BitVec.ofInt 32 (trunc (c.green * 255)) <<< 8) + BitVec.ofInt 32 (trunc (c.red * 255))

def rawPixel (getRed : C → Option (RGBA K)) (colorMap : List C) (max value : K) :
    Option (BitVec 32) := do
  let index ← colorMapIndex colorMap.length max value
  let color ← colorMap[index]?
  some (rgba getRed color)

inductive Tile where
  | noTile
  | image (rawpixels : List (BitVec 32))
  deriving DecidableEq

/-- `points`, `wrappedPoints` and the offset of the latter. -/
structure FoundPoints (K : Type) where
  points : List (GMUWeightedLatLng K)
  wrappedPoints : List (GMUWeightedLatLng K)
  wrappedPointsOffset : K

/-- The points in the bounds of a tile, and those across the antimeridian. -/
def findPoints (data : GMUHeatmapTileCreationData C K) (bounds : GQTBounds K) : FoundPoints K :=
  let search := data.quadTree.searchWithBounds halfway GMUWeightedLatLng.point
  match wrappedBounds bounds with
  | none => { points := search bounds, wrappedPoints := [], wrappedPointsOffset := 0 }
  | some (wrapped, wrappedPointsOffset) =>
    { points := search bounds, wrappedPoints := search wrapped, wrappedPointsOffset }

/-- `finalIntensity` -/
def finalIntensity (data : GMUHeatmapTileCreationData C K) (x y zoom : ℕ) : Option (List K) :=
  let bounds := tileBounds data.radius x y zoom
  let found := findPoints data bounds
  drawIntensity fp data.radius zoom data.kernel bounds found.wrappedPointsOffset found.points
    found.wrappedPoints

/-- `tileForX:y:zoom:` from the creation data; `none` if it raises, leaves an
array, overflows an `int` or casts what is NaN or beyond the range of a colour's
index. -/
def tileForX (getRed : C → Option (RGBA K)) (data : GMUHeatmapTileCreationData C K)
    (x y zoom : ℕ) : Option Tile :=
  let found := findPoints data (tileBounds data.radius x y zoom)
  if found.points.length + found.wrappedPoints.length = 0 then some .noTile
  else do
    let intensities ← finalIntensity fp data x y zoom
    let max ← data.maxIntensities[zoom]?
    let rawpixels ← intensities.mapM (rawPixel getRed data.colorMap max)
    some (.image rawpixels)

end Coloring

end PriceMap.Tiles
