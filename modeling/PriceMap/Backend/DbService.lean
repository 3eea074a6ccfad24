import Mathlib.Algebra.Order.Field.Basic
import Mathlib.Tactic.NormNum
import Mathlib.Tactic.Positivity
import PriceMap.Backend.Numbers
import PriceMap.Common.Json

/-!
# Backend — searching the database around a point

`services/dbService.js`: four lookups, one for each collection, that turn a
point and a radius into a latitude/longitude bracket and hand it to `find`.
The four copies of the bracket differ in one thing: sectors and postcodes
multiply the radius by 1.5 first.

`lat` and `long` are what `parseFloat` makes of the route parameters.
`Math.cos` is a parameter; the type `ν` of the stored coordinates is left open,
with their values in `K`.
-/

namespace PriceMap.Backend

variable {K : Type*} [Field K] [LinearOrder K] {ν : Type*}

-- ---------------------------------------------------------------------------
-- Documents
-- ---------------------------------------------------------------------------

/-- A stored `Average_price`. -/
inductive StoredPrice where
  | absent
  | null
  | number (q : ℚ)
  | string (s : String)
  deriving DecidableEq

/-- A document of any of the four collections. -/
structure Document (ν : Type*) where
  _id : String
  Latitude : ν
  Longitude : ν
  Average_price : StoredPrice

structure Collections (ν : Type*) where
  postcodeData : List (Document ν)
  sector : List (Document ν)
  district : List (Document ν)
  area : List (Document ν)

-- ---------------------------------------------------------------------------
-- Brackets
-- ---------------------------------------------------------------------------

/-- `{ $gte, $lte }`. -/
structure Range (K : Type*) where
  gte : Number K
  lte : Number K

structure Bracket (K : Type*) where
  Latitude : Range K
  Longitude : Range K

def Range.contains (r : Range K) (x : K) : Bool := r.gte.le x && r.lte.ge x

def Bracket.contains (b : Bracket K) (latitude longitude : K) : Bool :=
  b.Latitude.contains latitude && b.Longitude.contains longitude

/-- `collection.find(req)`. -/
def find (value : ν → K) (req : Bracket K) (collection : List (Document ν)) :
    List (Document ν) :=
  collection.filter fun d => req.contains (value d.Latitude) (value d.Longitude)

/-- `Math.cos`, from its values at finite arguments. -/
def Number.cos (cos : K → K) : Number K → Number K
  | .finite x => .finite (cos x)
  | .NaN | .posInfinity | .negInfinity => .NaN

def latdiff (radius : Number K) : Number K := radius / .finite 110.574

def longdiff (cos : K → K) (lat radius : Number K) : Number K :=
  radius / (.finite 111.32 * (lat.cos cos).abs)

/-- The bracket all four lookups build. -/
def bracket (cos : K → K) (lat long radius : Number K) : Bracket K where
  Latitude :=
    ⟨lat - latdiff radius / .finite 2, lat + latdiff radius / .finite 2⟩
  Longitude :=
    ⟨long - longdiff cos lat radius / .finite 2, long + longdiff cos lat radius / .finite 2⟩

-- ---------------------------------------------------------------------------
-- The lookups
-- ---------------------------------------------------------------------------

/-- The four lookups of `services/dbService.js`. -/
inductive Lookup where
  | getPostCodes
  | getSectors
  | getDistricts
  | getAreas
  deriving DecidableEq, Repr

def getAreas (cos : K → K) (value : ν → K) (db : Collections ν) (lat long : Number K)
    (radius : Radius K) : List (Document ν) :=
  find value (bracket cos lat long radius.toNumber) db.area

def getDistricts (cos : K → K) (value : ν → K) (db : Collections ν) (lat long : Number K)
    (radius : Radius K) : List (Document ν) :=
  find value (bracket cos lat long radius.toNumber) db.district

def getSectors (cos : K → K) (value : ν → K) (db : Collections ν) (lat long : Number K)
    (radius : Radius K) : List (Document ν) :=
  find value (bracket cos lat long (radius.toNumber * .finite 1.5)) db.sector

def getPostCodes (cos : K → K) (value : ν → K) (db : Collections ν) (lat long : Number K)
    (radius : Radius K) : List (Document ν) :=
  find value (bracket cos lat long (radius.toNumber * .finite 1.5)) db.postcodeData

-- ---------------------------------------------------------------------------
-- The four lookups as one
-- ---------------------------------------------------------------------------

namespace Lookup

def run (lookup : Lookup) (cos : K → K) (value : ν → K) (db : Collections ν)
    (lat long : Number K) (radius : Radius K) : List (Document ν) :=
  match lookup with
  | .getPostCodes => Backend.getPostCodes cos value db lat long radius
  | .getSectors => Backend.getSectors cos value db lat long radius
  | .getDistricts => Backend.getDistricts cos value db lat long radius
  | .getAreas => Backend.getAreas cos value db lat long radius

def collection (lookup : Lookup) (db : Collections ν) : List (Document ν) :=
  match lookup with
  | .getPostCodes => db.postcodeData
  | .getSectors => db.sector
  | .getDistricts => db.district
  | .getAreas => db.area

/-- The factor a lookup multiplies the radius by. -/
def factor : Lookup → K
  | .getPostCodes | .getSectors => 1.5
  | .getDistricts | .getAreas => 1

/-- The radius a lookup divides by the length of a degree. -/
def scaled (lookup : Lookup) (radius : Number K) : Number K :=
  match lookup with
  | .getPostCodes | .getSectors => radius * .finite 1.5
  | .getDistricts | .getAreas => radius

/-- How far a lookup's bracket reaches north and south, in kilometres. -/
def reach (lookup : Lookup) (radius : K) : K := radius * lookup.factor / 2

/-- A lookup finds the rows of its collection in its bracket. -/
theorem run_eq_find (lookup : Lookup) (cos : K → K) (value : ν → K) (db : Collections ν)
    (lat long : Number K) (radius : Radius K) :
    lookup.run cos value db lat long radius =
      find value (bracket cos lat long (lookup.scaled radius.toNumber)) (lookup.collection db) := by
  cases lookup <;> rfl

/-- A radius that is a number is scaled. -/
theorem scaled_finite (lookup : Lookup) (radius : K) :
    lookup.scaled (.finite radius) = .finite (radius * lookup.factor) := by
  cases lookup <;> simp [scaled, factor]

end Lookup

-- ---------------------------------------------------------------------------
-- What a bracket contains
-- ---------------------------------------------------------------------------

/-- The divisor of `longdiff` is a length in kilometres. -/
theorem longdiff_eq_div (cos : K → K) (lat : K) (radius : Number K) :
    longdiff cos (.finite lat) radius = radius / .finite (111.32 * |cos lat|) := rfl

section Contains

variable [IsStrictOrderedRing K]

/-- No lookup turns the bracket inside out. -/
theorem factor_pos (lookup : Lookup) : 0 < (lookup.factor : K) := by
  cases lookup <;> norm_num [Lookup.factor]

/-- Half a bracket is less than the radius. -/
theorem factor_lt_two (lookup : Lookup) : (lookup.factor : K) < 2 := by
  cases lookup <;> norm_num [Lookup.factor]

/-- A range around `centre`, half of `width` on either side. -/
theorem range_contains {centre width x : K} :
    Range.contains ⟨.finite centre - .finite width / .finite 2,
        .finite centre + .finite width / .finite 2⟩ x = true ↔ |x - centre| ≤ width / 2 := by
  have hTwo : (.finite width / .finite 2 : Number K) = .finite (width / 2) :=
    Number.finite_div two_ne_zero
  rw [hTwo]
  show (decide (centre + -(width / 2) ≤ x) && decide (x ≤ centre + width / 2)) = true ↔ _
  rw [Bool.and_eq_true, decide_eq_true_eq, decide_eq_true_eq, abs_le]
  refine and_congr ?_ ?_
  · rw [le_sub_iff_add_le, add_comm, neg_add_eq_sub, sub_eq_add_neg]
  · rw [sub_le_iff_le_add, add_comm]

theorem latdiff_finite (radius : K) : latdiff (.finite radius) = .finite (radius / 110.574) :=
  Number.finite_div (by norm_num)

/-- A degree of longitude has a length where the cosine is not 0. -/
theorem degree_pos {cos : K → K} {lat : K} (hCos : cos lat ≠ 0) : 0 < 111.32 * |cos lat| := by
  have hAbs : 0 < |cos lat| := abs_pos.mpr hCos
  positivity

/-- What a bracket of finite width contains, in kilometres. -/
theorem contains_iff_of_cos_ne_zero (cos : K → K) {lat long radius x y : K} (hCos : cos lat ≠ 0) :
    (bracket cos (.finite lat) (.finite long) (.finite radius)).contains x y = true ↔
      |x - lat| * 110.574 ≤ radius / 2 ∧ |y - long| * (111.32 * |cos lat|) ≤ radius / 2 := by
  have hDegree : (0 : K) < 110.574 := by norm_num
  have hPos := degree_pos hCos
  have hLong : longdiff cos (.finite lat) (.finite radius) =
      .finite (radius / (111.32 * |cos lat|)) := Number.finite_div (ne_of_gt hPos)
  unfold Bracket.contains bracket
  rw [Bool.and_eq_true, latdiff_finite, hLong, range_contains, range_contains, div_right_comm,
    le_div_iff₀ hDegree, div_right_comm, le_div_iff₀ hPos]

/-- **What a bracket contains**, in kilometres: north and south the given
radius reaches half as far as it says; east and west the cosine decides. -/
theorem contains_iff (cos : K → K) {lat long radius x y : K} (hRadius : 0 < radius) :
    (bracket cos (.finite lat) (.finite long) (.finite radius)).contains x y = true ↔
      |x - lat| * 110.574 ≤ radius / 2 ∧ |y - long| * (111.32 * |cos lat|) ≤ radius / 2 := by
  rcases eq_or_ne (cos lat) 0 with hZero | hCos
  · -- an infinite range of longitudes
    have hDegree : (0 : K) < 110.574 := by norm_num
    unfold Bracket.contains bracket
    rw [Bool.and_eq_true, latdiff_finite, range_contains]
    refine and_congr ?_ ?_
    · rw [div_right_comm, le_div_iff₀ hDegree]
    · rw [longdiff_eq_div, hZero, abs_zero, mul_zero, mul_zero, Number.finite_div_zero hRadius,
        Number.posInfinity_div zero_le_two]
      exact iff_of_true rfl (by positivity)
  · exact contains_iff_of_cos_ne_zero cos hCos

/-- A bracket is empty, or contains its centre, by the sign of the radius; NaN
makes it empty. -/
theorem contains_ge (cos : K → K) {lat long x y : K} {radius : Number K} (hCos : cos lat ≠ 0)
    (h : (bracket cos (.finite lat) (.finite long) radius).contains x y = true) :
    radius.ge 0 = true := by
  have hDegree : (0 : K) ≤ 110.574 := by norm_num
  cases radius with
  | NaN => cases h
  | finite r =>
    rw [contains_iff_of_cos_ne_zero cos hCos] at h
    have hHalf : 0 ≤ r / 2 := (by positivity : 0 ≤ |x - lat| * 110.574).trans h.1
    rw [Number.ge, decide_eq_true_eq]
    linarith
  | posInfinity => rfl
  | negInfinity =>
    unfold bracket at h
    rw [latdiff, Number.negInfinity_div hDegree, Number.negInfinity_div zero_le_two] at h
    cases h

/-- The centre is in the bracket exactly if the radius is not below 0. -/
theorem contains_centre_iff (cos : K → K) {lat long : K} (radius : Number K) (hCos : cos lat ≠ 0) :
    (bracket cos (.finite lat) (.finite long) radius).contains lat long = true ↔
      radius.ge 0 = true := by
  refine ⟨contains_ge cos hCos, fun h => ?_⟩
  cases radius with
  | NaN => cases h
  | finite r =>
    rw [Number.ge, decide_eq_true_eq] at h
    rw [contains_iff_of_cos_ne_zero cos hCos, sub_self, sub_self, abs_zero, zero_mul, zero_mul]
    exact ⟨div_nonneg h zero_le_two, div_nonneg h zero_le_two⟩
  | posInfinity =>
    have hDegree : (0 : K) ≤ 110.574 := by norm_num
    unfold bracket
    rw [latdiff, longdiff_eq_div, Number.posInfinity_div hDegree,
      Number.posInfinity_div (degree_pos hCos).le, Number.posInfinity_div zero_le_two]
    rfl
  | negInfinity => cases h

end Contains

end PriceMap.Backend
