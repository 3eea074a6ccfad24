import Mathlib.Data.List.Infix
import PriceMap.Backend.Averages
import PriceMap.Backend.Search

/-!
# Backend — requests for prices as they come in

The routes `/pcprices/:lat/:long` and `/pcprices/:lat/:long/:radius` hand the
segments of the path to the controller as strings. Nobody looks at the radius
before it is compared with numbers, which converts it, and multiplied.

* `answered_iff` — a request is answered with an error, or from a bracket
  around its point, if and only if its radius reads as a number from 0 on, or
  the database fails the query.
* `respond_empty` — every other request that is answered gets an empty list.
-/

namespace PriceMap.Backend

variable {ε : Type*}

-- ---------------------------------------------------------------------------
-- Reading the parameters
-- ---------------------------------------------------------------------------

/-- A decimal numeral, or the name of an infinity. -/
def numeralValue (cs : List Char) : Option (Number ℚ) :=
  match parseDecimal (String.ofList cs) with
  | some q => some (.finite q)
  | none =>
    if cs = "Infinity".toList ∨ cs = "+Infinity".toList then some .posInfinity
    else if cs = "-Infinity".toList then some .negInfinity
    else none

/-- `parseFloat(s)` reads the longest numeral at the start of a string. -/
def parseFloatOfString (s : String) : Number ℚ :=
  ((s.toList.dropWhile whiteSpace).inits.reverse.findSome? numeralValue).getD .NaN

def Number.toReal : Number ℚ → Number ℝ
  | .NaN => .NaN
  | .finite q => .finite q
  | .posInfinity => .posInfinity
  | .negInfinity => .negInfinity

/-- `req.params` of the two routes. -/
structure PricesParams where
  lat : String
  long : String
  /-- absent on the route without a radius -/
  radius : Option String

namespace PricesParams

variable (params : PricesParams)

def latNumber : Number ℝ := (parseFloatOfString params.lat).toReal

def longNumber : Number ℝ := (parseFloatOfString params.long).toReal

/-- What the comparisons and the lookups read the radius as. -/
def toRadius : Radius ℝ := params.radius.map fun s => (numberOfString s).toReal

/-- The bracket handed to `find`. -/
noncomputable def searched : Bracket ℝ :=
  Backend.searched Real.cos params.latNumber params.longNumber params.toRadius

/-- `radius >= 0`. -/
def RadiusNonneg : Prop := ∃ s ∈ params.radius, (numberOfString s).ge 0 = true

/-- The database fails the query of this request. -/
def Fails (models : Models ℝ ε) : Prop :=
  ∃ e, models (level params.toRadius) params.searched = .error e

end PricesParams

/-- The answer to a request that reaches the controller. -/
noncomputable def respond (models : Models ℝ ε) (params : PricesParams) : Response :=
  ApiController.getPricesAtAround (dbService Real.cos models) (some params.latNumber)
    (some params.longNumber) params.toRadius

-- ---------------------------------------------------------------------------
-- Brackets around their point
-- ---------------------------------------------------------------------------

/-- The request for the point is answered with an error, or the bracket handed
to `find` contains the point. -/
def Answered (models : Models ℝ ε) (params : PricesParams) (x y : ℝ) : Prop :=
  400 ≤ (respond models params).status ∨ params.searched.contains x y = true

variable {params : PricesParams} {models : Models ℝ ε} {x y : ℚ}

/-- Comparing with 0 does not depend on the numbers being real. -/
theorem ge_toReal (n : Number ℚ) : n.toReal.ge 0 = n.ge 0 := by
  cases n with
  | finite q => simp [Number.toReal, Number.ge]
  | _ => rfl

/-- Scaling keeps the sign. -/
theorem ge_scaled (lookup : Lookup) (n : Number ℝ) : (lookup.scaled n).ge 0 = n.ge 0 := by
  cases n with
  | NaN => cases lookup <;> rfl
  | finite r =>
    rw [Lookup.scaled_finite, Number.ge, Number.ge, decide_eq_decide]
    exact mul_nonneg_iff_of_pos_right (factor_pos lookup)
  | posInfinity =>
    have hScaled : (.posInfinity * .finite 1.5 : Number ℝ) = .posInfinity :=
      Number.posInfinity_mul (by norm_num)
    cases lookup <;> simp [Lookup.scaled, hScaled, Number.ge]
  | negInfinity =>
    have hScaled : (.negInfinity * .finite 1.5 : Number ℝ) = .negInfinity :=
      Number.negInfinity_mul (by norm_num)
    cases lookup <;> simp [Lookup.scaled, hScaled, Number.ge]

/-- The radius that is searched has the sign of the one that was sent. -/
theorem ge_toRadius :
    ((level params.toRadius).scaled params.toRadius.toNumber).ge 0 = true ↔
      params.RadiusNonneg := by
  rw [ge_scaled]
  unfold PricesParams.toRadius PricesParams.RadiusNonneg Radius.toNumber
  cases params.radius with
  | none => simp [Number.ge]
  | some s => simp [ge_toReal]

/-- A latitude that parses is that number. -/
theorem latNumber_eq (hLat : parseFloatOfString params.lat = .finite x) :
    params.latNumber = .finite (x : ℝ) := by
  rw [PricesParams.latNumber, hLat]
  rfl

/-- A longitude that parses is that number. -/
theorem longNumber_eq (hLong : parseFloatOfString params.long = .finite y) :
    params.longNumber = .finite (y : ℝ) := by
  rw [PricesParams.longNumber, hLong]
  rfl

/-- The point asked for is searched exactly if the radius is not below 0. -/
theorem searched_centre_iff (hLat : parseFloatOfString params.lat = .finite x)
    (hLong : parseFloatOfString params.long = .finite y) :
    params.searched.contains x y = true ↔ params.RadiusNonneg := by
  rw [PricesParams.searched, latNumber_eq hLat, longNumber_eq hLong, searched,
    contains_centre_iff Real.cos _ (cos_ratCast_ne_zero x), ge_toRadius]

/-- Any other radius makes a bracket with nothing in it. -/
theorem searched_empty (hLat : parseFloatOfString params.lat = .finite x)
    (hLong : parseFloatOfString params.long = .finite y) (hRadius : ¬ params.RadiusNonneg)
    (x' y' : ℝ) : params.searched.contains x' y' = false := by
  rw [PricesParams.searched, latNumber_eq hLat, longNumber_eq hLong, searched,
    Bool.eq_false_iff]
  exact fun h => hRadius (ge_toRadius.mp (contains_ge Real.cos (cos_ratCast_ne_zero x) h))

/-- A request makes one query, and fails as it does. -/
theorem respond_eq :
    respond models params =
      match models (level params.toRadius) params.searched with
      | .ok documents => ⟨200, .json (.arr (documents.map priceRecord))⟩
      | .error _ => ⟨500, .message "Error getting prices"⟩ := by
  simp only [respond, ApiController.getPricesAtAround, getPricesAtAround_dbService,
    PricesParams.searched]
  cases models (level params.toRadius)
    (searched Real.cos params.latNumber params.longNumber params.toRadius) <;> rfl

/-- An error status is a failure of the database. -/
theorem respond_error_iff : 400 ≤ (respond models params).status ↔ params.Fails models := by
  rw [respond_eq, PricesParams.Fails]
  cases models (level params.toRadius) params.searched <;> simp

/-- A database that answers a request with such a radius answers an empty
list, whatever it stores. -/
theorem respond_empty (db : Collections Decimal) (value : Decimal → ℝ)
    (hLat : parseFloatOfString params.lat = .finite x)
    (hLong : parseFloatOfString params.long = .finite y) (hRadius : ¬ params.RadiusNonneg) :
    respond (db.models value) params = ⟨200, .json (.arr [])⟩ := by
  have hNone : find value params.searched ((level params.toRadius).collection db) = [] := by
    rw [find, List.filter_eq_nil_iff]
    intro d _
    rw [searched_empty hLat hLong hRadius]
    exact Bool.false_ne_true
  rw [respond_eq]
  simp [Collections.models, hNone]

/-- **Answered, if the radius is one.** -/
theorem answered_iff (models : Models ℝ ε) (params : PricesParams) (x y : ℚ)
    (hLat : parseFloatOfString params.lat = .finite x)
    (hLong : parseFloatOfString params.long = .finite y) :
    Answered models params x y ↔ params.RadiusNonneg ∨ params.Fails models := by
  rw [Answered, respond_error_iff, searched_centre_iff hLat hLong, or_comm]

/-- A postcode at the point that is asked for. -/
def oneStored : Collections Decimal where
  postcodeData := [⟨"BN1 7JJ", .ofParts 508 (-1), .ofParts (-1) (-1), .string "285000"⟩]
  sector := []
  district := []
  area := []

/-- A radius of -5. -/
theorem answered_fails :
    ¬ ∀ (models : Models ℝ Empty) (params : PricesParams) (x y : ℚ),
      parseFloatOfString params.lat = .finite x → parseFloatOfString params.long = .finite y →
      Answered models params x y := by
  intro h
  have hLat : parseFloatOfString "50.8" = .finite 50.8 := by decide +kernel
  have hLong : parseFloatOfString "-0.1" = .finite (-0.1) := by decide +kernel
  have hAnswered := h (oneStored.models fun d => d.value) ⟨"50.8", "-0.1", some "-5"⟩ _ _ hLat hLong
  rcases hAnswered with hError | hContains
  · obtain ⟨e, -⟩ := respond_error_iff.mp hError
    exact e.elim
  · have hCentre := @searched_centre_iff ⟨"50.8", "-0.1", some "-5"⟩ _ _ hLat hLong
    obtain ⟨s, hs, hGe⟩ := hCentre.mp hContains
    obtain rfl : "-5" = s := Option.some.inj hs
    exact absurd hGe (by decide +kernel)

theorem answered_iff_half :
    Answered (oneStored.models fun d => d.value) ⟨"50.8", "-0.1", some "0.5"⟩ (50.8 : ℚ)
        (-0.1 : ℚ) ↔
      PricesParams.RadiusNonneg ⟨"50.8", "-0.1", some "0.5"⟩ ∨
        PricesParams.Fails ⟨"50.8", "-0.1", some "0.5"⟩ (oneStored.models fun d => d.value) :=
  answered_iff (oneStored.models fun d => d.value) ⟨"50.8", "-0.1", some "0.5"⟩ _ _
    (by decide +kernel) (by decide +kernel)

end PriceMap.Backend
