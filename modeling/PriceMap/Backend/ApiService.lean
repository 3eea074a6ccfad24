import PriceMap.Backend.DbService
import PriceMap.Common.Numerals

/-!
# Backend — prices around a point

`services/apiService.js` answers a request for prices around a point at one of
four resolutions, chosen by comparing the radius of the URL with 1, 90 and 40,
and `controllers/apiController.js` sends the answer. Stored coordinates are
finite numbers, taken as the decimals they print as.

* `level_eq_getPostCodes` — unit postcodes are served below 1 km, and to
  requests without a radius.
* `getPricesAtAround_eq` — every level is answered by its lookup, each document
  by its record.
-/

namespace PriceMap.Backend

variable {K : Type*} [Field K] [LinearOrder K]

/-- The lookup `getPricesAtAround` chooses. -/
def level (radius : Radius K) : Lookup :=
  if radius.toNumber.lt 1 || radius.isNone then .getPostCodes
  else if radius.toNumber.gt 90 then .getAreas
  else if radius.toNumber.gt 40 then .getDistricts
  else .getSectors

/-- **Unit postcodes are served below 1 km.** -/
theorem level_eq_getPostCodes (radius : Radius K) :
    level radius = .getPostCodes ↔ radius = none ∨ radius.toNumber.lt 1 = true := by
  unfold level
  cases radius with
  | none => simp
  | some n =>
    by_cases hOne : n.lt 1 = true
    · simp [Radius.toNumber, hOne]
    · simp only [Radius.toNumber, Option.getD_some, hOne, Option.isNone_some, reduceCtorEq,
        Bool.or_false, or_self, iff_false, Bool.false_eq_true, if_false]
      by_cases hAreas : n.gt 90 = true
      · simp [hAreas]
      · by_cases hDistricts : n.gt 40 = true <;> simp [hAreas, hDistricts]

/-- A finite radius gets unit postcodes exactly if it is below 1 km. -/
theorem level_finite (x : K) : level (some (.finite x)) = .getPostCodes ↔ x < 1 := by
  rw [level_eq_getPostCodes]
  simp [Radius.toNumber, Number.lt]

-- ---------------------------------------------------------------------------
-- The records of a price map
-- ---------------------------------------------------------------------------

/-- `dbService`, as far as its callers see it: a lookup may also fail. -/
abbrev DbService (K ε : Type*) :=
  Lookup → Number K → Number K → Radius K → Except ε (List (Document Decimal))

/-- The members of a property; `JSON.stringify` leaves out undefined ones. -/
def StoredPrice.members (name : String) : StoredPrice → List (String × Json)
  | .absent => []
  | .null => [(name, .null)]
  | .number q => [(name, .num q)]
  | .string s => [(name, .str s)]

/-- `{ price, postcode, latitude, longitude }` of a document, as it is sent. The
coordinates are converted to strings, the price is not. -/
def priceMembers (postcode : Document Decimal) : List (String × Json) :=
  postcode.Average_price.members "price" ++
    [("postcode", .str postcode._id), ("latitude", .str postcode.Latitude.text),
      ("longitude", .str postcode.Longitude.text)]

def priceRecord (postcode : Document Decimal) : Json := .obj (priceMembers postcode)

def getPricesAtAround {ε : Type*} (dbService : DbService K ε) (lat long : Number K)
    (radius : Radius K) : Except ε (List Json) := do
  if radius.toNumber.lt 1 || radius.isNone then
    let postcodes ← dbService .getPostCodes lat long radius
    return postcodes.map priceRecord
  else if radius.toNumber.gt 90 then
    let postcodes ← dbService .getAreas lat long radius
    return postcodes.map priceRecord
  else if radius.toNumber.gt 40 then
    let postcodes ← dbService .getDistricts lat long radius
    return postcodes.map priceRecord
  else
    let postcodes ← dbService .getSectors lat long radius
    return postcodes.map priceRecord

/-- One query, of the lookup for the level, and its rows in order. -/
theorem getPricesAtAround_eq {ε : Type*} (dbService : DbService K ε) (lat long : Number K)
    (radius : Radius K) :
    getPricesAtAround dbService lat long radius =
      (dbService (level radius) lat long radius).map (List.map priceRecord) := by
  unfold getPricesAtAround level
  split
  · rfl
  · split
    · rfl
    · split <;> rfl

-- ---------------------------------------------------------------------------
-- The controller
-- ---------------------------------------------------------------------------

/-- What `res.send` is given: a message, or the text of a JSON value. -/
inductive Body where
  | message (s : String)
  | json (value : Json)

structure Response where
  status : ℕ
  body : Body

namespace ApiController

/-- `getPricesAtAround` of `controllers/apiController.js`. -/
def getPricesAtAround {ε : Type*} (dbService : DbService K ε) (lat long : Option (Number K))
    (radius : Radius K) : Response :=
  match lat, long with
  | some lat, some long =>
    match Backend.getPricesAtAround dbService lat long radius with
    | .ok prices => ⟨200, .json (.arr prices)⟩
    | .error _ => ⟨500, .message "Error getting prices"⟩
  | _, _ => ⟨400, .message "Lat or long arguments missing"⟩

end ApiController

end PriceMap.Backend
