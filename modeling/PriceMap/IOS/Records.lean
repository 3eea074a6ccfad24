import PriceMap.Common.Json

/-!
# iOS — records, responses and what is drawn of them

The model classes `PostCode` and `Crime` with the decoding Swift synthesises
for them, `Networking.performNetworkTask`, and the two things the map draws of
a record: its marker and its point on the heatmap.
-/

namespace PriceMap.IOS

-- ---------------------------------------------------------------------------
-- Records
-- ---------------------------------------------------------------------------

structure PostCode where
  price : Option String
  postcode : Option String
  latitude : Option String
  longitude : Option String
  deriving DecidableEq, Repr

structure Location where
  latitude : Option String
  longitude : Option String
  deriving DecidableEq, Repr

structure Crime where
  location : Option Location
  deriving DecidableEq, Repr

-- ---------------------------------------------------------------------------
-- Decoding
-- ---------------------------------------------------------------------------

/-- `decodeIfPresent` of an optional property: an absent or null member is
`nil`, a member that does not decode rejects the whole value. -/
def decodeIfPresent {α : Type} (decode : Json → Option α) (members : List (String × Json))
    (name : String) : Option (Option α) :=
  match Json.member members name with
  | none | some .null => some none
  | some value => (decode value).map some

def decodeString : Json → Option String
  | .str s => some s
  | _ => none

/-- A keyed container: anything but an object is rejected. -/
def decodeKeyed {α : Type} (decode : List (String × Json) → Option α) : Json → Option α
  | .obj members => decode members
  | _ => none

def decodeArray {α : Type} (decode : Json → Option α) : Json → Option (List α)
  | .arr elements => elements.mapM decode
  | _ => none

def decodePostCode : Json → Option PostCode :=
  decodeKeyed fun members => do
    let price ← decodeIfPresent decodeString members "price"
    let postcode ← decodeIfPresent decodeString members "postcode"
    let latitude ← decodeIfPresent decodeString members "latitude"
    let longitude ← decodeIfPresent decodeString members "longitude"
    return ⟨price, postcode, latitude, longitude⟩

def decodeLocation : Json → Option Location :=
  decodeKeyed fun members => do
    let latitude ← decodeIfPresent decodeString members "latitude"
    let longitude ← decodeIfPresent decodeString members "longitude"
    return ⟨latitude, longitude⟩

def decodeCrime : Json → Option Crime :=
  decodeKeyed fun members => do
    let location ← decodeIfPresent decodeLocation members "location"
    return ⟨location⟩

section DecodeArray

variable {α β : Type} {decode : Json → Option α}

/-- An array decodes if all its elements do. -/
theorem decodeArray_some {encode : β → Json} {f : β → α} {xs : List β}
    (h : ∀ x ∈ xs, decode (encode x) = some (f x)) :
    decodeArray decode (.arr (xs.map encode)) = some (xs.map f) := by
  show (xs.map encode).mapM decode = _
  induction xs with
  | nil => rfl
  | cons x rest ih =>
    have hRest := ih fun y hy => h y (List.mem_cons_of_mem _ hy)
    rw [List.map_cons, List.mapM_cons, h x (List.mem_cons_self ..), hRest]
    rfl

/-- One element that does not decode rejects the whole array. -/
theorem decodeArray_none {elements : List Json} {v : Json} (hv : v ∈ elements)
    (h : decode v = none) : decodeArray decode (.arr elements) = none := by
  show elements.mapM decode = none
  induction elements with
  | nil => cases hv
  | cons x rest ih =>
    rw [List.mapM_cons]
    rcases List.mem_cons.mp hv with rfl | hRest
    · rw [h]
      rfl
    · rw [ih hRest]
      cases decode x <;> rfl

/-- What is decoded, element by element. -/
theorem forall₂_of_decodeArray {elements : List Json} {xs : List α}
    (h : decodeArray decode (.arr elements) = some xs) :
    List.Forall₂ (fun v x => decode v = some x) elements xs := by
  change elements.mapM decode = some xs at h
  induction elements generalizing xs with
  | nil =>
    obtain rfl : [] = xs := by simpa using h
    exact .nil
  | cons v rest ih =>
    rw [List.mapM_cons] at h
    obtain ⟨x, hx, hRest⟩ := Option.bind_eq_some_iff.mp h
    obtain ⟨ys, hys, hEq⟩ := Option.bind_eq_some_iff.mp hRest
    obtain rfl : x :: ys = xs := Option.some.inj hEq
    exact .cons hx (ih hys)

end DecodeArray

-- ---------------------------------------------------------------------------
-- Networking
-- ---------------------------------------------------------------------------

/-- What a data task ends with. A body that is no JSON is `some none`. -/
structure Reply where
  data : Option (Option Json)
  /-- whether the response is an `HTTPURLResponse` -/
  isHTTPURLResponse : Bool
  /-- whether there is a transport error -/
  error : Bool

/-- How `performNetworkTask` calls its completion. -/
inductive Completion (α : Type) where
  | response (value : α)
  | error
  /-- with neither a response nor an error -/
  | nothing
  | notCalled

/-- `Networking.performNetworkTask`, once its data task ends. -/
def performNetworkTask {α : Type} (decode : Json → Option α) (reply : Reply) : Completion α :=
  if reply.error then .error
  else
    match reply.data with
    | none => .nothing
    | some body =>
      match body.bind decode with
      | some decoded => .response decoded
      | none => if reply.isHTTPURLResponse then .error else .notCalled

-- ---------------------------------------------------------------------------
-- Markers and heatmap points
-- ---------------------------------------------------------------------------

inductive Marker where
  | PlaceMarker (postCode : PostCode)
  | CrimeMarker (crime : Crime)
  deriving DecidableEq, Repr

structure Coordinate where
  latitude : ℚ
  longitude : ℚ
  deriving DecidableEq, Repr

structure GMUWeightedLatLng where
  coordinate : Coordinate
  intensity : ℚ
  deriving DecidableEq, Repr

def truncatingRemainder (x y : ℚ) : ℚ :=
  x - y * (if 0 ≤ x / y then ⌊x / y⌋ else ⌈x / y⌉)

/-- The point `deployMarkerAndHeatmapForProperty` appends for a record, if any. -/
def weightedPostCode (postCode : PostCode) : Option GMUWeightedLatLng := do
  let latitude ← postCode.latitude
  let lat ← parseDecimal latitude
  let longitude ← postCode.longitude
  let long ← parseDecimal longitude
  let priceString ← postCode.price
  let price := (parseDecimal priceString).getD 0
  return ⟨⟨lat, long⟩, truncatingRemainder price 10⟩

/-- The point `deployMarkerAndHeatmapForCrime` appends for a record, if any. -/
def weightedCrime (crime : Crime) : Option GMUWeightedLatLng := do
  let location ← crime.location
  let latitude ← location.latitude
  let longitude ← location.longitude
  let lat ← parseDecimal latitude
  let long ← parseDecimal longitude
  return ⟨⟨lat, long⟩, 1⟩

end PriceMap.IOS
