import PriceMap.Common.Json
import PriceMap.Lib.InFlight

/-!
# Android — the connections to the two data sources

`MapsScreen/Model` of the Android app: the marker and address objects, the
parsing of the three kinds of answers, and the Volley queues the requests
travel on.

`ServerConnection` asks the price backend and `PoliceDataConnection` the
police API. Every connection object creates a Volley queue of its own, so a
connection is also the channel of its requests, and `cancelAll(tag)` reaches
only the requests of one connection with one tag. Of Volley nothing else is
used: a request in flight is answered, fails, or is cancelled.
-/

namespace PriceMap.Android

-- ---------------------------------------------------------------------------
-- Java's `double`
-- ---------------------------------------------------------------------------

/-- A `double`; finite values are not rounded. -/
inductive Double where
  | finite (q : ℚ)
  | infinity (negative : Bool)
  | NaN
  deriving DecidableEq, Repr

namespace Double

instance : Neg Double where
  neg
    | .finite q => .finite (-q)
    | .infinity negative => .infinity !negative
    | .NaN => .NaN

/-- `x <= y`, which NaN fails on either side. -/
def le : Double → Double → Bool
  | .NaN, _ | _, .NaN => false
  | .finite p, .finite q => p ≤ q
  | .infinity negative, .finite _ => negative
  | .finite _, .infinity negative => !negative
  | .infinity negative, .infinity negative' => negative || !negative'

instance : LE Double := ⟨fun x y => x.le y⟩
instance : LT Double := ⟨fun x y => x.le y && !y.le x⟩
instance : DecidableLE Double := fun x y => inferInstanceAs (Decidable (x.le y = true))
instance : DecidableLT Double :=
  fun x y => inferInstanceAs (Decidable ((x.le y && !y.le x) = true))

/-- Numbers compare as they do. -/
theorem finite_le_finite {p q : ℚ} : finite p ≤ finite q ↔ p ≤ q := decide_eq_true_iff

end Double

-- ---------------------------------------------------------------------------
-- Reading `org.json`
-- ---------------------------------------------------------------------------

inductive JSONException where
  | noValue (name : String)
  | typeMismatch
  deriving DecidableEq, Repr

def hexDigit (c : Char) : Option ℕ :=
  if c.isDigit then some (c.toNat - '0'.toNat)
  else if 'a' ≤ c ∧ c ≤ 'f' then some (c.toNat - 'a'.toNat + 10)
  else if 'A' ≤ c ∧ c ≤ 'F' then some (c.toNat - 'A'.toNat + 10)
  else none

def hexDigitsValue (ds : List Char) : Option ℕ :=
  if ds.isEmpty then none else ds.foldlM (fun n d => (hexDigit d).map (16 * n + ·)) 0

/-- `0x`, hexadecimal digits, perhaps with a point, and the binary exponent that
a hexadecimal numeral must have. -/
def hexValue : List Char → Option ℚ
  | '0' :: 'x' :: cs | '0' :: 'X' :: cs => do
    let isP := fun c : Char => c = 'p' ∨ c = 'P'
    let digits := cs.takeWhile fun c => ¬ isP c
    let whole := digits.takeWhile (· ≠ '.')
    let frac := (digits.dropWhile (· ≠ '.')).drop 1
    let n ← hexDigitsValue (whole ++ frac)
    match cs.dropWhile fun c => ¬ isP c with
    | [] => none
    | _ :: expo =>
      let e ← signedValue (fun ds => (digitsValue ds).map Int.ofNat) expo
      return n / 16 ^ frac.length * 2 ^ e
  | _ => none

/-- A numeral, which a type suffix may follow. -/
def numeral (cs : List Char) : Option Double :=
  (parseDecimal (String.ofList cs) <|> signedValue hexValue cs).map .finite

def specialValue (cs : List Char) : Option Double :=
  if cs = "Infinity".toList then some (.infinity false)
  else if cs = "NaN".toList then some .NaN
  else none

/-- `Double.valueOf`: surrounding blanks are allowed. -/
def doubleValueOf (s : String) : Option Double :=
  let cs := (s.toList.dropWhile (· ≤ ' ')).reverse.dropWhile (· ≤ ' ')
  match cs with
  | c :: rest =>
    if c = 'd' ∨ c = 'D' ∨ c = 'f' ∨ c = 'F' then numeral rest.reverse
    else numeral cs.reverse <|> signedValue specialValue cs.reverse
  | [] => none

example : doubleValueOf " -0x1.8p1f " = some (.finite (-3)) ∧ doubleValueOf "NaN" = some .NaN := by
  decide +kernel

def get (o : List (String × Json)) (name : String) : Except JSONException Json :=
  match Json.member o name with
  | some v => .ok v
  | none => .error (.noValue name)

/-- `JSONObject.getDouble`: numbers, and strings that read as one. -/
def getDouble (o : List (String × Json)) (name : String) : Except JSONException Double := do
  match ← get o name with
  | .num q => return .finite q
  | .str s =>
    match doubleValueOf s with
    | some d => return d
    | none => throw .typeMismatch
  | _ => throw .typeMismatch

/-- `JSONObject.getString`: any present value is coerced. -/
def getString (o : List (String × Json)) (name : String) : Except JSONException String := do
  match ← get o name with
  | .str s => return s
  | v => return v.text

/-- The cast behind `JSONArray.getJSONObject` and `JSONObject.getJSONObject`. -/
def asJSONObject : Json → Except JSONException (List (String × Json))
  | .obj o => .ok o
  | _ => .error .typeMismatch

def getJSONObject (o : List (String × Json)) (name : String) :
    Except JSONException (List (String × Json)) := do
  asJSONObject (← get o name)

/-- `try { … } catch (JSONException e) { default }`. -/
def orElse {α : Type} (x : Except JSONException α) (default : α) : α :=
  match x with
  | .ok a => a
  | .error _ => default

-- ---------------------------------------------------------------------------
-- Markers and addresses
-- ---------------------------------------------------------------------------

def groupDigits (n : ℕ) : String :=
  String.ofList (List.intercalate [','] ((toString n).toList.reverse.toChunks 3)).reverse

/-- `String.format(Locale.UK, "%,.2f", d)`. -/
def formatUK : Double → String
  | .finite q =>
    let cents := ⌊|q| * 100 + 1 / 2⌋₊
    let rest := toString (cents % 100)
    (if q < 0 then "-" else "") ++ groupDigits (cents / 100) ++ "." ++
      (if cents % 100 < 10 then "0" ++ rest else rest)
  | .infinity negative => if negative then "-Infinity" else "Infinity"
  | .NaN => "NaN"

/-- `PostCodeMarker.POLICE_MARKER` and `PostCodeMarker.HOUSE_MARKER`. -/
inductive MarkerType where
  | POLICE_MARKER
  | HOUSE_MARKER
  deriving DecidableEq, Repr

structure PostCodeMarker where
  lat : Double
  lon : Double
  price : Double
  postcode : String
  type : MarkerType
  deriving DecidableEq

namespace PostCodeMarker

def getTitle (m : PostCodeMarker) : String := m.postcode

/-- The text the constructor computes for the info window. -/
def getSnippet (m : PostCodeMarker) : String :=
  match m.type with
  | .HOUSE_MARKER =>
    if .finite 0 < m.price then "Average price: £" ++ formatUK m.price else "Unknown average price."
  | .POLICE_MARKER => "Occurred within the last month."

end PostCodeMarker

structure AdressInfo where
  address : String
  price : String
  date : String
  deriving DecidableEq

-- ---------------------------------------------------------------------------
-- Parsing an answer
--
-- The three loops run over the array, cast each element to an object outside
-- every inner `try` and append one entry to the list they were handed.
-- ---------------------------------------------------------------------------

/-- The loop the three parsers share: the list is filled as far as the first
element that throws. -/
def parseLoop {β : Type} (entry : List (String × Json) → β) :
    List Json → List β → List β × Except JSONException Unit
  | [], list => (list, .ok ())
  | element :: rest, list =>
    match asJSONObject element with
    | .error e => (list, .error e)
    | .ok o => parseLoop entry rest (list ++ [entry o])

/-- `ServerConnection.parseMarkerResponse`, the body of its loop. -/
def markerEntry (postcodeData : List (String × Json)) : PostCodeMarker :=
  let price := orElse (getDouble postcodeData "price") (.finite 0)
  let postcode := orElse (getString postcodeData "postcode") "Unknown"
  let position := orElse (do
    let lat ← getDouble postcodeData "latitude"
    let lon ← getDouble postcodeData "longitude"
    return (lat, lon)) (.finite 0, .finite 0)
  ⟨position.1, position.2, price, postcode, .HOUSE_MARKER⟩

/-- `PoliceDataConnection.parseApiResponse`, the body of its loop. -/
def crimeEntry (postcodeData : List (String × Json)) : PostCodeMarker :=
  let position := orElse (do
    let locObject ← getJSONObject postcodeData "location"
    let lat ← getDouble locObject "latitude"
    let lon ← getDouble locObject "longitude"
    return (lat, lon)) (.finite 0, .finite 0)
  let category := orElse (getString postcodeData "category") "Unknown Crime"
  ⟨position.1, position.2, .finite 1, category, .POLICE_MARKER⟩

/-- `ServerConnection.parsePostcodeResponse`, the body of its loop. The town
is read first, in the same `try` as the address. -/
def addressEntry (postcodeData : List (String × Json)) : AdressInfo :=
  let townAddress := orElse (do
    let propAddrObject ← getJSONObject postcodeData "propertyAddress"
    let town ← getString propAddrObject "town"
    let paon ← getString propAddrObject "paon"
    let street ← getString propAddrObject "street"
    return (town, paon ++ " " ++ street)) ("Unknown", "Unknown")
  let price := orElse (do
    let pricePaid ← getDouble postcodeData "pricePaid"
    return "£" ++ formatUK pricePaid) "unknown"
  let transactionDate := orElse (getString postcodeData "transactionDate") "Unknown"
  ⟨townAddress.2, price, transactionDate⟩

/-- The `onResponse` listeners: the parsed list for the success callback, or
the message for `onResponseError`. -/
def onResponse {β : Type} (entry : List (String × Json) → β) (response : List Json) :
    Except String (List β) :=
  match parseLoop entry response [] with
  | (list, .ok _) => .ok list
  | (_, .error _) => .error "The backend server produced an error."

/-- The message of the `onErrorResponse` listeners. -/
def notReachable : String := "The backend server was not reachable."

/-- The loop only appends entries of elements. -/
theorem parseLoop_ok {β : Type} {entry : List (String × Json) → β} :
    ∀ {response : List Json} {list list' : List β},
      parseLoop entry response list = (list', .ok ()) →
      ∀ b ∈ list', b ∈ list ∨ ∃ o, b = entry o := by
  intro response
  induction response with
  | nil =>
    intro list list' h b hb
    simp only [parseLoop, Prod.mk.injEq, and_true] at h
    exact Or.inl (h ▸ hb)
  | cons element rest ih =>
    intro list list' h b hb
    rw [parseLoop] at h
    split at h
    · simp at h
    · next o _ =>
      rcases ih h b hb with hOld | hNew
      · rcases List.mem_append.mp hOld with hOld | hLast
        · exact Or.inl hOld
        · exact Or.inr ⟨o, List.mem_singleton.mp hLast⟩
      · exact Or.inr hNew

/-- Whatever is handed over is the entry of an element. -/
theorem onResponse_ok {β : Type} {entry : List (String × Json) → β} {response : List Json}
    {list : List β} (h : onResponse entry response = .ok list) :
    ∀ b ∈ list, ∃ o, b = entry o := by
  unfold onResponse at h
  split at h
  · next l _ hLoop =>
    have hl : l = list := by simpa using h
    subst hl
    intro b hb
    rcases parseLoop_ok hLoop b hb with hNil | hEntry
    · exact absurd hNil (List.not_mem_nil)
    · exact hEntry
  · simp at h

/-- A loop over objects makes an entry of each, in order. -/
theorem parseLoop_objects {β : Type} (entry : List (String × Json) → β)
    (objects : List (List (String × Json))) (list : List β) :
    parseLoop entry (objects.map .obj) list = (list ++ objects.map entry, .ok ()) := by
  induction objects generalizing list with
  | nil => simp [parseLoop]
  | cons o rest ih =>
    show parseLoop entry (rest.map .obj) (list ++ [entry o]) = _
    rw [ih, List.append_assoc]
    rfl

/-- An array of objects is answered with one entry for each, in order. -/
theorem onResponse_objects {β : Type} (entry : List (String × Json) → β)
    (objects : List (List (String × Json))) :
    onResponse entry (objects.map .obj) = .ok (objects.map entry) := by
  rw [onResponse, parseLoop_objects]
  rfl

-- ---------------------------------------------------------------------------
-- Connections, requests and queues
-- ---------------------------------------------------------------------------

/-- The two implementations of `MapsContract.Model`. -/
inductive Kind where
  | ServerConnection
  | PoliceDataConnection
  deriving DecidableEq, Repr

def Kind.markerType : Kind → MarkerType
  | .ServerConnection => .HOUSE_MARKER
  | .PoliceDataConnection => .POLICE_MARKER

/-- The loop body with which this kind of connection parses a marker answer. -/
def Kind.entry : Kind → List (String × Json) → PostCodeMarker
  | .ServerConnection => markerEntry
  | .PoliceDataConnection => crimeEntry

/-- Either parser makes markers of one type. -/
@[simp] theorem Kind.entry_type (k : Kind) (o : List (String × Json)) :
    (k.entry o).type = k.markerType := by
  cases k <;> rfl

/-- A connection object; `id` tells the objects apart, in order of creation. -/
structure Connection where
  id : ℕ
  kind : Kind
  deriving DecidableEq, Repr

/-- A marker request; `id` counts all marker requests, over all queues, in the
order in which they are issued. Its URL is `pcprices/lat/lon/radius` on the
backend and `?lat=lat&lng=lon` on the police API. -/
structure MarkerRequest where
  id : ℕ
  connection : Connection
  lat : ℚ
  lon : ℚ
  /-- in kilometres -/
  radius : ℚ
  deriving DecidableEq

structure AddressRequest where
  id : ℕ
  connection : Connection
  postcode : String
  deriving DecidableEq

def MarkerRequest.tag (r : MarkerRequest) : String :=
  match r.connection.kind with
  | .ServerConnection => "marker"
  | .PoliceDataConnection => "policemarker"

def AddressRequest.tag (_ : AddressRequest) : String := "address"

/-- All Volley queues. `markers` and `addresses` are the requests in flight;
`issuedMarkers` and `issuedAddresses` record every request ever added, newest
first. -/
structure Volley where
  created : ℕ
  markers : List MarkerRequest
  addresses : List AddressRequest
  issuedMarkers : List MarkerRequest
  issuedAddresses : List AddressRequest
  deriving DecidableEq

namespace Volley

def newest (v : Volley) : Option MarkerRequest := v.issuedMarkers.head?

def cancelAll (c : Connection) (tag : String) (v : Volley) : Volley :=
  { v with
    markers := v.markers.filter fun r => ¬ (r.connection = c ∧ r.tag = tag)
    addresses := v.addresses.filter fun r => ¬ (r.connection = c ∧ r.tag = tag) }

def markerRequest (c : Connection) (lat lon radius : ℚ) (v : Volley) : MarkerRequest :=
  ⟨v.issuedMarkers.length, c, lat, lon, radius⟩

def addressRequest (c : Connection) (postcode : String) (v : Volley) : AddressRequest :=
  ⟨v.issuedAddresses.length, c, postcode⟩

def addMarker (r : MarkerRequest) (v : Volley) : Volley :=
  { v with markers := v.markers ++ [r], issuedMarkers := r :: v.issuedMarkers }

def addAddress (r : AddressRequest) (v : Volley) : Volley :=
  { v with addresses := v.addresses ++ [r], issuedAddresses := r :: v.issuedAddresses }

/-- `markerJsonParse` of either connection: cancel the older marker requests
of this connection, then add the new one. -/
def markerJsonParse (c : Connection) (lat lon radius : ℚ) (v : Volley) : Volley :=
  match c.kind with
  | .ServerConnection =>
    (v.cancelAll c "marker").addMarker (v.markerRequest c lat lon radius)
  | .PoliceDataConnection =>
    (v.cancelAll c "policemarker").addMarker (v.markerRequest c lat lon radius)

/-- `postcodeJsonParse`. The police connection does nothing. -/
def postcodeJsonParse (c : Connection) (postcode : String) (v : Volley) : Volley :=
  match c.kind with
  | .ServerConnection =>
    (v.cancelAll c "address").addAddress (v.addressRequest c postcode)
  | .PoliceDataConnection => v

/-- `Volley.newRequestQueue` in the constructor of a connection. -/
def newConnection (kind : Kind) (v : Volley) : Connection × Volley :=
  (⟨v.created, kind⟩, { v with created := v.created + 1 })

/-- A marker request leaves its queue: answered or failed. -/
def finishMarker (r : MarkerRequest) (v : Volley) : Volley :=
  { v with markers := v.markers.filter (· ≠ r) }

def finishAddress (r : AddressRequest) (v : Volley) : Volley :=
  { v with addresses := v.addresses.filter (· ≠ r) }

-- ---------------------------------------------------------------------------
-- What the queue operations do
-- ---------------------------------------------------------------------------

variable {v : Volley} {c : Connection} {kind : Kind} {lat lon radius : ℚ} {postcode : String}

/-- A request cancels those of its connection. -/
theorem markers_markerJsonParse :
    (v.markerJsonParse c lat lon radius).markers =
      Lib.supersede MarkerRequest.connection (v.markerRequest c lat lon radius) v.markers := by
  have hFilter : ∀ tag, (∀ r : MarkerRequest, r.connection = c → r.tag = tag) →
      (v.cancelAll c tag).markers = v.markers.filter fun r => r.connection ≠ c := by
    intro tag hTag
    refine List.filter_congr fun r _ => ?_
    by_cases hc : r.connection = c
    · simp [hc, hTag r hc]
    · simp [hc]
  unfold markerJsonParse Lib.supersede
  split
  · next hk =>
    rw [addMarker, hFilter "marker" (fun r hr => by simp [MarkerRequest.tag, hr, hk])]
    rfl
  · next hk =>
    rw [addMarker, hFilter "policemarker" (fun r hr => by simp [MarkerRequest.tag, hr, hk])]
    rfl

/-- A request is remembered. -/
@[simp] theorem issuedMarkers_markerJsonParse :
    (v.markerJsonParse c lat lon radius).issuedMarkers =
      v.markerRequest c lat lon radius :: v.issuedMarkers := by
  unfold markerJsonParse
  split <;> rfl

/-- The latest request is the newest. -/
@[simp] theorem newest_markerJsonParse :
    (v.markerJsonParse c lat lon radius).newest = some (v.markerRequest c lat lon radius) := by
  simp [newest]

@[simp] theorem created_markerJsonParse :
    (v.markerJsonParse c lat lon radius).created = v.created := by
  unfold markerJsonParse
  split <;> rfl

@[simp] theorem addresses_markerJsonParse :
    (v.markerJsonParse c lat lon radius).addresses = v.addresses := by
  unfold markerJsonParse
  split <;> simp [addMarker, cancelAll, AddressRequest.tag]

@[simp] theorem issuedAddresses_markerJsonParse :
    (v.markerJsonParse c lat lon radius).issuedAddresses = v.issuedAddresses := by
  unfold markerJsonParse
  split <;> rfl

@[simp] theorem markers_postcodeJsonParse :
    (v.postcodeJsonParse c postcode).markers = v.markers := by
  unfold postcodeJsonParse
  split
  · refine List.filter_eq_self.mpr fun r _ => ?_
    have hTag : r.tag ≠ "address" := by
      unfold MarkerRequest.tag
      split <;> decide
    simp [hTag]
  · rfl

@[simp] theorem issuedMarkers_postcodeJsonParse :
    (v.postcodeJsonParse c postcode).issuedMarkers = v.issuedMarkers := by
  unfold postcodeJsonParse
  split <;> rfl

@[simp] theorem created_postcodeJsonParse :
    (v.postcodeJsonParse c postcode).created = v.created := by
  unfold postcodeJsonParse
  split <;> rfl

/-- A lookup cancels those of its connection. -/
theorem addresses_postcodeJsonParse (hKind : c.kind = .ServerConnection) :
    (v.postcodeJsonParse c postcode).addresses =
      Lib.supersede AddressRequest.connection (v.addressRequest c postcode) v.addresses := by
  have hFilter : (v.cancelAll c "address").addresses =
      v.addresses.filter fun r => r.connection ≠ c :=
    List.filter_congr fun r _ => by simp [AddressRequest.tag]
  simp only [postcodeJsonParse, hKind, addAddress, hFilter]
  rfl

/-- The police connection looks nothing up. -/
theorem postcodeJsonParse_police (hKind : c.kind = .PoliceDataConnection) :
    v.postcodeJsonParse c postcode = v := by
  simp [postcodeJsonParse, hKind]

end Volley

end PriceMap.Android
