import PriceMap.Backend.PriceService
import PriceMap.Backend.PricesRequest

/-!
# Backend — from a path to an answer

`server.js` hands the requests under `/api` to the routes of `apiRoutes.js`.
Express is not part of the repository: it is a parameter, with what its
documentation says of a path that fits one of these routes. A segment that
stands for a parameter is decoded before the controller gets it.

* `get_pcprices`, `get_addresses` — the controllers get what the segments of a
  path carry.
-/

namespace PriceMap.Backend

-- ---------------------------------------------------------------------------
-- Decoding a segment
-- ---------------------------------------------------------------------------

/-- The byte of `%XX`. -/
def hexByte (a b : Char) : Option ℕ :=
  (digitValue a).bind fun x => (digitValue b).map fun y => 16 * x + y

/-- The number that escaped bytes continue, and what follows them. -/
def continuation : ℕ → ℕ → List Char → Option (ℕ × List Char)
  | 0, code, cs => some (code, cs)
  | n + 1, code, '%' :: a :: b :: cs => do
    let byte ← hexByte a b
    if 0x80 ≤ byte ∧ byte < 0xC0 then continuation n (64 * code + (byte - 0x80)) cs else none
  | _ + 1, _, _ => none

/-- The character whose first byte in UTF-8 is `byte`, and what follows it. -/
def escaped (byte : ℕ) (cs : List Char) : Option (Char × List Char) := do
  if byte < 0x80 then return (Char.ofNat byte, cs)
  let (least, code, rest) ←
    if 0xC0 ≤ byte ∧ byte < 0xE0 then (continuation 1 (byte - 0xC0) cs).map (0x80, ·)
    else if 0xE0 ≤ byte ∧ byte < 0xF0 then (continuation 2 (byte - 0xE0) cs).map (0x800, ·)
    else if 0xF0 ≤ byte ∧ byte < 0xF8 then (continuation 3 (byte - 0xF0) cs).map (0x10000, ·)
    else none
  if least ≤ code ∧ code.isValidChar then return (Char.ofNat code, rest) else none

/-- `decodeURIComponent`, where each round reads a character at least. -/
def decodeFrom : ℕ → List Char → Option (List Char)
  | _, [] => some []
  | 0, _ => none
  | n + 1, '%' :: a :: b :: cs => do
    let byte ← hexByte a b
    let (c, rest) ← escaped byte cs
    let decoded ← decodeFrom n rest
    return c :: decoded
  | _ + 1, '%' :: _ => none
  | n + 1, c :: cs => (decodeFrom n cs).map (c :: ·)

def decodeURIComponent (segment : List Char) : Option String :=
  (decodeFrom segment.length segment).map String.ofList

/-- A character that is no escape is kept. -/
theorem decodeFrom_cons {c : Char} (hc : c ≠ '%') (n : ℕ) (cs : List Char) :
    decodeFrom (n + 1) (c :: cs) = (decodeFrom n cs).map (c :: ·) := by
  rw [decodeFrom]
  · intro a b rest hPercent
    exact absurd hPercent hc
  · exact hc

/-- The characters of a segment that are no delimiters of a URL. -/
def pathChar (c : Char) : Bool := c.isAlphanum || c ∈ ['-', '.', '_', '~', '+', '%']

/-- A segment of a path that reaches its controller as `s`. -/
structure Carries (segment : List Char) (s : String) : Prop where
  nonempty : segment ≠ []
  chars : ∀ c ∈ segment, pathChar c = true
  decoded : decodeURIComponent segment = some s

-- ---------------------------------------------------------------------------
-- The routes
-- ---------------------------------------------------------------------------

/-- The controllers of `apiController.js` that answer a `GET`. -/
inductive Handler where
  | getPricesAtAround
  | getAveragePrice
  | getPostcodeData
  | getPostcodes
  deriving DecidableEq, Repr

/-- `router.get(path, handler)`. -/
structure Route where
  path : String
  handler : Handler

def apiRoutes : List Route :=
  [⟨"/pcprices/:lat/:long", .getPricesAtAround⟩,
    ⟨"/pcprices/:lat/:long/:radius", .getPricesAtAround⟩,
    ⟨"/average/:postcode", .getAveragePrice⟩,
    ⟨"/addresses/:postcode", .getPostcodeData⟩,
    ⟨"/postcodes/:lat/:long", .getPostcodes⟩]

/-- A part of the path of a route. -/
inductive Part where
  | fixed (name : List Char)
  | param (name : String)

def Part.read : List Char → Part
  | ':' :: name => .param (String.ofList name)
  | name => .fixed name

def Route.parts (route : Route) : List Part :=
  (route.path.toList.splitOn '/').tail.map .read

/-- `req.params`. -/
abbrev Params := List (String × String)

/-- One segment for each part; a fixed one in whatever case. -/
def fits : List Part → List (List Char) → Bool
  | [], [] => true
  | .fixed name :: parts, segment :: segments =>
    segment.map Char.toLower = name.map Char.toLower && fits parts segments
  | .param _ :: parts, _ :: segments => fits parts segments
  | _, _ => false

/-- What the segments carry for the parameters. -/
def captured : List Part → List (List Char) → Option Params
  | .param name :: parts, segment :: segments => do
    let value ← decodeURIComponent segment
    let params ← captured parts segments
    return (name, value) :: params
  | .fixed _ :: parts, _ :: segments => captured parts segments
  | _, _ => some []

/-- A path below `/api`. -/
def pathOf (segments : List (List Char)) : String :=
  String.ofList (['/'].intercalate ([] :: "api".toList :: segments))

/-- Express with the routes mounted at `/api`: the controller a `GET` of a path
reaches with its `req.params`, or the status of a page that Express makes up. -/
structure Express where
  dispatch : String → Except ℕ (Handler × Params)
  /-- The first route that fits gets the decoded parameters. -/
  dispatch_first : ∀ (segments : List (List Char)) (route : Route) (params : Params),
    (∀ segment ∈ segments, segment ≠ [] ∧ ∀ c ∈ segment, pathChar c = true) →
    apiRoutes.find? (fun r => fits r.parts segments) = some route →
    captured route.parts segments = some params →
    dispatch (pathOf segments) = .ok (route.handler, params)

-- ---------------------------------------------------------------------------
-- Express by its documentation
-- ---------------------------------------------------------------------------

/-- No route is answered with 404, an encoding that is none with 400. -/
def firstRoute (path : String) : Except ℕ (Handler × Params) :=
  match path.toList.splitOn '/' with
  | [] :: api :: segments =>
    if api = "api".toList then
      match apiRoutes.find? fun route => fits route.parts segments with
      | some route => ((captured route.parts segments).map fun params =>
          (route.handler, params)).elim (.error 400) .ok
      | none => .error 404
    else .error 404
  | _ => .error 404

/-- A path of plain segments is dispatched by its segments. -/
theorem firstRoute_pathOf {segments : List (List Char)}
    (hChars : ∀ segment ∈ segments, segment ≠ [] ∧ ∀ c ∈ segment, pathChar c = true)
    {route : Route} (hRoute : apiRoutes.find? (fun r => fits r.parts segments) = some route)
    {params : Params} (hParams : captured route.parts segments = some params) :
    firstRoute (pathOf segments) = .ok (route.handler, params) := by
  have hSplit : (['/'].intercalate ([] :: "api".toList :: segments)).splitOn '/' =
      [] :: "api".toList :: segments := by
    refine List.splitOn_intercalate '/' (fun segment hSegment => ?_) (List.cons_ne_nil _ _)
    rcases List.mem_cons.mp hSegment with rfl | hRest
    · exact List.not_mem_nil
    · rcases List.mem_cons.mp hRest with rfl | hMem
      · decide
      · exact fun hSlash => absurd ((hChars segment hMem).2 '/' hSlash) (by decide)
  rw [firstRoute, pathOf, String.toList_ofList, hSplit]
  dsimp only
  rw [if_pos rfl, hRoute]
  dsimp only
  rw [hParams]
  rfl

def documentedExpress : Express where
  dispatch := firstRoute
  dispatch_first _ _ _ hChars hRoute hParams := firstRoute_pathOf hChars hRoute hParams

-- ---------------------------------------------------------------------------
-- The controllers
-- ---------------------------------------------------------------------------

/-- A member of an object that is sent; `JSON.stringify` leaves out undefined
ones. -/
def definedMember (name : String) (value : Value) : List (String × Json) :=
  value.toList.map fun v => (name, v)

def Transaction.members (newItem : Transaction) : List (String × Json) :=
  definedMember "pricePaid" newItem.pricePaid ++
    (definedMember "propertyAddress" newItem.propertyAddress ++
      definedMember "transactionDate" newItem.transactionDate)

/-- `getPostcodeData` of `services/apiService.js`. -/
def getPostcodeData (node : Node) (postcode : String) : Except JsError (List Transaction) :=
  getAllFromPostcode node (node.toUpperCase postcode)

/-- What the controllers rest on. -/
structure Server (ε : Type*) where
  express : Express
  models : Models ℝ ε
  /-- `postcodeDataModel.find({ _id })` -/
  findPostcode : String → Except ε (List (Document Decimal))
  node : Node
  /-- `getPostcodesNearAround` of `services/postcodeService.js`, which asks
  another site -/
  getPostcodesNearAround : String → String → Except ε Json

variable {ε : Type*}

/-- `getPostCode` of `services/dbService.js`. -/
def getPostCode (server : Server ε) (postcode : String) : Except ε (Option (Document Decimal)) :=
  (server.findPostcode (server.node.toUpperCase postcode)).map List.head?

/-- `getAveragePrice` of `services/apiService.js`. -/
def getAveragePrice (server : Server ε) (postcode : String) : Except ε StoredPrice :=
  (getPostCode server postcode).map fun pcData =>
    match pcData with
    | none => .string "No data"
    | some pcData => pcData.Average_price

/-- `JSON.stringify` of a price; nothing is sent of an undefined one. -/
def StoredPrice.body : StoredPrice → Body
  | .absent => .message ""
  | .null => .json .null
  | .number q => .json (.num q)
  | .string s => .json (.str s)

namespace ApiController

def getPostcodeData (node : Node) (postcode : Option String) : Response :=
  match postcode with
  | none => ⟨400, .message "Postcode argument missing"⟩
  | some postcode =>
    match Backend.getPostcodeData node postcode with
    | .ok data => ⟨200, .json (.arr (data.map fun newItem => .obj newItem.members))⟩
    | .error _ => ⟨500, .message "Error getting addresses"⟩

def getAveragePrice (server : Server ε) (postcode : Option String) : Response :=
  match postcode with
  | none => ⟨400, .message "Postcode argument missing"⟩
  | some postcode =>
    match Backend.getAveragePrice server postcode with
    | .ok data => ⟨200, data.body⟩
    | .error _ => ⟨500, .message "Error getting average"⟩

def getPostcodes (server : Server ε) (lat long : Option String) : Response :=
  match lat, long with
  | some lat, some long =>
    match server.getPostcodesNearAround lat long with
    | .ok data => ⟨200, .json data⟩
    | .error _ => ⟨500, .message "Error getting postcodes"⟩
  | _, _ => ⟨400, .message "Lat or long arguments missing"⟩

end ApiController

-- ---------------------------------------------------------------------------
-- The server
-- ---------------------------------------------------------------------------

/-- A controller, from `req.params`. -/
noncomputable def Server.handle (server : Server ε) (params : Params) : Handler → Response
  | .getPricesAtAround =>
    ApiController.getPricesAtAround (dbService Real.cos server.models)
      ((params.lookup "lat").map fun s => (parseFloatOfString s).toReal)
      ((params.lookup "long").map fun s => (parseFloatOfString s).toReal)
      ((params.lookup "radius").map fun s => (numberOfString s).toReal)
  | .getAveragePrice => ApiController.getAveragePrice server (params.lookup "postcode")
  | .getPostcodeData => ApiController.getPostcodeData server.node (params.lookup "postcode")
  | .getPostcodes => ApiController.getPostcodes server (params.lookup "lat") (params.lookup "long")

/-- The answer to a `GET`, or the status of a page that Express makes up. -/
noncomputable def Server.get (server : Server ε) (path : String) : Except ℕ Response :=
  (server.express.dispatch path).map fun (handler, params) => server.handle params handler

/-- A path of plain segments is answered by the route that fits. -/
theorem Server.get_pathOf (server : Server ε) {segments : List (List Char)} {route : Route}
    {params : Params}
    (hChars : ∀ segment ∈ segments, segment ≠ [] ∧ ∀ c ∈ segment, pathChar c = true)
    (hRoute : apiRoutes.find? (fun r => fits r.parts segments) = some route)
    (hParams : captured route.parts segments = some params) :
    server.get (pathOf segments) = .ok (server.handle params route.handler) := by
  rw [Server.get, server.express.dispatch_first segments route params hChars hRoute hParams]
  rfl

variable {lat long radius postcode : String}
  {latSegment longSegment radiusSegment segment : List Char}

theorem pathChars_named {name : List Char} (hne : name ≠ [])
    (hName : name.all pathChar = true) : name ≠ [] ∧ ∀ c ∈ name, pathChar c = true :=
  ⟨hne, List.all_eq_true.mp hName⟩

/-- **A price request gets what its segments carry.** -/
theorem get_pcprices (server : Server ε) (hLat : Carries latSegment lat)
    (hLong : Carries longSegment long) (hRadius : Carries radiusSegment radius) :
    server.get (pathOf ["pcprices".toList, latSegment, longSegment, radiusSegment]) =
      .ok (respond server.models ⟨lat, long, some radius⟩) := by
  have hChars : ∀ x ∈ ["pcprices".toList, latSegment, longSegment, radiusSegment],
      x ≠ [] ∧ ∀ c ∈ x, pathChar c = true := by
    simp only [List.mem_cons, List.not_mem_nil, or_false]
    rintro x (rfl | rfl | rfl | rfl)
    · exact pathChars_named (by decide) (by decide)
    · exact ⟨hLat.nonempty, hLat.chars⟩
    · exact ⟨hLong.nonempty, hLong.chars⟩
    · exact ⟨hRadius.nonempty, hRadius.chars⟩
  have hRoute : apiRoutes.find? (fun r =>
      fits r.parts ["pcprices".toList, latSegment, longSegment, radiusSegment]) =
      some ⟨"/pcprices/:lat/:long/:radius", .getPricesAtAround⟩ := rfl
  have hParams : captured (Route.parts ⟨"/pcprices/:lat/:long/:radius", .getPricesAtAround⟩)
      ["pcprices".toList, latSegment, longSegment, radiusSegment] =
      some [("lat", lat), ("long", long), ("radius", radius)] := by
    show captured [.fixed _, .param "lat", .param "long", .param "radius"] _ = _
    simp only [captured, hLat.decoded, hLong.decoded, hRadius.decoded]
    rfl
  exact server.get_pathOf hChars hRoute hParams

/-- **A request for addresses gets the postcode its segment carries.** -/
theorem get_addresses (server : Server ε) (hPostcode : Carries segment postcode) :
    server.get (pathOf ["addresses".toList, segment]) =
      .ok (ApiController.getPostcodeData server.node (some postcode)) := by
  have hChars : ∀ x ∈ ["addresses".toList, segment], x ≠ [] ∧ ∀ c ∈ x, pathChar c = true := by
    simp only [List.mem_cons, List.not_mem_nil, or_false]
    rintro x (rfl | rfl)
    · exact pathChars_named (by decide) (by decide)
    · exact ⟨hPostcode.nonempty, hPostcode.chars⟩
  have hRoute : apiRoutes.find? (fun r => fits r.parts ["addresses".toList, segment]) =
      some ⟨"/addresses/:postcode", .getPostcodeData⟩ := rfl
  have hParams : captured (Route.parts ⟨"/addresses/:postcode", .getPostcodeData⟩)
      ["addresses".toList, segment] = some [("postcode", postcode)] := by
    show captured [.fixed _, .param "postcode"] _ = _
    simp only [captured, hPostcode.decoded]
    rfl
  exact server.get_pathOf hChars hRoute hParams

end PriceMap.Backend
