import PriceMap.IOS.Records
import PriceMap.Lib.Runs

/-!
# iOS — the map view controller

`MapViewController` as one state and one step function. Three kinds of code
run, each to its end before the next: handlers of the user's actions and of the
location manager, blocks of the main queue, in the order in which they were
dispatched, and completions of network requests, which run off the main queue
and at any time.

* `emptyArrays` dispatches a block that clears everything and then starts the
  request (`Block.emptyArrays`).
* `deployMarkerAndHeatmapFor…` only dispatches the block that draws; what it
  draws is what the record arrays hold when that block runs.
* Requests are never cancelled.

`issued` and `answer` record which request is the newest and what it was
answered; no handler reads them.
-/

namespace PriceMap.IOS

-- ---------------------------------------------------------------------------
-- Requests and blocks
-- ---------------------------------------------------------------------------

inductive Source where
  | property
  | crime
  deriving DecidableEq, Repr

/-- A call of one of the two fetchers, with what its completion does. -/
inductive Fetch where
  /-- `getPropertyData`; the completion dispatches the deploy function -/
  | getPropertyData (lat long radius : ℚ)
  /-- `getCrimeData`; the completion calls the deploy function (`direct`, from
  `toggleDataTapped`) or dispatches it -/
  | getCrimeData (lat long : ℚ) (direct : Bool)
  deriving DecidableEq, Repr

def Fetch.source : Fetch → Source
  | .getPropertyData .. => .property
  | .getCrimeData .. => .crime

/-- A data task; `id` counts them in the order in which they are started. -/
structure Request where
  id : ℕ
  fetch : Fetch
  deriving DecidableEq, Repr

/-- The blocks dispatched to the main queue. -/
inductive Block where
  /-- the block of `emptyArrays`, whose completion starts a request -/
  | emptyArrays (completion : Fetch)
  | deployMarkerAndHeatmapForProperty
  | deployMarkerAndHeatmapForCrime
  /-- the blocks inside the two deploy functions -/
  | drawPostCodes
  | drawCrimes
  /-- the blocks of `toggleViewTapped` -/
  | showPostCodes
  | showCrimes
  deriving DecidableEq, Repr

/-- The records of a response. -/
inductive Records where
  | property (postCodes : List PostCode)
  | crime (crimes : List Crime)
  deriving DecidableEq, Repr

def Records.markers : Records → List Marker
  | .property postCodes => postCodes.map .PlaceMarker
  | .crime crimes => crimes.map .CrimeMarker

-- ---------------------------------------------------------------------------
-- The controller
-- ---------------------------------------------------------------------------

structure GMUHeatmapTileLayer where
  weightedData : List GMUWeightedLatLng
  /-- whether its `map` is the map view -/
  map : Bool
  deriving DecidableEq, Repr

structure GMSMapView where
  /-- whether `clear()` takes tile layers off the map with the rest of the markup,
  which its documentation leaves open -/
  clearsTileLayers : Bool
  deriving DecidableEq, Repr

structure MapViewController where
  mapView : GMSMapView
  postCodes : List PostCode
  crimes : List Crime
  list : List GMUWeightedLatLng
  crimeList : List GMUWeightedLatLng
  isDataRequestSent : Bool
  isCrime : Bool
  currentRadius : ℚ
  /-- the selected segment: 0 is Property, 1 is Crime -/
  toggleDataControl : ℕ
  /-- the selected segment: 0 is Markers, 1 is Heatmap -/
  toggleViewControl : ℕ
  heatmapLayer : GMUHeatmapTileLayer
  /-- the markers on the map view -/
  markers : List Marker
  isAnimating : Bool
  alerts : List String
  mainQueue : List Block
  outstanding : List Request
  issued : List Request
  answer : Option Records
  deriving DecidableEq, Repr

/-- What the map view reports: `getCenterCoordinate()` and
`getRadius() / 1000`. -/
structure Viewport where
  center : Coordinate
  radius : ℚ
  deriving DecidableEq, Repr

namespace MapViewController

def viewDidLoad (mapView : GMSMapView) : MapViewController where
  mapView
  postCodes := []
  crimes := []
  list := []
  crimeList := []
  isDataRequestSent := false
  isCrime := false
  currentRadius := 0
  toggleDataControl := 0
  toggleViewControl := 0
  heatmapLayer := ⟨[], false⟩
  markers := []
  isAnimating := true
  alerts := []
  mainQueue := []
  outstanding := []
  issued := []
  answer := none

-- ---------------------------------------------------------------------------
-- Shared pieces
-- ---------------------------------------------------------------------------

def async (block : Block) (s : MapViewController) : MapViewController :=
  { s with mainQueue := s.mainQueue ++ [block] }

/-- `mapView.clear()`. -/
def clear (s : MapViewController) : MapViewController :=
  { s with
    markers := []
    heatmapLayer := { s.heatmapLayer with
      map := s.heatmapLayer.map && !s.mapView.clearsTileLayers } }

def prepareViewForUpdate (s : MapViewController) : MapViewController :=
  clear { s with
    isAnimating := true
    toggleViewControl := 0
    heatmapLayer := { s.heatmapLayer with map := false } }

/-- `performNetworkTask` up to `urlSession.resume()`. -/
def resume (fetch : Fetch) (s : MapViewController) : MapViewController :=
  let r : Request := ⟨s.issued.length, fetch⟩
  { s with outstanding := s.outstanding ++ [r], issued := r :: s.issued, answer := none }

def showAlert (s : MapViewController) : MapViewController :=
  { s with alerts := s.alerts ++
    ["We are currently experiencing some problems with our backend, please try again later."] }

-- ---------------------------------------------------------------------------
-- Actions
-- ---------------------------------------------------------------------------

def refreshTapped (view : Viewport) (s : MapViewController) : MapViewController :=
  let s := prepareViewForUpdate { s with currentRadius := view.radius }
  if !s.isCrime then
    s.async (.emptyArrays
      (.getPropertyData view.center.latitude view.center.longitude view.radius))
  else
    s.async (.emptyArrays (.getCrimeData view.center.latitude view.center.longitude false))

/-- `toggleDataTapped`, after the control has moved to `index`. -/
def toggleDataTapped (index : ℕ) (view : Viewport) (s : MapViewController) :
    MapViewController :=
  let s := prepareViewForUpdate
    { s with toggleDataControl := index, currentRadius := view.radius }
  if index = 0 then
    async (.emptyArrays
      (.getPropertyData view.center.latitude view.center.longitude view.radius))
      { s with isCrime := false }
  else if index = 1 then
    async (.emptyArrays (.getCrimeData view.center.latitude view.center.longitude true))
      { s with isCrime := true }
  else s

/-- `toggleViewTapped`, after the control has moved to `index`. -/
def toggleViewTapped (index : ℕ) (s : MapViewController) : MapViewController :=
  let s := { s with toggleViewControl := index, isAnimating := true }
  let s :=
    if index = 0 then
      let s := { s with heatmapLayer := { s.heatmapLayer with map := false } }
      if !s.isCrime then s.async .showPostCodes else s.async .showCrimes
    else if index = 1 then
      { s.clear with heatmapLayer := ⟨if !s.isCrime then s.list else s.crimeList, true⟩ }
    else s
  { s with isAnimating := false }

/-- `placePicker(_:didPick:)`. -/
def didPick (place : Coordinate) (s : MapViewController) : MapViewController :=
  async (.emptyArrays (.getPropertyData place.latitude place.longitude 0.30))
    { s.prepareViewForUpdate with currentRadius := 0.30, toggleDataControl := 0 }

/-- `locationManager(_:didUpdateLocations:)` with at least one location. -/
def didUpdateLocations (location : Coordinate) (s : MapViewController) : MapViewController :=
  if !s.isDataRequestSent then
    resume (.getPropertyData location.latitude location.longitude 0.1)
      { s with isDataRequestSent := true }
  else s

-- ---------------------------------------------------------------------------
-- Completions
-- ---------------------------------------------------------------------------

def record (r : Request) (records : Records) (s : MapViewController) : MapViewController :=
  { s with answer := if s.issued.head? = some r then some records else s.answer }

/-- The completion of `getPropertyData`. -/
def propertyCompletion (r : Request) (reply : Reply) (s : MapViewController) :
    MapViewController :=
  match performNetworkTask (decodeArray decodePostCode) reply with
  | .error => s.showAlert
  | .response propResponse =>
    (record r (.property propResponse) { s with postCodes := propResponse }).async
      .deployMarkerAndHeatmapForProperty
  | .nothing | .notCalled => s

/-- The completion of `getCrimeData`. -/
def crimeCompletion (r : Request) (direct : Bool) (reply : Reply) (s : MapViewController) :
    MapViewController :=
  match performNetworkTask (decodeArray decodeCrime) reply with
  | .error => { s.showAlert with isAnimating := false }
  | .response crimeResponse =>
    (record r (.crime crimeResponse) { s with crimes := crimeResponse }).async
      (if direct then .drawCrimes else .deployMarkerAndHeatmapForCrime)
  | .nothing | .notCalled => s

def completed (r : Request) (reply : Reply) (s : MapViewController) : MapViewController :=
  let s := { s with outstanding := s.outstanding.filter (· ≠ r) }
  match r.fetch with
  | .getPropertyData .. => s.propertyCompletion r reply
  | .getCrimeData _ _ direct => s.crimeCompletion r direct reply

-- ---------------------------------------------------------------------------
-- Main-queue blocks
-- ---------------------------------------------------------------------------

/-- The block of `emptyArrays`. -/
def emptyArrays (completion : Fetch) (s : MapViewController) : MapViewController :=
  resume completion (clear { s with postCodes := [], crimes := [], crimeList := [], list := [] })

/-- The block of `deployMarkerAndHeatmapForProperty`. -/
def drawPostCodes (s : MapViewController) : MapViewController :=
  let list := s.list ++ s.postCodes.filterMap weightedPostCode
  { s with
    markers := s.markers ++ s.postCodes.map .PlaceMarker
    list := list
    isAnimating := false
    heatmapLayer := { s.heatmapLayer with weightedData := list } }

/-- The block of `deployMarkerAndHeatmapForCrime`. -/
def drawCrimes (s : MapViewController) : MapViewController :=
  { s with
    markers := s.markers ++ s.crimes.map .CrimeMarker
    crimeList := s.crimeList ++ s.crimes.filterMap weightedCrime
    isAnimating := false }

def run : Block → MapViewController → MapViewController
  | .emptyArrays completion, s => s.emptyArrays completion
  | .deployMarkerAndHeatmapForProperty, s => s.async .drawPostCodes
  | .deployMarkerAndHeatmapForCrime, s => s.async .drawCrimes
  | .drawPostCodes, s => s.drawPostCodes
  | .drawCrimes, s => s.drawCrimes
  | .showPostCodes, s => { s with markers := s.markers ++ s.postCodes.map .PlaceMarker }
  | .showCrimes, s => { s with markers := s.markers ++ s.crimes.map .CrimeMarker }

end MapViewController

-- ---------------------------------------------------------------------------
-- The step system
-- ---------------------------------------------------------------------------

inductive Event where
  | refreshTapped (view : Viewport)
  | toggleDataTapped (index : ℕ) (view : Viewport)
  | toggleViewTapped (index : ℕ)
  | didPick (place : Coordinate)
  | didUpdateLocations (location : Coordinate)
  | completed (r : Request) (reply : Reply)
  /-- the next block of the main queue runs -/
  | runMain

namespace MapViewController

/-- One step of the controller. A segmented control, which has two segments,
fires when its index changes, an outstanding request completes, the main queue
runs its first block. -/
def step (s : MapViewController) : Event → Option MapViewController
  | .refreshTapped view => some (s.refreshTapped view)
  | .toggleDataTapped index view =>
    if index < 2 ∧ index ≠ s.toggleDataControl then some (s.toggleDataTapped index view) else none
  | .toggleViewTapped index =>
    if index < 2 ∧ index ≠ s.toggleViewControl then some (s.toggleViewTapped index) else none
  | .didPick place => some (s.didPick place)
  | .didUpdateLocations location => some (s.didUpdateLocations location)
  | .completed r reply =>
    if r ∈ s.outstanding then some (s.completed r reply) else none
  | .runMain =>
    match s.mainQueue with
    | [] => none
    | block :: rest => some (run block { s with mainQueue := rest })

end MapViewController

abbrev Move := Lib.Transition MapViewController Event

/-- The run of the controller on a list of events, from `viewDidLoad` on. -/
abbrev moves (mapView : GMSMapView) (events : List Event) : List Move :=
  Lib.transitions MapViewController.step (.viewDidLoad mapView) events

abbrev visited (mapView : GMSMapView) (events : List Event) : List MapViewController :=
  Lib.states MapViewController.step (.viewDidLoad mapView) events

end PriceMap.IOS
