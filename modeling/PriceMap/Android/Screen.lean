import Mathlib.Algebra.Order.AbsoluteValue.Basic
import PriceMap.Android.Connections
import PriceMap.Lib.Runs

/-!
# Android — the map screen

`MapsActivity`, `MapsPresenter`, `BottomSheetView` and `BottomSheetPresenter`
as one state and one step function. Every handler runs to its end on the main
thread, so one event is one step.

* The camera moves on its own (`cameraMoved`: gestures and animations); the
  app only hears of it through `onCameraIdle`.
* `mMap` and `mClusterManager` are null until `onMapReady`. A handler that
  dereferences one of them earlier throws, and an uncaught exception kills the
  process: such an event has no successor state.
* The cluster manager and the map are synchronous. Which of the cluster items
  are rendered as markers of their own (the others are inside cluster icons)
  is decided by the clustering library and is a parameter, as is the geodesic
  distance of the location library.

Markers remember the request whose answer created them (`DrawnMarker.origin`),
overlays the markers they were built from, and the sheet the request its list
answers. No handler reads these three.
-/

namespace PriceMap.Android

-- ---------------------------------------------------------------------------
-- What the screen is made of
-- ---------------------------------------------------------------------------

structure LatLng where
  latitude : ℚ
  longitude : ℚ
  deriving DecidableEq

structure CameraPosition where
  target : LatLng
  zoom : ℚ
  tilt : ℚ
  bearing : ℚ
  deriving DecidableEq

structure VisibleRegion where
  farLeft : LatLng
  farRight : LatLng
  nearLeft : LatLng
  nearRight : LatLng
  deriving DecidableEq

structure DrawnMarker extends PostCodeMarker where
  origin : MarkerRequest
  deriving DecidableEq

/-- A point at the position of a marker. -/
structure WeightedLatLng where
  latLng : Double × Double
  intensity : Double
  deriving DecidableEq

/-- The constructor of `WeightedLatLng` replaces intensities that are not from 0
on by 1. -/
def weightedLatLng (latLng : Double × Double) (intensity : Double) : WeightedLatLng :=
  ⟨latLng, if .finite 0 ≤ intensity then intensity else .finite 1⟩

structure TileOverlay where
  source : List DrawnMarker
  weightedData : List WeightedLatLng
  radius : ℕ
  deriving DecidableEq

structure GoogleMap where
  cameraPosition : CameraPosition
  visibleRegion : VisibleRegion
  tileOverlays : List TileOverlay
  deriving DecidableEq

structure ClusterManager where
  items : List DrawnMarker
  deriving DecidableEq

structure MapsActivity where
  mMap : Option GoogleMap
  mClusterManager : Option ClusterManager
  crimeMapEnabled : Bool
  heatMapEnabled : Bool
  enableInfoWindow : Bool
  mPreviousCameraPosition : Option CameraPosition
  postcodeSearch : String
  /-- whether `switch1` is checked -/
  switch1 : Bool
  deriving DecidableEq

structure MapsPresenter where
  serverConnectionHandler : Connection
  markerList : List DrawnMarker
  heatMapEnabled : Bool
  crimeMapEnabled : Bool
  deriving DecidableEq

structure BottomSheetView where
  /-- the header: `R.id.postcode_big` and `R.id.avgprice_big` -/
  postcodeBig : String
  avgpriceBig : String
  /-- not `STATE_HIDDEN` -/
  visible : Bool
  adapter : List AdressInfo
  answered : Option AddressRequest
  deriving DecidableEq

structure Screen where
  activity : MapsActivity
  presenter : MapsPresenter
  sheet : BottomSheetView
  volley : Volley
  /-- the messages of the alert dialogs and toasts raised so far -/
  dialogs : List String
  toasts : List String
  deriving DecidableEq

/-- The libraries the screen is built on. -/
structure Platform where
  /-- `Location.distanceBetween(lat₁, lon₁, lat₂, lon₂)`, in metres -/
  distanceBetween : ℚ → ℚ → ℚ → ℚ → ℚ
  /-- `mClusterManager.getMarkerCollection().getMarkers()` for the camera -/
  getMarkers : Option CameraPosition → List DrawnMarker → List DrawnMarker
  getMarkers_subset : ∀ camera items, getMarkers camera items ⊆ items

/-- 110.574 km per degree of latitude, 111.32 km per degree of longitude. -/
def flatWorld : Platform where
  distanceBetween lat₁ lon₁ lat₂ lon₂ := 110574 * |lat₂ - lat₁| + 111320 * |lon₂ - lon₁|
  getMarkers _ items := items
  getMarkers_subset _ _ := fun _ h => h

inductive Throwable where
  | NullPointerException
  deriving DecidableEq, Repr

def deref {α : Type} : Option α → Except Throwable α
  | some a => .ok a
  | none => .error .NullPointerException

namespace Screen

-- ---------------------------------------------------------------------------
-- The presenter's connection
-- ---------------------------------------------------------------------------

/-- `markerJsonParse` of the connection `c`. The police connection also warns
about large radii. -/
def markerJsonParse (c : Connection) (lat lon radius : ℚ) (s : Screen) : Screen :=
  { s with
    volley := s.volley.markerJsonParse c lat lon radius
    toasts :=
      if c.kind = .PoliceDataConnection ∧ 2 < radius then
        s.toasts ++ ["Crime data can only be shown up to a radius of 1 mile."]
      else s.toasts }

/-- `MapsPresenter.cameraPosChanged`. -/
def cameraPosChanged (target : LatLng) (radius_meter : ℚ) (s : Screen) : Screen :=
  s.markerJsonParse s.presenter.serverConnectionHandler target.latitude target.longitude
    (radius_meter / 1000)

/-- `MapsPresenter.switchDataSource`: a connection object of the other kind. -/
def switchDataSource (showCrimeMap : Bool) (s : Screen) : Screen :=
  let (handler, volley) := s.volley.newConnection
    (if showCrimeMap then .PoliceDataConnection else .ServerConnection)
  { s with
    presenter :=
      { s.presenter with crimeMapEnabled := showCrimeMap, serverConnectionHandler := handler }
    volley := volley }

-- ---------------------------------------------------------------------------
-- The bottom sheet
-- ---------------------------------------------------------------------------

/-- `BottomSheetView.displayBottomSheet`. -/
def displayBottomSheet (postcode average : String) (s : Screen) : Screen :=
  { s with
    sheet := { s.sheet with postcodeBig := postcode, avgpriceBig := average, visible := true }
    volley := s.volley.postcodeJsonParse s.presenter.serverConnectionHandler postcode }

/-- `BottomSheetView.displayAddresses`, for the answer to `r`. -/
def displayAddresses (r : AddressRequest) (houseAddressInfo : List AdressInfo) (s : Screen) :
    Screen :=
  { s with sheet := { s.sheet with adapter := houseAddressInfo, answered := some r } }

/-- `BottomSheetView.onResponseError`: a dialog, and nothing else. -/
def sheetResponseError (errorMessage : String) (s : Screen) : Screen :=
  { s with dialogs := s.dialogs ++ [errorMessage] }

/-- The test in `markerClicked`: only markers with address information open
the bottom sheet. A cluster icon (`none`) has neither title nor snippet. -/
def opensSheet (marker : Option DrawnMarker) (s : Screen) : Bool :=
  match marker with
  | none => false
  | some m => s.activity.enableInfoWindow && m.getSnippet != "Occurred within the last month."

/-- `MapsActivity.markerClicked`. -/
def markerClicked (marker : Option DrawnMarker) (s : Screen) : Screen :=
  match marker with
  | none => s
  | some m => if s.opensSheet (some m) then s.displayBottomSheet m.getTitle m.getSnippet else s

-- ---------------------------------------------------------------------------
-- Drawing
-- ---------------------------------------------------------------------------

/-- `MapsActivity.clearMap`. -/
def clearMap (s : Screen) : Except Throwable Screen := do
  let mMap ← deref s.activity.mMap
  let _ ← deref s.activity.mClusterManager
  return { s with activity := { s.activity with
    mMap := some { mMap with tileOverlays := [] }
    mClusterManager := some ⟨[]⟩ } }

/-- `MapsActivity.addTileOverlay`. -/
def addTileOverlay (overlay : TileOverlay) (s : Screen) : Except Throwable Screen := do
  let mMap ← deref s.activity.mMap
  return { s with activity := { s.activity with
    mMap := some { mMap with tileOverlays := mMap.tileOverlays ++ [overlay] } } }

/-- The loop of `addMarkersClustered` over the rendered markers: the marker
that was searched for is clicked, and the search is over. -/
def clickSearched : List DrawnMarker → Screen → Screen
  | [], s => s
  | marker :: rest, s =>
    if s.activity.postcodeSearch = marker.getTitle then
      clickSearched rest
        (markerClicked (some marker)
          { s with activity := { s.activity with postcodeSearch := "" } })
    else
      clickSearched rest s

/-- `MapsActivity.addMarkersClustered`. -/
def addMarkersClustered (P : Platform) (markerList : List DrawnMarker) (s : Screen) :
    Except Throwable Screen := do
  let mClusterManager ← deref s.activity.mClusterManager
  let items := mClusterManager.items ++ markerList
  let s := { s with activity := { s.activity with mClusterManager := some ⟨items⟩ } }
  return clickSearched (P.getMarkers (s.activity.mMap.map GoogleMap.cameraPosition) items) s

/-- The overlay `MapsPresenter.enableHeatMap` builds from its markers. -/
def heatOverlay (markerList : List DrawnMarker) : TileOverlay :=
  ⟨markerList, markerList.map fun m => weightedLatLng (m.lat, m.lon) m.price, 50⟩

/-- `MapsPresenter.enableHeatMap`. -/
def enableHeatMap (s : Screen) : Except Throwable Screen :=
  if s.presenter.markerList.isEmpty then return s
  else s.addTileOverlay (heatOverlay s.presenter.markerList)

/-- `MapsPresenter.displayMarkers()`. -/
def displayMarkers (P : Platform) (s : Screen) : Except Throwable Screen := do
  let s ← s.clearMap
  if s.presenter.heatMapEnabled then s.enableHeatMap
  else s.addMarkersClustered P s.presenter.markerList

/-- `MapsPresenter.displayMarkers(markerList)`. -/
def displayMarkerList (P : Platform) (markerList : List DrawnMarker) (s : Screen) :
    Except Throwable Screen :=
  displayMarkers P { s with presenter := { s.presenter with markerList := markerList } }

/-- `MapsPresenter.switchHeatmap`. -/
def switchHeatmap (P : Platform) (showHeatmap : Bool) (s : Screen) : Except Throwable Screen :=
  let s := { s with presenter := { s.presenter with heatMapEnabled := showHeatmap } }
  if showHeatmap then s.enableHeatMap else s.displayMarkers P

-- ---------------------------------------------------------------------------
-- Camera and source
-- ---------------------------------------------------------------------------

/-- `MapsActivity.calcVisibleRadius`: the larger of the visible width and
height, in metres. -/
def calcVisibleRadius (P : Platform) (visibleRegion : VisibleRegion) : ℚ :=
  let farLeft := visibleRegion.farLeft
  let farRight := visibleRegion.farRight
  let nearLeft := visibleRegion.nearLeft
  let nearRight := visibleRegion.nearRight
  let radiusWidth := P.distanceBetween
    ((farLeft.latitude + nearLeft.latitude) / 2) ((farLeft.longitude + nearLeft.longitude) / 2)
    ((farRight.latitude + nearRight.latitude) / 2) ((farRight.longitude + nearRight.longitude) / 2)
  let radiusHeight := P.distanceBetween
    ((farLeft.latitude + farRight.latitude) / 2) ((farLeft.longitude + farRight.longitude) / 2)
    ((nearLeft.latitude + nearRight.latitude) / 2) ((nearLeft.longitude + nearRight.longitude) / 2)
  if radiusWidth > radiusHeight then radiusWidth else radiusHeight

/-- `MapsActivity.updateCameraRegion`. -/
def updateCameraRegion (P : Platform) (s : Screen) : Except Throwable Screen := do
  let _ ← deref s.activity.mClusterManager
  let mMap ← deref s.activity.mMap
  let position := mMap.cameraPosition
  if s.activity.mPreviousCameraPosition = some position then return s
  else
    let radius_meter := calcVisibleRadius P mMap.visibleRegion
    let s := { s with activity := { s.activity with
      mPreviousCameraPosition := some position
      enableInfoWindow := radius_meter < 1000 } }
    return s.cameraPosChanged position.target radius_meter

/-- `MapsActivity.onClickSwitchMapSrc`. -/
def onClickSwitchMapSrc (P : Platform) (s : Screen) : Except Throwable Screen := do
  let crimeMapEnabled := !s.activity.crimeMapEnabled
  let s := { s with activity := { s.activity with crimeMapEnabled := crimeMapEnabled } }
  let s ← s.clearMap
  let s := s.switchDataSource crimeMapEnabled
  let s := { s with activity := { s.activity with mPreviousCameraPosition := none } }
  s.updateCameraRegion P

/-- `MapsPresenter.onResponseError`. -/
def onResponseError (P : Platform) (errorMessage : String) (s : Screen) :
    Except Throwable Screen :=
  onClickSwitchMapSrc P { s with
    dialogs := s.dialogs ++ [errorMessage ++ "\nSwitching to available data source."] }

/-- `MapsActivity.onCheckedChanged`, after the switch has moved to `b`. -/
def onCheckedChanged (P : Platform) (b : Bool) (s : Screen) : Except Throwable Screen := do
  let s := { s with activity := { s.activity with switch1 := b, heatMapEnabled := b } }
  let s ← s.clearMap
  s.switchHeatmap P s.activity.heatMapEnabled

-- ---------------------------------------------------------------------------
-- Lifecycle and search
-- ---------------------------------------------------------------------------

/-- `MapsActivity.onCreate`, with the constructors of the presenter and the
sheet. -/
def onCreate : Screen where
  activity :=
    { mMap := none, mClusterManager := none
      crimeMapEnabled := false, heatMapEnabled := false, enableInfoWindow := true
      mPreviousCameraPosition := none, postcodeSearch := "", switch1 := false }
  presenter :=
    { serverConnectionHandler := ⟨0, .ServerConnection⟩, markerList := []
      heatMapEnabled := false, crimeMapEnabled := false }
  sheet :=
    { postcodeBig := "", avgpriceBig := "", visible := false, adapter := [], answered := none }
  volley :=
    { created := 1, markers := [], addresses := [], issuedMarkers := [], issuedAddresses := [] }
  dialogs := []
  toasts := []

/-- `MapsActivity.onMapReady`. -/
def onMapReady (position : CameraPosition) (region : VisibleRegion) (s : Screen) : Screen :=
  { s with activity := { s.activity with
    mMap := some ⟨position, region, []⟩, mClusterManager := some ⟨[]⟩ } }

/-- `MapsActivity.onActivityResult` of a successful place search. The camera
animation it starts reaches the app as camera moves. -/
def onActivityResult (place : String) (s : Screen) : Except Throwable Screen := do
  let _ ← deref s.activity.mMap
  return { s with activity := { s.activity with postcodeSearch := place } }

def moveCamera (position : CameraPosition) (region : VisibleRegion) (s : Screen) : Screen :=
  { s with activity := { s.activity with
    mMap := s.activity.mMap.map fun m =>
      { m with cameraPosition := position, visibleRegion := region } } }

-- ---------------------------------------------------------------------------
-- The answers
-- ---------------------------------------------------------------------------

/-- The markers a listener creates from the answer to `r`. -/
def parseMarkers (r : MarkerRequest) (response : List Json) : Except String (List DrawnMarker) :=
  (onResponse r.connection.kind.entry response).map fun list => list.map fun m => ⟨m, r⟩

def onMarkerResponse (P : Platform) (r : MarkerRequest) (response : List Json) (s : Screen) :
    Except Throwable Screen :=
  match parseMarkers r response with
  | .ok markerArrayList => s.displayMarkerList P markerArrayList
  | .error message => s.onResponseError P message

def onAddressResponse (r : AddressRequest) (response : List Json) (s : Screen) : Screen :=
  match onResponse addressEntry response with
  | .ok houseAddressInfo => s.displayAddresses r houseAddressInfo
  | .error message => s.sheetResponseError message

end Screen

-- ---------------------------------------------------------------------------
-- The step system
-- ---------------------------------------------------------------------------

inductive Event where
  | mapReady (position : CameraPosition) (region : VisibleRegion)
  | cameraMoved (position : CameraPosition) (region : VisibleRegion)
  | cameraIdle
  | sourceClicked
  | heatmapChecked (b : Bool)
  | placePicked (place : String)
  | markerResponse (r : MarkerRequest) (response : List Json)
  | markerError (r : MarkerRequest)
  | addressResponse (r : AddressRequest) (response : List Json)
  | addressError (r : AddressRequest)
  /-- a tap on a rendered marker, or on a cluster icon (`none`) -/
  | markerTapped (marker : Option DrawnMarker)
  /-- a click on the map, or the user swiping the sheet away -/
  | sheetHidden

namespace Screen

/-- The markers on the map that are not inside a cluster icon. -/
def renderedMarkers (P : Platform) (s : Screen) : List DrawnMarker :=
  P.getMarkers (s.activity.mMap.map GoogleMap.cameraPosition)
    ((s.activity.mClusterManager.map ClusterManager.items).getD [])

/-- Which events can happen: the listeners of the map exist from `onMapReady`
on, the switch reports changes only, and only requests in flight are answered
or fail. -/
def enabled (P : Platform) (s : Screen) : Event → Bool
  | .mapReady .. => s.activity.mMap.isNone
  | .cameraMoved .. | .cameraIdle => s.activity.mMap.isSome
  | .sourceClicked | .placePicked _ | .sheetHidden => true
  | .heatmapChecked b => b ≠ s.activity.switch1
  | .markerResponse r _ | .markerError r => r ∈ s.volley.markers
  | .addressResponse r _ | .addressError r => r ∈ s.volley.addresses
  | .markerTapped none => s.activity.mMap.isSome
  | .markerTapped (some m) => m ∈ s.renderedMarkers P

def handle (P : Platform) (s : Screen) : Event → Except Throwable Screen
  | .mapReady position region => return s.onMapReady position region
  | .cameraMoved position region => return s.moveCamera position region
  | .cameraIdle => s.updateCameraRegion P
  | .sourceClicked => s.onClickSwitchMapSrc P
  | .heatmapChecked b => s.onCheckedChanged P b
  | .placePicked place => s.onActivityResult place
  | .markerResponse r response =>
    onMarkerResponse P r response { s with volley := s.volley.finishMarker r }
  | .markerError r =>
    onResponseError P notReachable { s with volley := s.volley.finishMarker r }
  | .addressResponse r response =>
    return onAddressResponse r response { s with volley := s.volley.finishAddress r }
  | .addressError r =>
    return sheetResponseError notReachable { s with volley := s.volley.finishAddress r }
  | .markerTapped marker => return s.markerClicked marker
  | .sheetHidden => return { s with sheet := { s.sheet with visible := false } }

def step (P : Platform) (s : Screen) (e : Event) : Option Screen :=
  if s.enabled P e then (s.handle P e).toOption else none

end Screen

abbrev Move := Lib.Transition Screen Event

/-- The run of the app on a list of events, from `onCreate` on. -/
abbrev moves (P : Platform) (events : List Event) : List Move :=
  Lib.transitions (Screen.step P) Screen.onCreate events

abbrev visited (P : Platform) (events : List Event) : List Screen :=
  Lib.states (Screen.step P) Screen.onCreate events

end PriceMap.Android
