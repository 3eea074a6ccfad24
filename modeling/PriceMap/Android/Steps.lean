import PriceMap.Android.Screen

/-!
# Android — what one step of the screen does

Once the map is there, no handler throws, and the state after a step can be
written down (`next`, `handle_ready`). Four things can happen to the markers:

* nothing — camera moves, searches, taps, addresses, the sheet;
* `requested` — the camera came to rest at a new position;
* `switched`  — the other source, by the button or by an error;
* `displayed` — the presenter draws its list, new or cached.

* `handle_ready` — no handler throws once the map is there.
* `step_ready`   — the inversion lemma from then on: each step is a `next`, and
  one of the `Effect`s on the markers.
* `step_onCreate` — before `onMapReady` the screen stays as `onCreate` left it.
-/

namespace PriceMap.Android

def Event.touchesMarkers : Event → Bool
  | .cameraIdle | .sourceClicked | .heatmapChecked _ | .markerResponse .. | .markerError _ => true
  | _ => false

structure Ready (s : Screen) (m : GoogleMap) (c : ClusterManager) : Prop where
  mMap : s.activity.mMap = some m
  mClusterManager : s.activity.mClusterManager = some c

theorem Ready.deref_mMap {s : Screen} {m : GoogleMap} {c : ClusterManager} (h : Ready s m c) :
    deref s.activity.mMap = .ok m := by
  rw [h.mMap]
  rfl

theorem Ready.deref_mClusterManager {s : Screen} {m : GoogleMap} {c : ClusterManager}
    (h : Ready s m c) : deref s.activity.mClusterManager = .ok c := by
  rw [h.mClusterManager]
  rfl

namespace Screen

variable {P : Platform} {s : Screen} {m : GoogleMap} {c : ClusterManager}

-- ---------------------------------------------------------------------------
-- The state after each handler
-- ---------------------------------------------------------------------------

/-- After `updateCameraRegion` at a new position. -/
def requested (P : Platform) (m : GoogleMap) (s : Screen) : Screen :=
  let radius_meter := calcVisibleRadius P m.visibleRegion
  cameraPosChanged m.cameraPosition.target radius_meter
    { s with activity := { s.activity with
      mPreviousCameraPosition := some m.cameraPosition
      enableInfoWindow := radius_meter < 1000 } }

def regionUpdated (P : Platform) (m : GoogleMap) (s : Screen) : Screen :=
  if s.activity.mPreviousCameraPosition = some m.cameraPosition then s else s.requested P m

def otherConnection (s : Screen) : Connection :=
  ⟨s.volley.created,
    if s.activity.crimeMapEnabled then .ServerConnection else .PoliceDataConnection⟩

/-- The other source is selected, the map cleared, the camera position
invalidated. -/
def sourceSet (m : GoogleMap) (s : Screen) : Screen :=
  { s with
    activity := { s.activity with
      mMap := some { m with tileOverlays := [] }
      mClusterManager := some ⟨[]⟩
      crimeMapEnabled := !s.activity.crimeMapEnabled
      mPreviousCameraPosition := none }
    presenter := { s.presenter with
      serverConnectionHandler := s.otherConnection
      crimeMapEnabled := !s.activity.crimeMapEnabled }
    volley := { s.volley with created := s.volley.created + 1 } }

/-- After `onClickSwitchMapSrc`. -/
def switched (P : Platform) (m : GoogleMap) (s : Screen) : Screen :=
  (s.sourceSet m).requested P m

def itemsOf (heatMapEnabled : Bool) (markerList : List DrawnMarker) : List DrawnMarker :=
  if heatMapEnabled then [] else markerList

def overlaysOf (heatMapEnabled : Bool) (markerList : List DrawnMarker) : List TileOverlay :=
  if heatMapEnabled && !markerList.isEmpty then [heatOverlay markerList] else []

@[simp] theorem itemsOf_true (markerList : List DrawnMarker) : itemsOf true markerList = [] := rfl

@[simp] theorem itemsOf_false (markerList : List DrawnMarker) :
    itemsOf false markerList = markerList := rfl

@[simp] theorem overlaysOf_false (markerList : List DrawnMarker) :
    overlaysOf false markerList = [] := rfl

theorem overlaysOf_true (markerList : List DrawnMarker) :
    overlaysOf true markerList = if markerList.isEmpty then [] else [heatOverlay markerList] := by
  cases markerList <;> rfl

/-- The presenter's list has been drawn on the cleared map. -/
def drawn (m : GoogleMap) (s : Screen) : Screen :=
  { s with activity := { s.activity with
    mMap := some { m with
      tileOverlays := overlaysOf s.presenter.heatMapEnabled s.presenter.markerList }
    mClusterManager := some ⟨itemsOf s.presenter.heatMapEnabled s.presenter.markerList⟩ } }

/-- After `displayMarkers`. -/
def displayed (P : Platform) (m : GoogleMap) (s : Screen) : Screen :=
  clickSearched
    (P.getMarkers (some m.cameraPosition)
      (itemsOf s.presenter.heatMapEnabled s.presenter.markerList))
    (s.drawn m)

/-- The switch has been moved to `b` and both components know. -/
def heatmapSet (b : Bool) (s : Screen) : Screen :=
  { s with
    activity := { s.activity with switch1 := b, heatMapEnabled := b }
    presenter := { s.presenter with heatMapEnabled := b } }

/-- The marker request `r` was answered with `markerList`. -/
def answered (r : MarkerRequest) (markerList : List DrawnMarker) (s : Screen) : Screen :=
  { s with
    volley := s.volley.finishMarker r
    presenter := { s.presenter with markerList := markerList } }

/-- The marker request `r` failed and the dialog is up. -/
def failed (r : MarkerRequest) (errorMessage : String) (s : Screen) : Screen :=
  { s with
    volley := s.volley.finishMarker r
    dialogs := s.dialogs ++ [errorMessage ++ "\nSwitching to available data source."] }

def markersReceived (P : Platform) (m : GoogleMap) (r : MarkerRequest) (response : List Json)
    (s : Screen) : Screen :=
  match parseMarkers r response with
  | .ok markerList => (s.answered r markerList).displayed P m
  | .error message => (s.failed r message).switched P m

/-- The state after an event, once the map is there. -/
def next (P : Platform) (m : GoogleMap) (s : Screen) : Event → Screen
  | .mapReady position region => s.onMapReady position region
  | .cameraMoved position region => s.moveCamera position region
  | .cameraIdle => s.regionUpdated P m
  | .sourceClicked => s.switched P m
  | .heatmapChecked b => (s.heatmapSet b).displayed P m
  | .placePicked place => { s with activity := { s.activity with postcodeSearch := place } }
  | .markerResponse r response => s.markersReceived P m r response
  | .markerError r => (s.failed r notReachable).switched P m
  | .addressResponse r response =>
    onAddressResponse r response { s with volley := s.volley.finishAddress r }
  | .addressError r =>
    sheetResponseError notReachable { s with volley := s.volley.finishAddress r }
  | .markerTapped marker => s.markerClicked marker
  | .sheetHidden => { s with sheet := { s.sheet with visible := false } }

-- ---------------------------------------------------------------------------
-- No handler throws once the map is there
-- ---------------------------------------------------------------------------

/-- Clearing a map that is there. -/
theorem clearMap_ready (h : Ready s m c) :
    s.clearMap = .ok { s with activity := { s.activity with
      mMap := some { m with tileOverlays := [] }, mClusterManager := some ⟨[]⟩ } } := by
  rw [clearMap, h.deref_mMap, h.deref_mClusterManager]
  rfl

/-- Asking anew on a map that is there. -/
theorem updateCameraRegion_ready (h : Ready s m c) :
    s.updateCameraRegion P = .ok (s.regionUpdated P m) := by
  rw [updateCameraRegion, h.deref_mMap, h.deref_mClusterManager, regionUpdated]
  show (if s.activity.mPreviousCameraPosition = some m.cameraPosition then _ else _) = _
  split <;> rfl

/-- Switching the source on a map that is there. -/
theorem onClickSwitchMapSrc_ready (h : Ready s m c) :
    s.onClickSwitchMapSrc P = .ok (s.switched P m) := by
  have hClear := clearMap_ready (s := { s with activity := { s.activity with
    crimeMapEnabled := !s.activity.crimeMapEnabled } }) ⟨h.mMap, h.mClusterManager⟩
  have hSource : (s.sourceSet m).updateCameraRegion P = .ok (s.switched P m) :=
    -- the position was invalidated, so a request goes out
    updateCameraRegion_ready (m := { m with tileOverlays := [] }) ⟨rfl, rfl⟩
  rw [onClickSwitchMapSrc, hClear, ← hSource]
  cases hCrime : s.activity.crimeMapEnabled <;>
    simp only [sourceSet, otherConnection, hCrime] <;> rfl

/-- With the heatmap on, displaying is drawing. -/
theorem displayed_of_heat (hHeat : s.presenter.heatMapEnabled = true) :
    s.displayed P m = s.drawn m := by
  have hNil : P.getMarkers (some m.cameraPosition) [] = [] :=
    List.eq_nil_of_subset_nil (P.getMarkers_subset _ _)
  simp [displayed, itemsOf, hHeat, hNil, clickSearched]

/-- Drawing the heatmap on a cleared map. -/
theorem enableHeatMap_cleared (hHeat : s.presenter.heatMapEnabled = true)
    (hMap : s.activity.mMap = some { m with tileOverlays := [] })
    (hCluster : s.activity.mClusterManager = some ⟨[]⟩) :
    s.enableHeatMap = .ok (s.displayed P m) := by
  rw [displayed_of_heat hHeat, enableHeatMap, drawn, hHeat, itemsOf_true, overlaysOf_true]
  split
  · rw [← hMap, ← hCluster]
    rfl
  · rw [addTileOverlay, Ready.deref_mMap ⟨hMap, hCluster⟩, ← hCluster]
    rfl

/-- Displaying on a map that is there. -/
theorem displayMarkers_ready (h : Ready s m c) :
    s.displayMarkers P = .ok (s.displayed P m) := by
  rw [displayMarkers, clearMap_ready h]
  show (if s.presenter.heatMapEnabled = true then _ else _) = _
  by_cases hHeat : s.presenter.heatMapEnabled = true
  · rw [if_pos hHeat]
    exact enableHeatMap_cleared (s := { s with activity := { s.activity with
      mMap := some { m with tileOverlays := [] }, mClusterManager := some ⟨[]⟩ } }) hHeat rfl rfl
  · rw [if_neg hHeat]
    rw [Bool.not_eq_true] at hHeat
    rw [displayed, drawn, hHeat, itemsOf_false, overlaysOf_false]
    rfl

/-- A failure switches the source. -/
theorem onResponseError_ready (h : Ready s m c) (r : MarkerRequest) (errorMessage : String) :
    onResponseError P errorMessage { s with volley := s.volley.finishMarker r } =
      .ok ((s.failed r errorMessage).switched P m) :=
  onClickSwitchMapSrc_ready ⟨h.mMap, h.mClusterManager⟩

/-- An answer is displayed or fails. -/
theorem onMarkerResponse_ready (h : Ready s m c) (r : MarkerRequest) (response : List Json) :
    onMarkerResponse P r response { s with volley := s.volley.finishMarker r } =
      .ok (s.markersReceived P m r response) := by
  unfold onMarkerResponse markersReceived
  cases parseMarkers r response with
  | ok markerList =>
    exact displayMarkers_ready (s := s.answered r markerList) ⟨h.mMap, h.mClusterManager⟩
  | error message => exact onResponseError_ready h r message

/-- The heatmap switch displays the list anew. -/
theorem onCheckedChanged_ready (h : Ready s m c) (b : Bool) :
    s.onCheckedChanged P b = .ok ((s.heatmapSet b).displayed P m) := by
  have hClear := clearMap_ready (s := { s with activity := { s.activity with
    switch1 := b, heatMapEnabled := b } }) ⟨h.mMap, h.mClusterManager⟩
  rw [onCheckedChanged, hClear]
  cases b with
  | true =>
    exact enableHeatMap_cleared (m := m) (s := { s.heatmapSet true with activity :=
      { (s.heatmapSet true).activity with
        mMap := some { m with tileOverlays := [] }, mClusterManager := some ⟨[]⟩ } }) rfl rfl rfl
  | false =>
    exact displayMarkers_ready (m := { m with tileOverlays := [] }) (c := ⟨[]⟩)
      (s := { s.heatmapSet false with activity := { (s.heatmapSet false).activity with
        mMap := some { m with tileOverlays := [] }, mClusterManager := some ⟨[]⟩ } }) ⟨rfl, rfl⟩

/-- **No handler throws once the map is there.** -/
theorem handle_ready (h : Ready s m c) (e : Event) :
    s.handle P e = .ok (s.next P m e) := by
  cases e with
  | cameraIdle => exact updateCameraRegion_ready h
  | sourceClicked => exact onClickSwitchMapSrc_ready h
  | heatmapChecked b => exact onCheckedChanged_ready h b
  | placePicked place =>
    show onActivityResult place s = _
    rw [onActivityResult, h.deref_mMap]
    rfl
  | markerResponse r response => exact onMarkerResponse_ready h r response
  | markerError r => exact onResponseError_ready h r notReachable
  | _ => rfl

-- ---------------------------------------------------------------------------
-- Handlers that leave the markers alone
-- ---------------------------------------------------------------------------

def items (s : Screen) : List DrawnMarker :=
  (s.activity.mClusterManager.map ClusterManager.items).getD []

def overlays (s : Screen) : List TileOverlay :=
  (s.activity.mMap.map GoogleMap.tileOverlays).getD []

/-- The camera may have moved, and the search, the sheet, the address requests
and the dialogs may have changed; everything about markers is as it was. -/
structure SameMarkers (s s' : Screen) : Prop where
  presenter : s'.presenter = s.presenter
  crimeMapEnabled : s'.activity.crimeMapEnabled = s.activity.crimeMapEnabled
  heatMapEnabled : s'.activity.heatMapEnabled = s.activity.heatMapEnabled
  enableInfoWindow : s'.activity.enableInfoWindow = s.activity.enableInfoWindow
  mPreviousCameraPosition :
    s'.activity.mPreviousCameraPosition = s.activity.mPreviousCameraPosition
  mClusterManager : s'.activity.mClusterManager = s.activity.mClusterManager
  tileOverlays : s'.activity.mMap.map GoogleMap.tileOverlays =
    s.activity.mMap.map GoogleMap.tileOverlays
  created : s'.volley.created = s.volley.created
  markers : s'.volley.markers = s.volley.markers
  issuedMarkers : s'.volley.issuedMarkers = s.volley.issuedMarkers

theorem SameMarkers.refl (s : Screen) : SameMarkers s s := by
  constructor <;> rfl

theorem SameMarkers.trans {s s' s'' : Screen} (h : SameMarkers s s') (h' : SameMarkers s' s'') :
    SameMarkers s s'' := by
  refine ⟨?_, ?_, ?_, ?_, ?_, ?_, ?_, ?_, ?_, ?_⟩
  · exact h'.presenter.trans h.presenter
  · exact h'.crimeMapEnabled.trans h.crimeMapEnabled
  · exact h'.heatMapEnabled.trans h.heatMapEnabled
  · exact h'.enableInfoWindow.trans h.enableInfoWindow
  · exact h'.mPreviousCameraPosition.trans h.mPreviousCameraPosition
  · exact h'.mClusterManager.trans h.mClusterManager
  · exact h'.tileOverlays.trans h.tileOverlays
  · exact h'.created.trans h.created
  · exact h'.markers.trans h.markers
  · exact h'.issuedMarkers.trans h.issuedMarkers

/-- The newest request is the same. -/
theorem SameMarkers.newest {s s' : Screen} (h : SameMarkers s s') :
    s'.volley.newest = s.volley.newest := by
  rw [Volley.newest, Volley.newest, h.issuedMarkers]

/-- The markers on the map are the same. -/
theorem SameMarkers.items {s s' : Screen} (h : SameMarkers s s') : s'.items = s.items := by
  rw [Screen.items, Screen.items, h.mClusterManager]

/-- The overlays on the map are the same. -/
theorem SameMarkers.overlays {s s' : Screen} (h : SameMarkers s s') :
    s'.overlays = s.overlays := by
  rw [Screen.overlays, Screen.overlays, h.tileOverlays]

/-- The map is there as it was. -/
theorem SameMarkers.ready {s s' : Screen} (h : SameMarkers s s') (hReady : Ready s m c) :
    ∃ m', Ready s' m' c := by
  have hSome : s'.activity.mMap.map GoogleMap.tileOverlays = some m.tileOverlays := by
    rw [h.tileOverlays, hReady.mMap]
    rfl
  obtain ⟨m', hm', -⟩ := Option.map_eq_some_iff.mp hSome
  exact ⟨m', hm', h.mClusterManager.trans hReady.mClusterManager⟩

/-- The sheet leaves the map alone. -/
theorem sameMarkers_displayBottomSheet (postcode average : String) :
    SameMarkers s (s.displayBottomSheet postcode average) := by
  constructor <;> simp [displayBottomSheet]

/-- A click leaves the map alone. -/
theorem sameMarkers_markerClicked (marker : Option DrawnMarker) :
    SameMarkers s (s.markerClicked marker) := by
  cases marker with
  | none => exact .refl s
  | some mk =>
    rw [markerClicked]
    split
    · exact sameMarkers_displayBottomSheet mk.getTitle mk.getSnippet
    · exact .refl s

/-- The automatic click on a searched marker is like a tap. -/
theorem sameMarkers_clickSearched (rendered : List DrawnMarker) :
    SameMarkers s (clickSearched rendered s) := by
  induction rendered generalizing s with
  | nil => exact .refl s
  | cons mk rest ih =>
    rw [clickSearched]
    split
    · have hSearch : SameMarkers s
          { s with activity := { s.activity with postcodeSearch := "" } } := by
        constructor <;> rfl
      exact (hSearch.trans (sameMarkers_markerClicked (some mk))).trans ih
    · exact ih

/-- The searched marker apart, displaying is drawing. -/
theorem sameMarkers_displayed : SameMarkers (s.drawn m) (s.displayed P m) :=
  sameMarkers_clickSearched _

/-- The camera leaves the markers alone. -/
theorem sameMarkers_moveCamera (position : CameraPosition) (region : VisibleRegion) :
    SameMarkers s (s.moveCamera position region) := by
  constructor <;> try rfl
  cases h : s.activity.mMap <;> simp [moveCamera, h]

/-- Addresses leave the map alone. -/
theorem sameMarkers_onAddressResponse (r : AddressRequest) (response : List Json) :
    SameMarkers s (onAddressResponse r response
      { s with volley := s.volley.finishAddress r }) := by
  unfold onAddressResponse
  split <;> constructor <;> rfl

-- ---------------------------------------------------------------------------
-- Inversion
-- ---------------------------------------------------------------------------

/-- What an event does to the markers of a screen with map `m`. -/
inductive Effect (P : Platform) (m : GoogleMap) (s : Screen) : Event → Screen → Prop
  | quiet {e : Event} {s' : Screen} (hEvent : e.touchesMarkers = false)
      (hSame : SameMarkers s s') : Effect P m s e s'
  | idle (hPos : s.activity.mPreviousCameraPosition = some m.cameraPosition) :
      Effect P m s .cameraIdle s
  | requested (hPos : s.activity.mPreviousCameraPosition ≠ some m.cameraPosition) :
      Effect P m s .cameraIdle (s.requested P m)
  | clicked : Effect P m s .sourceClicked (s.switched P m)
  | checked (b : Bool) : Effect P m s (.heatmapChecked b) ((s.heatmapSet b).displayed P m)
  | answered {r : MarkerRequest} {response : List Json} {markerList : List DrawnMarker}
      (hr : r ∈ s.volley.markers) (hParse : parseMarkers r response = .ok markerList) :
      Effect P m s (.markerResponse r response) ((s.answered r markerList).displayed P m)
  | malformed {r : MarkerRequest} {response : List Json} {message : String}
      (hr : r ∈ s.volley.markers) (hParse : parseMarkers r response = .error message) :
      Effect P m s (.markerResponse r response) ((s.failed r message).switched P m)
  | failed {r : MarkerRequest} (hr : r ∈ s.volley.markers) :
      Effect P m s (.markerError r) ((s.failed r notReachable).switched P m)

/-- A step is taken if it is enabled and throws nothing. -/
theorem step_eq_some {e : Event} {s' : Screen} (h : s.step P e = some s') :
    s.enabled P e = true ∧ s.handle P e = .ok s' := by
  unfold step at h
  split at h
  · next hEnabled =>
    refine ⟨hEnabled, ?_⟩
    cases hHandle : s.handle P e with
    | ok x =>
      rw [hHandle] at h
      simpa [Except.toOption] using h
    | error t =>
      rw [hHandle] at h
      simp [Except.toOption] at h
  · simp at h

/-- **Inversion, once the map is there.** -/
theorem step_ready {e : Event} {s' : Screen} (hReady : Ready s m c)
    (h : s.step P e = some s') : s' = s.next P m e ∧ Effect P m s e s' := by
  obtain ⟨hEnabled, hHandle⟩ := step_eq_some h
  rw [handle_ready hReady e] at hHandle
  obtain rfl : s.next P m e = s' := by simpa using hHandle
  refine ⟨rfl, ?_⟩
  cases e with
  | mapReady position region => simp [enabled, hReady.mMap] at hEnabled
  | cameraIdle =>
    show Effect P m s .cameraIdle (s.regionUpdated P m)
    rw [regionUpdated]
    split
    · next hPos => exact .idle hPos
    · next hPos => exact .requested hPos
  | sourceClicked => exact .clicked
  | heatmapChecked b => exact .checked b
  | markerResponse r response =>
    have hr : r ∈ s.volley.markers := by simpa [enabled] using hEnabled
    show Effect P m s (.markerResponse r response) (s.markersReceived P m r response)
    rw [markersReceived]
    cases hParse : parseMarkers r response with
    | ok markerList => exact .answered hr hParse
    | error message => exact .malformed hr hParse
  | markerError r => exact .failed (by simpa [enabled] using hEnabled)
  | cameraMoved position region =>
    exact .quiet rfl (sameMarkers_moveCamera position region)
  | placePicked place =>
    exact .quiet rfl (by constructor <;> rfl)
  | addressResponse r response =>
    exact .quiet rfl (sameMarkers_onAddressResponse r response)
  | addressError r =>
    exact .quiet rfl (by constructor <;> rfl)
  | markerTapped marker =>
    exact .quiet rfl (sameMarkers_markerClicked marker)
  | sheetHidden =>
    exact .quiet rfl (by constructor <;> rfl)

/-- Without a map there is nothing to tap. -/
theorem not_enabled_markerTapped (marker : Option DrawnMarker) :
    onCreate.enabled P (.markerTapped marker) = false := by
  cases marker with
  | none => rfl
  | some mk =>
    have hNil : P.getMarkers none [] = [] := List.eq_nil_of_subset_nil (P.getMarkers_subset _ _)
    simp [enabled, renderedMarkers, onCreate, hNil]

/-- Before `onMapReady`, every handler that is not a crash changes nothing. -/
theorem step_onCreate {e : Event} {s' : Screen} (h : onCreate.step P e = some s') :
    (e = .sheetHidden ∧ s' = onCreate) ∨
      ∃ position region, e = .mapReady position region ∧
        s' = onCreate.onMapReady position region := by
  obtain ⟨hEnabled, hHandle⟩ := step_eq_some h
  cases e with
  | mapReady position region =>
    refine Or.inr ⟨position, region, rfl, ?_⟩
    simpa [handle, pure, Except.pure] using hHandle.symm
  | sheetHidden =>
    have hOk : (.ok onCreate : Except Throwable Screen) = .ok s' := hHandle
    exact Or.inl ⟨rfl, (Except.ok.inj hOk).symm⟩
  | sourceClicked => exact absurd hHandle (by intro hOk; cases hOk)
  | heatmapChecked b => exact absurd hHandle (by intro hOk; cases hOk)
  | placePicked place => exact absurd hHandle (by intro hOk; cases hOk)
  | cameraMoved position region => exact absurd hEnabled (by simp [enabled, onCreate])
  | cameraIdle => exact absurd hEnabled (by simp [enabled, onCreate])
  | markerResponse r response => exact absurd hEnabled (by simp [enabled, onCreate])
  | markerError r => exact absurd hEnabled (by simp [enabled, onCreate])
  | addressResponse r response => exact absurd hEnabled (by simp [enabled, onCreate])
  | addressError r => exact absurd hEnabled (by simp [enabled, onCreate])
  | markerTapped marker => exact absurd hEnabled (by simp [not_enabled_markerTapped])

end Screen

end PriceMap.Android
