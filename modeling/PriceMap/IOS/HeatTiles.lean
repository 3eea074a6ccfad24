import PriceMap.IOS.Markers
import PriceMap.Tiles.TileLayer

/-!
# iOS — the tiles on screen

`MapViewController` with its heat layer as the map utilities have it: every
handler makes the calls on the layer that it makes in the source, and a tap on
Heatmap puts a new layer on the map.

* `tiles_of_last_tap` — the tiles of the layer on the map are those of the list
  at the last tap on Heatmap. A list that is drawn later is given to the layer,
  which does not show it.
* `crime_tiles_drawn` — a heatmap of crimes has all its tiles.
-/

namespace PriceMap.IOS

open MapViewController
open Tiles (GMUGradient GQTPoint HSBA LayerCall LayerProperties RGBA Tile UIColors tileForX)

variable {K : Type} [Field K] [LinearOrder K] [IsStrictOrderedRing K] [FloorRing K]

-- ---------------------------------------------------------------------------
-- The layer of the controller
-- ---------------------------------------------------------------------------

/-- A `GMUHeatmapTileLayer`; the only map is the map view. -/
abbrev HeatLayer (K : Type) [LinearOrder K] [Zero K] [One K] :=
  Tiles.GMUHeatmapTileLayer (HSBA K) K Unit

abbrev HeatCall (K : Type) [LinearOrder K] [Zero K] [One K] := LayerCall (HSBA K) K Unit

/-- What the controller's layer is drawn with. -/
structure Utilities (K : Type) where
  ui : UIColors (HSBA K) K
  /-- `colorWithRed:green:blue:alpha:` -/
  colorWithRed : RGBA K → HSBA K
  /-- `getRed:green:blue:alpha:` -/
  getRed : HSBA K → Option (RGBA K)
  floats : Tiles.FloatingPoint K
  /-- `GMSProject` -/
  project : Coordinate → GQTPoint K

variable (u : Utilities K)

/-- A point of the controller, as the layer has it. -/
def Utilities.weightedLatLng (p : GMUWeightedLatLng) : Tiles.GMUWeightedLatLng K :=
  .initWithCoordinate u.project p.coordinate p.intensity

/-- A layer after some calls; `none` if one of them raises. -/
def Utilities.send (calls : List (HeatCall K)) (layer : HeatLayer K) : Option (HeatLayer K) :=
  calls.foldlM (Tiles.GMUHeatmapTileLayer.machine u.ui u.getRed u.floats .greenRed).step layer

/-- `GMUHeatmapTileLayer()` and some calls. -/
def Utilities.newLayer (calls : List (HeatCall K)) : Option (HeatLayer K) :=
  match Tiles.GMUHeatmapTileLayer.init u.colorWithRed with
  | .ok layer => u.send calls layer
  | .error _ => none

/-- What `mapView.clear()` does to the layer. -/
def GMSMapView.cleared (mapView : GMSMapView) (layer : HeatLayer K) : HeatLayer K :=
  { layer with map := if mapView.clearsTileLayers then none else layer.map }

/-- What the handler of an event does to the layer. -/
def Utilities.layerStep (s : MapViewController) (layer : HeatLayer K) :
    Event → Option (HeatLayer K)
  | .refreshTapped _ | .toggleDataTapped .. | .didPick _ =>
    (u.send [.setMap none] layer).map s.mapView.cleared
  | .toggleViewTapped index =>
    if index = 0 then u.send [.setMap none] layer
    else if index = 1 then
      u.newLayer [.setRadius 80, .setGradient .greenRed,
        .setWeightedData ((if !s.isCrime then s.list else s.crimeList).map u.weightedLatLng),
        .setMap (some ()), .setMap (some ())]
    else some layer
  | .didUpdateLocations _ | .completed .. => some layer
  | .runMain =>
    match s.mainQueue.head? with
    | some (.emptyArrays _) => some (s.mapView.cleared layer)
    | some .drawPostCodes =>
      u.send [.setWeightedData
        ((s.list ++ s.postCodes.filterMap weightedPostCode).map u.weightedLatLng)] layer
    | _ => some layer

/-- The controller and its layer. -/
structure HeatScreen (K : Type) [LinearOrder K] [Zero K] [One K] where
  controller : MapViewController
  heatmapLayer : HeatLayer K

namespace HeatScreen

def viewDidLoad (mapView : GMSMapView) : Option (HeatScreen K) :=
  (u.newLayer [.setRadius 80]).map fun heatmapLayer =>
    { controller := .viewDidLoad mapView, heatmapLayer }

def step (s : HeatScreen K) (e : Event) : Option (HeatScreen K) := do
  let controller ← s.controller.step e
  let heatmapLayer ← u.layerStep s.controller s.heatmapLayer e
  some { controller, heatmapLayer }

def stateAfter (mapView : GMSMapView) (events : List Event) : Option (HeatScreen K) := do
  events.foldlM (step u) (← viewDidLoad u mapView)

end HeatScreen

-- ---------------------------------------------------------------------------
-- Calls on the layer
-- ---------------------------------------------------------------------------

/-- The properties of the layers that the controller makes. -/
def heatProperties (weightedData : List (Tiles.GMUWeightedLatLng K)) :
    LayerProperties (HSBA K) K where
  weightedData
  radius := 80
  gradient := .greenRed
  minimumZoomIntensity := 5
  maximumZoomIntensity := 10

variable {u} {layer : HeatLayer K}

/-- A layer is made with the gradient of its `init`. -/
theorem exists_newLayer (calls : List (HeatCall K)) :
    ∃ gradient, u.newLayer calls =
      u.send calls (Tiles.GMUHeatmapTileLayer.withGradient gradient) := by
  obtain ⟨gradient, hGradient⟩ :=
    Tiles.GMUHeatmapTileLayer.init_isOk (K := K) (M := Unit) u.colorWithRed
  exact ⟨gradient, by rw [Utilities.newLayer, hGradient]⟩

/-- Taking a layer off the map may prepare it, which does not fail. -/
theorem exists_send_setMap
    (hZoom : layer.minimumZoomIntensity ≤ layer.maximumZoomIntensity) :
    ∃ data dirty, u.send [.setMap none] layer = some { layer with data, dirty, map := none } := by
  cases hDirty : layer.dirty with
  | true =>
    obtain ⟨data, hData⟩ := Tiles.exists_prepare layer.toLayerProperties u.ui u.floats hZoom
    refine ⟨some data, false, ?_⟩
    simp [Utilities.send, Lib.Machine.step, Tiles.GMUHeatmapTileLayer.machine,
      Tiles.GMUHeatmapTileLayer.prepareIfDirty, hDirty, hData]
  | false =>
    refine ⟨layer.data, false, ?_⟩
    simp [Utilities.send, Lib.Machine.step, Tiles.GMUHeatmapTileLayer.machine,
      Tiles.GMUHeatmapTileLayer.prepareIfDirty, hDirty]

/-- The layer that a tap on Heatmap makes. -/
theorem exists_newLayer_tapped (weightedData : List (Tiles.GMUWeightedLatLng K)) :
    ∃ data, Tiles.prepare u.ui u.floats (heatProperties weightedData) = some data ∧
      u.newLayer [.setRadius 80, .setGradient .greenRed, .setWeightedData weightedData,
          .setMap (some ()), .setMap (some ())] =
        some { heatProperties weightedData with
          data := some data, dirty := false, map := some () } := by
  have hZoom : (heatProperties weightedData).minimumZoomIntensity ≤
      (heatProperties weightedData).maximumZoomIntensity := show 5 ≤ 10 by omega
  obtain ⟨data, hData⟩ := Tiles.exists_prepare (heatProperties weightedData) u.ui u.floats hZoom
  obtain ⟨gradient, hNew⟩ := exists_newLayer (u := u) [.setRadius 80, .setGradient .greenRed,
    .setWeightedData weightedData, .setMap (some ()), .setMap (some ())]
  refine ⟨data, hData, ?_⟩
  rw [heatProperties] at hData
  rw [hNew]
  simp [Utilities.send, Lib.Machine.step, Tiles.GMUHeatmapTileLayer.machine,
    Tiles.GMUHeatmapTileLayer.prepareIfDirty, Tiles.GMUHeatmapTileLayer.withGradient,
    Tiles.GMUHeatmapTileLayer.initialProperties, heatProperties, hData]

-- ---------------------------------------------------------------------------
-- What is on screen
-- ---------------------------------------------------------------------------

/-- The state that met the last tap on Heatmap. -/
def Move.lastTap (last : Option MapViewController) (t : Move) : Option MapViewController :=
  match t.event with
  | .toggleViewTapped 1 => some t.pre
  | _ => last

def lastTap (mapView : GMSMapView) (events : List Event) : Option MapViewController :=
  (moves mapView events).foldl Move.lastTap none

/-- The list that a tap on Heatmap gives to its layer. -/
def tappedList (last : Option MapViewController) : List GMUWeightedLatLng :=
  last.elim [] fun s => s.listOf s.selected

variable (u) in
/-- The layer is the one the controller has; on the map, it is prepared for the
list of the last tap. -/
structure Shows (last : Option MapViewController) (s : HeatScreen K) : Prop where
  weightedData : s.heatmapLayer.weightedData =
    s.controller.heatmapLayer.weightedData.map u.weightedLatLng
  zoom : s.heatmapLayer.minimumZoomIntensity ≤ s.heatmapLayer.maximumZoomIntensity
  map : s.heatmapLayer.map.isSome = s.controller.heatmapLayer.map
  data : s.controller.heatmapLayer.map = true →
    s.heatmapLayer.data =
      Tiles.prepare u.ui u.floats (heatProperties ((tappedList last).map u.weightedLatLng))

variable {last : Option MapViewController} {s : HeatScreen K} {controller : MapViewController}

variable (u) in
/-- The screen starts with a layer that shows nothing. -/
theorem shows_viewDidLoad (mapView : GMSMapView) :
    ∃ s, HeatScreen.viewDidLoad u mapView = some s ∧
      s.controller = .viewDidLoad mapView ∧ Shows u none s := by
  obtain ⟨gradient, hNew⟩ := exists_newLayer (u := u) [.setRadius 80]
  refine ⟨_, by rw [HeatScreen.viewDidLoad, hNew]; rfl, rfl, rfl, ?_, rfl, fun hMap => ?_⟩
  · show 5 ≤ 10
    omega
  · cases hMap

/-- The controller changes nothing of its layer. -/
theorem Shows.of_same (h : Shows u last s)
    (hSame : controller.heatmapLayer = s.controller.heatmapLayer) :
    Shows u last { s with controller } :=
  ⟨hSame ▸ h.weightedData, h.zoom, hSame ▸ h.map, hSame ▸ h.data⟩

/-- The layer is taken off the map. -/
theorem Shows.off (h : Shows u last s) {heatmapLayer : HeatLayer K}
    (hController : controller.heatmapLayer = { s.controller.heatmapLayer with map := false })
    (hProperties : heatmapLayer.toLayerProperties = s.heatmapLayer.toLayerProperties)
    (hMap : heatmapLayer.map = none) : Shows u last { controller, heatmapLayer } := by
  refine ⟨?_, ?_, ?_, fun hOn => ?_⟩
  · rw [hController, hProperties]
    exact h.weightedData
  · rw [hProperties]
    exact h.zoom
  · rw [hController, hMap]
    rfl
  · rw [hController] at hOn
    cases hOn

/-- The map is cleared, which the layer may outlast. -/
theorem Shows.cleared (h : Shows u last s)
    (hController : controller.heatmapLayer = s.controller.clear.heatmapLayer) :
    Shows u last { controller, heatmapLayer := s.controller.mapView.cleared s.heatmapLayer } := by
  cases hClears : s.controller.mapView.clearsTileLayers with
  | true =>
    refine h.off (by simp [hController, clear, hClears]) rfl ?_
    simp [GMSMapView.cleared, hClears]
  | false =>
    have hLayer : s.controller.mapView.cleared s.heatmapLayer = s.heatmapLayer := by
      simp [GMSMapView.cleared, hClears]
    rw [hLayer]
    exact h.of_same (by simp [hController, clear, hClears])

/-- Taking the layer off the map leaves what it was given. -/
theorem Shows.restarted (h : Shows u last s)
    (hController : controller.heatmapLayer = { s.controller.heatmapLayer with map := false }) :
    ∃ heatmapLayer, (u.send [.setMap none] s.heatmapLayer).map s.controller.mapView.cleared =
        some heatmapLayer ∧
      Shows u last { controller, heatmapLayer } := by
  obtain ⟨data, dirty, hSend⟩ := exists_send_setMap (u := u) h.zoom
  exact ⟨_, congrArg (Option.map s.controller.mapView.cleared) hSend,
    h.off hController rfl (ite_self _)⟩

/-- **One step** of the controller: its calls on the layer do not fail. -/
theorem shows_step (h : Shows u last s) {e : Event}
    (hStep : s.controller.step e = some controller) :
    ∃ heatmapLayer, u.layerStep s.controller s.heatmapLayer e = some heatmapLayer ∧
      Shows u (Move.lastTap last ⟨s.controller, e, controller⟩) { controller, heatmapLayer } := by
  cases step_stepped hStep with
  | refreshTapped view => exact h.restarted rfl
  | toProperty view => exact h.restarted rfl
  | toCrime view => exact h.restarted rfl
  | didPick place => exact h.restarted rfl
  | toMarkers =>
    obtain ⟨data, dirty, hSend⟩ := exists_send_setMap (u := u) h.zoom
    exact ⟨_, hSend, h.off rfl rfl rfl⟩
  | toHeatmap =>
    obtain ⟨data, hData, hNew⟩ := exists_newLayer_tapped (u := u)
      ((s.controller.listOf s.controller.selected).map u.weightedLatLng)
    have hLayer : u.layerStep s.controller s.heatmapLayer (.toggleViewTapped 1) =
        u.newLayer [.setRadius 80, .setGradient .greenRed,
          .setWeightedData ((s.controller.listOf s.controller.selected).map u.weightedLatLng),
          .setMap (some ()), .setMap (some ())] := by
      cases hCrime : s.controller.isCrime <;>
        simp [Utilities.layerStep, selected, hCrime, listOf]
    exact ⟨_, hLayer.trans hNew, rfl, show 5 ≤ 10 by omega, rfl, fun _ => hData.symm⟩
  | located location => exact ⟨_, rfl, h.of_same rfl⟩
  | relocated location => exact ⟨_, rfl, h⟩
  | answered r reply records => exact ⟨_, rfl, h.of_same (heatmapLayer_answered r records)⟩
  | failed r reply => exact ⟨_, rfl, h.of_same rfl⟩
  | unanswered r reply => exact ⟨_, rfl, h.of_same rfl⟩
  | ran block rest hQueue =>
    simp only [Utilities.layerStep, hQueue, List.head?_cons]
    cases block with
    | emptyArrays completion => exact ⟨_, rfl, h.cleared rfl⟩
    | drawPostCodes => exact ⟨_, rfl, rfl, h.zoom, h.map, h.data⟩
    | deployMarkerAndHeatmapForProperty => exact ⟨_, rfl, h.of_same rfl⟩
    | deployMarkerAndHeatmapForCrime => exact ⟨_, rfl, h.of_same rfl⟩
    | drawCrimes => exact ⟨_, rfl, h.of_same rfl⟩
    | showPostCodes => exact ⟨_, rfl, h.of_same rfl⟩
    | showCrimes => exact ⟨_, rfl, h.of_same rfl⟩

/-- The real layer follows the controller through a run. -/
theorem shows_run (events : List Event) (h : Shows u last s)
    (hRun : events.foldlM MapViewController.step s.controller = some controller) :
    ∃ s', events.foldlM (HeatScreen.step u) s = some s' ∧ s'.controller = controller ∧
      Shows u ((Lib.transitions MapViewController.step s.controller events).foldl Move.lastTap last)
        s' := by
  induction events generalizing s last with
  | nil =>
    cases hRun
    exact ⟨s, rfl, rfl, h⟩
  | cons e rest ih =>
    rw [List.foldlM_cons] at hRun
    obtain ⟨next, hStep, hRest⟩ := Option.bind_eq_some_iff.mp hRun
    obtain ⟨heatmapLayer, hLayer, hNext⟩ := shows_step h hStep
    obtain ⟨s', hRun', hController, hShows⟩ := ih hNext hRest
    refine ⟨s', ?_, hController, ?_⟩
    · rw [List.foldlM_cons, HeatScreen.step, hStep]
      simp [hLayer, hRun']
    · rw [Lib.transitions_cons_some hStep]
      exact hShows

variable (u) in
/-- In every run the layer shows what the last tap gave it. -/
theorem shows_lastTap (mapView : GMSMapView) (events : List Event)
    (hRun : events.foldlM MapViewController.step (.viewDidLoad mapView) = some controller) :
    ∃ s, HeatScreen.stateAfter u mapView events = some s ∧ s.controller = controller ∧
      Shows u (lastTap mapView events) s := by
  obtain ⟨s, hLoad, hController, hShows⟩ := shows_viewDidLoad u mapView
  rw [← hController] at hRun
  obtain ⟨s', hRun', hController', hShows'⟩ := shows_run events hShows hRun
  refine ⟨s', by rw [HeatScreen.stateAfter, hLoad]; exact hRun', hController', ?_⟩
  rw [hController] at hShows'
  exact hShows'

-- ---------------------------------------------------------------------------
-- Tiles
-- ---------------------------------------------------------------------------

variable (u) in
/-- The map asks the layer for a tile; `none` if that raises. -/
def HeatScreen.tileForX (s : HeatScreen K) (x y zoom : ℕ) : Option Tile :=
  ((Tiles.GMUHeatmapTileLayer.machine u.ui u.getRed u.floats .greenRed).call s.heatmapLayer
    (.tileForX x y zoom)).bind Prod.snd

/-- A layer on the map draws from what it was given. -/
theorem Shows.tileForX (h : Shows u last s) (hMap : s.controller.heatmapLayer.map = true) :
    ∃ data, Tiles.prepare u.ui u.floats (heatProperties ((tappedList last).map u.weightedLatLng)) =
        some data ∧
      ∀ x y zoom, s.tileForX u x y zoom = Tiles.tileForX u.floats u.getRed data x y zoom := by
  obtain ⟨data, hData⟩ := Tiles.exists_prepare
    (heatProperties ((tappedList last).map u.weightedLatLng)) u.ui u.floats (show 5 ≤ 10 by omega)
  refine ⟨data, hData, fun x y zoom => ?_⟩
  have hLayer := h.data hMap
  rw [hData] at hLayer
  simp only [HeatScreen.tileForX, Tiles.GMUHeatmapTileLayer.machine, hLayer, Option.bind_eq_bind,
    Option.bind_some]
  cases Tiles.tileForX u.floats u.getRed data x y zoom <;> rfl

/-- **The tiles on screen** are those of the list at the last tap on Heatmap,
whatever the layer has been given since. -/
theorem tiles_of_last_tap (u : Utilities K) (mapView : GMSMapView) (events : List Event)
    (hRun : events.foldlM MapViewController.step (.viewDidLoad mapView) = some controller)
    (hMap : controller.heatmapLayer.map = true) :
    ∃ s data, HeatScreen.stateAfter u mapView events = some s ∧ s.controller = controller ∧
      s.heatmapLayer.weightedData = controller.heatmapLayer.weightedData.map u.weightedLatLng ∧
      Tiles.prepare u.ui u.floats
        (heatProperties ((tappedList (lastTap mapView events)).map u.weightedLatLng)) = some data ∧
      ∀ x y zoom, s.tileForX u x y zoom = Tiles.tileForX u.floats u.getRed data x y zoom := by
  obtain ⟨s, hState, rfl, hShows⟩ := shows_lastTap u mapView events hRun
  obtain ⟨data, hData, hTiles⟩ := hShows.tileForX hMap
  exact ⟨s, data, hState, rfl, hShows.weightedData, hData, hTiles⟩

/-- The components of a color, from those in red, green and blue. -/
noncomputable def hsbaOfRGBA (c : RGBA ℝ) : HSBA ℝ :=
  let top := max c.red (max c.green c.blue)
  let span := top - min c.red (min c.green c.blue)
  { hue :=
      if span = 0 then 0
      else if top = c.red then Int.fract ((c.green - c.blue) / span / 6.0)
      else if top = c.green then ((c.blue - c.red) / span + 2.0) / 6.0
      else ((c.red - c.green) / span + 4.0) / 6.0
    saturation := if top = 0 then 0 else span / top
    brightness := top
    alpha := c.alpha }

noncomputable def rgbaOfHSBA (a : HSBA ℝ) : RGBA ℝ :=
  let channel (n : ℝ) :=
    let k := 6.0 * Int.fract ((n + 6.0 * a.hue) / 6.0)
    a.brightness * (1 - a.saturation * max 0 (min 1 (min k (4.0 - k))))
  { red := channel 5.0, green := channel 3.0, blue := channel 1, alpha := a.alpha }

/-- Colours that are their own components, and the Mercator projection. -/
noncomputable def Utilities.mercator : Utilities ℝ where
  ui := GMUGradient.ownComponents
  colorWithRed := hsbaOfRGBA
  getRed a := some (rgbaOfHSBA a)
  floats := .exp
  project c := Tiles.GMSProject c.latitude c.longitude

theorem tiles_of_last_tap_firstVisit :
    ∃ s data, HeatScreen.stateAfter .mercator ⟨true⟩ (firstVisit.take 5) = some s ∧
      Tiles.prepare Utilities.mercator.ui .exp (heatProperties
        ((tappedList (lastTap ⟨true⟩ (firstVisit.take 5))).map Utilities.mercator.weightedLatLng)) =
        some data ∧
      s.tileForX .mercator 0 0 0 = Tiles.tileForX .exp Utilities.mercator.getRed data 0 0 0 := by
  have hShown : ∃ controller,
      (firstVisit.take 5).foldlM step (viewDidLoad ⟨true⟩) = some controller ∧
      controller.heatmapLayer.map = true :=
    (Option.any_eq_true ..).mp (by decide +kernel)
  obtain ⟨controller, hRun, hMap⟩ := hShown
  obtain ⟨s, data, hState, -, -, hData, hTiles⟩ :=
    tiles_of_last_tap .mercator ⟨true⟩ (firstVisit.take 5) hRun hMap
  exact ⟨s, data, hState, hData, hTiles 0 0 0⟩

-- ---------------------------------------------------------------------------
-- Crimes
-- ---------------------------------------------------------------------------

/-- A crime weighs 1. -/
theorem intensity_weightedCrime {crime : Crime} {p : GMUWeightedLatLng}
    (h : weightedCrime crime = some p) : p.intensity = 1 := by
  obtain ⟨location, -, h⟩ := Option.bind_eq_some_iff.mp h
  obtain ⟨latitude, -, h⟩ := Option.bind_eq_some_iff.mp h
  obtain ⟨longitude, -, h⟩ := Option.bind_eq_some_iff.mp h
  obtain ⟨lat, -, h⟩ := Option.bind_eq_some_iff.mp h
  obtain ⟨long, -, h⟩ := Option.bind_eq_some_iff.mp h
  cases h
  rfl

/-- Every crime has the same weight. -/
def CrimesWeighOne (s : MapViewController) : Prop := ∀ p ∈ s.crimeList, p.intensity = 1

/-- Only crimes come to the crime points. -/
theorem crimesWeighOne_step {s s' : MapViewController} {e : Event} (h : CrimesWeighOne s)
    (hStep : s.step e = some s') : CrimesWeighOne s' := by
  have hNone : ∀ {s : MapViewController}, s.crimeList = [] → CrimesWeighOne s := by
    intro s hNil p hp
    rw [hNil] at hp
    cases hp
  cases step_stepped hStep with
  | answered r reply records => cases records <;> exact h
  | ran block rest hQueue =>
    cases block with
    | emptyArrays completion => exact hNone rfl
    | drawCrimes =>
      intro p hp
      rcases List.mem_append.mp hp with hOld | hNew
      · exact h p hOld
      · obtain ⟨crime, -, hCrime⟩ := List.mem_filterMap.mp hNew
        exact intensity_weightedCrime hCrime
    | deployMarkerAndHeatmapForProperty => exact h
    | deployMarkerAndHeatmapForCrime => exact h
    | drawPostCodes => exact h
    | showPostCodes => exact h
    | showCrimes => exact h
  | _ => exact h

/-- The last tap was in a state of the run. -/
theorem lastTap_mem {tap : MapViewController} (mapView : GMSMapView) (events : List Event)
    (h : lastTap mapView events = some tap) : tap ∈ visited mapView events := by
  have hFold : ∀ (ts : List Move) (last : Option MapViewController),
      ts.foldl Move.lastTap last = some tap → last = some tap ∨ ∃ t ∈ ts, t.pre = tap := by
    intro ts
    induction ts with
    | nil => exact fun last h => Or.inl h
    | cons t rest ih =>
      intro last h
      rcases ih _ h with hFirst | ⟨t', ht', hPre⟩
      · rw [Move.lastTap] at hFirst
        split at hFirst
        · exact Or.inr ⟨t, List.mem_cons_self .., Option.some.inj hFirst⟩
        · exact Or.inl hFirst
      · exact Or.inr ⟨t', List.mem_cons_of_mem _ ht', hPre⟩
  rcases hFold _ _ h with hNone | ⟨t, ht, rfl⟩
  · cases hNone
  · exact Lib.pre_mem_states ht

/-- In every state the crime points weigh 1. -/
theorem crimesWeighOne_visited (mapView : GMSMapView) (events : List Event) {s : MapViewController}
    (hs : s ∈ visited mapView events) : CrimesWeighOne s := by
  refine Lib.forall_states (C := fun _ => True) (fun _ _ _ h hStep _ => crimesWeighOne_step h hStep)
    (fun p hp => ?_) (fun _ _ => trivial) s hs
  cases hp

/-- **A heatmap of crimes** has all its tiles: with its points weighing 1, none
of them is divided by a maximum of 0. -/
theorem crime_tiles_drawn (u : Utilities K) (mapView : GMSMapView) (events : List Event)
    (hRun : events.foldlM MapViewController.step (.viewDidLoad mapView) = some controller)
    (hMap : controller.heatmapLayer.map = true)
    {tap : MapViewController} (hTap : lastTap mapView events = some tap)
    (hCrime : tap.isCrime = true)
    (hExp : Tiles.DecaysFromOne u.floats.expf) (hCount : 2 * tap.crimeList.length * 256 ≤ 2 ^ 64) :
    ∃ s, HeatScreen.stateAfter u mapView events = some s ∧ s.controller = controller ∧
      ∀ x y zoom, zoom < Tiles.kGMUMaxZoom → ∃ tile, s.tileForX u x y zoom = some tile ∧
        (tile = .noTile ∨ ∃ rawpixels, tile = .image rawpixels ∧
          rawpixels.length = Tiles.kGMUTileSize * Tiles.kGMUTileSize) := by
  obtain ⟨s, hState, rfl, hShows⟩ := shows_lastTap u mapView events hRun
  obtain ⟨data, hData, hTiles⟩ := hShows.tileForX hMap
  refine ⟨s, hState, rfl, fun x y zoom hZoom => ?_⟩
  have hList : tappedList (lastTap mapView events) = tap.crimeList := by
    simp [tappedList, hTap, selected, hCrime, listOf]
  rw [hList] at hData
  have hOne : ∀ item ∈ tap.crimeList.map u.weightedLatLng, item.intensity = 1 := by
    intro item hItem
    obtain ⟨p, hp, rfl⟩ := List.mem_map.mp hItem
    have hWeight := crimesWeighOne_visited mapView events (lastTap_mem mapView events hTap) p hp
    simp [Utilities.weightedLatLng, Tiles.GMUWeightedLatLng.initWithCoordinate, hWeight]
  rw [hTiles]
  by_cases hNone : tap.crimeList = []
  · obtain ⟨hPoints, hWrapped⟩ :=
      Tiles.findPoints_spec hData (Tiles.tileBounds data.radius x y zoom)
    rw [hNone] at hPoints hWrapped
    refine ⟨.noTile, if_pos ?_, Or.inl rfl⟩
    have hEmpty := hPoints.length_eq
    rcases hWrapped with ⟨-, hWrapped⟩ | ⟨wrapped, -, hPerm⟩
    · simpa [heatProperties, hWrapped] using hEmpty
    · have hWrappedEmpty := hPerm.length_eq
      simp [heatProperties] at hEmpty hWrappedEmpty
      simp [hEmpty, hWrappedEmpty]
  · obtain ⟨p, hp⟩ := List.exists_mem_of_ne_nil _ hNone
    have hp' := List.mem_map_of_mem (f := u.weightedLatLng) hp
    refine Tiles.tileForX_answers u.getRed hData hExp (fun item hItem => ?_) ?_ ?_
      (show 0 < 80 ∧ 80 ≤ 22914 by omega) ⟨_, hp', ?_⟩
    · rw [hOne item hItem]
      exact zero_le_one
    · exact lt_of_lt_of_le hZoom (le_max_left _ _)
    · simpa [heatProperties, GMUGradient.greenRed] using hCount
    · rw [hOne _ hp']
      exact one_ne_zero

def crimeVisit : List Event := firstVisit ++ [.toggleViewTapped 1]

theorem crime_tiles_drawn_crimeVisit :
    ∃ s, HeatScreen.stateAfter .mercator ⟨true⟩ crimeVisit = some s ∧
      s.tileForX .mercator 0 0 0 ≠ none := by
  have hShown : ∃ controller, crimeVisit.foldlM step (viewDidLoad ⟨true⟩) = some controller ∧
      controller.heatmapLayer.map = true :=
    (Option.any_eq_true ..).mp (by decide +kernel)
  have hTap : ∃ tap, lastTap ⟨true⟩ crimeVisit = some tap ∧
      (tap.isCrime && decide (tap.crimeList.length = 1)) = true :=
    (Option.any_eq_true ..).mp (by decide +kernel)
  obtain ⟨controller, hRun, hMap⟩ := hShown
  obtain ⟨tap, hTap, hCrimes⟩ := hTap
  rw [Bool.and_eq_true, decide_eq_true_eq] at hCrimes
  obtain ⟨s, hState, -, hTiles⟩ :=
    crime_tiles_drawn .mercator ⟨true⟩ crimeVisit hRun hMap hTap hCrimes.1
    Tiles.decaysFromOne_exp (by rw [hCrimes.2]; norm_num)
  obtain ⟨tile, hTile, -⟩ := hTiles 0 0 0 (by decide)
  exact ⟨s, hState, by rw [hTile]; exact Option.some_ne_none _⟩

end PriceMap.IOS
