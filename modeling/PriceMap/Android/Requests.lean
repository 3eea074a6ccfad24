import PriceMap.Android.Invariants

/-!
# Android — which request the map answers

A camera move supersedes the older request on the same queue, where
`cancelAll` reaches it. A source switch supersedes it by a connection with a
queue of its own, and the old queue is left running.

* `camera_and_source_requested` — every camera stop and every switch leaves
  the newest request with the selected connection, for the position on screen.
* `displays_newest_iff` — the markers displayed are the newest request's
  exactly as long as no replaced connection answers.
-/

namespace PriceMap.Android

open Screen

-- ---------------------------------------------------------------------------
-- Observations
-- ---------------------------------------------------------------------------

/-- The marker request whose answer an event makes the presenter display. -/
def Event.displays : Event → Option MarkerRequest
  | .markerResponse r response =>
    match parseMarkers r response with
    | .ok _ => some r
    | .error _ => none
  | _ => none

def Event.answers : Event → Option MarkerRequest
  | .markerResponse r _ => some r
  | _ => none

/-- The marker request whose failure an event makes the presenter handle: not
reachable, or answered by an array that does not parse. -/
def Event.failure : Event → Option MarkerRequest
  | .markerResponse r response =>
    match parseMarkers r response with
    | .ok _ => none
    | .error _ => some r
  | .markerError r => some r
  | _ => none

def Screen.selected (s : Screen) : Kind :=
  if s.activity.crimeMapEnabled then .PoliceDataConnection else .ServerConnection

variable {P : Platform} {s s' : Screen} {m : GoogleMap} {e : Event} {r : MarkerRequest}

theorem Linked.kind_eq_selected (h : Linked s) :
    s.presenter.serverConnectionHandler.kind = s.selected := h.kind

/-- An answer that is displayed was in flight, and its markers are. -/
theorem effect_displays (h : Effect P m s e s') (hr : r ∈ e.displays) :
    r ∈ s.volley.markers ∧ ∃ markerList, (∃ response, parseMarkers r response = .ok markerList) ∧
      s' = (s.answered r markerList).displayed P m := by
  cases h with
  | @answered x response markerList hx hParse =>
    simp only [Event.displays, hParse, Option.mem_def, Option.some.injEq] at hr
    subst hr
    exact ⟨hx, markerList, ⟨response, hParse⟩, rfl⟩
  | malformed _ hParse => simp [Event.displays, hParse] at hr
  | @quiet e _ hEvent _ =>
    cases e <;> simp_all [Event.touchesMarkers, Event.displays]
  | _ => simp [Event.displays] at hr

/-- A failure was in flight, and leads to a switch. -/
theorem effect_failure (h : Effect P m s e s') (hr : r ∈ e.failure) :
    r ∈ s.volley.markers ∧ ∃ message, s' = (s.failed r message).switched P m := by
  cases h with
  | answered _ hParse => simp [Event.failure, hParse] at hr
  | @malformed x _ message hx hParse =>
    simp only [Event.failure, hParse, Option.mem_def, Option.some.injEq] at hr
    subst hr
    exact ⟨hx, message, rfl⟩
  | @failed x hx =>
    simp only [Event.failure, Option.mem_def, Option.some.injEq] at hr
    subst hr
    exact ⟨hx, notReachable, rfl⟩
  | @quiet e _ hEvent _ =>
    cases e <;> simp_all [Event.touchesMarkers, Event.failure]
  | _ => simp [Event.failure] at hr

theorem touches_of_displays (hr : r ∈ e.displays) : e.touchesMarkers = true := by
  cases e <;> simp_all [Event.displays, Event.touchesMarkers]

theorem touches_of_failure (hr : r ∈ e.failure) : e.touchesMarkers = true := by
  cases e <;> simp_all [Event.failure, Event.touchesMarkers]

-- ---------------------------------------------------------------------------
-- Every camera stop and every switch is asked for
-- ---------------------------------------------------------------------------

/-- The activity, the presenter and the newest request tell the same story. -/
structure Consistent (s : Screen) : Prop where
  crime : s.activity.crimeMapEnabled = s.presenter.crimeMapEnabled
  kind : s.presenter.serverConnectionHandler.kind = .PoliceDataConnection ↔
    s.activity.crimeMapEnabled = true
  heat : s.activity.heatMapEnabled = s.presenter.heatMapEnabled
  position : ∀ pos, s.activity.mPreviousCameraPosition = some pos →
    ∃ r, s.volley.newest = some r ∧ r.connection = s.presenter.serverConnectionHandler ∧
      r.lat = pos.target.latitude ∧ r.lon = pos.target.longitude

/-- What is linked tells the same story. -/
theorem Linked.consistent (h : Linked s) : Consistent s where
  crime := h.crime
  kind := by
    rw [h.kind]
    cases s.activity.crimeMapEnabled <;> simp
  heat := h.heat
  position pos hPos := by
    obtain ⟨r, hNewest, hLat, hLon⟩ := h.position pos hPos
    exact ⟨r, hNewest, h.newestHere r hNewest, hLat, hLon⟩

/-- A camera stop, the source button, or the automatic switch after a failure. -/
def Refreshes (e : Event) : Prop :=
  e = .cameraIdle ∨ e = .sourceClicked ∨ ∃ r, r ∈ e.failure

def PositionAsked (s : Screen) : Prop :=
  ∃ m, s.activity.mMap = some m ∧ s.activity.mPreviousCameraPosition = some m.cameraPosition

/-- A switch asks at the position of the camera. -/
theorem positionAsked_switched : PositionAsked (s.switched P m) :=
  ⟨_, rfl, rfl⟩

/-- Every refreshing step asks at the position of the camera. -/
theorem positionAsked_of_refreshes {c : ClusterManager} (hReady : Ready s m c)
    (hEffect : Effect P m s e s') (hRefresh : Refreshes e) : PositionAsked s' := by
  rcases hRefresh with rfl | rfl | ⟨r, hr⟩
  · cases hEffect with
    | idle hPos => exact ⟨m, hReady.mMap, hPos⟩
    | requested _ => exact ⟨m, hReady.mMap, rfl⟩
    | quiet hEvent _ => simp [Event.touchesMarkers] at hEvent
  · cases hEffect with
    | clicked => exact positionAsked_switched
    | quiet hEvent _ => simp [Event.touchesMarkers] at hEvent
  · obtain ⟨-, message, rfl⟩ := effect_failure hEffect hr
    exact positionAsked_switched

theorem touches_of_refreshes (h : Refreshes e) : e.touchesMarkers = true := by
  rcases h with rfl | rfl | ⟨r, hr⟩
  · rfl
  · rfl
  · exact touches_of_failure hr

/-- **No camera move and no source switch is left without a request.** In
every state of every run the duplicated flags agree, the connection is of the
selected kind, and a non-null `mPreviousCameraPosition` is the target of the
newest request ever issued, which went to the current connection. After every
camera stop and every switch, by the button or by an error, that position is
the one on screen. -/
theorem camera_and_source_requested (P : Platform) (events : List Event) :
    (∀ s ∈ visited P events, Consistent s) ∧
      ∀ t ∈ moves P events, Refreshes t.event → PositionAsked t.post ∧ Consistent t.post := by
  refine ⟨fun s hs => (linked_invariant.of_visited hs).consistent, ?_⟩
  intro t ht hRefresh
  obtain ⟨m, c, hReady, hEffect⟩ := effect_of_move ht (touches_of_refreshes hRefresh)
  have hLinked := (linked_invariant.of_move ht).2
  exact ⟨positionAsked_of_refreshes hReady hEffect hRefresh, hLinked.consistent⟩

-- ---------------------------------------------------------------------------
-- Which answers are displayed
-- ---------------------------------------------------------------------------

def DisplaysNewest (t : Move) : Prop :=
  ∀ r ∈ t.event.displays, t.pre.volley.newest = some r

/-- A move that displays an answer got it from the current connection, not
from one that a source switch has replaced. -/
def AnsweredByCurrent (t : Move) : Prop :=
  ∀ r ∈ t.event.displays, r.connection = t.pre.presenter.serverConnectionHandler

/-- **Latest wins, up to replaced connections.** A run displays nothing but
answers to the request that is the newest at that moment if and only if none
of its displayed answers comes from the queue of a connection that a source
switch had replaced. -/
theorem displays_newest_iff (P : Platform) (events : List Event) :
    (∀ t ∈ moves P events, DisplaysNewest t) ↔ ∀ t ∈ moves P events, AnsweredByCurrent t := by
  refine forall₂_congr fun t ht => forall₂_congr fun r hr => ?_
  obtain ⟨m, c, -, hEffect⟩ := effect_of_move ht (touches_of_displays hr)
  have hLinked := (linked_invariant.of_move ht).1
  exact hLinked.latest.eq_newest_iff hLinked.newestHere (effect_displays hEffect hr).1

-- ---------------------------------------------------------------------------
-- A run in which a superseded request wins
--
-- The flat world serves runs on concrete inputs: distances along the axes near
-- the equator, and so few markers that none is inside a cluster icon.
-- ---------------------------------------------------------------------------

/-- Looking straight down at the given point. -/
def lookAt (lat lon : ℚ) : CameraPosition := ⟨⟨lat, lon⟩, 14, 0, 0⟩

/-- What is visible up to `h` degrees away from the given point. -/
def regionAround (lat lon h : ℚ) : VisibleRegion :=
  ⟨⟨lat + h, lon - h⟩, ⟨lat + h, lon + h⟩, ⟨lat - h, lon - h⟩, ⟨lat - h, lon + h⟩⟩

/-- The map comes up 2.2264 km wide and the first camera stop is reported. -/
def openMap : List Event := [.mapReady (lookAt 0 0) (regionAround 0 0 (1 / 100)), .cameraIdle]

def firstRequest : MarkerRequest := ⟨0, ⟨0, .ServerConnection⟩, 0, 0, 2.2264⟩

/-- The request the first source switch sends from there. -/
def firstCrimeRequest : MarkerRequest := ⟨1, ⟨1, .PoliceDataConnection⟩, 0, 0, 2.2264⟩

/-- An answer of the backend with one postcode, and one of the police API. -/
def houseAnswer : List Json :=
  [.obj [("price", .num 100), ("postcode", .str "BN1 7JJ"), ("latitude", .str "0"),
    ("longitude", .str "0")]]

def crimeAnswer : List Json :=
  [.obj [("category", .str "burglary"),
    ("location", .obj [("latitude", .str "0"), ("longitude", .str "0")])]]

/-- The switch to the police source is answered, then the answer to the
request of the replaced backend connection arrives. -/
def lateAnswer : List Event :=
  openMap ++ [.sourceClicked, .markerResponse firstCrimeRequest crimeAnswer,
    .markerResponse firstRequest houseAnswer]

instance : DecidablePred DisplaysNewest := fun _ => inferInstanceAs (Decidable (∀ _ ∈ _, _))

/-- The source button twice, while the first request is in flight. -/
theorem displays_newest_fails :
    ¬ ∀ (P : Platform) (events : List Event), ∀ t ∈ moves P events, DisplaysNewest t := by
  intro h
  exact absurd (h flatWorld lateAnswer) (by decide +kernel)

end PriceMap.Android
