import PriceMap.Android.Steps

/-!
# Android — invariants of the map screen

`Kept` packages the induction over the runs of the screen: an invariant has to
hold of `onCreate`, of the screen `onMapReady` leaves, and to be preserved by
each `Effect` on a screen whose map is there.

`Linked` is the invariant that ties the duplicated state together: the two
flags of the activity to those of the presenter, the flags to the kind of the
current connection, the camera position and `enableInfoWindow` to the newest
marker request, and the newest request to the queue of the current connection.
-/

namespace PriceMap.Android

open Screen

variable {P : Platform}

-- ---------------------------------------------------------------------------
-- Induction over runs
-- ---------------------------------------------------------------------------

/-- `Inv` holds along every run of the screen whose moves meet `C`. -/
structure Kept (P : Platform) (C : Move → Prop) (Inv : Screen → Prop) : Prop where
  create : Inv onCreate
  mapReady : ∀ position region, Inv (onCreate.onMapReady position region)
  effect : ∀ {s s' : Screen} {m : GoogleMap} {c : ClusterManager} {e : Event},
    Ready s m c → Inv s → C ⟨s, e, s'⟩ → s.step P e = some s' → Effect P m s e s' → Inv s'

/-- A screen is as `onCreate` left it until its map is there. -/
def Started (s : Screen) : Prop := s = onCreate ∨ ∃ m c, Ready s m c

/-- Displaying needs a map and leaves one. -/
theorem ready_displayed {s : Screen} {m : GoogleMap} :
    ∃ m' c', Ready (s.displayed P m) m' c' := by
  obtain ⟨m', h⟩ := sameMarkers_displayed.ready ⟨rfl, rfl⟩
  exact ⟨m', _, h⟩

/-- The map stays there. -/
theorem ready_effect {s s' : Screen} {m : GoogleMap} {c : ClusterManager} {e : Event}
    (hReady : Ready s m c) (h : Effect P m s e s') : ∃ m' c', Ready s' m' c' := by
  cases h with
  | quiet _ hSame =>
    obtain ⟨m', hm'⟩ := hSame.ready hReady
    exact ⟨m', c, hm'⟩
  | idle _ => exact ⟨m, c, hReady⟩
  | requested _ => exact ⟨m, c, hReady.mMap, hReady.mClusterManager⟩
  | checked _ => exact ready_displayed
  | answered _ _ => exact ready_displayed
  | clicked | malformed _ _ | failed _ => exact ⟨_, _, rfl, rfl⟩

/-- What an effect keeps, a step keeps. -/
theorem Kept.step {C : Move → Prop} {Inv : Screen → Prop} (h : Kept P C Inv) (s : Screen)
    (e : Event) (s' : Screen) (hs : Started s ∧ Inv s) (hStep : s.step P e = some s')
    (hC : C ⟨s, e, s'⟩) : Started s' ∧ Inv s' := by
  obtain ⟨rfl | ⟨m, c, hReady⟩, hInv⟩ := hs
  · rcases step_onCreate hStep with ⟨-, rfl⟩ | ⟨position, region, -, rfl⟩
    · exact ⟨Or.inl rfl, hInv⟩
    · exact ⟨Or.inr ⟨_, _, rfl, rfl⟩, h.mapReady position region⟩
  · have hEffect := (step_ready hReady hStep).2
    exact ⟨Or.inr (ready_effect hReady hEffect), h.effect hReady hInv hC hStep hEffect⟩

/-- What steps keep holds in every state of the run. -/
theorem Kept.visited {C : Move → Prop} {Inv : Screen → Prop} (h : Kept P C Inv)
    {events : List Event} (hC : ∀ t ∈ moves P events, C t) :
    ∀ s ∈ visited P events, Inv s :=
  fun s hs => (Lib.forall_states h.step ⟨Or.inl rfl, h.create⟩ hC s hs).2

/-- And before and after each of its steps. -/
theorem Kept.moves {C : Move → Prop} {Inv : Screen → Prop} (h : Kept P C Inv)
    {events : List Event} (hC : ∀ t ∈ moves P events, C t) :
    ∀ t ∈ moves P events, Inv t.pre ∧ Inv t.post := by
  intro t ht
  obtain ⟨hPre, -, hPost⟩ := Lib.forall_transitions h.step ⟨Or.inl rfl, h.create⟩ hC t ht
  exact ⟨hPre.2, hPost.2⟩

abbrev Invariant (P : Platform) (Inv : Screen → Prop) : Prop := Kept P (fun _ => True) Inv

/-- An invariant holds in every state of a run. -/
theorem Invariant.of_visited {Inv : Screen → Prop} (h : Invariant P Inv) {events : List Event}
    {s : Screen} (hs : s ∈ visited P events) : Inv s :=
  h.visited (fun _ _ => trivial) s hs

/-- And before and after each of its steps. -/
theorem Invariant.of_move {Inv : Screen → Prop} (h : Invariant P Inv) {events : List Event}
    {t : Move} (ht : t ∈ moves P events) : Inv t.pre ∧ Inv t.post :=
  h.moves (fun _ _ => trivial) t ht

theorem invariant_true : Invariant P (fun _ => True) :=
  ⟨trivial, fun _ _ => trivial, fun _ _ _ _ _ => trivial⟩

theorem started_visited {events : List Event} {s : Screen} (hs : s ∈ visited P events) :
    Started s := by
  have hStarted : ∀ x ∈ visited P events, Started x ∧ True :=
    Lib.forall_states invariant_true.step ⟨Or.inl rfl, trivial⟩ fun _ _ => trivial
  exact (hStarted s hs).1

/-- Every move of a run is a step from a screen as `onCreate` left it or with
its map. -/
theorem step_of_move {events : List Event} {t : Move} (ht : t ∈ moves P events) :
    Started t.pre ∧ t.pre.step P t.event = some t.post :=
  ⟨started_visited (Lib.pre_mem_states ht), Lib.step_of_mem_transitions ht⟩

/-- A step that touches the markers has an effect on a map. -/
theorem effect_of_move {events : List Event} {t : Move} (ht : t ∈ moves P events)
    (hTouch : t.event.touchesMarkers = true) :
    ∃ m c, Ready t.pre m c ∧ Effect P m t.pre t.event t.post := by
  obtain ⟨hStarted, hStep⟩ := step_of_move ht
  rcases hStarted with hCreate | ⟨m, c, hReady⟩
  · rw [hCreate] at hStep
    rcases step_onCreate hStep with ⟨hEvent, -⟩ | ⟨position, region, hEvent, -⟩ <;>
      simp [hEvent, Event.touchesMarkers] at hTouch
  · exact ⟨m, c, hReady, (step_ready hReady hStep).2⟩

-- ---------------------------------------------------------------------------
-- The linked state
-- ---------------------------------------------------------------------------

/-- What a request for the current camera position relies on. -/
structure Based (s : Screen) : Prop where
  crime : s.activity.crimeMapEnabled = s.presenter.crimeMapEnabled
  kind : s.presenter.serverConnectionHandler.kind =
    if s.activity.crimeMapEnabled then .PoliceDataConnection else .ServerConnection
  heat : s.activity.heatMapEnabled = s.presenter.heatMapEnabled
  handlerOld : s.presenter.serverConnectionHandler.id < s.volley.created
  markersOld : ∀ r ∈ s.volley.markers, r.connection.id < s.volley.created

structure Linked (s : Screen) : Prop extends Based s where
  newestHere : ∀ r, s.volley.newest = some r →
    r.connection = s.presenter.serverConnectionHandler
  latest : Lib.LatestOn MarkerRequest.connection s.volley.markers
    s.presenter.serverConnectionHandler s.volley.newest
  window : ∀ r, s.volley.newest = some r → (s.activity.enableInfoWindow = true ↔ r.radius < 1)
  position : ∀ pos, s.activity.mPreviousCameraPosition = some pos →
    ∃ r, s.volley.newest = some r ∧
      r.lat = pos.target.latitude ∧ r.lon = pos.target.longitude

variable {s s' : Screen} {m : GoogleMap}

/-- Moving the camera or the sheet keeps requests and source linked. -/
theorem Linked.same (h : Linked s) (hSame : SameMarkers s s') : Linked s' := by
  refine ⟨?_, ?_, ?_, ?_, ?_⟩
  · refine ⟨?_, ?_, ?_, ?_, ?_⟩
    · rw [hSame.crimeMapEnabled, hSame.presenter]; exact h.crime
    · rw [hSame.crimeMapEnabled, hSame.presenter]; exact h.kind
    · rw [hSame.heatMapEnabled, hSame.presenter]; exact h.heat
    · rw [hSame.presenter, hSame.created]; exact h.handlerOld
    · rw [hSame.markers, hSame.created]; exact h.markersOld
  · rw [hSame.newest, hSame.presenter]; exact h.newestHere
  · rw [hSame.markers, hSame.newest, hSame.presenter]; exact h.latest
  · rw [hSame.newest, hSame.enableInfoWindow]; exact h.window
  · rw [hSame.mPreviousCameraPosition, hSame.newest]; exact h.position

def nextRequest (P : Platform) (m : GoogleMap) (s : Screen) : MarkerRequest :=
  s.volley.markerRequest s.presenter.serverConnectionHandler m.cameraPosition.target.latitude
    m.cameraPosition.target.longitude (calcVisibleRadius P m.visibleRegion / 1000)

@[simp] theorem newest_requested :
    (s.requested P m).volley.newest = some (nextRequest P m s) :=
  Volley.newest_markerJsonParse

/-- A request cancels those of its connection. -/
theorem markers_requested : (s.requested P m).volley.markers =
    Lib.supersede MarkerRequest.connection (nextRequest P m s) s.volley.markers :=
  Volley.markers_markerJsonParse

@[simp] theorem created_requested : (s.requested P m).volley.created = s.volley.created :=
  Volley.created_markerJsonParse

/-- A request of the current connection links. -/
theorem Based.requested (h : Based s) : Linked (s.requested P m) := by
  refine ⟨⟨h.crime, h.kind, h.heat, ?_, ?_⟩, ?_, ?_, ?_, ?_⟩
  · rw [created_requested]
    exact h.handlerOld
  · rw [created_requested, markers_requested]
    intro r hr
    rcases Lib.mem_supersede.mp hr with ⟨hOld, -⟩ | rfl
    · exact h.markersOld r hOld
    · exact h.handlerOld
  · rw [newest_requested]
    rintro r ⟨⟩
    rfl
  · rw [newest_requested, markers_requested]
    exact Lib.latestOn_supersede (nextRequest P m s) s.volley.markers
  · rw [newest_requested]
    rintro r ⟨⟩
    show decide (calcVisibleRadius P m.visibleRegion < 1000) = true ↔
      calcVisibleRadius P m.visibleRegion / 1000 < 1
    rw [decide_eq_true_eq, div_lt_one (by norm_num)]
  · rw [newest_requested]
    rintro pos ⟨⟩
    exact ⟨_, rfl, rfl, rfl⟩

/-- Selecting the other source makes a connection no request was sent on. -/
theorem Based.sourceSet (h : Based s) : Based (s.sourceSet m) := by
  refine ⟨rfl, ?_, h.heat, Nat.lt_succ_self _, ?_⟩
  · show (s.otherConnection).kind = _
    cases hc : s.activity.crimeMapEnabled <;> simp [otherConnection, Screen.sourceSet, hc]
  · intro r hr
    exact Nat.lt_succ_of_lt (h.markersOld r hr)

/-- A switch makes its connection the current one. -/
theorem Based.switched (h : Based s) : Linked (s.switched P m) :=
  h.sourceSet.requested

/-- A request that is answered or fails only leaves its queue. -/
theorem Linked.finishMarker (h : Linked s) (r : MarkerRequest) (markerList : List DrawnMarker)
    (dialogs : List String) :
    Linked { s with
      volley := s.volley.finishMarker r
      presenter := { s.presenter with markerList := markerList }
      dialogs := dialogs } := by
  have hSub : (s.volley.finishMarker r).markers ⊆ s.volley.markers := List.filter_subset_self ..
  exact ⟨⟨h.crime, h.kind, h.heat, h.handlerOld, fun x hx => h.markersOld x (hSub hx)⟩,
    h.newestHere, h.latest.of_subset hSub, h.window, h.position⟩

theorem Linked.failed (h : Linked s) (r : MarkerRequest) (errorMessage : String) :
    Linked (s.failed r errorMessage) :=
  h.finishMarker r s.presenter.markerList _

theorem Linked.answered (h : Linked s) (r : MarkerRequest) (markerList : List DrawnMarker) :
    Linked (s.answered r markerList) :=
  h.finishMarker r markerList s.dialogs

theorem Linked.heatmapSet (h : Linked s) (b : Bool) : Linked (s.heatmapSet b) :=
  ⟨⟨h.crime, h.kind, rfl, h.handlerOld, h.markersOld⟩, h.newestHere, h.latest, h.window,
    h.position⟩

/-- Displaying cancels nothing. -/
theorem Linked.displayed (h : Linked s) : Linked (s.displayed P m) := by
  have hDrawn : Linked (s.drawn m) :=
    ⟨⟨h.crime, h.kind, h.heat, h.handlerOld, h.markersOld⟩, h.newestHere, h.latest, h.window,
      h.position⟩
  exact hDrawn.same sameMarkers_displayed

/-- **The duplicated state never comes apart.** -/
theorem linked_invariant : Invariant P Linked where
  create := by
    refine ⟨⟨rfl, rfl, rfl, Nat.zero_lt_one, ?_⟩, ?_, ?_, ?_, ?_⟩ <;> intro r hr <;> cases hr
  mapReady position region := by
    refine ⟨⟨rfl, rfl, rfl, Nat.zero_lt_one, ?_⟩, ?_, ?_, ?_, ?_⟩ <;> intro r hr <;> cases hr
  effect _ h _ _ hEffect := by
    cases hEffect with
    | quiet _ hSame => exact h.same hSame
    | idle _ => exact h
    | requested _ => exact h.toBased.requested
    | clicked => exact h.toBased.switched
    | checked b => exact (h.heatmapSet b).displayed
    | answered _ _ => exact (h.answered _ _).displayed
    | malformed _ _ => exact (h.failed _ _).toBased.switched
    | failed _ => exact (h.failed _ _).toBased.switched

end PriceMap.Android
