import PriceMap.Android.Invariants

/-!
# Android — before the map is there

The map arrives some time after `onCreate`, the switch, the source button and
the place search work from then on. `enableMyLocation` asks whether the map is
there, the handlers of these three do not.

* `handles_iff` — once the screen has started, a handler throws exactly if it is
  one of the three and the map is not there.
* `no_null_dereference_iff` — along a run, none throws if and only if none of
  the three comes before `onMapReady`.
-/

namespace PriceMap.Android

open Screen

variable {P : Platform} {s : Screen}

/-- The events whose handlers use the map from `onCreate` on. -/
def Event.needsMap : Event → Bool
  | .heatmapChecked _ | .sourceClicked | .placePicked _ => true
  | _ => false

/-- **When a handler throws.** -/
theorem handles_iff (hStarted : Started s) {e : Event} (hEnabled : s.enabled P e = true) :
    s.handle P e ≠ .error .NullPointerException ↔
      ¬ (s.activity.mMap = none ∧ e.needsMap = true) := by
  rcases hStarted with rfl | ⟨m, c, hReady⟩
  · cases e with
    | mapReady position region => simp [handle, pure, Except.pure, Event.needsMap]
    | sheetHidden => simp [handle, pure, Except.pure, Event.needsMap]
    | sourceClicked => exact iff_of_false (fun h => h rfl) (fun h => h ⟨rfl, rfl⟩)
    | heatmapChecked b => exact iff_of_false (fun h => h rfl) (fun h => h ⟨rfl, rfl⟩)
    | placePicked place => exact iff_of_false (fun h => h rfl) (fun h => h ⟨rfl, rfl⟩)
    | cameraMoved position region => simp [enabled, onCreate] at hEnabled
    | cameraIdle => simp [enabled, onCreate] at hEnabled
    | markerResponse r response => simp [enabled, onCreate] at hEnabled
    | markerError r => simp [enabled, onCreate] at hEnabled
    | addressResponse r response => simp [enabled, onCreate] at hEnabled
    | addressError r => simp [enabled, onCreate] at hEnabled
    | markerTapped marker => simp [not_enabled_markerTapped] at hEnabled
  · rw [handle_ready hReady e, hReady.mMap]
    exact iff_of_true (by simp) (by simp)

/-- **No null dereference, if the map comes first.** No event that a run comes to
makes its handler dereference `mMap` or `mClusterManager` while they are null if
and only if the heatmap switch, the source button and the place search are left
alone until `onMapReady`. -/
theorem no_null_dereference_iff (P : Platform) (events : List Event) :
    (∀ x ∈ Lib.attempts (Screen.step P) onCreate events, x.1.enabled P x.2 = true →
        x.1.handle P x.2 ≠ .error .NullPointerException) ↔
      ∀ x ∈ Lib.attempts (Screen.step P) onCreate events, x.1.enabled P x.2 = true →
        ¬ (x.1.activity.mMap = none ∧ x.2.needsMap = true) := by
  have hIff : ∀ x ∈ Lib.attempts (Screen.step P) onCreate events, x.1.enabled P x.2 = true →
      (x.1.handle P x.2 ≠ .error .NullPointerException ↔
        ¬ (x.1.activity.mMap = none ∧ x.2.needsMap = true)) := by
    intro x hx hEnabled
    exact handles_iff (started_visited (Lib.fst_mem_states hx)) hEnabled
  exact ⟨fun h x hx hEnabled => (hIff x hx hEnabled).mp (h x hx hEnabled),
    fun h x hx hEnabled => (hIff x hx hEnabled).mpr (h x hx hEnabled)⟩

/-- The heatmap switch before the map has come. -/
theorem no_null_dereference_fails :
    ¬ ∀ (P : Platform) (events : List Event),
      ∀ x ∈ Lib.attempts (Screen.step P) onCreate events, x.1.enabled P x.2 = true →
        x.1.handle P x.2 ≠ .error .NullPointerException := by
  intro h
  exact h flatWorld [.heatmapChecked true] (onCreate, .heatmapChecked true)
    (List.mem_cons_self ..) rfl rfl

-- ---------------------------------------------------------------------------
-- The handlers that are safe
-- ---------------------------------------------------------------------------

/-- `enableMyLocation`, with the permission granted or still to be asked for. -/
def Screen.enableMyLocation (granted : Bool) (s : Screen) : Except Throwable Screen :=
  if !granted then return s
  else if s.activity.mMap.isSome then do
    let _ ← deref s.activity.mMap
    return s
  else return s

/-- The location permission may be granted before the map is there. -/
theorem enableMyLocation_ok (granted : Bool) : s.enableMyLocation granted = .ok s := by
  unfold enableMyLocation
  cases granted with
  | false => rfl
  | true =>
    cases s.activity.mMap <;> rfl

/-- The map's own listener of marker clicks, which asks the cluster manager
first. -/
def Screen.onMarkerClick (marker : Option DrawnMarker) (s : Screen) : Except Throwable Screen := do
  let _ ← deref s.activity.mClusterManager
  return s.markerClicked marker

/-- Where a marker can be tapped, the cluster manager is there. -/
theorem onMarkerClick_ok (hStarted : Started s) {marker : Option DrawnMarker}
    (hEnabled : s.enabled P (.markerTapped marker) = true) :
    s.onMarkerClick marker = s.handle P (.markerTapped marker) := by
  rcases hStarted with rfl | ⟨m, c, hReady⟩
  · simp [not_enabled_markerTapped] at hEnabled
  · rw [onMarkerClick, hReady.deref_mClusterManager]
    rfl

end PriceMap.Android
