import PriceMap.Android.Contents
import PriceMap.Backend.ApiService

/-!
# Android — which taps look up addresses

Whether a tap opens the bottom sheet depends on `enableInfoWindow`, which
follows the camera at once. The markers follow with the next answer, and what
they stand for was decided by the radius of the request they answer.

* `issued_invariant` — every marker comes from the answer to an issued request
  and is of the type of its connection.
* `lookups_at_postcodes_iff` — every lookup is for a unit postcode exactly as
  long as no tapped marker is older than a zoom below 1 km.
-/

namespace PriceMap.Android

open Screen

variable {P : Platform} {s s' : Screen} {m : GoogleMap}

-- ---------------------------------------------------------------------------
-- Where the markers come from
-- ---------------------------------------------------------------------------

/-- The marker is from the answer to a request among `issued`. -/
structure DrawnMarker.FromAnswer (issued : List MarkerRequest) (mk : DrawnMarker) : Prop where
  origin : mk.origin ∈ issued
  type : mk.type = mk.origin.connection.kind.markerType

/-- Requests in flight were issued, and the presenter's markers are from
answers to issued requests. -/
structure Issued (s : Screen) : Prop where
  markers : s.volley.markers ⊆ s.volley.issuedMarkers
  markerList : ∀ mk ∈ s.presenter.markerList, mk.FromAnswer s.volley.issuedMarkers

/-- Moving the camera or the sheet asks for no markers. -/
theorem Issued.same (h : Issued s) (hSame : SameMarkers s s') : Issued s' := by
  refine ⟨?_, ?_⟩
  · rw [hSame.markers, hSame.issuedMarkers]; exact h.markers
  · rw [hSame.presenter, hSame.issuedMarkers]; exact h.markerList

/-- What is asked for is issued. -/
theorem Issued.requested (h : Issued s) : Issued (s.requested P m) := by
  have hIssued : (s.requested P m).volley.issuedMarkers =
      nextRequest P m s :: s.volley.issuedMarkers := Volley.issuedMarkers_markerJsonParse
  refine ⟨?_, ?_⟩
  · rw [markers_requested, hIssued]
    intro r hr
    rcases Lib.mem_supersede.mp hr with ⟨hOld, -⟩ | rfl
    · exact List.mem_cons_of_mem _ (h.markers hOld)
    · exact List.mem_cons_self ..
  · rw [hIssued]
    intro mk hmk
    obtain ⟨hOrigin, hType⟩ := h.markerList mk hmk
    exact ⟨List.mem_cons_of_mem _ hOrigin, hType⟩

theorem Issued.sourceSet (h : Issued s) : Issued (s.sourceSet m) :=
  ⟨h.markers, h.markerList⟩

theorem Issued.failed (h : Issued s) (r : MarkerRequest) (errorMessage : String) :
    Issued (s.failed r errorMessage) :=
  ⟨fun _ hx => h.markers (List.mem_of_mem_filter hx), h.markerList⟩

/-- Displaying keeps the markers. -/
theorem Issued.displayed (h : Issued s) : Issued (s.displayed P m) := by
  have hDrawn : Issued (s.drawn m) := ⟨h.markers, h.markerList⟩
  exact hDrawn.same sameMarkers_displayed

/-- The markers of an answer come from its array. -/
theorem Issued.answered (h : Issued s) {r : MarkerRequest} {response : List Json}
    {markerList : List DrawnMarker} (hr : r ∈ s.volley.markers)
    (hParse : parseMarkers r response = .ok markerList) : Issued (s.answered r markerList) := by
  refine ⟨fun _ hx => h.markers (List.mem_of_mem_filter hx), fun mk hmk => ?_⟩
  obtain ⟨hOrigin, hType⟩ := parseMarkers_ok hParse mk hmk
  refine ⟨?_, ?_⟩
  · rw [hOrigin]
    exact h.markers hr
  · rw [hOrigin]
    exact hType

/-- **No marker appears out of nothing.** -/
theorem issued_invariant : Invariant P Issued where
  create := ⟨fun _ hr => hr, by intro mk hmk; cases hmk⟩
  mapReady _ _ := ⟨fun _ hr => hr, by intro mk hmk; cases hmk⟩
  effect _ h _ _ hEffect := by
    cases hEffect with
    | quiet _ hSame => exact h.same hSame
    | idle _ => exact h
    | requested _ => exact h.requested
    | clicked => exact h.sourceSet.requested
    | checked b => exact Issued.displayed (s := _) ⟨h.markers, h.markerList⟩
    | answered hr hParse => exact (h.answered hr hParse).displayed
    | malformed _ _ => exact (h.failed _ _).sourceSet.requested
    | failed _ => exact (h.failed _ _).sourceSet.requested

/-- A marker on the map is in the presenter's list. -/
theorem mem_markerList_of_rendered (hShows : Blank s ∨ RendersList s) {mk : DrawnMarker}
    (hmk : mk ∈ s.renderedMarkers P) : mk ∈ s.presenter.markerList := by
  have hItem : mk ∈ s.items := P.getMarkers_subset _ _ hmk
  rcases hShows with hBlank | hRenders
  · rw [hBlank.1] at hItem
    cases hItem
  · rw [← hRenders.onMap]
    exact List.mem_append_left _ hItem

-- ---------------------------------------------------------------------------
-- When a tap sends a lookup
-- ---------------------------------------------------------------------------

def Event.tap : Event → Option DrawnMarker
  | .markerTapped marker => marker
  | _ => none

theorem eq_markerTapped_of_tap {e : Event} {mk : DrawnMarker} (h : mk ∈ e.tap) :
    e = .markerTapped (some mk) := by
  cases e <;> simp_all [Event.tap]

def SendsLookup (t : Move) : Prop :=
  t.post.volley.issuedAddresses ≠ t.pre.volley.issuedAddresses

/-- Only police markers have the snippet that `markerClicked` excludes. -/
theorem getSnippet_eq_police_iff (pm : PostCodeMarker) :
    pm.getSnippet = "Occurred within the last month." ↔ pm.type = .POLICE_MARKER := by
  cases hType : pm.type with
  | POLICE_MARKER => simp [PostCodeMarker.getSnippet, hType]
  | HOUSE_MARKER =>
    have hFirst : ∀ rest : String,
        "Average price: £" ++ rest ≠ "Occurred within the last month." := by
      intro rest h
      have hHead := congrArg (fun text => text.toList.head?) h
      simp at hHead
    simp only [PostCodeMarker.getSnippet, hType, reduceCtorEq, iff_false]
    split
    · exact hFirst _
    · decide

/-- Only close to the ground and for houses. -/
theorem opensSheet_iff (mk : DrawnMarker) :
    s.opensSheet (some mk) = true ↔
      s.activity.enableInfoWindow = true ∧ mk.type = .HOUSE_MARKER := by
  have hType : ¬ mk.type = .POLICE_MARKER ↔ mk.type = .HOUSE_MARKER := by
    cases mk.type <;> simp
  rw [opensSheet, Bool.and_eq_true, bne_iff_ne, Ne, getSnippet_eq_police_iff, hType]

/-- A click sends a lookup if and only if it opens the sheet while the backend
connection is current. -/
theorem markerClicked_sendsLookup (mk : DrawnMarker) :
    (s.markerClicked (some mk)).volley.issuedAddresses ≠ s.volley.issuedAddresses ↔
      s.opensSheet (some mk) = true ∧
        s.presenter.serverConnectionHandler.kind = .ServerConnection := by
  by_cases hOpens : s.opensSheet (some mk) = true
  · rw [markerClicked, if_pos hOpens]
    cases hKind : s.presenter.serverConnectionHandler.kind with
    | ServerConnection =>
      simp [displayBottomSheet, Volley.postcodeJsonParse, hKind, Volley.addAddress,
        Volley.cancelAll, hOpens]
    | PoliceDataConnection =>
      simp [displayBottomSheet, Volley.postcodeJsonParse_police hKind]
  · rw [markerClicked, if_neg hOpens]
    simp [hOpens]

-- ---------------------------------------------------------------------------
-- Lookups and the resolution of the backend
-- ---------------------------------------------------------------------------

/-- The marker comes from the answer to a request below 1 km, for which the
backend serves unit postcodes. -/
structure ServedAsPostcode (s : Screen) (mk : DrawnMarker) : Prop where
  issued : mk.origin ∈ s.volley.issuedMarkers
  backend : mk.origin.connection.kind = .ServerConnection
  below : mk.origin.radius < 1
  level : Backend.level (some (.finite mk.origin.radius)) = .getPostCodes

def LooksUpPostcode (t : Move) : Prop :=
  ∀ mk ∈ t.event.tap, SendsLookup t → ServedAsPostcode t.pre mk

/-- The view was at least 1 km wide when the marker was asked for, and has come
to rest below 1 km since. -/
def ZoomedInSince (s : Screen) (mk : DrawnMarker) : Prop :=
  1 ≤ mk.origin.radius ∧ ∃ r, s.volley.newest = some r ∧ r.radius < 1

/-- While the backend is selected, no price marker is tapped that is older than
a zoom below 1 km. -/
def TapsNoOlderThanZoom (t : Move) : Prop :=
  ∀ mk ∈ t.event.tap, mk.type = .HOUSE_MARKER → t.pre.selected = .ServerConnection →
    ¬ ZoomedInSince t.pre mk

/-- A tap clicks a marker on the map. -/
theorem tap_of_move {events : List Event} {t : Move} {mk : DrawnMarker}
    (ht : t ∈ moves P events) (hTap : mk ∈ t.event.tap) :
    mk ∈ t.pre.renderedMarkers P ∧ t.post = t.pre.markerClicked (some mk) := by
  obtain ⟨hEnabled, hHandle⟩ := step_eq_some (step_of_move ht).2
  rw [eq_markerTapped_of_tap hTap] at hEnabled hHandle
  exact ⟨by simpa [enabled] using hEnabled, (Except.ok.inj hHandle).symm⟩

/-- A marker that can be tapped is from an answer, so something was asked for. -/
theorem fromAnswer_of_tap {events : List Event} {t : Move} {mk : DrawnMarker}
    (ht : t ∈ moves P events) (hTap : mk ∈ t.event.tap) :
    mk.FromAnswer t.pre.volley.issuedMarkers ∧ ∃ r, t.pre.volley.newest = some r := by
  have hShows := (shows_invariant.of_move ht).1
  have hIssued := (issued_invariant.of_move ht).1
  have hAnswer := hIssued.markerList mk (mem_markerList_of_rendered hShows (tap_of_move ht hTap).1)
  refine ⟨hAnswer, t.pre.volley.issuedMarkers.head (List.ne_nil_of_mem hAnswer.origin), ?_⟩
  exact List.head?_eq_some_head _

/-- A tap sends a lookup exactly if it is on a price marker, the backend is
selected and the newest request was for less than 1 km. -/
theorem tap_sendsLookup_iff {events : List Event} {t : Move} {mk : DrawnMarker}
    (ht : t ∈ moves P events) (hTap : mk ∈ t.event.tap) :
    SendsLookup t ↔ mk.type = .HOUSE_MARKER ∧ t.pre.selected = .ServerConnection ∧
      ∃ r, t.pre.volley.newest = some r ∧ r.radius < 1 := by
  have hLinked := (linked_invariant.of_move ht).1
  obtain ⟨-, r, hNewest⟩ := fromAnswer_of_tap ht hTap
  rw [SendsLookup, (tap_of_move ht hTap).2, markerClicked_sendsLookup, opensSheet_iff,
    hLinked.kind_eq_selected, hLinked.window r hNewest, hNewest]
  simp only [Option.some.injEq, exists_eq_left']
  tauto

/-- **Lookups are for unit postcodes, up to a zoom.** In a run, every tap that
sends an address lookup is on a marker the backend served as a unit postcode
if and only if no price marker is tapped that is older than a zoom below
1 km. -/
theorem lookups_at_postcodes_iff (P : Platform) (events : List Event) :
    (∀ t ∈ moves P events, LooksUpPostcode t) ↔ ∀ t ∈ moves P events, TapsNoOlderThanZoom t := by
  refine forall₂_congr fun t ht => forall₂_congr fun mk hTap => ?_
  obtain ⟨⟨hOrigin, hType⟩, -⟩ := fromAnswer_of_tap ht hTap
  rw [tap_sendsLookup_iff ht hTap]
  refine ⟨?_, ?_⟩
  · rintro h hHouse hSelected ⟨hAbove, hNewest⟩
    have hBelow := (h ⟨hHouse, hSelected, hNewest⟩).below
    exact absurd hBelow (not_lt.mpr hAbove)
  · rintro h ⟨hHouse, hSelected, hNewest⟩
    have hOriginBelow : mk.origin.radius < 1 :=
      not_le.mp fun hAbove => h hHouse hSelected ⟨hAbove, hNewest⟩
    refine ⟨hOrigin, ?_, hOriginBelow, (Backend.level_finite _).mpr hOriginBelow⟩
    rw [hHouse] at hType
    cases hKind : mk.origin.connection.kind with
    | ServerConnection => rfl
    | PoliceDataConnection => simp [hKind, Kind.markerType] at hType

-- ---------------------------------------------------------------------------
-- A lookup for a sector
-- ---------------------------------------------------------------------------

def sectorMarker : DrawnMarker :=
  { lat := .finite 0, lon := .finite 0, price := .finite 100, postcode := "BN1 7JJ"
    type := .HOUSE_MARKER
    origin := firstRequest }

/-- The camera comes to rest 0.88 km wide, and a marker of the wider view is
tapped before the request for the new one is answered. -/
def tapAfterZoom : List Event :=
  openMap ++ [.markerResponse firstRequest houseAnswer,
    .cameraMoved ⟨⟨0, 0⟩, 16, 0, 0⟩ (regionAround 0 0 (1 / 250)), .cameraIdle,
    .markerTapped (some sectorMarker)]

instance (s : Screen) (mk : DrawnMarker) : Decidable (ServedAsPostcode s mk) :=
  decidable_of_iff
    (mk.origin ∈ s.volley.issuedMarkers ∧ mk.origin.connection.kind = .ServerConnection ∧
      mk.origin.radius < 1 ∧ Backend.level (some (.finite mk.origin.radius)) = .getPostCodes)
    ⟨fun ⟨h₁, h₂, h₃, h₄⟩ => ⟨h₁, h₂, h₃, h₄⟩, fun ⟨h₁, h₂, h₃, h₄⟩ => ⟨h₁, h₂, h₃, h₄⟩⟩

instance : DecidablePred SendsLookup := fun _ => inferInstanceAs (Decidable (_ ≠ _))

instance : DecidablePred LooksUpPostcode := fun _ => inferInstanceAs (Decidable (∀ _ ∈ _, _))

/-- A sector marker that is tapped after zooming in. -/
theorem lookups_at_postcodes_fails :
    ¬ ∀ (P : Platform) (events : List Event), (∀ t ∈ moves P events, DeliversNewest t) →
      ∀ t ∈ moves P events, LooksUpPostcode t := by
  intro h
  exact absurd (h flatWorld tapAfterZoom (by decide +kernel)) (by decide +kernel)

end PriceMap.Android
