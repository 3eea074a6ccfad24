import PriceMap.Android.Contents

/-!
# Android — the header and the list of the bottom sheet

The header of the sheet is set by the click that opens it, the list by the
answer to the address request that click sends. Nothing else connects them.

The sheet and the address requests form a machine of their own (`SheetState`,
`SheetAction`), which the screen simulates step by step
(`sheetState_next`): most events leave it at rest.

* `sheetLinked_invariant` — on the current connection, only a request for the
  postcode in the header can be in flight.
* `header_provided_iff`   — which moves leave the visible header without its
  list and without a request for it.
* `sheet_shows_header`    — the list belongs to the header in every run without
  such a move.
-/

namespace PriceMap.Android

open Screen

-- ---------------------------------------------------------------------------
-- The machine
-- ---------------------------------------------------------------------------

structure SheetState where
  sheet : BottomSheetView
  handler : Connection
  created : ℕ
  addresses : List AddressRequest
  issued : List AddressRequest

inductive SheetAction where
  | rest
  /-- the markers whose clicks open the sheet, in order -/
  | opens (markers : List DrawnMarker)
  | switches (kind : Kind)
  | lists (r : AddressRequest) (houseAddressInfo : List AdressInfo)
  | fails (r : AddressRequest)
  | hides

namespace SheetState

/-- The sheet comes up with a header and asks its connection for the list. The
police connection does not ask anyone. -/
def openFor (mk : DrawnMarker) (d : SheetState) : SheetState :=
  let r : AddressRequest := ⟨d.issued.length, d.handler, mk.getTitle⟩
  { d with
    sheet := { d.sheet with
      postcodeBig := mk.getTitle, avgpriceBig := mk.getSnippet, visible := true }
    addresses := match d.handler.kind with
      | .ServerConnection => Lib.supersede AddressRequest.connection r d.addresses
      | .PoliceDataConnection => d.addresses
    issued := match d.handler.kind with
      | .ServerConnection => r :: d.issued
      | .PoliceDataConnection => d.issued }

def act : SheetAction → SheetState → SheetState
  | .rest, d => d
  | .opens markers, d => markers.foldl (fun d mk => d.openFor mk) d
  | .switches kind, d => { d with handler := ⟨d.created, kind⟩, created := d.created + 1 }
  | .lists r houseAddressInfo, d =>
    { d with
      sheet := { d.sheet with adapter := houseAddressInfo, answered := some r }
      addresses := d.addresses.filter (· ≠ r) }
  | .fails r, d => { d with addresses := d.addresses.filter (· ≠ r) }
  | .hides, d => { d with sheet := { d.sheet with visible := false } }

/-- Markers are opened one after the other. -/
theorem act_opens_cons (d : SheetState) (mk : DrawnMarker) (rest : List DrawnMarker)
    (p : DrawnMarker → Bool) :
    d.act (.opens ((mk :: rest).filter p)) =
      (if p mk then d.openFor mk else d).act (.opens (rest.filter p)) := by
  by_cases hp : p mk = true
  · rw [List.filter_cons_of_pos hp, if_pos hp]
    rfl
  · rw [List.filter_cons_of_neg hp, if_neg hp]

end SheetState

-- ---------------------------------------------------------------------------
-- The screen simulates it
-- ---------------------------------------------------------------------------

namespace Screen

variable {P : Platform} {s s' : Screen} {m : GoogleMap} {c : ClusterManager} {e : Event}

def sheetState (s : Screen) : SheetState where
  sheet := s.sheet
  handler := s.presenter.serverConnectionHandler
  created := s.volley.created
  addresses := s.volley.addresses
  issued := s.volley.issuedAddresses

def searched : String → List DrawnMarker → List DrawnMarker
  | _, [] => []
  | postcodeSearch, marker :: rest =>
    if postcodeSearch = marker.getTitle then marker :: searched "" rest
    else searched postcodeSearch rest

/-- The markers clicked when the presenter displays `markerList`. -/
def clickedOnDisplay (P : Platform) (heatMapEnabled : Bool) (markerList : List DrawnMarker)
    (s : Screen) : List DrawnMarker :=
  searched s.activity.postcodeSearch
    (P.getMarkers (s.activity.mMap.map GoogleMap.cameraPosition)
      (itemsOf heatMapEnabled markerList))

def sheetAction (P : Platform) (s : Screen) : Event → SheetAction
  | .sourceClicked | .markerError _ => .switches s.otherConnection.kind
  | .heatmapChecked b =>
    .opens ((s.clickedOnDisplay P b s.presenter.markerList).filter fun mk => s.opensSheet (some mk))
  | .markerResponse r response =>
    match parseMarkers r response with
    | .ok markerList =>
      .opens ((s.clickedOnDisplay P s.presenter.heatMapEnabled markerList).filter
        fun mk => s.opensSheet (some mk))
    | .error _ => .switches s.otherConnection.kind
  | .markerTapped marker =>
    .opens (marker.toList.filter fun mk => s.opensSheet (some mk))
  | .addressResponse r response =>
    match onResponse addressEntry response with
    | .ok houseAddressInfo => .lists r houseAddressInfo
    | .error _ => .fails r
  | .addressError r => .fails r
  | .sheetHidden => .hides
  | .mapReady .. | .cameraMoved .. | .cameraIdle | .placePicked _ => .rest

/-- The sheet opens with the title of the marker and asks for its addresses. -/
theorem sheetState_displayBottomSheet (mk : DrawnMarker) :
    (s.displayBottomSheet mk.getTitle mk.getSnippet).sheetState = s.sheetState.openFor mk := by
  cases hKind : s.presenter.serverConnectionHandler.kind with
  | ServerConnection =>
    have hAddresses : (s.volley.postcodeJsonParse s.presenter.serverConnectionHandler
        mk.getTitle).addresses = Lib.supersede AddressRequest.connection
          (s.volley.addressRequest s.presenter.serverConnectionHandler mk.getTitle)
          s.volley.addresses := Volley.addresses_postcodeJsonParse hKind
    simp only [sheetState, displayBottomSheet, SheetState.openFor, hKind, hAddresses,
      Volley.created_postcodeJsonParse]
    simp [Volley.postcodeJsonParse, hKind, Volley.addAddress, Volley.addressRequest,
      Volley.cancelAll]
  | PoliceDataConnection =>
    simp [sheetState, displayBottomSheet, SheetState.openFor, hKind,
      Volley.postcodeJsonParse_police hKind]

/-- A click opens the sheet if the marker has one. -/
theorem sheetState_markerClicked (mk : DrawnMarker) :
    (s.markerClicked (some mk)).sheetState =
      if s.opensSheet (some mk) then s.sheetState.openFor mk else s.sheetState := by
  rw [markerClicked]
  split
  · exact sheetState_displayBottomSheet mk
  · rfl

theorem activity_markerClicked (marker : Option DrawnMarker) :
    (s.markerClicked marker).activity = s.activity := by
  cases marker with
  | none => rfl
  | some mk =>
    rw [markerClicked]
    split <;> rfl

/-- Whether a marker has a sheet depends on the activity alone. -/
theorem opensSheet_congr (h : s'.activity = s.activity) (marker : Option DrawnMarker) :
    s'.opensSheet marker = s.opensSheet marker := by
  cases marker with
  | none => rfl
  | some mk => rw [opensSheet, opensSheet, h]

/-- The loop over the rendered markers opens the sheet for the searched ones. -/
theorem sheetState_clickSearched (rendered : List DrawnMarker) :
    (clickSearched rendered s).sheetState =
      s.sheetState.act (.opens ((searched s.activity.postcodeSearch rendered).filter
        fun mk => s.opensSheet (some mk))) := by
  induction rendered generalizing s with
  | nil => rfl
  | cons mk rest ih =>
    rw [clickSearched, searched]
    by_cases hFound : s.activity.postcodeSearch = mk.getTitle
    · rw [if_pos hFound, if_pos hFound, ih, sheetState_markerClicked]
      simp only [opensSheet_congr (activity_markerClicked _), activity_markerClicked]
      -- opening depends on `enableInfoWindow` only, not on the search
      rw [SheetState.act_opens_cons]
      rfl
    · rw [if_neg hFound, if_neg hFound, ih]

/-- Displaying clicks the searched marker. -/
theorem sheetState_displayed (hReady : Ready s m c) :
    (s.displayed P m).sheetState =
      s.sheetState.act (.opens ((s.clickedOnDisplay P s.presenter.heatMapEnabled
        s.presenter.markerList).filter fun mk => s.opensSheet (some mk))) := by
  rw [displayed, sheetState_clickSearched, clickedOnDisplay, hReady.mMap]
  rfl

theorem sheetState_requested : (s.requested P m).sheetState = s.sheetState := by
  simp [sheetState, requested, cameraPosChanged, markerJsonParse]

/-- A switch replaces the connection of the sheet. -/
theorem sheetState_switched :
    (s.switched P m).sheetState = s.sheetState.act (.switches s.otherConnection.kind) :=
  sheetState_requested

/-- **The screen simulates the sheet's machine.** -/
theorem sheetState_next (hReady : Ready s m c)
    (hMap : ∀ position region, e ≠ .mapReady position region) :
    (s.next P m e).sheetState = s.sheetState.act (s.sheetAction P e) := by
  cases e with
  | mapReady position region => exact absurd rfl (hMap position region)
  | cameraMoved position region => rfl
  | cameraIdle =>
    show (s.regionUpdated P m).sheetState = s.sheetState
    rw [regionUpdated]
    split
    · rfl
    · exact sheetState_requested
  | sourceClicked => exact sheetState_switched
  | heatmapChecked b =>
    exact sheetState_displayed (s := s.heatmapSet b) ⟨hReady.mMap, hReady.mClusterManager⟩
  | placePicked place => rfl
  | markerResponse r response =>
    show (s.markersReceived P m r response).sheetState = _
    rw [markersReceived, sheetAction]
    cases parseMarkers r response with
    | ok markerList =>
      exact sheetState_displayed (s := s.answered r markerList)
        ⟨hReady.mMap, hReady.mClusterManager⟩
    | error message => exact sheetState_switched (s := s.failed r message)
  | markerError r => exact sheetState_switched (s := s.failed r notReachable)
  | addressResponse r response =>
    show (onAddressResponse r response _).sheetState = _
    rw [onAddressResponse, sheetAction]
    cases onResponse addressEntry response with
    | ok houseAddressInfo => rfl
    | error message => rfl
  | addressError r => rfl
  | markerTapped marker =>
    cases marker with
    | none => rfl
    | some mk =>
      show (s.markerClicked (some mk)).sheetState = _
      rw [sheetState_markerClicked, sheetAction, Option.toList_some, SheetState.act_opens_cons]
      rfl
  | sheetHidden => rfl

end Screen

-- ---------------------------------------------------------------------------
-- Which lists can still arrive
-- ---------------------------------------------------------------------------

namespace SheetState

/-- The newest address request is the only one that can be in flight on the
current connection, and it is for the header. -/
structure Linked (d : SheetState) : Prop where
  handlerOld : d.handler.id < d.created
  kind : ∀ r ∈ d.issued, r.connection.kind = .ServerConnection
  old : ∀ r ∈ d.issued, r.connection.id < d.created
  addresses : d.addresses ⊆ d.issued
  latest : Lib.LatestOn AddressRequest.connection d.addresses d.handler d.issued.head?
  header : ∀ r, d.issued.head? = some r → r.connection = d.handler →
    r.postcode = d.sheet.postcodeBig

/-- Opening the sheet links the new lookup to its header. -/
theorem Linked.openFor {d : SheetState} (h : d.Linked) (mk : DrawnMarker) :
    (d.openFor mk).Linked := by
  cases hKind : d.handler.kind with
  | ServerConnection =>
    simp only [SheetState.openFor, hKind]
    refine ⟨?_, ?_, ?_, ?_, ?_, ?_⟩
    · exact h.handlerOld
    · intro r hr
      rcases List.mem_cons.mp hr with rfl | hr
      · exact hKind
      · exact h.kind r hr
    · intro r hr
      rcases List.mem_cons.mp hr with rfl | hr
      · exact h.handlerOld
      · exact h.old r hr
    · intro r hr
      rcases Lib.mem_supersede.mp hr with ⟨hOld, -⟩ | rfl
      · exact List.mem_cons_of_mem _ (h.addresses hOld)
      · exact List.mem_cons_self ..
    · exact Lib.latestOn_supersede _ d.addresses
    · rintro r ⟨⟩ -
      rfl
  | PoliceDataConnection =>
    simp only [SheetState.openFor, hKind]
    refine ⟨h.handlerOld, h.kind, h.old, h.addresses, h.latest, fun r hr hHere => ?_⟩
    -- nobody sends address requests on a police connection
    have hServer := h.kind r (List.mem_of_mem_head? hr)
    rw [hHere, hKind] at hServer
    cases hServer

/-- A finished lookup may be forgotten. -/
theorem Linked.finish {d : SheetState} (h : d.Linked) (r : AddressRequest) :
    ({ d with addresses := d.addresses.filter (· ≠ r) } : SheetState).Linked :=
  ⟨h.handlerOld, h.kind, h.old, fun _ hx => h.addresses (List.mem_of_mem_filter hx),
    h.latest.of_subset (List.filter_subset_self ..), h.header⟩

/-- Of the new connection nothing is in flight. -/
theorem Linked.switches {d : SheetState} (h : d.Linked) (kind : Kind) :
    (d.act (.switches kind)).Linked := by
  have hUnused : ∀ r ∈ d.issued, r.connection ≠ ⟨d.created, kind⟩ := by
    intro r hr hHere
    have hOld := h.old r hr
    rw [hHere] at hOld
    exact lt_irrefl _ hOld
  refine ⟨?_, ?_, ?_, ?_, ?_, ?_⟩
  · exact Nat.lt_succ_self _
  · exact h.kind
  · intro r hr
    exact Nat.lt_succ_of_lt (h.old r hr)
  · exact h.addresses
  · exact Lib.latestOn_of_unused _ fun r hr => hUnused r (h.addresses hr)
  · intro r hr hHere
    exact absurd hHere (hUnused r (List.mem_of_mem_head? hr))

/-- **On the current connection, only the header's list can arrive.** -/
theorem Linked.act {d : SheetState} (h : d.Linked) (a : SheetAction) : (d.act a).Linked := by
  cases a with
  | rest => exact h
  | opens markers =>
    show (markers.foldl (fun d mk => d.openFor mk) d).Linked
    induction markers generalizing d with
    | nil => exact h
    | cons mk rest ih => exact ih (h.openFor mk)
  | switches kind => exact h.switches kind
  | lists r houseAddressInfo =>
    exact ⟨h.handlerOld, h.kind, h.old, (h.finish r).addresses, (h.finish r).latest, h.header⟩
  | fails r => exact h.finish r
  | hides => exact ⟨h.handlerOld, h.kind, h.old, h.addresses, h.latest, h.header⟩

/-- A lookup of the current connection asks for the header. -/
theorem Linked.postcode_eq {d : SheetState} (h : d.Linked) {r : AddressRequest}
    (hr : r ∈ d.addresses) (hHere : r.connection = d.handler) :
    r.postcode = d.sheet.postcodeBig :=
  h.header r (h.latest r hr hHere) hHere

-- ---------------------------------------------------------------------------
-- When the list stays with the header
-- ---------------------------------------------------------------------------

/-- The list is empty or the answer to a request for `postcode`. -/
def ListFor (d : SheetState) (postcode : String) : Prop :=
  d.sheet.adapter = [] ∨ ∃ r ∈ d.sheet.answered, r.postcode = postcode

/-- The list is for `postcode`, or a request for it is in flight. -/
def Provided (d : SheetState) (postcode : String) : Prop :=
  d.ListFor postcode ∨ ∃ r ∈ d.addresses, r.postcode = postcode

/-- Apart from `r`, a request for the header's postcode is in flight. -/
def AskedBesides (d : SheetState) (r : AddressRequest) : Prop :=
  ∃ x ∈ d.addresses, x ≠ r ∧ x.postcode = d.sheet.postcodeBig

/-- The actions that leave the list with the header.

* The list is for (or will be for) the header a click opens on the police
  connection, which asks nobody.
* A list that arrives over the visible sheet from a replaced connection is
  empty, for the header's postcode, or to be replaced by one that is.
* A request for the visible header's postcode fails over a list of that
  postcode, over an empty one, or while another one is in flight. -/
def Harmless (d : SheetState) : SheetAction → Prop
  | .opens markers =>
    d.handler.kind = .PoliceDataConnection → ∀ mk ∈ markers.getLast?, d.Provided mk.getTitle
  | .lists r houseAddressInfo =>
    d.sheet.visible = true → houseAddressInfo ≠ [] → r.connection ≠ d.handler →
      r.postcode = d.sheet.postcodeBig ∨ d.AskedBesides r
  | .fails r =>
    d.sheet.visible = true → r.postcode = d.sheet.postcodeBig →
      d.ListFor d.sheet.postcodeBig ∨ d.AskedBesides r
  | .rest | .switches _ | .hides => True

def HeaderProvided (d : SheetState) : Prop :=
  d.sheet.visible = true → d.Provided d.sheet.postcodeBig

variable {d : SheetState} {mk : DrawnMarker} {r : AddressRequest}

/-- The police connection has nothing to provide. -/
theorem provided_openFor_police {postcode : String}
    (hKind : d.handler.kind = .PoliceDataConnection) :
    (d.openFor mk).Provided postcode ↔ d.Provided postcode := by
  simp only [openFor, hKind]
  rfl

/-- Opening the sheet provides for its header, but for the police. -/
theorem headerProvided_openFor :
    (d.openFor mk).HeaderProvided ↔
      (d.handler.kind = .PoliceDataConnection → d.Provided mk.getTitle) := by
  cases hKind : d.handler.kind with
  | ServerConnection =>
    refine iff_of_true (fun _ => Or.inr ⟨⟨d.issued.length, d.handler, mk.getTitle⟩, ?_, rfl⟩)
      (by rintro ⟨⟩)
    simp only [openFor, hKind]
    exact Lib.mem_supersede.mpr (Or.inr rfl)
  | PoliceDataConnection =>
    rw [← provided_openFor_police hKind]
    exact ⟨fun h _ => h rfl, fun h _ => h rfl⟩

/-- On the police connection clicks change the header and nothing else. -/
theorem provided_foldl_police {postcode : String} (markers : List DrawnMarker)
    (hKind : d.handler.kind = .PoliceDataConnection) :
    (markers.foldl (fun d mk => d.openFor mk) d).Provided postcode ↔ d.Provided postcode := by
  induction markers generalizing d with
  | nil => exact Iff.rfl
  | cons mk rest ih => exact (ih (d := d.openFor mk) hKind).trans (provided_openFor_police hKind)

/-- Opening the sheet does not replace the connection. -/
theorem handler_foldl (markers : List DrawnMarker) :
    (markers.foldl (fun d mk => d.openFor mk) d).handler = d.handler := by
  induction markers generalizing d with
  | nil => rfl
  | cons mk rest ih => exact ih (d := d.openFor mk)

/-- Of several clicks the last one decides. -/
theorem headerProvided_opens (h : d.HeaderProvided) (markers : List DrawnMarker) :
    (d.act (.opens markers)).HeaderProvided ↔ d.Harmless (.opens markers) := by
  rcases List.eq_nil_or_concat markers with rfl | ⟨rest, mk, rfl⟩
  · exact iff_of_true h (fun _ _ hmk => by cases hmk)
  · have hAct : d.act (.opens (rest.concat mk)) =
        (rest.foldl (fun d mk => d.openFor mk) d).openFor mk := by
      simp [act]
    rw [hAct, headerProvided_openFor, handler_foldl]
    refine imp_congr_right fun hKind => ?_
    rw [provided_foldl_police rest hKind]
    simp

/-- Another lookup in flight asks for the header. -/
theorem askedBesides_iff :
    d.AskedBesides r ↔ ∃ x ∈ d.addresses.filter (· ≠ r), x.postcode = d.sheet.postcodeBig := by
  refine ⟨?_, ?_⟩
  · rintro ⟨x, hx, hNe, hPostcode⟩
    exact ⟨x, List.mem_filter.mpr ⟨hx, by simpa using hNe⟩, hPostcode⟩
  · rintro ⟨x, hx, hPostcode⟩
    obtain ⟨hx, hNe⟩ := List.mem_filter.mp hx
    exact ⟨x, hx, by simpa using hNe, hPostcode⟩

/-- A list provides for the header exactly if the action is harmless. -/
theorem headerProvided_lists (hLinked : d.Linked) (hr : r ∈ d.addresses)
    (houseAddressInfo : List AdressInfo) :
    (d.act (.lists r houseAddressInfo)).HeaderProvided ↔
      d.Harmless (.lists r houseAddressInfo) := by
  refine imp_congr_right fun hVisible => ?_
  have hProvided : (d.act (.lists r houseAddressInfo)).Provided d.sheet.postcodeBig ↔
      (houseAddressInfo = [] ∨ r.postcode = d.sheet.postcodeBig) ∨ d.AskedBesides r := by
    rw [askedBesides_iff]
    simp [Provided, ListFor, act]
  refine hProvided.trans ?_
  refine ⟨?_, ?_⟩
  · rintro ((hNil | hPostcode) | hAsked) hNe hGone
    · exact absurd hNil hNe
    · exact Or.inl hPostcode
    · exact Or.inr hAsked
  · intro h
    by_cases hNil : houseAddressInfo = []
    · exact Or.inl (Or.inl hNil)
    by_cases hHere : r.connection = d.handler
    · exact Or.inl (Or.inr (hLinked.postcode_eq hr hHere))
    · rcases h hNil hHere with hPostcode | hAsked
      · exact Or.inl (Or.inr hPostcode)
      · exact Or.inr hAsked

/-- A failure provides for the header exactly if it is harmless. -/
theorem headerProvided_fails (h : d.HeaderProvided) :
    (d.act (.fails r)).HeaderProvided ↔ d.Harmless (.fails r) := by
  refine imp_congr_right fun hVisible => ?_
  have hProvided : (d.act (.fails r)).Provided d.sheet.postcodeBig ↔
      d.ListFor d.sheet.postcodeBig ∨ d.AskedBesides r := by
    rw [askedBesides_iff]
    rfl
  refine hProvided.trans ⟨fun hList _ => hList, fun hFails => ?_⟩
  rcases h hVisible with hList | ⟨x, hx, hPostcode⟩
  · exact Or.inl hList
  · by_cases hEq : x = r
    · exact hFails (hEq ▸ hPostcode)
    · exact Or.inr ⟨x, hx, hEq, hPostcode⟩

/-- **An action keeps the header provided for if and only if it is harmless.** -/
theorem headerProvided_act (hLinked : d.Linked) (h : d.HeaderProvided) {a : SheetAction}
    (hAnswers : ∀ r houseAddressInfo, a = .lists r houseAddressInfo → r ∈ d.addresses) :
    (d.act a).HeaderProvided ↔ d.Harmless a := by
  cases a with
  | rest => exact iff_of_true h trivial
  | opens markers => exact headerProvided_opens h markers
  | switches kind => exact iff_of_true h trivial
  | lists r houseAddressInfo =>
    exact headerProvided_lists hLinked (hAnswers r houseAddressInfo rfl) houseAddressInfo
  | fails r => exact headerProvided_fails h
  | hides => exact iff_of_true (by rintro ⟨⟩) trivial

end SheetState

-- ---------------------------------------------------------------------------
-- Runs of the screen
-- ---------------------------------------------------------------------------

variable {P : Platform}

/-- The move does no harm to the agreement of header and list. -/
def SheetHarmless (P : Platform) (t : Move) : Prop :=
  t.pre.sheetState.Harmless (t.pre.sheetAction P t.event)

/-- A visible sheet without an address request in flight shows an empty list
or the answer to a request for the postcode in its header. -/
def SheetShowsHeader (s : Screen) : Prop :=
  s.sheet.visible = true → s.volley.addresses = [] →
    s.sheet.adapter = [] ∨ ∃ r ∈ s.sheet.answered, r.postcode = s.sheet.postcodeBig

/-- What is listed was asked for. -/
theorem mem_addresses_of_lists {s : Screen} {e : Event} (hEnabled : s.enabled P e = true)
    {r : AddressRequest} {houseAddressInfo : List AdressInfo}
    (h : s.sheetAction P e = .lists r houseAddressInfo) : r ∈ s.volley.addresses := by
  cases e with
  | addressResponse x response =>
    rw [sheetAction] at h
    split at h
    · obtain ⟨rfl, -⟩ := SheetAction.lists.inj h
      simpa [enabled] using hEnabled
    · cases h
  | markerResponse x response =>
    rw [sheetAction] at h
    split at h <;> cases h
  | _ => cases h

/-- Every step does to the sheet what its action says. -/
theorem sheetState_step {s s' : Screen} {m : GoogleMap} {c : ClusterManager} {e : Event}
    (hReady : Ready s m c) (hStep : s.step P e = some s') :
    s'.sheetState = s.sheetState.act (s.sheetAction P e) := by
  rw [(step_ready hReady hStep).1]
  refine sheetState_next hReady ?_
  rintro position region rfl
  simp [step, enabled, hReady.mMap] at hStep

theorem sheetLinked_invariant : Invariant P fun s => s.sheetState.Linked where
  create := by
    refine ⟨Nat.zero_lt_one, ?_, ?_, ?_, ?_, ?_⟩ <;> intro r hr <;> cases hr
  mapReady position region := by
    refine ⟨Nat.zero_lt_one, ?_, ?_, ?_, ?_, ?_⟩ <;> intro r hr <;> cases hr
  effect hReady h _ hStep _ := by
    rw [sheetState_step hReady hStep]
    exact h.act _

/-- Harmless actions keep the header provided for. -/
theorem headerProvided_kept :
    Kept P (SheetHarmless P) fun s => s.sheetState.Linked ∧ s.sheetState.HeaderProvided where
  create := ⟨sheetLinked_invariant.create (P := P), by rintro ⟨⟩⟩
  mapReady position region :=
    ⟨sheetLinked_invariant.mapReady (P := P) position region, by rintro ⟨⟩⟩
  effect hReady h hHarmless hStep _ := by
    rw [sheetState_step hReady hStep]
    refine ⟨h.1.act _, (SheetState.headerProvided_act h.1 h.2 ?_).mpr hHarmless⟩
    intro r houseAddressInfo hLists
    exact mem_addresses_of_lists (step_eq_some hStep).1 hLists

/-- **Harmless moves are exactly those that keep the header provided for**:
while the sheet is visible, its list is for the header or will be. -/
theorem header_provided_iff (P : Platform) (events : List Event) :
    (∀ s ∈ visited P events, s.sheetState.HeaderProvided) ↔
      ∀ t ∈ moves P events, SheetHarmless P t := by
  refine ⟨fun h t ht => ?_, fun h s hs => (headerProvided_kept.visited h s hs).2⟩
  obtain ⟨hStarted, hStep⟩ := step_of_move ht
  have hLinked := (sheetLinked_invariant.of_move ht).1
  have hPre : t.pre.sheetState.HeaderProvided := h _ (Lib.pre_mem_states ht)
  have hPost : t.post.sheetState.HeaderProvided := h _ (Lib.mem_states.mpr (Or.inr ⟨t, ht, rfl⟩))
  rcases hStarted with hCreate | ⟨m, c, hReady⟩
  · -- nothing can open the sheet before the map is there
    rw [hCreate] at hStep
    rcases step_onCreate hStep with ⟨hEvent, -⟩ | ⟨position, region, hEvent, -⟩ <;>
      rw [SheetHarmless, hEvent] <;> exact trivial
  · rw [sheetState_step hReady hStep] at hPost
    refine (SheetState.headerProvided_act hLinked hPre ?_).mp hPost
    intro r houseAddressInfo hLists
    exact mem_addresses_of_lists (step_eq_some hStep).1 hLists

/-- **The list belongs to the header, up to three kinds of moves.** -/
theorem sheet_shows_header (P : Platform) (events : List Event)
    (hHarmless : ∀ t ∈ moves P events, SheetHarmless P t) :
    ∀ s ∈ visited P events, SheetShowsHeader s := by
  intro s hs hVisible hNone
  have hProvided := (headerProvided_kept.visited hHarmless s hs).2 hVisible
  rcases hProvided with hList | ⟨r, hr, -⟩
  · exact hList
  · rw [show s.sheetState.addresses = [] from hNone] at hr
    cases hr

-- ---------------------------------------------------------------------------
-- A failure over another postcode's list
-- ---------------------------------------------------------------------------

instance (d : SheetState) (postcode : String) : Decidable (d.ListFor postcode) :=
  inferInstanceAs (Decidable (_ ∨ ∃ _ ∈ _, _))

instance (d : SheetState) (r : AddressRequest) : Decidable (d.AskedBesides r) :=
  inferInstanceAs (Decidable (∃ _ ∈ _, _))

instance (d : SheetState) (postcode : String) : Decidable (d.Provided postcode) :=
  inferInstanceAs (Decidable (_ ∨ ∃ _ ∈ _, _))

instance (d : SheetState) : DecidablePred d.Harmless
  | .opens _ => inferInstanceAs (Decidable (_ → ∀ _ ∈ _, _))
  | .lists _ _ => inferInstanceAs (Decidable (_ → _ → _ → _))
  | .fails _ => inferInstanceAs (Decidable (_ → _ → _))
  | .rest | .switches _ | .hides => inferInstanceAs (Decidable True)

instance : DecidablePred (SheetHarmless P) := fun _ =>
  inferInstanceAs (Decidable (SheetState.Harmless _ _))

instance : DecidablePred SheetShowsHeader := fun _ => inferInstanceAs (Decidable (_ → _ → _))

/-- The map comes up 0.89056 km wide and two postcodes are drawn. -/
def nearRequest : MarkerRequest := ⟨0, ⟨0, .ServerConnection⟩, 0, 0, 0.89056⟩

def houseAt (postcode : String) : Json :=
  .obj [("price", .num 100), ("postcode", .str postcode), ("latitude", .str "0"),
    ("longitude", .str "0")]

def openNear : List Event :=
  [.mapReady (lookAt 0 0) (regionAround 0 0 (1 / 250)), .cameraIdle,
    .markerResponse nearRequest [houseAt "BN1 7JJ", houseAt "BN2 1EL"]]

def tapOn (postcode : String) : Event :=
  .markerTapped (some
    { lat := .finite 0, lon := .finite 0, price := .finite 100, postcode := postcode
      type := .HOUSE_MARKER
      origin := nearRequest })

def lookup (id : ℕ) (postcode : String) : AddressRequest :=
  ⟨id, ⟨0, .ServerConnection⟩, postcode⟩

def soldAt (paon : String) : List Json :=
  [.obj [("pricePaid", .num 285000), ("transactionDate", .str "Wed, 08 May 2013"),
    ("propertyAddress", .obj [("paon", .str paon), ("street", .str "BELGRAVE PLACE"),
      ("town", .str "BRIGHTON")])]]

/-- One postcode is tapped and answered, then another. -/
def twoLookups (secondAnswer : Event) : List Event :=
  openNear ++ [tapOn "BN1 7JJ", .addressResponse (lookup 0 "BN1 7JJ") (soldAt "9A"),
    tapOn "BN2 1EL", secondAnswer]

/-- Two lookups, and the answer to the first comes last. -/
theorem sheet_shows_header_fails :
    ¬ ∀ (P : Platform) (events : List Event), ∀ s ∈ visited P events, SheetShowsHeader s := by
  intro h
  exact absurd (h flatWorld (twoLookups (.addressError (lookup 1 "BN2 1EL")))) (by decide +kernel)

theorem sheet_shows_header_both :
    (moves flatWorld (twoLookups (.addressResponse (lookup 1 "BN2 1EL") (soldAt "7")))).length = 7 ∧
      ∀ s ∈ visited flatWorld (twoLookups (.addressResponse (lookup 1 "BN2 1EL") (soldAt "7"))),
        SheetShowsHeader s :=
  ⟨by decide +kernel, sheet_shows_header flatWorld _ (by decide +kernel)⟩

end PriceMap.Android
