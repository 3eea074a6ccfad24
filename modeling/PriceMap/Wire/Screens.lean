import PriceMap.Android.Listeners
import PriceMap.Android.Sheet
import PriceMap.Android.Taps
import PriceMap.Wire.Addresses
import PriceMap.Wire.Prices

/-!
# The Android app on the backend

The screen's runs with the backend behind its requests: an answer that arrives
from the backend is what the server, as it stood at some time, sends for the path
of the request. Requests may still fail, and the police may answer anything.

* `map_shows_documents`   — the map is empty, or shows one answer whole; from the
  backend, a marker for every document that the server found.
* `sheet_lists_registry`  — the list of the sheet is what the registry holds of
  the postcode of one of those documents.
-/

namespace PriceMap.Wire

open Backend
open Android
open Android.Screen

variable {ε : Type*} {S : Set (Server ε)} {server : Server ε} {P : Platform} {s s' : Screen}
  {m : GoogleMap} {c : ClusterManager} {e : Event} {r : MarkerRequest}

-- ---------------------------------------------------------------------------
-- The requests
-- ---------------------------------------------------------------------------

/-- The path of the request `markerJsonParse` sends to the backend. -/
def markerPath (r : MarkerRequest) : String :=
  pricesPath (Decimal.ofRat r.lat).javaText (Decimal.ofRat r.lon).javaText
    (Decimal.ofRat r.radius).javaText

/-- The request of a screen asks for the numbers it was made of. -/
theorem get_markerPath (server : Server ε) (r : MarkerRequest) :
    server.get (markerPath r) =
      .ok (pricesAround server.models (shown r.lat) (shown r.lon) (shown r.radius)) :=
  get_numerals server (Decimal.parseDecimal_javaText _) (Decimal.parseDecimal_javaText _)
    (Decimal.parseDecimal_javaText _)

/-- The documents that a server finds for a request. -/
def Finds (server : Server ε) (r : MarkerRequest) (documents : List (Document Decimal)) : Prop :=
  FindsAround server.models (shown r.lat) (shown r.lon) (shown r.radius) documents

/-- An array that is sent is one of documents found. -/
theorem finds_of_get {response : List Json}
    (h : server.get (markerPath r) = .ok ⟨200, .json (.arr response)⟩) :
    ∃ documents, Finds server r documents ∧ response = documents.map priceRecord := by
  have hGet := get_markerPath server r
  have hAround : pricesAround server.models (shown r.lat) (shown r.lon) (shown r.radius) =
      ⟨200, .json (.arr response)⟩ := Except.ok.inj (hGet.symm.trans h)
  rcases pricesAround_eq server.models (shown r.lat) (shown r.lon) (shown r.radius) with
    ⟨documents, hFound, hSent⟩ | hError
  · refine ⟨documents, hFound, ?_⟩
    rw [hAround] at hSent
    simpa using hSent
  · rw [hAround] at hError
    cases hError

-- ---------------------------------------------------------------------------
-- The markers
-- ---------------------------------------------------------------------------

/-- What the app reads of a stored price. -/
def priceOf : StoredPrice → Double
  | .number q => .finite q
  | .string s => (doubleValueOf s).getD (.finite 0)
  | .absent | .null => .finite 0

/-- The marker of a document. -/
def markerOf (d : Document Decimal) : PostCodeMarker :=
  ⟨.finite d.Latitude.value, .finite d.Longitude.value, priceOf d.Average_price, d._id,
    .HOUSE_MARKER⟩

/-- What Android reads of a document. -/
theorem markerEntry_eq (d : Document Decimal) : markerEntry (priceMembers d) = markerOf d := by
  obtain ⟨hPostcode, hLat, hLon⟩ := markerEntry_priceMembers d
  have hPrice : (markerEntry (priceMembers d)).price = priceOf d.Average_price := by
    show orElse (getDouble (priceMembers d) "price") (.finite 0) = _
    unfold priceMembers
    cases d.Average_price with
    | string text =>
      rw [priceOf]
      cases hText : doubleValueOf text <;>
        simp [StoredPrice.members, getDouble, Android.get, Json.member, hText, orElse, bind,
          Except.bind, pure, Except.pure, throw, throwThe, MonadExceptOf.throw]
    | _ => rfl
  rw [markerOf, ← hPostcode, ← hLat, ← hLon, ← hPrice]
  rfl

/-- Documents are read one by one. -/
theorem parseMarkers_documents (hKind : r.connection.kind = .ServerConnection)
    (documents : List (Document Decimal)) :
    parseMarkers r (documents.map priceRecord) =
      .ok (documents.map fun d => ⟨markerOf d, r⟩) := by
  have hObjects : documents.map priceRecord = (documents.map priceMembers).map .obj := by
    rw [List.map_map]
    rfl
  have hEntry : r.connection.kind.entry = markerEntry := by
    rw [hKind]
    rfl
  rw [parseMarkers, hEntry, hObjects, onResponse_objects]
  simp [Except.map, markerEntry_eq]

-- ---------------------------------------------------------------------------
-- Served runs
-- ---------------------------------------------------------------------------

/-- If the event is an answer of the backend, then one that a server of `S` gives
to the path of the request. -/
def FromServer (S : Set (Server ε)) (e : Event) : Prop :=
  match e with
  | .markerResponse r response => r.connection.kind = .ServerConnection →
      ∃ server ∈ S, server.get (markerPath r) = .ok ⟨200, .json (.arr response)⟩
  | .addressResponse r response =>
      ∃ server ∈ S, server.get (addressesPath r.postcode) = .ok ⟨200, .json (.arr response)⟩
  | _ => True

/-- The markers of the documents that a server of `S` found for `r`. -/
def FoundFor (S : Set (Server ε)) (r : MarkerRequest) (markerList : List DrawnMarker) : Prop :=
  ∃ server ∈ S, ∃ documents, Finds server r documents ∧
    markerList = documents.map fun d => ⟨markerOf d, r⟩

/-- The arrays that come in for a request. -/
abbrev Answers := MarkerRequest → List Json → Prop

/-- One marker for each object of an array that came in for `r`. -/
def CrimesOf (answers : Answers) (r : MarkerRequest) (markerList : List DrawnMarker) : Prop :=
  ∃ objects : List (List (String × Json)), answers r (objects.map .obj) ∧
    markerList = objects.map fun o => ⟨crimeEntry o, r⟩

/-- The list is empty or an answer, whole and alone: from the backend the documents
that were found, from the police the crimes that came in. -/
def WholeAnswer (S : Set (Server ε)) (answers : Answers) (issued : List MarkerRequest)
    (markerList : List DrawnMarker) : Prop :=
  markerList = [] ∨ ∃ r ∈ issued,
    match r.connection.kind with
    | .ServerConnection => FoundFor S r markerList
    | .PoliceDataConnection => CrimesOf answers r markerList

/-- More requests, more answers. -/
theorem WholeAnswer.mono {answers : Answers} {issued issued' : List MarkerRequest}
    {markerList : List DrawnMarker} (h : WholeAnswer S answers issued markerList)
    (hSub : issued ⊆ issued') : WholeAnswer S answers issued' markerList := by
  rcases h with hNil | ⟨r, hr, hWhole⟩
  · exact Or.inl hNil
  · exact Or.inr ⟨r, hSub hr, hWhole⟩

/-- An answer of the backend is read whole. -/
theorem foundFor_of_fromServer {response : List Json} {markerList : List DrawnMarker}
    (hServed : FromServer S (.markerResponse r response))
    (hKind : r.connection.kind = .ServerConnection)
    (hParse : parseMarkers r response = .ok markerList) : FoundFor S r markerList := by
  obtain ⟨server, hServer, hGet⟩ := hServed hKind
  obtain ⟨documents, hFinds, rfl⟩ := finds_of_get hGet
  rw [parseMarkers_documents hKind] at hParse
  exact ⟨server, hServer, documents, hFinds, (Except.ok.inj hParse).symm⟩

/-- An answer of the police is read whole, too. -/
theorem crimesOf_of_parseMarkers {answers : Answers} {response : List Json}
    {markerList : List DrawnMarker} (hCame : answers r response)
    (hKind : r.connection.kind = .PoliceDataConnection)
    (hParse : parseMarkers r response = .ok markerList) : CrimesOf answers r markerList := by
  rw [parseMarkers, hKind] at hParse
  obtain ⟨entries, hRead, rfl⟩ := map_eq_ok.mp hParse
  obtain ⟨objects, rfl, rfl⟩ := objects_of_onResponse hRead
  exact ⟨objects, hCame, by rw [List.map_map]; rfl⟩

theorem issuedMarkers_requested :
    s.volley.issuedMarkers ⊆ (s.requested P m).volley.issuedMarkers := by
  have hIssued : (s.requested P m).volley.issuedMarkers =
      nextRequest P m s :: s.volley.issuedMarkers := Volley.issuedMarkers_markerJsonParse
  rw [hIssued]
  exact List.subset_cons_self ..

/-- What the marker events do to the presenter's list. -/
theorem markerList_effect (hEffect : Effect P m s e s') :
    s.volley.issuedMarkers ⊆ s'.volley.issuedMarkers ∧
      (s'.presenter.markerList = s.presenter.markerList ∨
        ∃ r response, e = .markerResponse r response ∧ r ∈ s.volley.markers ∧
          parseMarkers r response = .ok s'.presenter.markerList) := by
  have hDisplayed : ∀ x : Screen, (x.displayed P m).volley.issuedMarkers = x.volley.issuedMarkers :=
    fun x => sameMarkers_displayed.issuedMarkers
  cases hEffect with
  | quiet _ hSame =>
    refine ⟨?_, Or.inl ?_⟩
    · rw [hSame.issuedMarkers]
      exact fun _ hr => hr
    · rw [hSame.presenter]
  | idle _ => exact ⟨fun _ hr => hr, Or.inl rfl⟩
  | requested _ => exact ⟨issuedMarkers_requested, Or.inl rfl⟩
  | clicked => exact ⟨issuedMarkers_requested (s := s.sourceSet m), Or.inl rfl⟩
  | checked b =>
    refine ⟨?_, Or.inl ?_⟩
    · rw [hDisplayed]
      exact fun _ hr => hr
    · rw [presenter_displayed]
      rfl
  | @answered r response markerList hr hParse =>
    refine ⟨?_, Or.inr ⟨r, response, rfl, hr, ?_⟩⟩
    · rw [hDisplayed]
      exact fun _ hr => hr
    · rw [presenter_displayed]
      exact hParse
  | @malformed r response message _ _ =>
    exact ⟨issuedMarkers_requested (s := (s.failed r message).sourceSet m), Or.inl rfl⟩
  | @failed r _ =>
    exact ⟨issuedMarkers_requested (s := (s.failed r notReachable).sourceSet m), Or.inl rfl⟩

/-- If the event is an answer, then one of `answers`. -/
def CameIn (answers : Answers) (e : Event) : Prop :=
  ∀ r response, e = .markerResponse r response → answers r response

/-- In a served run the marker list is a whole answer. -/
theorem wholeAnswer_kept {answers : Answers} :
    Kept P (fun t => FromServer S t.event ∧ CameIn answers t.event) fun s => Issued s ∧
      WholeAnswer S answers s.volley.issuedMarkers s.presenter.markerList where
  create := ⟨issued_invariant.create (P := P), Or.inl rfl⟩
  mapReady position region := ⟨issued_invariant.mapReady (P := P) position region, Or.inl rfl⟩
  effect hReady h hC hStep hEffect := by
    refine ⟨issued_invariant.effect hReady h.1 trivial hStep hEffect, ?_⟩
    obtain ⟨hGrows, hList | ⟨r, response, rfl, hr, hParse⟩⟩ := markerList_effect hEffect
    · rw [hList]
      exact h.2.mono hGrows
    · refine Or.inr ⟨r, hGrows (h.1.markers hr), ?_⟩
      cases hKind : r.connection.kind with
      | ServerConnection => exact foundFor_of_fromServer hC.1 hKind hParse
      | PoliceDataConnection => exact crimesOf_of_parseMarkers (hC.2 r response rfl) hKind hParse

-- ---------------------------------------------------------------------------
-- What is on the map
-- ---------------------------------------------------------------------------

/-- Requests are for postcodes of `K`, and the list is empty or what `L` says of
the postcode of one of them. -/
structure Lists (K : String → Prop) (L : String → List AdressInfo) (d : SheetState) : Prop where
  issued : ∀ r ∈ d.issued, K r.postcode
  adapter : d.sheet.adapter = [] ∨
    ∃ r ∈ d.sheet.answered, r ∈ d.issued ∧ d.sheet.adapter = L r.postcode

/-- The sheet opens for postcodes of `K`, and lists arrive as `L` says. -/
def Allowed (K : String → Prop) (L : String → List AdressInfo) (d : SheetState) :
    SheetAction → Prop
  | .opens markers => ∀ mk ∈ markers, K mk.getTitle
  | .lists r houseAddressInfo => r ∈ d.issued ∧ houseAddressInfo = L r.postcode
  | .rest | .switches _ | .fails _ | .hides => True

variable {K K' : String → Prop} {L : String → List AdressInfo} {d : SheetState}

/-- A sheet that lists known postcodes lists what is known later. -/
theorem Lists.mono (h : Lists K L d) (hK : ∀ postcode, K postcode → K' postcode) :
    Lists K' L d :=
  ⟨fun r hr => hK _ (h.issued r hr), h.adapter⟩

/-- Opening the sheet for a known postcode asks for a known one. -/
theorem Lists.openFor (h : Lists K L d) {mk : DrawnMarker} (hMk : K mk.getTitle) :
    Lists K L (d.openFor mk) := by
  have hGrows : d.issued ⊆ (d.openFor mk).issued := by
    unfold SheetState.openFor
    dsimp only
    split
    · exact List.subset_cons_self ..
    · exact fun _ hr => hr
  refine ⟨fun r hr => ?_, ?_⟩
  · unfold SheetState.openFor at hr
    dsimp only at hr
    split at hr
    · rcases List.mem_cons.mp hr with rfl | hOld
      · exact hMk
      · exact h.issued r hOld
    · exact h.issued r hr
  · rcases h.adapter with hNil | ⟨r, hAnswered, hr, hList⟩
    · exact Or.inl hNil
    · exact Or.inr ⟨r, hAnswered, hGrows hr, hList⟩

/-- Allowed actions list what is known. -/
theorem Lists.act (h : Lists K L d) {a : SheetAction} (hAllowed : Allowed K L d a) :
    Lists K L (d.act a) := by
  cases a with
  | opens markers =>
    show Lists K L (markers.foldl (fun d mk => d.openFor mk) d)
    replace hAllowed : ∀ mk ∈ markers, K mk.getTitle := hAllowed
    induction markers generalizing d with
    | nil => exact h
    | cons mk rest ih =>
      exact ih (h.openFor (hAllowed mk (List.mem_cons_self ..)))
        fun x hx => hAllowed x (List.mem_cons_of_mem _ hx)
  | lists r houseAddressInfo =>
    obtain ⟨hr, rfl⟩ := hAllowed
    exact ⟨h.issued, Or.inr ⟨r, rfl, hr, rfl⟩⟩
  | rest => exact h
  | switches kind => exact ⟨h.issued, h.adapter⟩
  | fails r => exact ⟨h.issued, h.adapter⟩
  | hides => exact ⟨h.issued, h.adapter⟩

/-- The searched marker is one on the map. -/
theorem searched_subset (postcodeSearch : String) (rendered : List DrawnMarker) :
    Screen.searched postcodeSearch rendered ⊆ rendered := by
  induction rendered generalizing postcodeSearch with
  | nil => exact fun _ h => h
  | cons mk rest ih =>
    rw [Screen.searched]
    split
    · exact List.cons_subset_cons mk (ih "")
    · exact List.Subset.trans (ih postcodeSearch) (List.subset_cons_self ..)

/-- So are those clicked on display. -/
theorem clickedOnDisplay_subset (heatMapEnabled : Bool) (markerList : List DrawnMarker) :
    s.clickedOnDisplay P heatMapEnabled markerList ⊆ markerList := by
  have hItems : itemsOf heatMapEnabled markerList ⊆ markerList := by
    cases heatMapEnabled
    · exact fun _ h => h
    · exact List.nil_subset _
  exact List.Subset.trans (searched_subset _ _)
    (List.Subset.trans (P.getMarkers_subset _ _) hItems)

/-- The sheet opens for price markers of the presenter's list. -/
theorem mem_markerList_of_opens (hReady : Ready s m c) (hShows : Blank s ∨ RendersList s)
    (hStep : s.step P e = some s') {markers : List DrawnMarker}
    (h : s.sheetAction P e = .opens markers) :
    ∀ mk ∈ markers, mk ∈ s'.presenter.markerList ∧ mk.type = .HOUSE_MARKER := by
  have hNext := (step_ready hReady hStep).1
  have hType : ∀ mk : DrawnMarker, s.opensSheet (some mk) = true → mk.type = .HOUSE_MARKER :=
    fun mk hOpens => (opensSheet_iff mk |>.mp hOpens).2
  intro mk hmk
  cases e with
  | heatmapChecked b =>
    obtain rfl := SheetAction.opens.inj h
    obtain ⟨hMem, hOpens⟩ := List.mem_filter.mp hmk
    refine ⟨?_, hType mk hOpens⟩
    rw [hNext]
    show mk ∈ ((s.heatmapSet b).displayed P m).presenter.markerList
    rw [presenter_displayed]
    exact clickedOnDisplay_subset _ _ hMem
  | markerResponse r response =>
    rw [sheetAction] at h
    split at h
    · next markerList hParse =>
      obtain rfl := SheetAction.opens.inj h
      obtain ⟨hMem, hOpens⟩ := List.mem_filter.mp hmk
      refine ⟨?_, hType mk hOpens⟩
      rw [hNext]
      show mk ∈ (s.markersReceived P m r response).presenter.markerList
      rw [markersReceived, hParse]
      show mk ∈ ((s.answered r markerList).displayed P m).presenter.markerList
      rw [presenter_displayed]
      exact clickedOnDisplay_subset _ _ hMem
    · cases h
  | markerTapped marker =>
    obtain rfl := SheetAction.opens.inj h
    obtain ⟨hTapped, hOpens⟩ := List.mem_filter.mp hmk
    have hRendered : mk ∈ s.renderedMarkers P := by
      have hEnabled := (step_eq_some hStep).1
      rw [Option.mem_toList.mp hTapped] at hEnabled
      simpa [enabled] using hEnabled
    refine ⟨?_, hType mk hOpens⟩
    rw [hNext]
    show mk ∈ (s.markerClicked marker).presenter.markerList
    rw [(sameMarkers_markerClicked marker).presenter]
    exact mem_markerList_of_rendered hShows hRendered
  | addressResponse r response =>
    rw [sheetAction] at h
    split at h <;> cases h
  | _ => cases h

/-- The postcode of a document that was found for one of the requests. -/
def Known (S : Set (Server ε)) (issued : List MarkerRequest) (postcode : String) : Prop :=
  ∃ r ∈ issued, ∃ server ∈ S, ∃ documents, Finds server r documents ∧
    ∃ d ∈ documents, d._id = postcode

/-- What is known stays known. -/
theorem Known.mono {issued issued' : List MarkerRequest} (hSub : issued ⊆ issued')
    {postcode : String} (h : Known S issued postcode) : Known S issued' postcode := by
  obtain ⟨r, hr, hFound⟩ := h
  exact ⟨r, hSub hr, hFound⟩

/-- The title of a house in a whole answer is known. -/
theorem known_of_mem {answers : Answers}
    (hWhole : WholeAnswer S answers s.volley.issuedMarkers s.presenter.markerList)
    {mk : DrawnMarker}
    (hmk : mk ∈ s.presenter.markerList) (hType : mk.type = .HOUSE_MARKER) :
    Known S s.volley.issuedMarkers mk.getTitle := by
  rcases hWhole with hNil | ⟨r, hr, hWhole⟩
  · rw [hNil] at hmk
    cases hmk
  · cases hKind : r.connection.kind with
    | ServerConnection =>
      simp only [hKind] at hWhole
      obtain ⟨server, hServer, documents, hFinds, hList⟩ := hWhole
      rw [hList] at hmk
      obtain ⟨d, hd, rfl⟩ := List.mem_map.mp hmk
      exact ⟨r, hr, server, hServer, documents, hFinds, d, hd, rfl⟩
    | PoliceDataConnection =>
      simp only [hKind] at hWhole
      obtain ⟨objects, -, hList⟩ := hWhole
      rw [hList] at hmk
      obtain ⟨o, -, rfl⟩ := List.mem_map.mp hmk
      cases hType

-- ---------------------------------------------------------------------------
-- What the sheet lists
-- ---------------------------------------------------------------------------

/-- The servers share a registry, and what they find is stored under postcodes. -/
structure Backed (S : Set (Server ε)) (pages : String → ℕ → List Record)
    (count : String → ℕ) : Prop where
  registered : ∀ server ∈ S, Registered server pages count
  stored : ∀ server ∈ S, ∀ lookup req documents, server.models lookup req = .ok documents →
    ∀ d ∈ documents, StoredPostcode d._id

/-- The entries of the records that the paging loop reads for a postcode. -/
def entriesOf (pages : String → ℕ → List Record) (count : String → ℕ) (postcode : String) :
    List AdressInfo :=
  (listed (pages postcode) (count postcode)).map addressEntry

variable {pages : String → ℕ → List Record} {count : String → ℕ}

/-- A known postcode is stored. -/
theorem Backed.storedPostcode (h : Backed S pages count) {issued : List MarkerRequest}
    {postcode : String} (hKnown : Known S issued postcode) : StoredPostcode postcode := by
  obtain ⟨r, -, server, hServer, documents, hFinds, d, hd, rfl⟩ := hKnown
  exact h.stored server hServer _ _ documents hFinds d hd

/-- A served list is the entries of the registry. -/
theorem entries_of_fromServer (hBacked : Backed S pages count) {r : AddressRequest}
    {response : List Json} {houseAddressInfo : List AdressInfo}
    (hServed : FromServer S (.addressResponse r response)) (hPostcode : StoredPostcode r.postcode)
    (hRead : onResponse addressEntry response = .ok houseAddressInfo) :
    houseAddressInfo = entriesOf pages count r.postcode := by
  obtain ⟨server, hServer, hGet⟩ := hServed
  have hListed := (get_listed (hBacked.registered server hServer) hPostcode).1
  rw [hGet] at hListed
  obtain rfl : response = listedResponse (listed (pages r.postcode) (count r.postcode)) := by
    simpa using Except.ok.inj hListed
  rw [onResponse_listedResponse] at hRead
  exact (Except.ok.inj hRead).symm

/-- What is listed was read of a response. -/
theorem addressResponse_of_lists {r : AddressRequest} {houseAddressInfo : List AdressInfo}
    (h : s.sheetAction P e = .lists r houseAddressInfo) :
    ∃ response, e = .addressResponse r response ∧
      onResponse addressEntry response = .ok houseAddressInfo := by
  cases e with
  | addressResponse x response =>
    rw [sheetAction] at h
    split at h
    · next list hRead =>
      obtain ⟨rfl, rfl⟩ := SheetAction.lists.inj h
      exact ⟨response, rfl, hRead⟩
    · cases h
  | markerResponse x response =>
    rw [sheetAction] at h
    split at h <;> cases h
  | _ => cases h

/-- In a served run the sheet lists what is known. -/
theorem sheet_kept (hBacked : Backed S pages count) :
    Kept P (fun t => FromServer S t.event) fun s =>
      ((Blank s ∨ RendersList s) ∧ s.sheetState.Linked) ∧
      (Issued s ∧
        WholeAnswer S (fun _ _ => True) s.volley.issuedMarkers s.presenter.markerList) ∧
      Lists (Known S s.volley.issuedMarkers) (entriesOf pages count) s.sheetState where
  create := by
    refine ⟨⟨shows_invariant.create (P := P), sheetLinked_invariant.create (P := P)⟩,
      wholeAnswer_kept.create (P := P), ⟨?_, Or.inl rfl⟩⟩
    intro r hr
    cases hr
  mapReady position region := by
    refine ⟨⟨shows_invariant.mapReady (P := P) position region,
      sheetLinked_invariant.mapReady (P := P) position region⟩,
      wholeAnswer_kept.mapReady (P := P) position region, ⟨?_, Or.inl rfl⟩⟩
    intro r hr
    cases hr
  effect := by
    rintro s s' m c e hReady ⟨⟨hShows, hLinked⟩, hWhole, hLists⟩ hServed hStep hEffect
    have hShows' := shows_invariant.effect hReady hShows trivial hStep hEffect
    have hLinked' := sheetLinked_invariant.effect hReady hLinked trivial hStep hEffect
    have hWhole' := wholeAnswer_kept.effect hReady hWhole ⟨hServed, fun _ _ _ => trivial⟩ hStep
      hEffect
    refine ⟨⟨hShows', hLinked'⟩, hWhole', ?_⟩
    have hGrows := (markerList_effect hEffect).1
    rw [sheetState_step hReady hStep]
    refine (hLists.mono fun _ => Known.mono hGrows).act ?_
    cases hAction : s.sheetAction P e with
    | opens markers =>
      intro mk hmk
      obtain ⟨hMem, hType⟩ := mem_markerList_of_opens hReady hShows hStep hAction mk hmk
      exact known_of_mem hWhole'.2 hMem hType
    | lists r houseAddressInfo =>
      have hr : r ∈ s.sheetState.issued :=
        hLinked.addresses (mem_addresses_of_lists (step_eq_some hStep).1 hAction)
      refine ⟨hr, ?_⟩
      obtain ⟨response, rfl, hRead⟩ := addressResponse_of_lists hAction
      exact entries_of_fromServer hBacked hServed (hBacked.storedPostcode (hLists.issued r hr))
        hRead
    | _ => trivial

/-- **The sheet lists what the registry holds** of the postcode of a document
that was found, as far as the paging loop reads it. -/
theorem sheet_lists_registry (P : Platform) (events : List Event) (S : Set (Server ε))
    (pages : String → ℕ → List Record) (count : String → ℕ) (hBacked : Backed S pages count)
    (hServed : ∀ t ∈ moves P events, FromServer S t.event) :
    ∀ s ∈ visited P events, s.sheet.adapter = [] ∨ ∃ r ∈ s.sheet.answered,
      Known S s.volley.issuedMarkers r.postcode ∧
        s.sheet.adapter = (listed (pages r.postcode) (count r.postcode)).map addressEntry := by
  intro s hs
  obtain ⟨-, -, hLists⟩ := (sheet_kept hBacked).visited hServed s hs
  rcases hLists.adapter with hNil | ⟨r, hAnswered, hr, hList⟩
  · exact Or.inl hNil
  · exact Or.inr ⟨r, hAnswered, hLists.issued r hr, hList⟩

-- ---------------------------------------------------------------------------
-- A house that is found, and its sale
-- ---------------------------------------------------------------------------

theorem shortest_zero : (0 : ℤ) % 10 ≠ 0 ∨ ((0 : ℤ) = 0 ∧ (0 : ℤ) = 0) := Or.inr ⟨rfl, rfl⟩

def house : Document Decimal :=
  ⟨"BN1 7JJ", ⟨0, 0, shortest_zero⟩, ⟨0, 0, shortest_zero⟩, .number 285000⟩

/-- A server that stores the house, and nothing else. -/
noncomputable def houseServer : Server Empty := { oneSaleServer with models := oneModels house }

/-- The house is drawn and tapped, and its sale is listed. -/
def houseVisit : List Event :=
  [.mapReady (lookAt 0 0) (regionAround 0 0 (1 / 250)), .cameraIdle,
    .markerResponse nearRequest [priceRecord house],
    .markerTapped (some ⟨markerOf house, nearRequest⟩),
    .addressResponse (lookup 0 "BN1 7JJ") (listedResponse (listed oneSalePages 1))]

theorem houseServer_registered :
    Registered houseServer (fun _ => oneSalePages) fun _ => 1 :=
  ⟨oneSaleServer_registered.upper, oneSaleServer_registered.serves, oneSaleServer_registered.count⟩

/-- The server finds the house, and its sale. -/
theorem houseServer_backed : Backed {houseServer} (fun _ => oneSalePages) fun _ => 1 where
  registered _ hServer := Set.mem_singleton_iff.mp hServer ▸ houseServer_registered
  stored server hServer lookup req documents hFound d hd := by
    obtain rfl := Set.mem_singleton_iff.mp hServer
    obtain rfl : d = house := eq_of_mem_oneModels hFound hd
    exact storedPostcode_brighton

/-- The near request finds the house, at the point it asks around. -/
theorem houseServer_finds : Finds houseServer nearRequest [house] := by
  have hZero : shown 0 = 0 := Decimal.value_ofRat (k := 0) (by decide)
  have hRadius : shown 0.89056 = 0.89056 := Decimal.value_ofRat (k := 5) (by decide +kernel)
  have hFinds := oneModels_finds house (by norm_num : (0 : ℝ) ≤ 0.89056) (by norm_num)
  show oneModels house _ _ = _
  simp only [nearRequest, hZero, hRadius]
  simpa [house, Decimal.value] using hFinds

/-- The visit is served by it. -/
theorem houseVisit_served : ∀ t ∈ moves flatWorld houseVisit, FromServer {houseServer} t.event := by
  intro t ht
  have hEvent := Lib.event_mem_of_mem_transitions ht
  simp only [houseVisit, List.mem_cons, List.not_mem_nil, or_false] at hEvent
  rcases hEvent with h | h | h | h | h <;> rw [h]
  · trivial
  · trivial
  · intro _
    refine ⟨houseServer, rfl, (get_markerPath houseServer _).trans ?_⟩
    rw [pricesAround_of_finds houseServer_finds]
    rfl
  · trivial
  · exact ⟨houseServer, rfl, (get_listed houseServer_registered storedPostcode_brighton).1⟩

theorem sheet_lists_registry_house :
    (moves flatWorld houseVisit).length = 5 ∧
      ∀ s ∈ visited flatWorld houseVisit, s.sheet.adapter = [] ∨ ∃ r ∈ s.sheet.answered,
        Known {houseServer} s.volley.issuedMarkers r.postcode ∧
          s.sheet.adapter = (listed oneSalePages 1).map addressEntry :=
  ⟨by decide +kernel, sheet_lists_registry flatWorld houseVisit {houseServer} _ _
    houseServer_backed houseVisit_served⟩

end PriceMap.Wire
