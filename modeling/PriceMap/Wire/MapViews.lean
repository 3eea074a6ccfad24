import PriceMap.IOS.Selection
import PriceMap.Wire.Screens

/-!
# The iOS app on the backend

The runs of the map view controller with the backend behind its requests for
prices. A reply is a transport error or what the server, as it stood at some
time, sends for the path; crimes come from elsewhere.

* `map_view_shows_documents` — every marker of a postcode is a document the server
  found, with the price it is stored with, and every point of the heatmap such a
  document or a crime of a response that came in; one price that is a number keeps
  all documents of an answer away.
* `tap_lists_registry` — a tap on such a marker, close to the ground, leads to the
  table of what the registry holds of its postcode.
-/

namespace PriceMap.Wire

open Backend
open IOS (MapViewController Request Fetch Reply PostCode Crime GMSMapView GMUWeightedLatLng)
open IOS.MapViewController

variable {ε : Type*} {S : Set (Server ε)} {server : Server ε} {s s' : MapViewController}
  {e : IOS.Event} {r : Request}

-- ---------------------------------------------------------------------------
-- Replies
-- ---------------------------------------------------------------------------

/-- The reply is a transport error, or what a server of `S` sends for texts of the
three numbers. -/
def RepliedBy (S : Set (Server ε)) (lat long radius : ℚ) (reply : Reply) : Prop :=
  reply.error = true ∨ ∃ server ∈ S, ∃ latText longText radiusText,
    parseDecimal latText = some (shown lat) ∧ parseDecimal longText = some (shown long) ∧
      parseDecimal radiusText = some (shown radius) ∧
      reply = replyOf (server.get (endpointPath (.postCodes latText longText radiusText)))

/-- If the event ends a request for prices, then with a reply of a server of `S`. -/
def FromBackend (S : Set (Server ε)) (e : IOS.Event) : Prop :=
  match e with
  | .completed ⟨_, .getPropertyData lat long radius⟩ reply => RepliedBy S lat long radius reply
  | _ => True

/-- The documents that a server finds for a request of the app. -/
def FindsFor (server : Server ε) (r : Request) (documents : List (Document Decimal)) : Prop :=
  match r.fetch with
  | .getPropertyData lat long radius =>
    FindsAround server.models (shown lat) (shown long) (shown radius) documents
  | .getCrimeData .. => False

/-- Only spaces are escaped, and a numeral has none. -/
theorem endpointPath_postCodes {lat long radius : String} {x y z : ℚ}
    (hLat : parseDecimal lat = some x) (hLong : parseDecimal long = some y)
    (hRadius : parseDecimal radius = some z) :
    endpointPath (.postCodes lat long radius) = pricesPath lat long radius := by
  have hSpace : ∀ {text : String} {q : ℚ}, parseDecimal text = some q → ' ' ∉ text.toList := by
    intro text q h hMem
    exact ne_of_numeralChar ((chars_of_parseDecimal h).2 _ hMem) (by decide) rfl
  have hSpaces : ' ' ∉ (IOS.PropertyAPI.postCodes lat long radius).path.toList := by
    simp [IOS.PropertyAPI.path, hSpace hLat, hSpace hLong, hSpace hRadius]
  rw [endpointPath, escapeSpaces_eq_self hSpaces, String.ofList_toList, ← String.toList_inj]
  simp [IOS.PropertyAPI.path, pricesPath]

/-- The answer to a request for prices, whatever the layout of the numbers. -/
theorem get_postCodes (server : Server ε) {lat long radius : String} {x y z : ℚ}
    (hLat : parseDecimal lat = some x) (hLong : parseDecimal long = some y)
    (hRadius : parseDecimal radius = some z) :
    server.get (endpointPath (.postCodes lat long radius)) =
      .ok (pricesAround server.models x y z) :=
  (congrArg server.get (endpointPath_postCodes hLat hLong hRadius)).trans
    (get_numerals server hLat hLong hRadius)

/-- A document that iOS accepts. -/
def NoNumber (d : Document Decimal) : Prop := ∀ q, d.Average_price ≠ .number q

/-- A document without a number for a price decodes. -/
theorem decodePostCode_eq_some {d : Document Decimal} (h : NoNumber d) :
    IOS.decodePostCode (priceRecord d) = some (postCodeOf d) := by
  rw [decodePostCode_priceRecord]
  split
  · next q hNumber => exact absurd hNumber (h q)
  · rfl

/-- One price that is a number keeps all documents away. -/
theorem decodeArray_documents {documents : List (Document Decimal)} {postCodes : List PostCode}
    (h : IOS.decodeArray IOS.decodePostCode (.arr (documents.map priceRecord)) =
      some postCodes) :
    (∀ d ∈ documents, NoNumber d) ∧ postCodes = documents.map postCodeOf := by
  have hAll : ∀ d ∈ documents, NoNumber d := by
    intro d hd q hNumber
    have hNone : IOS.decodePostCode (priceRecord d) = none := by
      rw [decodePostCode_priceRecord, hNumber]
    rw [IOS.decodeArray_none (List.mem_map_of_mem hd) hNone] at h
    cases h
  refine ⟨hAll, ?_⟩
  rw [IOS.decodeArray_some fun d hd => decodePostCode_eq_some (hAll d hd)] at h
  exact (Option.some.inj h).symm

/-- What decodes are the documents found. -/
theorem postCodes_of_pricesAround {models : Models ℝ ε} {x y z : ℚ} {postCodes : List PostCode}
    (h : IOS.performNetworkTask (IOS.decodeArray IOS.decodePostCode)
      (replyOf (.ok (pricesAround models x y z))) = .response postCodes) :
    ∃ documents, FindsAround models x y z documents ∧
      (∀ d ∈ documents, NoNumber d) ∧ postCodes = documents.map postCodeOf := by
  rcases pricesAround_eq models x y z with ⟨documents, hFound, hSent⟩ | hError
  · rw [hSent, performNetworkTask_json] at h
    cases hDecoded : IOS.decodeArray IOS.decodePostCode (.arr (documents.map priceRecord)) with
    | none =>
      rw [hDecoded] at h
      cases h
    | some decoded =>
      rw [hDecoded] at h
      obtain rfl := IOS.Completion.response.inj h
      exact ⟨documents, hFound, decodeArray_documents hDecoded⟩
  · rw [hError, performNetworkTask_message] at h
    cases h

/-- What iOS reads of a reply of the backend. -/
theorem postCodes_of_reply {lat long radius : ℚ} {reply : Reply} {postCodes : List PostCode}
    (hReplied : RepliedBy S lat long radius reply)
    (h : IOS.performNetworkTask (IOS.decodeArray IOS.decodePostCode) reply =
      .response postCodes) :
    ∃ server ∈ S, ∃ documents,
      FindsAround server.models (shown lat) (shown long) (shown radius) documents ∧
        (∀ d ∈ documents, NoNumber d) ∧ postCodes = documents.map postCodeOf := by
  rcases hReplied with hError | ⟨server, hServer, latText, longText, radiusText, hLat, hLong,
    hRadius, hReply⟩
  · simp [IOS.performNetworkTask, hError] at h
  · rw [hReply, get_postCodes server hLat hLong hRadius] at h
    exact ⟨server, hServer, postCodes_of_pricesAround h⟩

-- ---------------------------------------------------------------------------
-- Where everything is from
-- ---------------------------------------------------------------------------

/-- The record of a document that was found for one of the requests, in an answer
without a price that is a number. -/
def FromDocument (S : Set (Server ε)) (issued : List Request) (p : PostCode) : Prop :=
  ∃ r ∈ issued, ∃ server ∈ S, ∃ documents, FindsFor server r documents ∧
    (∀ d ∈ documents, NoNumber d) ∧ ∃ d ∈ documents, p = postCodeOf d

/-- More requests, more documents. -/
theorem FromDocument.mono {issued issued' : List Request} {p : PostCode}
    (h : FromDocument S issued p) (hSub : issued ⊆ issued') : FromDocument S issued' p := by
  obtain ⟨r, hr, hFound⟩ := h
  exact ⟨r, hSub hr, hFound⟩

/-- The replies that end a request. -/
abbrev Replies := Request → Reply → Prop

/-- A crime of the response to one of the requests. -/
def FromResponse (replies : Replies) (issued : List Request) (crime : Crime) : Prop :=
  ∃ r ∈ issued, ∃ reply crimes, replies r reply ∧
    IOS.received r reply = some (.crime crimes) ∧ crime ∈ crimes

/-- More requests, more responses. -/
theorem FromResponse.mono {replies : Replies} {issued issued' : List Request} {crime : Crime}
    (h : FromResponse replies issued crime) (hSub : issued ⊆ issued') :
    FromResponse replies issued' crime := by
  obtain ⟨r, hr, hReceived⟩ := h
  exact ⟨r, hSub hr, hReceived⟩

/-- The point of a document or of a crime. -/
def PointFrom (S : Set (Server ε)) (replies : Replies) (issued : List Request)
    (point : GMUWeightedLatLng) : Prop :=
  (∃ p, FromDocument S issued p ∧ IOS.weightedPostCode p = some point) ∨
    ∃ crime, FromResponse replies issued crime ∧ IOS.weightedCrime crime = some point

variable {replies : Replies}

/-- More requests, more points. -/
theorem PointFrom.mono {issued issued' : List Request} {point : GMUWeightedLatLng}
    (h : PointFrom S replies issued point) (hSub : issued ⊆ issued') :
    PointFrom S replies issued' point := by
  rcases h with ⟨p, hp, hPoint⟩ | ⟨crime, hCrime, hPoint⟩
  · exact Or.inl ⟨p, hp.mono hSub, hPoint⟩
  · exact Or.inr ⟨crime, hCrime.mono hSub, hPoint⟩

/-- All that is shown or may be drawn has come from somewhere. -/
structure Sourced (S : Set (Server ε)) (replies : Replies) (s : MapViewController) : Prop where
  outstanding : s.outstanding ⊆ s.issued
  postCodes : ∀ p ∈ s.postCodes, FromDocument S s.issued p
  crimes : ∀ crime ∈ s.crimes, FromResponse replies s.issued crime
  markers : ∀ p, .PlaceMarker p ∈ s.markers → FromDocument S s.issued p
  points : ∀ source, ∀ point ∈ s.listOf source, PointFrom S replies s.issued point
  layer : ∀ point ∈ s.heatmapLayer.weightedData, PointFrom S replies s.issued point

/-- Nothing new is shown. -/
structure ShowsLess (s s' : MapViewController) : Prop where
  issued : s.issued ⊆ s'.issued
  postCodes : s'.postCodes ⊆ s.postCodes
  crimes : s'.crimes ⊆ s.crimes
  markers : s'.markers ⊆ s.markers
  points : ∀ source, s'.listOf source ⊆ s.listOf source
  layer : s'.heatmapLayer.weightedData = s.heatmapLayer.weightedData ∨
    ∃ source, s'.heatmapLayer.weightedData = s.listOf source

/-- What shows less is sourced, too. -/
theorem Sourced.showsLess (h : Sourced S replies s) (hLess : ShowsLess s s')
    (hOutstanding : s'.outstanding ⊆ s'.issued) : Sourced S replies s' := by
  refine ⟨hOutstanding, ?_, ?_, ?_, ?_, ?_⟩
  · exact fun p hp => (h.postCodes p (hLess.postCodes hp)).mono hLess.issued
  · exact fun crime hCrime => (h.crimes crime (hLess.crimes hCrime)).mono hLess.issued
  · exact fun p hp => (h.markers p (hLess.markers hp)).mono hLess.issued
  · exact fun source point hPoint =>
      (h.points source point (hLess.points source hPoint)).mono hLess.issued
  · intro point hPoint
    rcases hLess.layer with hSame | ⟨source, hList⟩
    · exact (h.layer point (hSame ▸ hPoint)).mono hLess.issued
    · exact (h.points source point (hList ▸ hPoint)).mono hLess.issued

-- ---------------------------------------------------------------------------
-- Steps
-- ---------------------------------------------------------------------------

/-- Fewer points in either list are fewer in that of a source. -/
theorem listOf_subset (hList : s'.list ⊆ s.list) (hCrimeList : s'.crimeList ⊆ s.crimeList)
    (source : IOS.Source) : s'.listOf source ⊆ s.listOf source := by
  cases source with
  | property => exact hList
  | crime => exact hCrimeList

/-- A new request is issued. -/
theorem outstanding_resume (h : s.outstanding ⊆ s.issued) (fetch : Fetch) :
    (s.resume fetch).outstanding ⊆ (s.resume fetch).issued := by
  intro r hr
  rcases List.mem_append.mp hr with hOld | hNew
  · exact List.mem_cons_of_mem _ (h hOld)
  · exact List.mem_cons.mpr (Or.inl (List.mem_singleton.mp hNew))

/-- A request is started over empty arrays and an empty map. -/
theorem Sourced.emptyArrays (h : Sourced S replies s) (completion : Fetch) :
    Sourced S replies (s.emptyArrays completion) := by
  have hLess : ShowsLess s (s.emptyArrays completion) :=
    ⟨List.subset_cons_self .., List.nil_subset _, List.nil_subset _, List.nil_subset _,
      listOf_subset (List.nil_subset _) (List.nil_subset _), Or.inl rfl⟩
  let emptied := clear { s with postCodes := [], crimes := [], crimeList := [], list := [] }
  have hOutstanding : emptied.outstanding ⊆ emptied.issued := h.outstanding
  exact h.showsLess hLess (outstanding_resume hOutstanding completion)

/-- What is drawn of the record array comes from where the array comes from. -/
theorem Sourced.drawPostCodes (h : Sourced S replies s) : Sourced S replies s.drawPostCodes := by
  have hList : ∀ point ∈ s.list ++ s.postCodes.filterMap IOS.weightedPostCode,
      PointFrom S replies s.issued point := by
    intro point hPoint
    rcases List.mem_append.mp hPoint with hOld | hNew
    · exact h.points .property point hOld
    · obtain ⟨p, hp, hWeighted⟩ := List.mem_filterMap.mp hNew
      exact Or.inl ⟨p, h.postCodes p hp, hWeighted⟩
  refine ⟨h.outstanding, h.postCodes, h.crimes, ?_, ?_, hList⟩
  · intro p hp
    rcases List.mem_append.mp hp with hOld | hNew
    · exact h.markers p hOld
    · obtain ⟨q, hq, hMarker⟩ := List.mem_map.mp hNew
      obtain rfl := IOS.Marker.PlaceMarker.inj hMarker
      exact h.postCodes q hq
  · rintro (_ | _)
    · exact hList
    · exact h.points .crime

/-- Crimes bring no price markers. -/
theorem mem_of_placeMarker_crimes {markers : List IOS.Marker} {crimes : List IOS.Crime}
    {p : PostCode} (h : .PlaceMarker p ∈ markers ++ crimes.map .CrimeMarker) :
    .PlaceMarker p ∈ markers := by
  rcases List.mem_append.mp h with hOld | hNew
  · exact hOld
  · obtain ⟨crime, -, hMarker⟩ := List.mem_map.mp hNew
    cases hMarker

/-- A block draws what came from somewhere. -/
theorem Sourced.run (h : Sourced S replies s) (block : IOS.Block) :
    Sourced S replies (run block s) := by
  cases block with
  | emptyArrays completion => exact h.emptyArrays completion
  | deployMarkerAndHeatmapForProperty =>
    exact ⟨h.outstanding, h.postCodes, h.crimes, h.markers, h.points, h.layer⟩
  | deployMarkerAndHeatmapForCrime =>
    exact ⟨h.outstanding, h.postCodes, h.crimes, h.markers, h.points, h.layer⟩
  | drawPostCodes => exact h.drawPostCodes
  | drawCrimes =>
    refine ⟨h.outstanding, h.postCodes, h.crimes, ?_, ?_, h.layer⟩
    · exact fun p hp => h.markers p (mem_of_placeMarker_crimes hp)
    · rintro (_ | _)
      · exact h.points .property
      · intro point hPoint
        rcases List.mem_append.mp hPoint with hOld | hNew
        · exact h.points .crime point hOld
        · obtain ⟨crime, hCrime, hWeighted⟩ := List.mem_filterMap.mp hNew
          exact Or.inr ⟨crime, h.crimes crime hCrime, hWeighted⟩
  | showPostCodes =>
    have hDrawn := h.drawPostCodes.markers
    exact ⟨h.outstanding, h.postCodes, h.crimes, hDrawn, h.points, h.layer⟩
  | showCrimes =>
    refine ⟨h.outstanding, h.postCodes, h.crimes, ?_, h.points, h.layer⟩
    exact fun p hp => h.markers p (mem_of_placeMarker_crimes hp)

/-- What stays outstanding was issued. -/
theorem filter_subset_issued (h : Sourced S replies s) (r : Request) :
    s.outstanding.filter (· ≠ r) ⊆ s.issued :=
  List.Subset.trans (List.filter_subset_self _) h.outstanding

/-- A response replaces one array by what the server found. -/
theorem Sourced.answered (h : Sourced S replies s) {r : Request} {reply : Reply}
    {records : IOS.Records}
    (hr : r ∈ s.outstanding) (hReceived : IOS.received r reply = some records)
    (hServed : FromBackend S (.completed r reply)) (hReplied : replies r reply) :
    Sourced S replies (s.answered r records) := by
  cases records with
  | crime crimes =>
    refine ⟨filter_subset_issued h r, h.postCodes, ?_, h.markers, ?_, h.layer⟩
    · exact fun crime hCrime => ⟨r, h.outstanding hr, reply, crimes, hReplied, hReceived, hCrime⟩
    · intro source
      rw [IOS.listOf_answered]
      exact h.points source
  | property postCodes =>
    refine ⟨filter_subset_issued h r, ?_, h.crimes, h.markers, ?_, h.layer⟩
    · obtain ⟨id, fetch⟩ := r
      cases fetch with
      | getCrimeData lat long direct =>
        have hSource := IOS.outcome_source (IOS.received_eq_some.mp hReceived)
        cases hSource
      | getPropertyData lat long radius =>
        have hTask : IOS.performNetworkTask (IOS.decodeArray IOS.decodePostCode) reply =
            .response postCodes := by
          simp only [IOS.received] at hReceived
          split at hReceived
          · next propResponse hResponse =>
            rw [hResponse]
            exact congrArg _ (IOS.Records.property.inj (Option.some.inj hReceived))
          · cases hReceived
        obtain ⟨server, hServer, documents, hFound, hAll, rfl⟩ := postCodes_of_reply hServed hTask
        intro p hp
        obtain ⟨d, hd, rfl⟩ := List.mem_map.mp hp
        exact ⟨_, h.outstanding hr, server, hServer, documents, hFound, hAll, d, hd, rfl⟩
    · intro source
      rw [IOS.listOf_answered]
      exact h.points source

/-- If the event ends a request, then with one of the replies. -/
def EndsWith (replies : Replies) (e : IOS.Event) : Prop :=
  ∀ r reply, e = .completed r reply → replies r reply

/-- Every step keeps everything sourced. -/
theorem sourced_step (h : Sourced S replies s) (hStep : s.step e = some s')
    (hServed : FromBackend S e) (hReplied : EndsWith replies e) : Sourced S replies s' := by
  have hRestarted : ∀ control isCrime radius completion,
      Sourced S replies (s.restarted control isCrime radius completion) := by
    intro control isCrime radius completion
    exact h.showsLess ⟨List.Subset.refl _, List.Subset.refl _, List.Subset.refl _,
      List.nil_subset _, listOf_subset (List.Subset.refl _) (List.Subset.refl _), Or.inl rfl⟩
      h.outstanding
  cases IOS.step_stepped hStep with
  | refreshTapped view => exact hRestarted ..
  | toProperty view hMoved => exact hRestarted ..
  | toCrime view hMoved => exact hRestarted ..
  | didPick place => exact hRestarted ..
  | toMarkers hMoved =>
    exact ⟨h.outstanding, h.postCodes, h.crimes, h.markers, h.points, h.layer⟩
  | toHeatmap hMoved =>
    exact h.showsLess ⟨List.Subset.refl _, List.Subset.refl _, List.Subset.refl _,
      List.nil_subset _, listOf_subset (List.Subset.refl _) (List.Subset.refl _),
      Or.inr ⟨s.selected, rfl⟩⟩ h.outstanding
  | located location hFirst =>
    have hLess : ShowsLess s (s.located location) :=
      ⟨List.subset_cons_self .., List.Subset.refl _, List.Subset.refl _, List.Subset.refl _,
        listOf_subset (List.Subset.refl _) (List.Subset.refl _), Or.inl rfl⟩
    let asked : MapViewController := { s with isDataRequestSent := true }
    have hOutstanding : asked.outstanding ⊆ asked.issued := h.outstanding
    exact h.showsLess hLess (outstanding_resume hOutstanding _)
  | relocated location hSent => exact h
  | answered r reply records hr hReceived =>
    exact h.answered hr hReceived hServed (hReplied r reply rfl)
  | failed r =>
    exact ⟨filter_subset_issued h r, h.postCodes, h.crimes, h.markers, h.points, h.layer⟩
  | unanswered r =>
    exact ⟨filter_subset_issued h r, h.postCodes, h.crimes, h.markers, h.points, h.layer⟩
  | ran block rest hQueue =>
    have hRest : Sourced S replies { s with mainQueue := rest } :=
      ⟨h.outstanding, h.postCodes, h.crimes, h.markers, h.points, h.layer⟩
    exact hRest.run block

-- ---------------------------------------------------------------------------
-- Runs
-- ---------------------------------------------------------------------------

/-- The replies of a run. -/
def RepliesIn (mapView : GMSMapView) (events : List IOS.Event) : Replies :=
  fun r reply => ∃ t ∈ IOS.moves mapView events, t.event = .completed r reply

/-- In every state of a served run everything is sourced. -/
theorem sourced_visited {mapView : GMSMapView} {events : List IOS.Event}
    (hServed : ∀ t ∈ IOS.moves mapView events, FromBackend S t.event) :
    ∀ s ∈ IOS.visited mapView events, Sourced S (RepliesIn mapView events) s := by
  have hInit : Sourced S (RepliesIn mapView events) (viewDidLoad mapView) := by
    refine ⟨List.nil_subset _, nofun, nofun, nofun, ?_, nofun⟩
    rintro (_ | _) <;> exact nofun
  refine Lib.forall_states
    (C := fun t => FromBackend S t.event ∧ EndsWith (RepliesIn mapView events) t.event)
    (fun _ _ _ hSourced hStep hC => sourced_step hSourced hStep hC.1 hC.2) hInit ?_
  exact fun t ht => ⟨hServed t ht, fun _ _ hEvent => ⟨t, ht, hEvent⟩⟩

/-- **The map shows documents**, and the heatmap documents or crimes. -/
theorem map_view_shows_documents (mapView : GMSMapView) (events : List IOS.Event)
    (S : Set (Server ε)) (hServed : ∀ t ∈ IOS.moves mapView events, FromBackend S t.event) :
    ∀ s ∈ IOS.visited mapView events,
      (∀ p, .PlaceMarker p ∈ s.markers → FromDocument S s.issued p) ∧
        ∀ point ∈ s.heatmapLayer.weightedData,
          PointFrom S (RepliesIn mapView events) s.issued point := by
  intro s hs
  have hSourced := sourced_visited hServed s hs
  exact ⟨hSourced.markers, hSourced.layer⟩

/-- A tap close to the ground leads to the postcode of the marker. -/
theorem didTap_postCodeOf (hRadius : s.currentRadius < 1) (d : Document Decimal) :
    s.didTap (.PlaceMarker (postCodeOf d)) = .ok (some ⟨some "showListPrices", ⟨d._id⟩⟩) := by
  rw [didTap, if_pos hRadius]
  rfl

/-- The table that a tap leads to, from any server that may answer then. -/
structure LeadsTo (S : Set (Server ε)) (pages : String → ℕ → List Record) (count : String → ℕ)
    (postcode : String) (tapped : Except IOS.Trap (Option IOS.Segue)) : Prop where
  segue : tapped = .ok (some ⟨some "showListPrices", ⟨postcode⟩⟩)
  listsAll_iff : ∀ server ∈ S,
    (ListsAll (listed (pages postcode) (count postcode)) (propertyTable server ⟨postcode⟩) ↔
      ∀ record ∈ listed (pages postcode) (count postcode), IOS.IsProperty record)
  fails : ∀ server ∈ S,
    (∃ record ∈ listed (pages postcode) (count postcode), ¬ IOS.IsProperty record) →
      Fails (propertyTable server ⟨postcode⟩)

/-- **A tap on a marker lists the sales at its postcode**, if iOS accepts all of
them. -/
theorem tap_lists_registry (mapView : GMSMapView) (events : List IOS.Event) (S : Set (Server ε))
    (pages : String → ℕ → List Record) (count : String → ℕ) (hBacked : Backed S pages count)
    (hServed : ∀ t ∈ IOS.moves mapView events, FromBackend S t.event) :
    ∀ s ∈ IOS.visited mapView events, s.currentRadius < 1 → ∀ p, .PlaceMarker p ∈ s.markers →
      ∃ postcode, p.postcode = some postcode ∧
        LeadsTo S pages count postcode (s.didTap (.PlaceMarker p)) := by
  intro s hs hRadius p hp
  obtain ⟨r, -, server, hServer, documents, hFound, -, d, hd, rfl⟩ :=
    (sourced_visited hServed s hs).markers p hp
  have hPostcode : StoredPostcode d._id := by
    cases hFetch : r.fetch with
    | getCrimeData lat long direct =>
      rw [FindsFor, hFetch] at hFound
      exact hFound.elim
    | getPropertyData lat long radius =>
      rw [FindsFor, hFetch] at hFound
      exact hBacked.stored server hServer _ _ documents hFound d hd
  refine ⟨d._id, rfl, didTap_postCodeOf hRadius d, ?_, ?_⟩
  · exact fun server hServer =>
      listsAll_propertyTable_iff (hBacked.registered server hServer) hPostcode
  · rintro server hServer ⟨record, hRecord, hNot⟩
    exact fails_propertyTable (hBacked.registered server hServer) hPostcode hRecord hNot

-- ---------------------------------------------------------------------------
-- A house whose price is a text
-- ---------------------------------------------------------------------------

def pricedHouse : Document Decimal := { house with Average_price := .string "285000" }

/-- A server that stores that house, and nothing else. -/
noncomputable def pricedServer : Server Empty :=
  { oneSaleServer with models := oneModels pricedHouse }

def pricedReply : Reply := ⟨some (some (.arr [priceRecord pricedHouse])), true, false⟩

/-- The user is located at the house, which is drawn. -/
def pricedVisit : List IOS.Event :=
  [.didUpdateLocations ⟨0, 0⟩, .completed ⟨0, .getPropertyData 0 0 0.1⟩ pricedReply, .runMain,
    .runMain]

/-- The server finds the house, and its sale. -/
theorem pricedServer_backed : Backed {pricedServer} (fun _ => oneSalePages) fun _ => 1 where
  registered server hServer := by
    obtain rfl := Set.mem_singleton_iff.mp hServer
    exact ⟨oneSaleServer_registered.upper, oneSaleServer_registered.serves,
      oneSaleServer_registered.count⟩
  stored server hServer lookup req documents hFound d hd := by
    obtain rfl := Set.mem_singleton_iff.mp hServer
    obtain rfl : d = pricedHouse := eq_of_mem_oneModels hFound hd
    exact storedPostcode_brighton

/-- The first update finds the house, at the point it asks around. -/
theorem pricedServer_finds : FindsAround pricedServer.models (shown 0) (shown 0) (shown 0.1)
    [pricedHouse] := by
  have hZero : shown 0 = 0 := Decimal.value_ofRat (k := 0) (by decide)
  have hRadius : shown 0.1 = 0.1 := Decimal.value_ofRat (k := 1) (by decide +kernel)
  have hFinds := oneModels_finds pricedHouse (by norm_num : (0 : ℝ) ≤ 0.1) (by norm_num)
  show oneModels pricedHouse _ _ = _
  simp only [hZero, hRadius]
  simpa [pricedHouse, house, Decimal.value] using hFinds

/-- The visit is served by it. -/
theorem pricedVisit_served :
    ∀ t ∈ IOS.moves ⟨true⟩ pricedVisit, FromBackend {pricedServer} t.event := by
  intro t ht
  have hEvent := Lib.event_mem_of_mem_transitions ht
  simp only [pricedVisit, List.mem_cons, List.not_mem_nil, or_false] at hEvent
  rcases hEvent with h | h | h | h <;> rw [h]
  · trivial
  · have hText := fun q => (Decimal.ofRat q).parseDecimal_swiftText
    refine Or.inr ⟨pricedServer, rfl, _, _, _, hText 0, hText 0, hText 0.1, ?_⟩
    rw [get_postCodes pricedServer (hText 0) (hText 0) (hText 0.1)]
    exact congrArg (fun answer => replyOf (.ok answer))
      (pricesAround_of_finds pricedServer_finds).symm
  · trivial
  · trivial

theorem map_view_shows_documents_house :
    (IOS.moves ⟨true⟩ pricedVisit).length = 4 ∧
      ∀ s ∈ IOS.visited ⟨true⟩ pricedVisit,
        (∀ p, .PlaceMarker p ∈ s.markers → FromDocument {pricedServer} s.issued p) ∧
          ∀ point ∈ s.heatmapLayer.weightedData,
            PointFrom {pricedServer} (RepliesIn ⟨true⟩ pricedVisit) s.issued point :=
  ⟨by decide +kernel, map_view_shows_documents ⟨true⟩ pricedVisit {pricedServer} pricedVisit_served⟩

theorem tap_lists_registry_house :
    (∃ s ∈ IOS.visited ⟨true⟩ pricedVisit, s.currentRadius < 1 ∧
      .PlaceMarker (postCodeOf pricedHouse) ∈ s.markers) ∧
    ∀ s ∈ IOS.visited ⟨true⟩ pricedVisit, s.currentRadius < 1 → ∀ p, .PlaceMarker p ∈ s.markers →
      ∃ postcode, p.postcode = some postcode ∧
        LeadsTo {pricedServer} (fun _ => oneSalePages) (fun _ => 1) postcode
          (s.didTap (.PlaceMarker p)) :=
  ⟨by decide +kernel, tap_lists_registry ⟨true⟩ pricedVisit {pricedServer} _ _ pricedServer_backed
    pricedVisit_served⟩

end PriceMap.Wire
