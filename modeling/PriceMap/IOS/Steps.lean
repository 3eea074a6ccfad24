import PriceMap.IOS.MapView

/-!
# iOS — what one step of the controller does

The state after a step can be written down. Four kinds of steps remain:

* `restarted` — refresh, the data toggle and a picked place: the view is made
  ready for an update and a block of `emptyArrays` dispatched.
* `markersShown`, `heatmapShown` — the view toggle.
* `answered`, `failed`, `unanswered` — how a request ends.
* a block of the main queue runs, a first location starts a request.

`step_stepped` is the inversion lemma.
-/

namespace PriceMap.IOS

-- ---------------------------------------------------------------------------
-- How a request ends
-- ---------------------------------------------------------------------------

def Completion.map {α β : Type} (f : α → β) : Completion α → Completion β
  | .response value => .response (f value)
  | .error => .error
  | .nothing => .nothing
  | .notCalled => .notCalled

/-- How the completion of `r` is called. -/
def outcome (r : Request) (reply : Reply) : Completion Records :=
  match r.fetch with
  | .getPropertyData .. => (performNetworkTask (decodeArray decodePostCode) reply).map .property
  | .getCrimeData .. => (performNetworkTask (decodeArray decodeCrime) reply).map .crime

def received (r : Request) (reply : Reply) : Option Records :=
  match r.fetch with
  | .getPropertyData .. =>
    match performNetworkTask (decodeArray decodePostCode) reply with
    | .response propResponse => some (.property propResponse)
    | _ => none
  | .getCrimeData .. =>
    match performNetworkTask (decodeArray decodeCrime) reply with
    | .response crimeResponse => some (.crime crimeResponse)
    | _ => none

/-- What is received is what the completion is called with. -/
theorem received_eq_some {r : Request} {reply : Reply} {records : Records} :
    received r reply = some records ↔ outcome r reply = .response records := by
  unfold received outcome
  cases r.fetch with
  | getPropertyData lat long radius =>
    cases performNetworkTask (decodeArray decodePostCode) reply <;> simp [Completion.map]
  | getCrimeData lat long direct =>
    cases performNetworkTask (decodeArray decodeCrime) reply <;> simp [Completion.map]

def Records.source : Records → Source
  | .property _ => .property
  | .crime _ => .crime

/-- A response holds records of the source asked for. -/
theorem outcome_source {r : Request} {reply : Reply} {records : Records}
    (h : outcome r reply = .response records) : records.source = r.fetch.source := by
  unfold outcome at h
  cases hFetch : r.fetch with
  | getPropertyData lat long radius =>
    simp only [hFetch] at h
    cases hTask : performNetworkTask (decodeArray decodePostCode) reply <;>
      simp [hTask, Completion.map] at h
    rw [← h]
    rfl
  | getCrimeData lat long direct =>
    simp only [hFetch] at h
    cases hTask : performNetworkTask (decodeArray decodeCrime) reply <;>
      simp [hTask, Completion.map] at h
    rw [← h]
    rfl

/-- The block that the completion of a fetch dispatches. -/
def Fetch.deploys : Fetch → Block
  | .getPropertyData .. => .deployMarkerAndHeatmapForProperty
  | .getCrimeData _ _ direct => if direct then .drawCrimes else .deployMarkerAndHeatmapForCrime

-- ---------------------------------------------------------------------------
-- The state after each step
-- ---------------------------------------------------------------------------

namespace MapViewController

variable {s s' : MapViewController}

/-- An update has been asked for. -/
def restarted (control : ℕ) (isCrime : Bool) (radius : ℚ) (completion : Fetch)
    (s : MapViewController) : MapViewController :=
  async (.emptyArrays completion)
    { s.prepareViewForUpdate with
      toggleDataControl := control
      isCrime := isCrime
      currentRadius := radius }

/-- The source `isCrime` names. -/
def selected (s : MapViewController) : Source := if s.isCrime then .crime else .property

def fetchOf (view : Viewport) (direct : Bool) : Source → Fetch
  | .property => .getPropertyData view.center.latitude view.center.longitude view.radius
  | .crime => .getCrimeData view.center.latitude view.center.longitude direct

def shows : Source → Block
  | .property => .showPostCodes
  | .crime => .showCrimes

/-- The points of a source. -/
def listOf (s : MapViewController) : Source → List GMUWeightedLatLng
  | .property => s.list
  | .crime => s.crimeList

def markersShown (s : MapViewController) : MapViewController :=
  async (shows s.selected) { s with
    toggleViewControl := 0
    isAnimating := false
    heatmapLayer := { s.heatmapLayer with map := false } }

def heatmapShown (s : MapViewController) : MapViewController :=
  { s with
    toggleViewControl := 1
    isAnimating := false
    markers := []
    heatmapLayer := ⟨s.listOf s.selected, true⟩ }

def located (location : Coordinate) (s : MapViewController) : MapViewController :=
  resume (.getPropertyData location.latitude location.longitude 0.1)
    { s with isDataRequestSent := true }

def unanswered (r : Request) (s : MapViewController) : MapViewController :=
  { s with outstanding := s.outstanding.filter (· ≠ r) }

/-- An error is reported; only the completion of `getCrimeData` stops the
spinner. -/
def failed (r : Request) (s : MapViewController) : MapViewController :=
  { (s.unanswered r).showAlert with
    isAnimating := s.isAnimating && r.fetch.source = .property }

def store (s : MapViewController) : Records → MapViewController
  | .property postCodes => { s with postCodes := postCodes }
  | .crime crimes => { s with crimes := crimes }

def answered (r : Request) (records : Records) (s : MapViewController) : MapViewController :=
  async r.fetch.deploys (record r records ((s.unanswered r).store records))

/-- The four ways a request can end. -/
theorem completed_eq (r : Request) (reply : Reply) :
    s.completed r reply =
      match outcome r reply with
      | .response records => s.answered r records
      | .error => s.failed r
      | .nothing | .notCalled => s.unanswered r := by
  unfold completed outcome
  cases hFetch : r.fetch with
  | getPropertyData lat long radius =>
    simp only [propertyCompletion]
    cases performNetworkTask (decodeArray decodePostCode) reply with
    | response propResponse =>
      simp only [Completion.map, answered, hFetch, Fetch.deploys]
      rfl
    | error =>
      simp only [Completion.map, failed, hFetch, Fetch.source, decide_true, Bool.and_true]
      rfl
    | nothing => rfl
    | notCalled => rfl
  | getCrimeData lat long direct =>
    simp only [crimeCompletion]
    cases performNetworkTask (decodeArray decodeCrime) reply with
    | response crimeResponse =>
      simp only [Completion.map, answered, hFetch, Fetch.deploys]
      rfl
    | error =>
      simp only [Completion.map, failed, hFetch, Fetch.source, reduceCtorEq, decide_false,
        Bool.and_false]
      rfl
    | nothing => rfl
    | notCalled => rfl

end MapViewController

open MapViewController

-- ---------------------------------------------------------------------------
-- The inversion lemma
-- ---------------------------------------------------------------------------

/-- **What a step can do.** -/
inductive Stepped (s : MapViewController) : Event → MapViewController → Prop
  | refreshTapped (view : Viewport) :
    Stepped s (.refreshTapped view)
      (s.restarted s.toggleDataControl s.isCrime view.radius (fetchOf view false s.selected))
  | toProperty (view : Viewport) (hMoved : s.toggleDataControl ≠ 0) :
    Stepped s (.toggleDataTapped 0 view)
      (s.restarted 0 false view.radius (fetchOf view true .property))
  | toCrime (view : Viewport) (hMoved : s.toggleDataControl ≠ 1) :
    Stepped s (.toggleDataTapped 1 view)
      (s.restarted 1 true view.radius (fetchOf view true .crime))
  | didPick (place : Coordinate) :
    Stepped s (.didPick place)
      (s.restarted 0 s.isCrime 0.30 (.getPropertyData place.latitude place.longitude 0.30))
  | toMarkers (hMoved : s.toggleViewControl ≠ 0) :
    Stepped s (.toggleViewTapped 0) s.markersShown
  | toHeatmap (hMoved : s.toggleViewControl ≠ 1) :
    Stepped s (.toggleViewTapped 1) s.heatmapShown
  | located (location : Coordinate) (hFirst : s.isDataRequestSent = false) :
    Stepped s (.didUpdateLocations location) (s.located location)
  | relocated (location : Coordinate) (hSent : s.isDataRequestSent = true) :
    Stepped s (.didUpdateLocations location) s
  | answered (r : Request) (reply : Reply) (records : Records) (hr : r ∈ s.outstanding)
    (hReceived : received r reply = some records) (hSource : records.source = r.fetch.source) :
    Stepped s (.completed r reply) (s.answered r records)
  | failed (r : Request) (reply : Reply) (hr : r ∈ s.outstanding)
    (hReceived : received r reply = none) (hError : outcome r reply = .error) :
    Stepped s (.completed r reply) (s.failed r)
  | unanswered (r : Request) (reply : Reply) (hr : r ∈ s.outstanding)
    (hReceived : received r reply = none) (hSilent : outcome r reply ≠ .error) :
    Stepped s (.completed r reply) (s.unanswered r)
  | ran (block : Block) (rest : List Block) (hQueue : s.mainQueue = block :: rest) :
    Stepped s .runMain (run block { s with mainQueue := rest })

variable {s s' : MapViewController}

/-- The end of a request is one of the steps. -/
theorem stepped_completed {r : Request} (reply : Reply) (hr : r ∈ s.outstanding) :
    Stepped s (.completed r reply) (s.completed r reply) := by
  rw [completed_eq]
  have hNone : (∀ records, outcome r reply ≠ .response records) → received r reply = none := by
    intro h
    refine Option.eq_none_iff_forall_ne_some.mpr fun records hRecords => ?_
    exact h records (received_eq_some.mp hRecords)
  cases hOutcome : outcome r reply with
  | response records =>
    exact .answered r reply records hr (received_eq_some.mpr hOutcome) (outcome_source hOutcome)
  | error => exact .failed r reply hr (hNone (by simp [hOutcome])) hOutcome
  | nothing => exact .unanswered r reply hr (hNone (by simp [hOutcome])) (by simp [hOutcome])
  | notCalled => exact .unanswered r reply hr (hNone (by simp [hOutcome])) (by simp [hOutcome])

/-- Every step is one of those listed. -/
theorem step_stepped {e : Event} (h : s.step e = some s') : Stepped s e s' := by
  cases e with
  | refreshTapped view =>
    obtain rfl := Option.some.inj h
    have hStepped := Stepped.refreshTapped (s := s) view
    cases hCrime : s.isCrime <;>
      simp only [selected, hCrime, MapViewController.refreshTapped] at hStepped ⊢ <;>
      exact hStepped
  | toggleDataTapped index view =>
    simp only [step] at h
    split at h
    · next hMoved =>
      obtain rfl := Option.some.inj h
      obtain ⟨hIndex, hMoved⟩ := hMoved
      obtain rfl | rfl : index = 0 ∨ index = 1 := by omega
      · exact .toProperty view hMoved.symm
      · exact .toCrime view hMoved.symm
    · cases h
  | toggleViewTapped index =>
    simp only [step] at h
    split at h
    · next hMoved =>
      obtain rfl := Option.some.inj h
      obtain ⟨hIndex, hMoved⟩ := hMoved
      obtain rfl | rfl : index = 0 ∨ index = 1 := by omega
      · have hStepped := Stepped.toMarkers hMoved.symm
        cases hCrime : s.isCrime <;>
          simp [MapViewController.toggleViewTapped, markersShown, selected, hCrime]
            at hStepped ⊢ <;>
          exact hStepped
      · have hStepped := Stepped.toHeatmap hMoved.symm
        cases hCrime : s.isCrime <;>
          simp [MapViewController.toggleViewTapped, heatmapShown, selected, hCrime]
            at hStepped ⊢ <;>
          exact hStepped
    · cases h
  | didPick place =>
    obtain rfl := Option.some.inj h
    exact .didPick place
  | didUpdateLocations location =>
    obtain rfl := Option.some.inj h
    cases hSent : s.isDataRequestSent with
    | true =>
      have hStays : s.didUpdateLocations location = s := by
        simp [MapViewController.didUpdateLocations, hSent]
      rw [hStays]
      exact .relocated location hSent
    | false =>
      have hRequests : s.didUpdateLocations location = s.located location := by
        simp [MapViewController.didUpdateLocations, MapViewController.located, hSent]
      rw [hRequests]
      exact .located location hSent
  | completed r reply =>
    simp only [step] at h
    split at h
    · next hr =>
      obtain rfl := Option.some.inj h
      exact stepped_completed reply hr
    · cases h
  | runMain =>
    simp only [step] at h
    split at h
    · cases h
    · next block rest hQueue =>
      obtain rfl := Option.some.inj h
      exact .ran block rest hQueue

-- ---------------------------------------------------------------------------
-- What stays
-- ---------------------------------------------------------------------------

/-- The controls, and what is stored about them. -/
structure SameControls (s s' : MapViewController) : Prop where
  toggleDataControl : s'.toggleDataControl = s.toggleDataControl
  toggleViewControl : s'.toggleViewControl = s.toggleViewControl
  isCrime : s'.isCrime = s.isCrime
  currentRadius : s'.currentRadius = s.currentRadius

/-- Only what the user does moves a control. -/
theorem sameControls_run (block : Block) (rest : List Block) :
    SameControls s (run block { s with mainQueue := rest }) := by
  cases block <;> exact ⟨rfl, rfl, rfl, rfl⟩

section Answered

variable (r : Request) (records : Records)

/-- A response queues its block. -/
theorem mainQueue_answered :
    (s.answered r records).mainQueue = s.mainQueue ++ [r.fetch.deploys] := by
  cases records <;> rfl

theorem issued_answered : (s.answered r records).issued = s.issued := by
  cases records <;> rfl

theorem markers_answered : (s.answered r records).markers = s.markers := by
  cases records <;> rfl

theorem heatmapLayer_answered : (s.answered r records).heatmapLayer = s.heatmapLayer := by
  cases records <;> rfl

theorem listOf_answered (source : Source) :
    (s.answered r records).listOf source = s.listOf source := by
  cases records <;> cases source <;> rfl

end Answered

/-- A response leaves the controls. -/
theorem sameControls_answered (r : Request) (records : Records) :
    SameControls s (s.answered r records) := by
  cases records <;> exact ⟨rfl, rfl, rfl, rfl⟩

theorem sameControls_failed (r : Request) : SameControls s (s.failed r) := ⟨rfl, rfl, rfl, rfl⟩

theorem sameControls_unanswered (r : Request) : SameControls s (s.unanswered r) :=
  ⟨rfl, rfl, rfl, rfl⟩

theorem sameControls_located (location : Coordinate) : SameControls s (s.located location) :=
  ⟨rfl, rfl, rfl, rfl⟩

end PriceMap.IOS
