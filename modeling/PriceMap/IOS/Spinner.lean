import PriceMap.IOS.Markers

/-!
# iOS — the spinner

Every update starts the spinner; the blocks that draw a response stop it, and so
does the view toggle. Of the two fetchers, one stops it when an error is
reported, and neither when its completion gets nothing or is not called.

* `stopping_iff`  — while the spinner turns, something is still to come that may
  stop it, if and only if no request ends without stopping it while nothing else
  is to come.
* `spinner_stops` — so with nothing outstanding and nothing waiting it stands
  still.
-/

namespace PriceMap.IOS

open MapViewController

/-- Once something has been requested, the spinner stands still in a quiescent
state. -/
def SpinnerRight (s : MapViewController) : Prop :=
  Quiescent s → s.issued ≠ [] → s.isAnimating = false

-- ---------------------------------------------------------------------------
-- What stops the spinner
-- ---------------------------------------------------------------------------

/-- Whether a request that ends like this stops the spinner, at once or by the
blocks it dispatches. -/
def stopped (r : Request) (reply : Reply) : Bool :=
  match outcome r reply with
  | .response _ => true
  | .error => r.fetch.source = .crime
  | .nothing | .notCalled => false

/-- Whether a block stops the spinner, or starts something that may. -/
def Block.stops : Block → Bool
  | .showPostCodes | .showCrimes => false
  | _ => true

/-- A request that ends while the spinner turns stops it, or something else is
still to come that may. -/
def Stops (t : Move) : Prop :=
  match t.event with
  | .completed r reply =>
    t.pre.isAnimating = true → t.pre.outstanding.filter (· ≠ r) = [] →
      (∀ block ∈ t.pre.mainQueue, block.stops = false) → stopped r reply = true
  | _ => True

-- ---------------------------------------------------------------------------
-- The invariant
-- ---------------------------------------------------------------------------

/-- Something is still to come that may stop the spinner. -/
def Awaited (s : MapViewController) : Prop :=
  s.outstanding ≠ [] ∨ ∃ block ∈ s.mainQueue, block.stops = true

def Stopping (s : MapViewController) : Prop :=
  s.issued ≠ [] → s.isAnimating = true → Awaited s

variable {s s' : MapViewController} {e : Event}

/-- A spinner that stands needs nothing to stop it. -/
theorem Stopping.of_still (h : s.isAnimating = false) : Stopping s := by
  intro _ hAnimating
  rw [h] at hAnimating
  cases hAnimating

/-- A spinner turns as long as something may stop it. -/
theorem Stopping.of_awaited (h : Awaited s) : Stopping s := fun _ _ => h

/-- A queued block that stops the spinner may stop it. -/
theorem awaited_async {block : Block} (h : block.stops = true) : Awaited (s.async block) :=
  Or.inr ⟨block, List.mem_append_right _ (List.mem_singleton.mpr rfl), h⟩

theorem stops_deploys (fetch : Fetch) : fetch.deploys.stops = true := by
  cases fetch with
  | getPropertyData lat long radius => rfl
  | getCrimeData lat long direct => cases direct <;> rfl

/-- A request may stop it. -/
theorem awaited_resume (fetch : Fetch) : Awaited (s.resume fetch) :=
  Or.inl (List.append_ne_nil_of_right_ne_nil _ (List.cons_ne_nil _ _))

/-- A request that ends without a response leaves something to wait for, or
stops the spinner. -/
theorem stopping_ended {r : Request} {reply : Reply} (hIssued : s'.issued ≠ [])
    (hQueue : s'.mainQueue = s.mainQueue)
    (hOutstanding : s'.outstanding = s.outstanding.filter (· ≠ r))
    (hAnimating : s'.isAnimating = true ↔ s.isAnimating = true ∧ stopped r reply = false) :
    Stopping s' ↔ Stops ⟨s, .completed r reply, s'⟩ := by
  have hAwaited : Awaited s' ↔ ¬ (s.outstanding.filter (· ≠ r) = [] ∧
      ∀ block ∈ s.mainQueue, block.stops = false) := by
    rw [Awaited, hOutstanding, hQueue, not_and_or]
    simp
  refine ⟨fun h hTurned hNoRequest hNoBlock => ?_, fun h _ hTurns => ?_⟩
  · by_contra hNot
    have hTurns := hAnimating.mpr ⟨hTurned, by simpa using hNot⟩
    exact hAwaited.mp (h hIssued hTurns) ⟨hNoRequest, hNoBlock⟩
  · obtain ⟨hTurned, hNot⟩ := hAnimating.mp hTurns
    refine hAwaited.mpr fun hNothing => ?_
    have hStopped := h hTurned hNothing.1 hNothing.2
    rw [hNot] at hStopped
    cases hStopped

/-- A block stops the spinner or queues nothing for it. -/
theorem Stopping.run (h : Stopping s) {block : Block} {rest : List Block}
    (hQueue : s.mainQueue = block :: rest) :
    Stopping (run block { s with mainQueue := rest }) := by
  have hShow : block.stops = false → ∀ s' : MapViewController, s'.issued = s.issued →
      s'.isAnimating = s.isAnimating → s'.outstanding = s.outstanding → s'.mainQueue = rest →
        Stopping s' := by
    intro hBlock s' hIssued hAnimating hOutstanding hRest hSome hTurns
    rw [hIssued] at hSome
    rw [hAnimating] at hTurns
    rcases h hSome hTurns with hRequest | ⟨waiting, hWaiting, hStops⟩
    · exact Or.inl (hOutstanding ▸ hRequest)
    · rw [hQueue] at hWaiting
      rcases List.mem_cons.mp hWaiting with rfl | hWaiting
      · rw [hBlock] at hStops
        cases hStops
      · exact Or.inr ⟨waiting, hRest ▸ hWaiting, hStops⟩
  cases block with
  | emptyArrays completion => exact .of_awaited (awaited_resume completion)
  | deployMarkerAndHeatmapForProperty => exact .of_awaited (awaited_async rfl)
  | deployMarkerAndHeatmapForCrime => exact .of_awaited (awaited_async rfl)
  | drawPostCodes => exact .of_still rfl
  | drawCrimes => exact .of_still rfl
  | showPostCodes => exact hShow rfl _ rfl rfl rfl rfl
  | showCrimes => exact hShow rfl _ rfl rfl rfl rfl

/-- Requests are outstanding only once one has been issued. -/
def Asked (s : MapViewController) : Prop := s.issued = [] → s.outstanding = []

/-- A spinner that turns was started by a request. -/
theorem asked_step (h : Asked s) (hStep : s.step e = some s') : Asked s' := by
  have hFilter : ∀ r, s.issued = [] → s.outstanding.filter (· ≠ r) = [] := by
    intro r hNil
    rw [h hNil]
    rfl
  cases step_stepped hStep with
  | located location hFirst => exact fun hNil => absurd hNil (List.cons_ne_nil _ _)
  | answered r reply records => cases records <;> exact hFilter r
  | failed r => exact hFilter r
  | unanswered r => exact hFilter r
  | ran block rest hQueue =>
    cases block with
    | emptyArrays completion => exact fun hNil => absurd hNil (List.cons_ne_nil _ _)
    | _ => exact h
  | _ => exact h

/-- In every state, too. -/
theorem asked_visited {mapView : GMSMapView} {events : List Event} :
    ∀ s ∈ visited mapView events, Asked s :=
  Lib.forall_states (fun _ _ _ h hStep _ => asked_step h hStep) (fun _ => rfl) fun _ _ => trivial

/-- **Only a request that ends can leave the spinner turning for good.** -/
theorem stopping_step (hAsked : Asked s) (h : Stopping s) (hStep : s.step e = some s') :
    Stopping s' ↔ Stops ⟨s, e, s'⟩ := by
  have hIssued : ∀ r ∈ s.outstanding, s.issued ≠ [] := by
    intro r hr hNil
    rw [hAsked hNil] at hr
    cases hr
  cases step_stepped hStep with
  | refreshTapped view => exact iff_of_true (.of_awaited (awaited_async rfl)) trivial
  | toProperty view hMoved => exact iff_of_true (.of_awaited (awaited_async rfl)) trivial
  | toCrime view hMoved => exact iff_of_true (.of_awaited (awaited_async rfl)) trivial
  | didPick place => exact iff_of_true (.of_awaited (awaited_async rfl)) trivial
  | toMarkers hMoved => exact iff_of_true (.of_still rfl) trivial
  | toHeatmap hMoved => exact iff_of_true (.of_still rfl) trivial
  | located location hFirst => exact iff_of_true (.of_awaited (awaited_resume _)) trivial
  | relocated location hSent => exact iff_of_true h trivial
  | answered r reply records hr hReceived hSource =>
    have hStopped : stopped r reply = true := by
      simp [stopped, received_eq_some.mp hReceived]
    exact iff_of_true (.of_awaited (awaited_async (stops_deploys r.fetch))) fun _ _ _ => hStopped
  | failed r reply hr hReceived hError =>
    refine stopping_ended (hIssued r hr) rfl rfl ?_
    cases hSource : r.fetch.source <;> simp [MapViewController.failed, stopped, hError, hSource]
  | unanswered r reply hr hReceived hSilent =>
    refine stopping_ended (hIssued r hr) rfl rfl ?_
    have hNot : stopped r reply = false := by
      cases hOutcome : outcome r reply with
      | response records =>
        rw [received_eq_some.mpr hOutcome] at hReceived
        cases hReceived
      | error => exact absurd hOutcome hSilent
      | nothing => simp [stopped, hOutcome]
      | notCalled => simp [stopped, hOutcome]
    simp [MapViewController.unanswered, hNot]
  | ran block rest hQueue => exact iff_of_true (h.run hQueue) trivial

/-- **The condition is exact for the invariant.** -/
theorem stopping_iff (mapView : GMSMapView) (events : List Event) :
    (∀ s ∈ visited mapView events, Stopping s) ↔ ∀ t ∈ moves mapView events, Stops t := by
  have hBoth : (∀ s ∈ visited mapView events, Asked s ∧ Stopping s) ↔
      ∀ t ∈ moves mapView events, Stops t := by
    refine Lib.forall_states_iff (fun s e s' h hStep => ?_) ⟨fun _ => rfl, fun h => absurd rfl h⟩
    rw [← stopping_step h.1 h.2 hStep]
    exact and_iff_right (asked_step h.1 hStep)
  rw [← hBoth]
  exact ⟨fun h s hs => ⟨asked_visited s hs, h s hs⟩, fun h s hs => (h s hs).2⟩

/-- With nothing outstanding or waiting the spinner stands. -/
theorem Stopping.spinnerRight (h : Stopping s) : SpinnerRight s := by
  rintro ⟨hOutstanding, hQueue⟩ hIssued
  cases hAnimating : s.isAnimating with
  | false => rfl
  | true =>
    rcases h hIssued hAnimating with hRequest | ⟨block, hBlock, -⟩
    · exact absurd hOutstanding hRequest
    · rw [hQueue] at hBlock
      cases hBlock

/-- **The spinner stops**, in every run in which no request ends without
stopping it while nothing else is to come that may. -/
theorem spinner_stops (mapView : GMSMapView) (events : List Event)
    (hStops : ∀ t ∈ moves mapView events, Stops t) :
    ∀ s ∈ visited mapView events, SpinnerRight s := by
  intro s hs
  exact ((stopping_iff mapView events).mpr hStops s hs).spinnerRight

-- ---------------------------------------------------------------------------
-- A failing backend
-- ---------------------------------------------------------------------------

instance : DecidablePred SpinnerRight := fun _ => inferInstanceAs (Decidable (_ → _ → _))

instance : DecidablePred Stops
  | ⟨_, .completed _ _, _⟩ => inferInstanceAs (Decidable (_ → _ → _ → _))
  | ⟨_, .refreshTapped _, _⟩ | ⟨_, .toggleDataTapped .., _⟩ | ⟨_, .toggleViewTapped _, _⟩
  | ⟨_, .didPick _, _⟩ | ⟨_, .didUpdateLocations _, _⟩ | ⟨_, .runMain, _⟩ =>
    inferInstanceAs (Decidable True)

/-- The request for the first location ends with a transport error. -/
def backendDown : List Event :=
  [.didUpdateLocations ⟨0, 0⟩, .completed ⟨0, .getPropertyData 0 0 0.1⟩ ⟨none, false, true⟩]

/-- The first request ends with a transport error. -/
theorem spinner_stops_fails :
    ¬ ∀ (mapView : GMSMapView) (events : List Event), ∀ s ∈ visited mapView events,
      SpinnerRight s := by
  intro h
  exact absurd (h ⟨true⟩ backendDown) (by decide +kernel)

/-- The request for the first location fails while another update waits, and then
the request of that one, for crimes. -/
def failingVisit : List Event :=
  [.didUpdateLocations ⟨0, 0⟩, .toggleDataTapped 1 (viewAt 0),
    .completed ⟨0, .getPropertyData 0 0 0.1⟩ ⟨none, false, true⟩, .runMain,
    .completed ⟨1, .getCrimeData 0 0 true⟩ ⟨none, false, true⟩]

theorem spinner_stops_failingVisit :
    (moves ⟨true⟩ failingVisit).length = 5 ∧ ∀ s ∈ visited ⟨true⟩ failingVisit, SpinnerRight s :=
  ⟨by decide +kernel, spinner_stops ⟨true⟩ failingVisit (by decide +kernel)⟩

end PriceMap.IOS
