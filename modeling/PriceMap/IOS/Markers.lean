import PriceMap.IOS.Steps

/-!
# iOS — which markers are left on the map

What a drawing block draws is decided when it runs, and nothing ties it to the
response that dispatched it. The map ends up right if every response finds the
controller as its request left it.

A waiting `emptyArrays` block makes up for everything that happens before it
runs: it clears the arrays and the map and starts the request that is the
newest from then on. So an invariant is only needed, and kept, while none is
waiting (`Settled`).

* `markers_right` — when nothing is outstanding and nothing waits, the markers
  are those of the newest request's response, or none on the heatmap, provided
  that every move made while no `emptyArrays` block waits is `Undisturbed`.
-/

namespace PriceMap.IOS

open MapViewController

-- ---------------------------------------------------------------------------
-- What is shown and what should be
-- ---------------------------------------------------------------------------

/-- The markers of the newest request's response, none before it or without
one. -/
def MapViewController.wanted (s : MapViewController) : List Marker :=
  match s.answer with
  | some records => records.markers
  | none => []

def Quiescent (s : MapViewController) : Prop := s.outstanding = [] ∧ s.mainQueue = []

/-- In a quiescent state the map holds one marker for each record of the newest
response, and on the heatmap none at all. -/
def MarkersRight (s : MapViewController) : Prop :=
  Quiescent s → (s.toggleViewControl = 0 → s.markers.Perm s.wanted) ∧
    (s.toggleViewControl = 1 → s.markers = [])

def MapViewController.shown (s : MapViewController) : Source → List Marker
  | .property => s.postCodes.map .PlaceMarker
  | .crime => s.crimes.map .CrimeMarker

def MapViewController.newestSource (s : MapViewController) : Option Source :=
  s.issued.head?.map fun r => r.fetch.source

/-- The array a block draws, now or by the block it dispatches. -/
def Block.source : Block → Option Source
  | .emptyArrays _ => none
  | .deployMarkerAndHeatmapForProperty | .drawPostCodes | .showPostCodes => some .property
  | .deployMarkerAndHeatmapForCrime | .drawCrimes | .showCrimes => some .crime

def Block.draws (s : MapViewController) : Block → List Marker
  | .drawPostCodes | .showPostCodes => s.shown .property
  | .drawCrimes | .showCrimes => s.shown .crime
  | _ => []

def Updating (s : MapViewController) : Prop := ∃ block ∈ s.mainQueue, block.source = none

-- ---------------------------------------------------------------------------
-- The moves that keep the map right
-- ---------------------------------------------------------------------------

/-- What may happen while no `emptyArrays` block waits:

* a response belongs to the newest request;
* a block that is about to draw something finds the view control on markers
  and no markers on the map;
* the view control is moved to markers while `isCrime` names the source of the
  newest request, or there is nothing to show;
* the first location update comes while both record arrays are empty. -/
def UndisturbedBy (s : MapViewController) : Event → Prop
  | .completed r reply => (received r reply).isSome → s.issued.head? = some r
  | .runMain =>
    ∀ block ∈ s.mainQueue.head?, block.draws s ≠ [] → s.toggleViewControl = 0 ∧ s.markers = []
  | .toggleViewTapped index =>
    index = 0 → s.wanted = [] ∨
      s.newestSource = some (if s.isCrime then .crime else .property)
  | .didUpdateLocations _ => s.isDataRequestSent = false → s.postCodes = [] ∧ s.crimes = []
  | .refreshTapped _ | .toggleDataTapped .. | .didPick _ => True

def Undisturbed (t : Move) : Prop := ¬ Updating t.pre → UndisturbedBy t.pre t.event

-- ---------------------------------------------------------------------------
-- The invariant
-- ---------------------------------------------------------------------------

/-- What holds while no `emptyArrays` block waits. -/
structure Settled (s : MapViewController) : Prop where
  /-- the array of the newest request's source holds its response, the other
  one nothing -/
  arrays : ∀ source, s.shown source = if s.newestSource = some source then s.wanted else []
  onMap : s.markers = [] ∨ (s.toggleViewControl = 0 ∧ s.markers = s.wanted)
  /-- what is not drawn yet will be -/
  pending : s.toggleViewControl = 0 → s.markers = [] → s.wanted ≠ [] →
    ∃ block ∈ s.mainQueue, block.source = s.newestSource

structure Consistent (s : MapViewController) : Prop where
  /-- the newest request is not answered while it is outstanding -/
  fresh : ∀ r ∈ s.outstanding, s.issued.head? = some r → s.answer = none
  unasked : s.issued = [] → s.answer = none
  settled : ¬ Updating s → Settled s

variable {s s' : MapViewController}

/-- Dispatching a block leaves the waiting ones waiting. -/
theorem Updating.append {blocks : List Block} (hQueue : s'.mainQueue = s.mainQueue ++ blocks)
    (h : Updating s) : Updating s' := by
  obtain ⟨waiting, hWaiting, hNone⟩ := h
  refine ⟨waiting, ?_, hNone⟩
  rw [hQueue]
  exact List.mem_append_left _ hWaiting

/-- Whether the arrays are going to be emptied depends on the queue alone. -/
theorem updating_congr (hQueue : s'.mainQueue = s.mainQueue) : Updating s' ↔ Updating s := by
  rw [Updating, Updating, hQueue]

/-- With nothing in the queue they are not. -/
theorem not_updating_of_nil (hQueue : s.mainQueue = []) : ¬ Updating s := by
  rintro ⟨block, hBlock, -⟩
  rw [hQueue] at hBlock
  cases hBlock

/-- Blocks other than that of `emptyArrays` do not end an update. -/
theorem Updating.ran (h : Updating s) {block : Block} {rest : List Block}
    (hQueue : s.mainQueue = block :: rest) (hSource : block.source ≠ none)
    (hRest : ∀ later ∈ rest, later ∈ s'.mainQueue) : Updating s' := by
  obtain ⟨waiting, hWaiting, hNone⟩ := h
  rw [hQueue] at hWaiting
  rcases List.mem_cons.mp hWaiting with rfl | hWaiting
  · exact absurd hNone hSource
  · exact ⟨waiting, hRest waiting hWaiting, hNone⟩

/-- Before an answer there is nothing to show. -/
theorem wanted_of_answer_none (h : s.answer = none) : s.wanted = [] := by
  rw [wanted, h]

/-- A settled controller with empty arrays has nothing to show. -/
theorem Consistent.wanted_eq_nil (h : Consistent s) (hSettled : Settled s)
    (hPostCodes : s.postCodes = []) (hCrimes : s.crimes = []) : s.wanted = [] := by
  have hShown : ∀ source, s.shown source = [] := by
    intro source
    cases source <;> simp [shown, hPostCodes, hCrimes]
  cases hNewest : s.issued.head? with
  | none => exact wanted_of_answer_none (h.unasked (List.head?_eq_none_iff.mp hNewest))
  | some r =>
    have hSource : s.newestSource = some r.fetch.source := by
      rw [newestSource, hNewest]
      rfl
    have hArray := hSettled.arrays r.fetch.source
    rw [if_pos hSource, hShown] at hArray
    exact hArray.symm

/-- Where nothing is wanted there are no markers. -/
theorem Settled.markers_eq_nil (h : Settled s) (hWanted : s.wanted = []) : s.markers = [] := by
  rcases h.onMap with hNil | ⟨-, hMarkers⟩
  · exact hNil
  · rw [hMarkers, hWanted]

structure SameRecords (s s' : MapViewController) : Prop where
  postCodes : s'.postCodes = s.postCodes
  crimes : s'.crimes = s.crimes
  issued : s'.issued = s.issued
  answer : s'.answer = s.answer
  outstanding : s'.outstanding ⊆ s.outstanding

/-- The same records are wanted. -/
theorem SameRecords.wanted (h : SameRecords s s') : s'.wanted = s.wanted := by
  rw [MapViewController.wanted, MapViewController.wanted, h.answer]

/-- The same records are shown. -/
theorem SameRecords.shown (h : SameRecords s s') (source : Source) :
    s'.shown source = s.shown source := by
  cases source
  · exact congrArg (List.map Marker.PlaceMarker) h.postCodes
  · exact congrArg (List.map Marker.CrimeMarker) h.crimes

/-- The source of the newest request is the same. -/
theorem SameRecords.newestSource (h : SameRecords s s') : s'.newestSource = s.newestSource := by
  rw [MapViewController.newestSource, MapViewController.newestSource, h.issued]

/-- Where the records stay, only the map and the queue have to be looked at. -/
theorem Consistent.same (h : Consistent s) (hSame : SameRecords s s')
    (hSettled : ¬ Updating s' → Settled s ∧
      (s'.markers = [] ∨ (s'.toggleViewControl = 0 ∧ s'.markers = s.wanted)) ∧
      (s'.toggleViewControl = 0 → s'.markers = [] → s.wanted ≠ [] →
        ∃ block ∈ s'.mainQueue, block.source = s.newestSource)) : Consistent s' := by
  refine ⟨?_, ?_, ?_⟩
  · intro r hr hNewest
    rw [hSame.issued] at hNewest
    rw [hSame.answer]
    exact h.fresh r (hSame.outstanding hr) hNewest
  · intro hNil
    rw [hSame.issued] at hNil
    rw [hSame.answer]
    exact h.unasked hNil
  · intro hUpdating
    obtain ⟨hOld, hOnMap, hPending⟩ := hSettled hUpdating
    refine ⟨?_, ?_, ?_⟩
    · intro source
      rw [hSame.shown, hSame.newestSource, hSame.wanted]
      exact hOld.arrays source
    · rw [hSame.wanted]
      exact hOnMap
    · rw [hSame.wanted, hSame.newestSource]
      exact hPending

-- ---------------------------------------------------------------------------
-- Actions
-- ---------------------------------------------------------------------------

/-- A queued `emptyArrays` is going to empty the arrays. -/
theorem updating_async (completion : Fetch) : Updating (s.async (.emptyArrays completion)) :=
  ⟨_, List.mem_append_right _ (List.mem_singleton.mpr rfl), rfl⟩

/-- While the arrays are going to be emptied nothing has to be right. -/
theorem Consistent.update (h : Consistent s) (hSame : SameRecords s s') (completion : Fetch) :
    Consistent (s'.async (.emptyArrays completion)) :=
  h.same ⟨hSame.postCodes, hSame.crimes, hSame.issued, hSame.answer, hSame.outstanding⟩
    fun hUpdating => absurd (updating_async completion) hUpdating

/-- A refresh empties everything first. -/
theorem Consistent.restarted (h : Consistent s) (control : ℕ) (isCrime : Bool) (radius : ℚ)
    (completion : Fetch) : Consistent (s.restarted control isCrime radius completion) := by
  refine h.update ?_ completion
  exact ⟨rfl, rfl, rfl, rfl, fun _ hr => hr⟩

/-- Showing the heatmap takes the markers away. -/
theorem Consistent.heatmapShown (h : Consistent s) : Consistent s.heatmapShown := by
  refine h.same ⟨rfl, rfl, rfl, rfl, fun _ hr => hr⟩ fun hUpdating => ?_
  exact ⟨h.settled hUpdating, Or.inl rfl, fun hView => by cases hView⟩

theorem source_shows (source : Source) : (shows source).source = some source := by
  cases source <;> rfl

/-- To the markers: the array `isCrime` names is drawn. -/
theorem Consistent.markersShown (h : Consistent s) (hView : s.toggleViewControl ≠ 0)
    (hSource : ¬ Updating s → s.wanted = [] ∨ s.newestSource = some s.selected) :
    Consistent s.markersShown := by
  have hQueue : s.markersShown.mainQueue = s.mainQueue ++ [shows s.selected] := rfl
  refine h.same ⟨rfl, rfl, rfl, rfl, fun _ hr => hr⟩ fun hUpdating => ?_
  have hBefore : ¬ Updating s := fun h => hUpdating (h.append hQueue)
  have hSettled := h.settled hBefore
  have hMarkers : s.markers = [] := by
    rcases hSettled.onMap with hNil | ⟨hZero, -⟩
    · exact hNil
    · exact absurd hZero hView
  refine ⟨hSettled, Or.inl hMarkers, fun _ _ hWanted => ?_⟩
  rcases hSource hBefore with hNil | hNewest
  · exact absurd hNil hWanted
  · exact ⟨shows s.selected, hQueue ▸ List.mem_append_right _ (List.mem_singleton.mpr rfl),
      (source_shows s.selected).trans hNewest.symm⟩

/-- The first location update starts a request without clearing anything. -/
theorem Consistent.located (h : Consistent s) (location : Coordinate)
    (hEmpty : ¬ Updating s → s.postCodes = [] ∧ s.crimes = []) :
    Consistent (s.located location) := by
  refine ⟨fun _ _ _ => rfl, fun _ => rfl, fun hUpdating => ?_⟩
  obtain ⟨hPostCodes, hCrimes⟩ := hEmpty hUpdating
  have hSettled := h.settled hUpdating
  have hMarkers : s.markers = [] :=
    hSettled.markers_eq_nil (h.wanted_eq_nil hSettled hPostCodes hCrimes)
  refine ⟨fun source => ?_, Or.inl hMarkers, fun _ _ hWanted => absurd rfl hWanted⟩
  have hShown : s.shown source = [] := by
    cases source <;> simp [shown, hPostCodes, hCrimes]
  exact hShown.trans (ite_self _).symm

-- ---------------------------------------------------------------------------
-- Responses
-- ---------------------------------------------------------------------------

/-- What a completion with records does to the data of the invariant. -/
structure Received (r : Request) (records : Records) (s s' : MapViewController) : Prop where
  shown : ∀ source, s'.shown source =
    if source = r.fetch.source then records.markers else s.shown source
  outstanding : s'.outstanding = s.outstanding.filter (· ≠ r)
  issued : s'.issued = s.issued
  answer : s'.answer = if s.issued.head? = some r then some records else s.answer
  markers : s'.markers = s.markers
  mainQueue : ∃ block : Block, s'.mainQueue = s.mainQueue ++ [block] ∧
    block.source = some r.fetch.source

theorem source_deploys (fetch : Fetch) : fetch.deploys.source = some fetch.source := by
  cases fetch with
  | getPropertyData lat long radius => rfl
  | getCrimeData lat long direct => cases direct <;> rfl

/-- A response is received in its source's array. -/
theorem received_answered {r : Request} {records : Records}
    (h : records.source = r.fetch.source) : Received r records s (s.answered r records) := by
  have hShown : ∀ source, (s.answered r records).shown source =
      if source = r.fetch.source then records.markers else s.shown source := by
    intro source
    rw [← h]
    cases records <;> cases source <;> rfl
  refine ⟨hShown, ?_, issued_answered r records, ?_, markers_answered r records, ?_⟩
  · cases records <;> rfl
  · cases records <;> rfl
  · exact ⟨r.fetch.deploys, mainQueue_answered r records, source_deploys r.fetch⟩

/-- A response to the newest request finds an empty map. -/
theorem Consistent.received (h : Consistent s) {r : Request} {records : Records}
    (hr : r ∈ s.outstanding) (hReceived : Received r records s s')
    (hNewest : ¬ Updating s → s.issued.head? = some r) : Consistent s' := by
  obtain ⟨block, hQueue, hBlock⟩ := hReceived.mainQueue
  refine ⟨?_, ?_, ?_⟩
  · intro x hx hHead
    rw [hReceived.outstanding] at hx
    rw [hReceived.issued] at hHead
    obtain ⟨hx, hNe⟩ := List.mem_filter.mp hx
    have hOther : s.issued.head? ≠ some r := by
      rw [hHead]
      simpa using hNe
    rw [hReceived.answer, if_neg hOther]
    exact h.fresh x hx hHead
  · intro hNil
    rw [hReceived.issued] at hNil
    rw [hReceived.answer, hNil, if_neg (by simp)]
    exact h.unasked hNil
  · intro hUpdating
    have hBefore : ¬ Updating s := fun h => hUpdating (h.append hQueue)
    have hHead := hNewest hBefore
    have hSettled := h.settled hBefore
    have hNil : s.wanted = [] := wanted_of_answer_none (h.fresh r hr hHead)
    have hSource : s.newestSource = some r.fetch.source := by
      rw [newestSource, hHead]
      rfl
    have hSource' : s'.newestSource = some r.fetch.source := by
      rw [newestSource, hReceived.issued, hHead]
      rfl
    have hWanted : s'.wanted = records.markers := by
      rw [wanted, hReceived.answer, if_pos hHead]
    refine ⟨?_, ?_, ?_⟩
    · intro source
      rw [hReceived.shown, hSource', hWanted]
      by_cases hEq : source = r.fetch.source
      · rw [if_pos hEq, if_pos (congrArg some hEq.symm)]
      · have hNe : some r.fetch.source ≠ some source := fun h => hEq (Option.some.inj h).symm
        rw [if_neg hEq, if_neg hNe, hSettled.arrays, hSource, if_neg hNe]
    · exact Or.inl (hReceived.markers.trans (hSettled.markers_eq_nil hNil))
    · intro _ _ _
      exact ⟨block, hQueue ▸ List.mem_append_right _ (List.mem_singleton.mpr rfl),
        hBlock.trans hSource'.symm⟩

/-- A request that ends without a response changes none of the data. -/
theorem Consistent.ended (h : Consistent s) (hSame : SameRecords s s')
    (hMarkers : s'.markers = s.markers) (hView : s'.toggleViewControl = s.toggleViewControl)
    (hQueue : s'.mainQueue = s.mainQueue) : Consistent s' := by
  refine h.same hSame fun hUpdating => ?_
  rw [updating_congr hQueue] at hUpdating
  have hSettled := h.settled hUpdating
  rw [hMarkers, hView, hQueue]
  exact ⟨hSettled, hSettled.onMap, hSettled.pending⟩

-- ---------------------------------------------------------------------------
-- Main-queue blocks
-- ---------------------------------------------------------------------------

/-- The block of `emptyArrays` settles everything. -/
theorem consistent_emptyArrays (completion : Fetch) : Consistent (s.emptyArrays completion) := by
  refine ⟨fun _ _ _ => rfl, fun _ => rfl, fun _ => ⟨fun source => ?_, Or.inl rfl, ?_⟩⟩
  · have hShown : (s.emptyArrays completion).shown source = [] := by
      cases source <;> rfl
    exact hShown.trans (ite_self _).symm
  · intro _ _ hWanted
    exact absurd rfl hWanted

def Block.dispatches : Block → List Block
  | .deployMarkerAndHeatmapForProperty => [.drawPostCodes]
  | .deployMarkerAndHeatmapForCrime => [.drawCrimes]
  | _ => []

/-- What a block other than `emptyArrays` does to the data of the invariant. -/
structure Drawn (block : Block) (s s' : MapViewController) : Prop where
  same : SameRecords s s'
  view : s'.toggleViewControl = s.toggleViewControl
  markers : s'.markers = s.markers ++ block.draws s
  mainQueue : s'.mainQueue = s.mainQueue ++ block.dispatches

/-- A block that draws adds its markers. -/
theorem drawn_run {block : Block} (h : block.source ≠ none) : Drawn block s (run block s) := by
  cases block with
  | emptyArrays completion => exact absurd rfl h
  | _ =>
    refine ⟨⟨rfl, rfl, rfl, rfl, fun _ hr => hr⟩, rfl, ?_, ?_⟩ <;>
      simp [run, async, drawPostCodes, drawCrimes, Block.draws, Block.dispatches, shown]

/-- A block draws the array of its source, or dispatches a block that does. -/
theorem Block.draws_or_dispatches {block : Block} {source : Source}
    (h : block.source = some source) :
    (block.draws s = s.shown source ∧ block.dispatches = []) ∨
      (block.draws s = [] ∧ ∃ drawing : Block, block.dispatches = [drawing] ∧
        drawing.source = some source) := by
  cases block <;> simp_all [Block.source, Block.draws, Block.dispatches]

/-- A block that draws something draws the wanted markers on an empty map. -/
theorem Consistent.drawn (h : Consistent s) {block : Block} {rest : List Block} {source : Source}
    (hQueue : s.mainQueue = block :: rest) (hSource : block.source = some source)
    (hDrawn : Drawn block { s with mainQueue := rest } s')
    (hEmpty : ¬ Updating s → block.draws s ≠ [] → s.toggleViewControl = 0 ∧ s.markers = []) :
    Consistent s' := by
  have hSame : SameRecords s s' :=
    ⟨hDrawn.same.postCodes, hDrawn.same.crimes, hDrawn.same.issued, hDrawn.same.answer,
      hDrawn.same.outstanding⟩
  have hMarkers : s'.markers = s.markers ++ block.draws s := by
    rw [hDrawn.markers]
    cases block <;> rfl
  have hRest : ∀ b ∈ rest, b ∈ s'.mainQueue := by
    intro b hb
    rw [hDrawn.mainQueue]
    exact List.mem_append_left _ hb
  refine h.same hSame fun hUpdating => ?_
  have hSome : block.source ≠ none := by
    rw [hSource]
    exact Option.some_ne_none source
  have hBefore : ¬ Updating s := fun h => hUpdating (h.ran hQueue hSome hRest)
  have hSettled := h.settled hBefore
  refine ⟨hSettled, ?_⟩
  by_cases hDraws : block.draws s = []
  · -- nothing is drawn, and what was pending still is
    rw [hMarkers, hDraws, List.append_nil, hDrawn.view]
    refine ⟨hSettled.onMap, fun hView hNil hWanted => ?_⟩
    obtain ⟨b, hb, hNewest⟩ := hSettled.pending hView hNil hWanted
    rw [hQueue] at hb
    rcases List.mem_cons.mp hb with rfl | hb
    · rcases Block.draws_or_dispatches (s := s) hSource with ⟨hShown, -⟩ | ⟨-, drawing, hOut, hNext⟩
      · have hArray := hSettled.arrays source
        rw [if_pos (hNewest.symm.trans hSource), ← hShown, hDraws] at hArray
        exact absurd hArray.symm hWanted
      · refine ⟨drawing, ?_, hNext.trans (hSource.symm.trans hNewest)⟩
        rw [hDrawn.mainQueue, hOut]
        exact List.mem_append_right _ (List.mem_singleton.mpr rfl)
    · exact ⟨b, hRest b hb, hNewest⟩
  · obtain ⟨hView, hNil⟩ := hEmpty hBefore hDraws
    have hShown : block.draws s = s.shown source := by
      rcases Block.draws_or_dispatches (s := s) hSource with ⟨hShown, -⟩ | ⟨hNone, -⟩
      · exact hShown
      · exact absurd hNone hDraws
    have hWanted : block.draws s = s.wanted := by
      rw [hShown] at hDraws ⊢
      rw [hSettled.arrays source] at hDraws ⊢
      split at hDraws
      · next hNewest => rw [if_pos hNewest]
      · exact absurd rfl hDraws
    rw [hMarkers, hNil, List.nil_append, hDrawn.view]
    refine ⟨Or.inr ⟨hView, hWanted⟩, fun _ hNone _ => absurd hNone hDraws⟩

/-- A block keeps the map right if it draws on an empty one. -/
theorem Consistent.run (h : Consistent s) {block : Block} {rest : List Block}
    (hQueue : s.mainQueue = block :: rest)
    (hEmpty : ¬ Updating s → block.draws s ≠ [] → s.toggleViewControl = 0 ∧ s.markers = []) :
    Consistent (run block { s with mainQueue := rest }) := by
  cases hSource : block.source with
  | none =>
    cases block with
    | emptyArrays completion => exact consistent_emptyArrays completion
    | _ => cases hSource
  | some source =>
    have hDrawn : Drawn block { s with mainQueue := rest } _ := drawn_run (by rw [hSource]; simp)
    exact h.drawn hQueue hSource hDrawn hEmpty

-- ---------------------------------------------------------------------------
-- Runs
-- ---------------------------------------------------------------------------

/-- At first there is nothing to be right. -/
theorem consistent_viewDidLoad (mapView : GMSMapView) : Consistent (viewDidLoad mapView) :=
  ⟨fun _ _ _ => rfl, fun _ => rfl, fun _ =>
    ⟨fun source => by cases source <;> rfl, Or.inl rfl, fun _ _ hWanted => absurd rfl hWanted⟩⟩

/-- **An undisturbed step keeps the invariant.** -/
theorem consistent_step (s : MapViewController) (e : Event) (s' : MapViewController)
    (h : Consistent s) (hStep : s.step e = some s') (hUndisturbed : Undisturbed ⟨s, e, s'⟩) :
    Consistent s' := by
  have hOutstanding : ∀ r, s.outstanding.filter (· ≠ r) ⊆ s.outstanding :=
    fun _ => List.filter_subset_self ..
  cases step_stepped hStep with
  | refreshTapped view => exact h.restarted ..
  | toProperty view hMoved => exact h.restarted ..
  | toCrime view hMoved => exact h.restarted ..
  | didPick place => exact h.restarted ..
  | toMarkers hMoved => exact h.markersShown hMoved fun hUpdating => hUndisturbed hUpdating rfl
  | toHeatmap hMoved => exact h.heatmapShown
  | located location hFirst =>
    exact h.located location fun hUpdating => hUndisturbed hUpdating hFirst
  | relocated location hSent => exact h
  | answered r reply records hr hReceived hSource =>
    refine h.received hr (received_answered hSource) fun hUpdating => hUndisturbed hUpdating ?_
    rw [hReceived]
    rfl
  | failed r reply hr hReceived hError =>
    exact h.ended ⟨rfl, rfl, rfl, rfl, hOutstanding r⟩ rfl rfl rfl
  | unanswered r reply hr hReceived hSilent =>
    exact h.ended ⟨rfl, rfl, rfl, rfl, hOutstanding r⟩ rfl rfl rfl
  | ran block rest hQueue =>
    refine h.run hQueue fun hUpdating hDraws => hUndisturbed hUpdating block ?_ hDraws
    show block ∈ s.mainQueue.head?
    rw [hQueue]
    rfl

/-- With nothing outstanding or waiting the map is right. -/
theorem Consistent.markersRight (h : Consistent s) : MarkersRight s := by
  rintro ⟨-, hQueue⟩
  have hSettled : Settled s := h.settled (not_updating_of_nil hQueue)
  refine ⟨?_, ?_⟩
  · intro hView
    rcases hSettled.onMap with hNil | ⟨-, hMarkers⟩
    · by_cases hWanted : s.wanted = []
      · rw [hNil, hWanted]
      · obtain ⟨block, hBlock, -⟩ := hSettled.pending hView hNil hWanted
        rw [hQueue] at hBlock
        cases hBlock
    · rw [hMarkers]
  · intro hView
    rcases hSettled.onMap with hNil | ⟨hZero, -⟩
    · exact hNil
    · rw [hView] at hZero
      cases hZero

/-- **The map shows the newest response, if nothing disturbs it.** In a run
whose moves are all undisturbed, every quiescent state has one marker for each
record of the newest request's response on the map, or none on the heatmap. -/
theorem markers_right (mapView : GMSMapView) (events : List Event)
    (hUndisturbed : ∀ t ∈ moves mapView events, Undisturbed t) :
    ∀ s ∈ visited mapView events, MarkersRight s := by
  intro s hs
  exact (Lib.forall_states consistent_step (consistent_viewDidLoad mapView) hUndisturbed s
    hs).markersRight

-- ---------------------------------------------------------------------------
-- A late response
-- ---------------------------------------------------------------------------

instance : DecidablePred Quiescent := fun _ => inferInstanceAs (Decidable (_ ∧ _))

instance : DecidablePred MarkersRight := fun _ =>
  inferInstanceAs (Decidable (_ → (_ → List.Perm _ _) ∧ (_ → _)))

instance : DecidablePred Updating := fun _ => inferInstanceAs (Decidable (∃ _ ∈ _, _))

instance (s : MapViewController) : DecidablePred (UndisturbedBy s)
  | .completed _ _ => inferInstanceAs (Decidable (_ → _))
  | .runMain => inferInstanceAs (Decidable (∀ _ ∈ _, _))
  | .toggleViewTapped _ => inferInstanceAs (Decidable (_ → _ ∨ _))
  | .didUpdateLocations _ => inferInstanceAs (Decidable (_ → _ ∧ _))
  | .refreshTapped _ | .toggleDataTapped .. | .didPick _ => inferInstanceAs (Decidable True)

instance : DecidablePred Undisturbed := fun t =>
  inferInstanceAs (Decidable (¬ Updating t.pre → UndisturbedBy t.pre t.event))

/-- The map view 200 m around a point. -/
def viewAt (latitude : ℚ) : Viewport := ⟨⟨latitude, 0⟩, 0.2⟩

def replyWith (elements : List Json) : Reply := ⟨some (some (.arr elements)), true, false⟩

def postCodeAt (postcode : String) : Json :=
  .obj [("postcode", .str postcode), ("price", .str "285000"), ("latitude", .str "50.8"),
    ("longitude", .str "-0.1")]

def crimeAt : Json :=
  .obj [("location", .obj [("latitude", .str "50.8"), ("longitude", .str "-0.1")])]

/-- The request of the `id`-th refresh, at that latitude. -/
def refreshRequest (id : ℕ) : Request := ⟨id, .getPropertyData id 0 0.2⟩

/-- The user refreshes twice; the second response arrives first. -/
def lateResponse : List Event :=
  [.refreshTapped (viewAt 0), .runMain, .refreshTapped (viewAt 1), .runMain,
    .completed (refreshRequest 1) (replyWith [postCodeAt "BN2 1EL"]), .runMain, .runMain,
    .completed (refreshRequest 0) (replyWith [postCodeAt "BN1 7JJ"]), .runMain, .runMain]

/-- Two refreshes, and both their responses. -/
theorem markers_right_fails :
    ¬ ∀ (mapView : GMSMapView) (events : List Event), ∀ s ∈ visited mapView events,
      MarkersRight s := by
  intro h
  exact absurd (h ⟨true⟩ lateResponse) (by decide +kernel)

/-- The first location is shown, as a heatmap and as markers again, then the
user looks at the crimes. -/
def firstVisit : List Event :=
  [.didUpdateLocations ⟨0, 0⟩,
    .completed ⟨0, .getPropertyData 0 0 0.1⟩ (replyWith [postCodeAt "BN1 7JJ"]),
    .runMain, .runMain, .toggleViewTapped 1, .toggleViewTapped 0, .runMain,
    .toggleDataTapped 1 (viewAt 0), .runMain,
    .completed ⟨1, .getCrimeData 0 0 true⟩ (replyWith [crimeAt]), .runMain]

theorem markers_right_firstVisit :
    (moves ⟨true⟩ firstVisit).length = 11 ∧ ∀ s ∈ visited ⟨true⟩ firstVisit, MarkersRight s :=
  ⟨by decide +kernel, markers_right ⟨true⟩ firstVisit (by decide +kernel)⟩

end PriceMap.IOS
