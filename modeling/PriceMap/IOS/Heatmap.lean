import PriceMap.IOS.Markers

/-!
# iOS — the points of the heatmap

The two point lists are appended to by the blocks that draw the record arrays,
while a response replaces an array at once. What a list will hold when all
waiting blocks have run (`finalList`) is what it holds, and the points of the
array as often as a block waits that appends them. Drawing blocks keep it; a
response keeps it right only if nothing has been appended and nothing waits.

The heat layer takes the property points with each drawing of postcodes, and
otherwise keeps the list it was made with (`finalLayer`).

* `charted_iff`   — what the lists and the layer will hold is right in every state
  without a waiting `emptyArrays` block if and only if every move meets
  `KeepsPlot`.
* `heatmap_right` — so when nothing is outstanding and nothing waits, the lists
  are the points of the arrays and the heat layer shows the newest request's
  source.
-/

namespace PriceMap.IOS

open MapViewController

-- ---------------------------------------------------------------------------
-- What is plotted and what should be
-- ---------------------------------------------------------------------------

/-- The points of the records with coordinates, and with a price in the case of
postcodes. -/
def Records.points : Records → List GMUWeightedLatLng
  | .property postCodes => postCodes.filterMap weightedPostCode
  | .crime crimes => crimes.filterMap weightedCrime

def MapViewController.points (s : MapViewController) : Source → List GMUWeightedLatLng
  | .property => s.postCodes.filterMap weightedPostCode
  | .crime => s.crimes.filterMap weightedCrime

/-- In a quiescent state the lists hold the points of the records, and the
heatmap shows the list of the newest request's source. -/
def HeatmapRight (s : MapViewController) : Prop :=
  Quiescent s → (∀ source, s.listOf source = s.points source) ∧
    (s.toggleViewControl = 1 → s.heatmapLayer.map = true ∧
      ∀ source ∈ s.newestSource, s.heatmapLayer.weightedData = s.listOf source)

/-- The list that a block appends to, now or by the block it dispatches. -/
def Block.appends : Block → Option Source
  | .deployMarkerAndHeatmapForProperty | .drawPostCodes => some .property
  | .deployMarkerAndHeatmapForCrime | .drawCrimes => some .crime
  | .emptyArrays _ | .showPostCodes | .showCrimes => none

def MapViewController.waiting (s : MapViewController) (source : Source) : ℕ :=
  s.mainQueue.countP fun block => block.appends = some source

/-- What a list holds once all waiting blocks have run. -/
def MapViewController.finalList (s : MapViewController) (source : Source) :
    List GMUWeightedLatLng :=
  s.listOf source ++ (List.replicate (s.waiting source) (s.points source)).flatten

/-- What the heat layer shows then. -/
def MapViewController.finalLayer (s : MapViewController) : List GMUWeightedLatLng :=
  if s.waiting .property = 0 then s.heatmapLayer.weightedData else s.finalList .property

/-- When the lists are emptied, a selected heatmap stays on the map and has
nothing on it, or is going to be drawn anew. -/
def MapViewController.StaysEmpty (s : MapViewController) : Prop :=
  s.toggleViewControl = 1 → s.clear.heatmapLayer.map = true ∧
    (s.waiting .property = 0 → s.heatmapLayer.weightedData = [])

-- ---------------------------------------------------------------------------
-- The moves that keep the heatmap right
-- ---------------------------------------------------------------------------

/-- What may happen while no `emptyArrays` block waits:

* a response finds the list of its source empty and, if it has points, no block
  waiting that appends to it; under the heatmap, the layer still comes to show
  the newest request's source;
* the view control is moved to the heatmap while the list that `isCrime` names,
  or the property points if they are about to be drawn, are the points of the
  newest request's source;
* the first location update comes on the markers, or while the layer is about to
  show the property points.

And the last `emptyArrays` block to wait finds the view control on markers, or a
layer that stays on the map and comes to show nothing. -/
def KeepsPlotBy (s : MapViewController) : Event → Prop
  | .completed r reply => ¬ Updating s → ∀ records ∈ received r reply,
      s.listOf r.fetch.source = [] ∧ (records.points = [] ∨ s.waiting r.fetch.source = 0) ∧
        (s.toggleViewControl = 1 → ∀ source ∈ s.newestSource,
          (if r.fetch.source = .property then records.points else s.finalLayer) =
            if source = r.fetch.source then records.points else s.points source)
  | .toggleViewTapped index => ¬ Updating s → index = 1 → ∀ source ∈ s.newestSource,
      (if s.waiting .property = 0 then s.listOf s.selected else s.points .property) =
        s.points source
  | .didUpdateLocations _ => ¬ Updating s → s.isDataRequestSent = false →
      s.toggleViewControl = 1 → s.finalLayer = s.points .property
  | .runMain => ∀ block ∈ s.mainQueue.head?, block.source = none →
      (∀ later ∈ s.mainQueue.tail, later.source ≠ none) → s.StaysEmpty
  | .refreshTapped _ | .toggleDataTapped .. | .didPick _ => True

def KeepsPlot (t : Move) : Prop := KeepsPlotBy t.pre t.event

-- ---------------------------------------------------------------------------
-- The invariant
-- ---------------------------------------------------------------------------

/-- What holds while no `emptyArrays` block waits. -/
structure Plotted (s : MapViewController) : Prop where
  lists : ∀ source, s.finalList source = s.points source
  attached : s.toggleViewControl = 1 → s.heatmapLayer.map = true
  layer : s.toggleViewControl = 1 → ∀ source ∈ s.newestSource, s.finalLayer = s.points source

variable {s s' : MapViewController} {e : Event}

/-- With no block waiting the list is what it is going to be. -/
theorem finalList_of_waiting_eq_zero {source : Source} (h : s.waiting source = 0) :
    s.finalList source = s.listOf source := by
  simp [finalList, h]

/-- What is appended to the queue waits, too. -/
theorem waiting_append {blocks : List Block} (hQueue : s'.mainQueue = s.mainQueue ++ blocks)
    (source : Source) :
    s'.waiting source = s.waiting source +
      blocks.countP fun block => block.appends = some source := by
  rw [waiting, hQueue, List.countP_append, waiting]

/-- Nothing that decides what is plotted in the end has changed. -/
structure SamePlot (s s' : MapViewController) : Prop where
  points : ∀ source, s'.points source = s.points source
  finalList : ∀ source, s'.finalList source = s.finalList source
  finalLayer : s'.finalLayer = s.finalLayer
  view : s'.toggleViewControl = s.toggleViewControl
  map : s'.heatmapLayer.map = s.heatmapLayer.map
  newestSource : s'.newestSource = s.newestSource

/-- What leaves lists, layer and queue alone keeps them right. -/
theorem Plotted.of_same (h : Plotted s) (hSame : SamePlot s s') : Plotted s' := by
  refine ⟨fun source => ?_, fun hView => ?_, fun hView source hNewest => ?_⟩
  · rw [hSame.finalList, hSame.points]
    exact h.lists source
  · rw [hSame.view] at hView
    rw [hSame.map]
    exact h.attached hView
  · rw [hSame.view] at hView
    rw [hSame.newestSource] at hNewest
    rw [hSame.finalLayer, hSame.points]
    exact h.layer hView source hNewest

-- ---------------------------------------------------------------------------
-- Actions
-- ---------------------------------------------------------------------------

theorem appends_shows (source : Source) : (shows source).appends = none := by
  cases source <;> rfl

/-- Showing markers keeps the lists right. -/
theorem Plotted.markersShown (h : Plotted s) : Plotted s.markersShown := by
  have hWaiting : ∀ source, s.markersShown.waiting source = s.waiting source := by
    intro source
    have hQueue : s.markersShown.mainQueue = s.mainQueue ++ [shows s.selected] := rfl
    rw [waiting_append hQueue]
    simp [appends_shows]
  refine ⟨fun source => ?_, fun hView => (by cases hView), fun hView => (by cases hView)⟩
  have hList := h.lists source
  rw [finalList] at hList ⊢
  rw [hWaiting]
  cases source <;> exact hList

/-- Showing the heatmap keeps it right exactly if its list is. -/
theorem plotted_heatmapShown_iff (h : Plotted s) :
    Plotted s.heatmapShown ↔ ∀ source ∈ s.newestSource,
      (if s.waiting .property = 0 then s.listOf s.selected else s.points .property) =
        s.points source := by
  have hLists : ∀ source, s.heatmapShown.finalList source = s.finalList source := by
    intro source
    cases source <;> rfl
  have hPoints : ∀ source, s.heatmapShown.points source = s.points source := by
    intro source
    cases source <;> rfl
  have hLayer : s.heatmapShown.finalLayer =
      if s.waiting .property = 0 then s.listOf s.selected else s.points .property := by
    rw [← h.lists]
    rfl
  refine ⟨fun hShown source hSource => ?_, fun hNewest => ⟨fun source => ?_, fun _ => rfl, ?_⟩⟩
  · rw [← hLayer, ← hPoints]
    exact hShown.layer rfl source hSource
  · rw [hLists, hPoints]
    exact h.lists source
  · intro _ source hSource
    rw [hLayer, hPoints]
    exact hNewest source hSource

/-- The first location plots the properties. -/
theorem plotted_located_iff (h : Plotted s) (location : Coordinate) :
    Plotted (s.located location) ↔
      (s.toggleViewControl = 1 → s.finalLayer = s.points .property) := by
  refine ⟨fun hLocated hView => hLocated.layer hView .property rfl, fun hLayer => ?_⟩
  refine ⟨fun source => ?_, h.attached, fun hView source hSource => ?_⟩
  · have hList := h.lists source
    cases source <;> exact hList
  · obtain rfl : .property = source := Option.some.inj hSource
    exact hLayer hView

-- ---------------------------------------------------------------------------
-- Responses
-- ---------------------------------------------------------------------------

/-- A response appends the points of its source. -/
theorem appends_deploys (fetch : Fetch) : fetch.deploys.appends = some fetch.source := by
  cases fetch with
  | getPropertyData lat long radius => rfl
  | getCrimeData lat long direct => cases direct <;> rfl

/-- A response queues one block for its source. -/
theorem waiting_answered (r : Request) (records : Records) (source : Source) :
    (s.answered r records).waiting source =
      s.waiting source + if source = r.fetch.source then 1 else 0 := by
  rw [waiting_append (mainQueue_answered r records), List.countP_singleton, appends_deploys]
  simp [eq_comm]

/-- Points that are appended once more than there are blocks waiting come out
once only if nothing was there. -/
theorem append_copies_eq_iff {α : Type} (list points : List α) (n : ℕ) :
    list ++ (List.replicate (n + 1) points).flatten = points ↔
      list = [] ∧ (points = [] ∨ n = 0) := by
  rw [List.replicate_succ, List.flatten_cons]
  refine ⟨fun h => ?_, ?_⟩
  · have hLength := congrArg List.length h
    simp only [List.length_append] at hLength
    refine ⟨List.eq_nil_of_length_eq_zero (by omega), ?_⟩
    have hRest : (List.replicate n points).flatten = [] :=
      List.eq_nil_of_length_eq_zero (by omega)
    cases n with
    | zero => exact Or.inr rfl
    | succ n =>
      rw [List.replicate_succ, List.flatten_cons] at hRest
      exact Or.inl (List.append_eq_nil_iff.mp hRest).1
  · rintro ⟨rfl, rfl | rfl⟩ <;> simp

/-- **A response is plotted once**, if its list is empty and nothing waits to be
appended to it. -/
theorem plotted_answered_iff (h : Plotted s) {r : Request} {records : Records}
    (hSource : records.source = r.fetch.source) :
    Plotted (s.answered r records) ↔
      s.listOf r.fetch.source = [] ∧ (records.points = [] ∨ s.waiting r.fetch.source = 0) ∧
        (s.toggleViewControl = 1 → ∀ source ∈ s.newestSource,
          (if r.fetch.source = .property then records.points else s.finalLayer) =
            if source = r.fetch.source then records.points else s.points source) := by
  have hPoints : ∀ source, (s.answered r records).points source =
      if source = r.fetch.source then records.points else s.points source := by
    intro source
    rw [← hSource]
    cases records <;> cases source <;> rfl
  have hFinal : ∀ source, (s.answered r records).finalList source =
      if source = r.fetch.source then
        s.listOf source ++ (List.replicate (s.waiting source + 1) records.points).flatten
      else s.finalList source := by
    intro source
    rw [finalList, listOf_answered, waiting_answered, hPoints]
    split <;> rfl
  have hView : (s.answered r records).toggleViewControl = s.toggleViewControl :=
    (sameControls_answered r records).toggleViewControl
  have hNewest : (s.answered r records).newestSource = s.newestSource := by
    rw [newestSource, issued_answered, newestSource]
  have hLists : (∀ source, (s.answered r records).finalList source =
        (s.answered r records).points source) ↔
      s.listOf r.fetch.source = [] ∧ (records.points = [] ∨ s.waiting r.fetch.source = 0) := by
    rw [← append_copies_eq_iff]
    refine ⟨fun hAll => ?_, fun hOnce source => ?_⟩
    · have hNow := hAll r.fetch.source
      rwa [hFinal, hPoints, if_pos rfl, if_pos rfl] at hNow
    · rw [hFinal, hPoints]
      split
      · next hEq =>
        rw [hEq]
        exact hOnce
      · exact h.lists source
  have hFinalLayer (hOnce : ∀ source, (s.answered r records).finalList source =
      (s.answered r records).points source) : (s.answered r records).finalLayer =
        if r.fetch.source = .property then records.points else s.finalLayer := by
    rw [finalLayer, waiting_answered, hOnce, hPoints, heatmapLayer_answered]
    by_cases hProperty : r.fetch.source = .property
    · simp [hProperty]
    · simp [hProperty, Ne.symm hProperty, finalLayer, h.lists]
  rw [← and_assoc, ← hLists]
  refine ⟨fun hAnswered => ⟨hAnswered.lists, fun hOne source hMem => ?_⟩, ?_⟩
  · rw [← hFinalLayer hAnswered.lists, ← hPoints]
    exact hAnswered.layer (hView.trans hOne) source (hNewest ▸ hMem)
  · rintro ⟨hOnce, hLayer⟩
    refine ⟨hOnce, fun hOne => ?_, fun hOne source hMem => ?_⟩
    · rw [heatmapLayer_answered]
      exact h.attached (hView ▸ hOne)
    · rw [hFinalLayer hOnce, hPoints]
      exact hLayer (hView ▸ hOne) source (hNewest ▸ hMem)

-- ---------------------------------------------------------------------------
-- Main-queue blocks
-- ---------------------------------------------------------------------------

/-- The block of `emptyArrays` empties the lists with the arrays. A heat layer
that it leaves on the map still has its points. -/
theorem plotted_emptyArrays_iff (completion : Fetch) :
    Plotted (s.emptyArrays completion) ↔ s.StaysEmpty := by
  have hPoints : ∀ source, (s.emptyArrays completion).points source = [] := by
    intro source
    cases source <;> rfl
  have hLists : ∀ source, (s.emptyArrays completion).finalList source = [] := by
    intro source
    rw [finalList, hPoints]
    cases source <;> simp [listOf, emptyArrays, resume, clear]
  have hLayer : (s.emptyArrays completion).finalLayer =
      if s.waiting .property = 0 then s.heatmapLayer.weightedData else [] := by
    rw [finalLayer, hLists]
    rfl
  refine ⟨fun h hOne => ⟨h.attached hOne, fun hZero => ?_⟩, fun h => ⟨fun source => ?_, ?_, ?_⟩⟩
  · have hShown := h.layer hOne completion.source rfl
    rwa [hLayer, hPoints, if_pos hZero] at hShown
  · rw [hLists, hPoints]
  · exact fun hOne => (h hOne).1
  · intro hOne source _
    rw [hLayer, hPoints]
    split
    · next hZero => exact (h hOne).2 hZero
    · rfl

/-- The list whose points a block appends when it runs. -/
def Block.plots : Block → Option Source
  | .drawPostCodes => some .property
  | .drawCrimes => some .crime
  | _ => none

/-- What a block other than `emptyArrays` does to the data of the invariant. -/
structure Plots (block : Block) (s s' : MapViewController) : Prop where
  points : ∀ source, s'.points source = s.points source
  listOf : ∀ source, s'.listOf source =
    s.listOf source ++ if block.plots = some source then s.points source else []
  /-- a block that plots waits no longer, one that dispatches still does -/
  waiting : ∀ source, s.waiting source =
    s'.waiting source + if block.plots = some source then 1 else 0
  weightedData : s'.heatmapLayer.weightedData =
    if block.plots = some .property then s'.list else s.heatmapLayer.weightedData
  view : s'.toggleViewControl = s.toggleViewControl
  map : s'.heatmapLayer.map = s.heatmapLayer.map
  newestSource : s'.newestSource = s.newestSource

/-- A block that draws appends what was waiting. -/
theorem plots_run {block : Block} {rest : List Block} (hQueue : s.mainQueue = block :: rest)
    (hSource : block.source ≠ none) : Plots block s (run block { s with mainQueue := rest }) := by
  cases block with
  | emptyArrays completion => exact absurd rfl hSource
  | _ =>
    refine ⟨fun source => ?_, fun source => ?_, fun source => ?_, ?_, rfl, rfl, rfl⟩
    · cases source <;> rfl
    · cases source <;> simp [run, async, drawPostCodes, drawCrimes, listOf, points, Block.plots]
    · simp [run, async, drawPostCodes, drawCrimes, MapViewController.waiting, hQueue,
        List.countP_cons, Block.appends, Block.plots]
    · simp [run, async, drawPostCodes, drawCrimes, Block.plots]

/-- **Drawing blocks plot what was waiting to be plotted.** -/
theorem Plots.samePlot {block : Block} (h : Plots block s s') : SamePlot s s' := by
  have hFinal : ∀ source, s'.finalList source = s.finalList source := by
    intro source
    rw [finalList, finalList, h.listOf, h.points, h.waiting]
    by_cases hPlots : block.plots = some source
    · simp only [if_pos hPlots]
      rw [Nat.add_comm, List.append_assoc, Nat.one_add, List.replicate_succ, List.flatten_cons]
    · simp only [if_neg hPlots, List.append_nil, Nat.add_zero]
  refine ⟨h.points, hFinal, ?_, h.view, h.map, h.newestSource⟩
  rw [finalLayer, finalLayer, h.weightedData, hFinal, h.waiting]
  by_cases hPlots : block.plots = some .property
  · simp only [if_pos hPlots, Nat.add_eq_zero_iff, Nat.one_ne_zero, and_false, if_false]
    split
    · next hZero =>
      have hLast : s'.list = s'.finalList .property := (finalList_of_waiting_eq_zero hZero).symm
      rw [hLast, hFinal]
    · rfl
  · simp only [if_neg hPlots, Nat.add_zero]

-- ---------------------------------------------------------------------------
-- Runs
-- ---------------------------------------------------------------------------

def Charted (s : MapViewController) : Prop := ¬ Updating s → Plotted s

/-- At first there is nothing to plot. -/
theorem plotted_viewDidLoad (mapView : GMSMapView) : Plotted (viewDidLoad mapView) := by
  refine ⟨fun source => ?_, nofun, nofun⟩
  cases source <;> rfl

/-- A request that ends without a response changes no list. -/
theorem Charted.ended (h : Charted s) (hSame : SamePlot s s')
    (hQueue : s'.mainQueue = s.mainQueue) : Charted s' := by
  intro hUpdating
  rw [updating_congr hQueue] at hUpdating
  exact (h hUpdating).of_same hSame

/-- A block keeps the invariant, unless it is the last `emptyArrays` block and finds
the heatmap with something on it. -/
theorem charted_run (h : Charted s) {block : Block} {rest : List Block}
    (hQueue : s.mainQueue = block :: rest) :
    Charted (run block { s with mainQueue := rest }) ↔
      (block.source = none → (∀ later ∈ rest, later.source ≠ none) → s.StaysEmpty) := by
  by_cases hSource : block.source = none
  · cases block with
    | emptyArrays completion =>
      have hLast : ¬ Updating (emptyArrays completion { s with mainQueue := rest }) ↔
          ∀ later ∈ rest, later.source ≠ none := by
        simp [Updating, emptyArrays, resume, clear]
      have hWaiting : ({ s with mainQueue := rest } : MapViewController).waiting .property =
          s.waiting .property := by
        simp [MapViewController.waiting, hQueue, Block.appends]
      have hPlotted := plotted_emptyArrays_iff (s := { s with mainQueue := rest }) completion
      rw [StaysEmpty, hWaiting] at hPlotted
      refine ⟨fun hCharted _ hLater => hPlotted.mp (hCharted (hLast.mpr hLater)), ?_⟩
      intro hView hUpdating
      exact hPlotted.mpr (hView rfl (hLast.mp hUpdating))
    | _ => cases hSource
  · refine iff_of_true (fun hUpdating => ?_) fun hNone => absurd hNone hSource
    have hDrawn := drawn_run (s := { s with mainQueue := rest }) hSource
    have hRest : ∀ later ∈ rest, later ∈ (run block { s with mainQueue := rest }).mainQueue := by
      intro later hLater
      rw [hDrawn.mainQueue]
      exact List.mem_append_left _ hLater
    have hBefore : ¬ Updating s := fun h => hUpdating (h.ran hQueue hSource hRest)
    exact (h hBefore).of_same (plots_run hQueue hSource).samePlot

/-- A response empties nothing. -/
theorem updating_answered {r : Request} {records : Records} :
    Updating (s.answered r records) ↔ Updating s := by
  simp [Updating, mainQueue_answered, source_deploys]

/-- **A step keeps the invariant if and only if it meets the condition.** -/
theorem charted_step (h : Charted s) (hStep : s.step e = some s') :
    Charted s' ↔ KeepsPlot ⟨s, e, s'⟩ := by
  cases step_stepped hStep with
  | refreshTapped view => exact iff_of_true (absurd (updating_async _)) trivial
  | toProperty view hMoved => exact iff_of_true (absurd (updating_async _)) trivial
  | toCrime view hMoved => exact iff_of_true (absurd (updating_async _)) trivial
  | didPick place => exact iff_of_true (absurd (updating_async _)) trivial
  | toMarkers hMoved =>
    refine iff_of_true (fun hUpdating => ?_) fun _ hOne => by cases hOne
    have hBefore : ¬ Updating s := fun h => hUpdating (h.append rfl)
    exact (h hBefore).markersShown
  | toHeatmap hMoved =>
    refine ⟨fun hCharted hUpdating _ => ?_, fun hKeeps hUpdating => ?_⟩
    · exact (plotted_heatmapShown_iff (h hUpdating)).mp (hCharted hUpdating)
    · exact (plotted_heatmapShown_iff (h hUpdating)).mpr (hKeeps hUpdating rfl)
  | located location hFirst =>
    refine ⟨fun hCharted hUpdating _ => ?_, fun hKeeps hUpdating => ?_⟩
    · exact (plotted_located_iff (h hUpdating) location).mp (hCharted hUpdating)
    · exact (plotted_located_iff (h hUpdating) location).mpr (hKeeps hUpdating hFirst)
  | relocated location hSent =>
    refine iff_of_true h fun _ hFirst => ?_
    rw [hSent] at hFirst
    cases hFirst
  | answered r reply records hr hReceived hSource =>
    refine ⟨fun hCharted hUpdating records' hRecords => ?_, fun hKeeps hUpdating => ?_⟩
    · obtain rfl : records = records' := Option.some.inj (hReceived.symm.trans hRecords)
      have hAnswered := hCharted (mt updating_answered.mp hUpdating)
      exact (plotted_answered_iff (h hUpdating) hSource).mp hAnswered
    · rw [updating_answered] at hUpdating
      exact (plotted_answered_iff (h hUpdating) hSource).mpr (hKeeps hUpdating records hReceived)
  | failed r reply hr hReceived hError =>
    refine iff_of_true (h.ended ⟨fun source => ?_, fun source => ?_, rfl, rfl, rfl, rfl⟩ rfl) ?_
    · cases source <;> rfl
    · cases source <;> rfl
    · intro _ records hRecords
      rw [hReceived] at hRecords
      cases hRecords
  | unanswered r reply hr hReceived hSilent =>
    refine iff_of_true (h.ended ⟨fun source => ?_, fun source => ?_, rfl, rfl, rfl, rfl⟩ rfl) ?_
    · cases source <;> rfl
    · cases source <;> rfl
    · intro _ records hRecords
      rw [hReceived] at hRecords
      cases hRecords
  | ran block rest hQueue =>
    rw [charted_run h hQueue]
    simp [KeepsPlot, KeepsPlotBy, hQueue]

/-- **The condition is exact for the invariant.** -/
theorem charted_iff (mapView : GMSMapView) (events : List Event) :
    (∀ s ∈ visited mapView events, Charted s) ↔ ∀ t ∈ moves mapView events, KeepsPlot t :=
  Lib.forall_states_iff (fun _ _ _ => charted_step) fun _ => plotted_viewDidLoad mapView

/-- With nothing outstanding or waiting the lists are final. -/
theorem Charted.heatmapRight (h : Charted s) : HeatmapRight s := by
  rintro ⟨-, hQueue⟩
  have hPlotted : Plotted s := h (not_updating_of_nil hQueue)
  have hNone : ∀ source, s.waiting source = 0 := by
    intro source
    rw [waiting, hQueue]
    rfl
  have hLists : ∀ source, s.listOf source = s.points source := by
    intro source
    rw [← hPlotted.lists, finalList_of_waiting_eq_zero (hNone source)]
  refine ⟨hLists, fun hView => ⟨hPlotted.attached hView, fun source hSource => ?_⟩⟩
  have hLayer := hPlotted.layer hView source hSource
  rw [finalLayer, if_pos (hNone .property)] at hLayer
  rw [hLayer, hLists]

/-- **The heatmap shows the newest source, if every move keeps it right.** -/
theorem heatmap_right (mapView : GMSMapView) (events : List Event)
    (hKeeps : ∀ t ∈ moves mapView events, KeepsPlot t) :
    ∀ s ∈ visited mapView events, HeatmapRight s := by
  intro s hs
  exact ((charted_iff mapView events).mpr hKeeps s hs).heatmapRight

-- ---------------------------------------------------------------------------
-- Overlapping responses
-- ---------------------------------------------------------------------------

instance {p : Source → Prop} [DecidablePred p] : Decidable (∀ source, p source) :=
  decidable_of_iff (p .property ∧ p .crime)
    ⟨fun h source => match source with | .property => h.1 | .crime => h.2,
      fun h => ⟨h .property, h .crime⟩⟩

instance : DecidablePred HeatmapRight := fun _ =>
  inferInstanceAs (Decidable (_ → (∀ _, _) ∧ (_ → _ ∧ ∀ _ ∈ _, _)))

instance : DecidablePred StaysEmpty := fun _ => inferInstanceAs (Decidable (_ → _ ∧ (_ → _)))

instance (s : MapViewController) : DecidablePred (KeepsPlotBy s)
  | .completed _ _ => inferInstanceAs (Decidable (_ → ∀ _ ∈ _, _ ∧ _ ∧ (_ → ∀ _ ∈ _, _)))
  | .toggleViewTapped _ => inferInstanceAs (Decidable (_ → _ → ∀ _ ∈ _, _))
  | .didUpdateLocations _ => inferInstanceAs (Decidable (_ → _ → _ → _))
  | .runMain => inferInstanceAs (Decidable (∀ _ ∈ _, _ → _ → _))
  | .refreshTapped _ | .toggleDataTapped .. | .didPick _ => inferInstanceAs (Decidable True)

instance : DecidablePred KeepsPlot := fun t =>
  inferInstanceAs (Decidable (KeepsPlotBy t.pre t.event))

/-- The second of two responses adds its points to those of the first. -/
theorem heatmap_right_fails :
    ¬ ∀ (mapView : GMSMapView) (events : List Event), ∀ s ∈ visited mapView events,
      HeatmapRight s := by
  intro h
  exact absurd (h ⟨true⟩ lateResponse) (by decide +kernel)

theorem heatmap_right_firstVisit :
    (moves ⟨true⟩ firstVisit).length = 11 ∧ ∀ s ∈ visited ⟨true⟩ firstVisit, HeatmapRight s :=
  ⟨by decide +kernel, heatmap_right ⟨true⟩ firstVisit (by decide +kernel)⟩

end PriceMap.IOS
