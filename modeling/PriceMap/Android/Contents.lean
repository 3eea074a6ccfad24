import PriceMap.Android.Requests

/-!
# Android — what is on the map

The activity clears the map on a source switch and on the heatmap switch, the
presenter before it displays its list, and `enableHeatMap` clears nothing.
Between them the map is either empty or shows the presenter's list in the
current mode (`map_shows_markerList`).

The list itself survives a source switch. Whether the map only shows the
selected source therefore depends on the heatmap switch, which redraws the
list as it is (`draws_selected_iff`).
-/

namespace PriceMap.Android

open Screen

variable {P : Platform} {s s' : Screen} {m : GoogleMap} {e : Event}

-- ---------------------------------------------------------------------------
-- The map shows the presenter's list
-- ---------------------------------------------------------------------------

def Blank (s : Screen) : Prop := s.items = [] ∧ s.overlays = []

/-- The presenter's list is drawn, in the presenter's mode: one overlay built
from all of it and no items, or all its markers as items and no overlay. -/
def RendersList (s : Screen) : Prop :=
  if s.presenter.heatMapEnabled then
    s.items = [] ∧ s.overlays =
      if s.presenter.markerList = [] then [] else [heatOverlay s.presenter.markerList]
  else
    s.items = s.presenter.markerList ∧ s.overlays = []

/-- Moving the camera or the sheet leaves the list on the map. -/
theorem RendersList.same (h : RendersList s) (hSame : SameMarkers s s') : RendersList s' := by
  unfold RendersList at *
  rw [hSame.presenter, hSame.items, hSame.overlays]
  exact h

/-- Moving the camera or the sheet leaves an empty map empty. -/
theorem Blank.same (h : Blank s) (hSame : SameMarkers s s') : Blank s' := by
  unfold Blank at *
  rw [hSame.items, hSame.overlays]
  exact h

/-- Drawing puts the list on the map. -/
theorem rendersList_drawn : RendersList (s.drawn m) := by
  unfold RendersList
  cases hHeat : s.presenter.heatMapEnabled
  · rw [if_neg (by simp [drawn, hHeat])]
    simp [Screen.items, Screen.overlays, drawn, hHeat]
  · rw [if_pos (by simp [drawn, hHeat])]
    simp [Screen.items, Screen.overlays, drawn, hHeat, overlaysOf_true]

/-- Displaying ends with the list on the map. -/
theorem rendersList_displayed : RendersList (s.displayed P m) :=
  rendersList_drawn.same sameMarkers_displayed

/-- A source switch leaves the map empty. -/
theorem blank_switched : Blank (s.switched P m) :=
  ⟨rfl, rfl⟩

/-- Displaying leaves the presenter as it is. -/
theorem presenter_displayed : (s.displayed P m).presenter = s.presenter :=
  sameMarkers_displayed.presenter

/-- The map is empty or shows the list, whatever happens. -/
theorem shows_invariant : Invariant P fun s => Blank s ∨ RendersList s where
  create := Or.inl ⟨rfl, rfl⟩
  mapReady _ _ := Or.inl ⟨rfl, rfl⟩
  effect _ h _ _ hEffect := by
    cases hEffect with
    | quiet _ hSame => exact h.imp (·.same hSame) (·.same hSame)
    | idle _ => exact h
    | requested _ => exact h
    | checked _ => exact Or.inr rendersList_displayed
    | answered _ _ => exact Or.inr rendersList_displayed
    | clicked | malformed _ _ | failed _ => exact Or.inl blank_switched

/-- A map that shows the list has one kind of contents. -/
theorem RendersList.overlays_le (h : RendersList s) :
    s.overlays.length ≤ 1 ∧ (s.items = [] ∨ s.overlays = []) := by
  unfold RendersList at h
  split at h
  · obtain ⟨hItems, hOverlays⟩ := h
    refine ⟨?_, Or.inl hItems⟩
    rw [hOverlays]
    split <;> simp
  · exact ⟨by simp [h.2], Or.inr h.2⟩

/-- **The map is empty or shows the presenter's list.** In particular overlays
never pile up and markers never stand beside a heatmap. -/
theorem map_shows_markerList (P : Platform) (events : List Event) :
    ∀ s ∈ visited P events, (Blank s ∨ RendersList s) ∧
      s.overlays.length ≤ 1 ∧ (s.items = [] ∨ s.overlays = []) := by
  intro s hs
  have hShows := shows_invariant.of_visited hs
  refine ⟨hShows, ?_⟩
  rcases hShows with ⟨hItems, hOverlays⟩ | hRenders
  · exact ⟨by simp [hOverlays], Or.inl hItems⟩
  · exact hRenders.overlays_le

def filledScreen : Screen :=
  (visited flatWorld (openMap ++ [.markerResponse firstRequest houseAnswer])).getLast
    (List.cons_ne_nil _ _)

theorem map_shows_markerList_filled :
    filledScreen.items.length = 1 ∧ (Blank filledScreen ∨ RendersList filledScreen) ∧
      filledScreen.overlays.length ≤ 1 ∧
      (filledScreen.items = [] ∨ filledScreen.overlays = []) :=
  ⟨by decide +kernel, map_shows_markerList flatWorld _ filledScreen (List.getLast_mem _)⟩

-- ---------------------------------------------------------------------------
-- The map shows the selected source
-- ---------------------------------------------------------------------------

/-- The markers on the map: items, and the points of the overlays. -/
def Screen.onMap (s : Screen) : List DrawnMarker :=
  s.items ++ s.overlays.flatMap TileOverlay.source

def DrawsSelected (s : Screen) : Prop :=
  ∀ mk ∈ s.onMap, mk.type = s.selected.markerType

def DeliversNewest (t : Move) : Prop :=
  ∀ r ∈ t.event.answers, t.pre.volley.newest = some r

def Event.switchesHeatmap : Event → Bool
  | .heatmapChecked _ => true
  | _ => false

/-- The heatmap switch is operated only while the presenter's list holds
nothing but markers of the selected source. -/
def SwitchesFresh (t : Move) : Prop :=
  t.event.switchesHeatmap = true →
    ∀ mk ∈ t.pre.presenter.markerList, mk.type = t.pre.selected.markerType

/-- Nothing is on an empty map. -/
theorem Blank.onMap (h : Blank s) : s.onMap = [] := by
  simp [Screen.onMap, h.1, h.2]

/-- What is on the map is the presenter's list. -/
theorem RendersList.onMap (h : RendersList s) : s.onMap = s.presenter.markerList := by
  unfold RendersList at h
  split at h
  · obtain ⟨hItems, hOverlays⟩ := h
    rw [Screen.onMap, hItems, hOverlays]
    split
    · next hNil => simp [hNil]
    · simp [heatOverlay]
  · simp [Screen.onMap, h.1, h.2]

theorem selected_displayed : (s.displayed P m).selected = s.selected := by
  rw [Screen.selected, sameMarkers_displayed.crimeMapEnabled]
  rfl

/-- Redrawing shows the selected source if and only if the list is its. -/
theorem drawsSelected_displayed :
    DrawsSelected (s.displayed P m) ↔
      ∀ mk ∈ s.presenter.markerList, mk.type = s.selected.markerType := by
  unfold DrawsSelected
  rw [rendersList_displayed.onMap, selected_displayed, presenter_displayed]

/-- Moving the camera or the sheet leaves the source of what is drawn. -/
theorem DrawsSelected.same (h : DrawsSelected s) (hSame : SameMarkers s s') :
    DrawsSelected s' := by
  unfold DrawsSelected Screen.onMap Screen.selected at *
  rw [hSame.items, hSame.overlays, hSame.crimeMapEnabled]
  exact h

/-- After a source switch nothing is drawn. -/
theorem drawsSelected_switched : DrawsSelected (s.switched P m) := by
  intro mk hmk
  rw [blank_switched.onMap] at hmk
  cases hmk

/-- The heatmap switch displays the list anew. -/
theorem effect_switchesHeatmap (h : Effect P m s e s') (hSwitch : e.switchesHeatmap = true) :
    ∃ b, s' = (s.heatmapSet b).displayed P m := by
  cases h with
  | checked b => exact ⟨b, rfl⟩
  | quiet hEvent _ => cases e <;> simp_all [Event.touchesMarkers, Event.switchesHeatmap]
  | _ => simp [Event.switchesHeatmap] at hSwitch

theorem touches_of_switchesHeatmap (h : e.switchesHeatmap = true) : e.touchesMarkers = true := by
  cases e <;> simp_all [Event.touchesMarkers, Event.switchesHeatmap]

/-- Every marker of an answer remembers its request and is of the type of the
connection it came from. -/
theorem parseMarkers_ok {r : MarkerRequest} {response : List Json}
    {markerList : List DrawnMarker} (h : parseMarkers r response = .ok markerList) :
    ∀ mk ∈ markerList, mk.origin = r ∧ mk.type = r.connection.kind.markerType := by
  unfold parseMarkers at h
  cases hList : onResponse r.connection.kind.entry response with
  | error message => simp [hList, Except.map] at h
  | ok list =>
    simp only [hList, Except.map, Except.ok.injEq] at h
    subst h
    intro mk hmk
    obtain ⟨pm, hpm, rfl⟩ := List.mem_map.mp hmk
    obtain ⟨o, rfl⟩ := onResponse_ok hList pm hpm
    exact ⟨rfl, Kind.entry_type _ o⟩

/-- Newest answers and fresh switches keep what is drawn of the selected source. -/
theorem drawsSelected_kept :
    Kept P (fun t => DeliversNewest t ∧ SwitchesFresh t) fun s => Linked s ∧ DrawsSelected s where
  create := ⟨linked_invariant.create (P := P), by intro mk hmk; cases hmk⟩
  mapReady position region :=
    ⟨linked_invariant.mapReady (P := P) position region, by intro mk hmk; cases hmk⟩
  effect hReady h hC hStep hEffect := by
    refine ⟨linked_invariant.effect hReady h.1 trivial hStep hEffect, ?_⟩
    cases hEffect with
    | quiet _ hSame => exact h.2.same hSame
    | idle _ => exact h.2
    | requested _ => exact h.2
    | clicked | malformed _ _ | failed _ => exact drawsSelected_switched
    | checked b => exact drawsSelected_displayed.mpr (hC.2 rfl)
    | @answered r response markerList hr hParse =>
      have hHere : r.connection = _ := h.1.newestHere r (hC.1 r rfl)
      refine drawsSelected_displayed.mpr fun mk hmk => ?_
      rw [(parseMarkers_ok hParse mk hmk).2, hHere, h.1.kind_eq_selected]
      rfl

/-- **The selected source, up to a stale list.** Even when only newest answers
are delivered, a run shows nothing but markers of the selected source if and
only if the heatmap switch is never operated while the presenter still holds
markers of the other source. -/
theorem draws_selected_iff (P : Platform) (events : List Event)
    (hNewest : ∀ t ∈ moves P events, DeliversNewest t) :
    (∀ s ∈ visited P events, DrawsSelected s) ↔ ∀ t ∈ moves P events, SwitchesFresh t := by
  refine ⟨?_, ?_⟩
  · intro h t ht hSwitch
    obtain ⟨m, c, -, hEffect⟩ := effect_of_move ht (touches_of_switchesHeatmap hSwitch)
    have hPost : DrawsSelected t.post := h _ (Lib.mem_states.mpr (Or.inr ⟨t, ht, rfl⟩))
    obtain ⟨b, hDisplayed⟩ := effect_switchesHeatmap hEffect hSwitch
    rw [hDisplayed] at hPost
    exact (drawsSelected_displayed (s := t.pre.heatmapSet b)).mp hPost
  · intro h s hs
    exact (drawsSelected_kept.visited (fun t ht => ⟨hNewest t ht, h t ht⟩) s hs).2

instance : DecidablePred DeliversNewest := fun _ => inferInstanceAs (Decidable (∀ _ ∈ _, _))

instance : DecidablePred SwitchesFresh := fun _ => inferInstanceAs (Decidable (_ → ∀ _ ∈ _, _))

instance : DecidablePred DrawsSelected := fun _ => inferInstanceAs (Decidable (∀ _ ∈ _, _))

/-- The heatmap is switched on before the police source has answered. -/
def staleHeatmap : List Event :=
  openMap ++ [.markerResponse firstRequest houseAnswer, .sourceClicked, .heatmapChecked true]

/-- The heatmap is switched on while the list is the selected source's. -/
def freshHeatmap : List Event :=
  openMap ++ [.markerResponse firstRequest houseAnswer, .heatmapChecked true, .sourceClicked,
    .markerResponse firstCrimeRequest crimeAnswer]

/-- The heatmap switch draws the list of the source before. -/
theorem draws_selected_fails :
    ¬ ∀ (P : Platform) (events : List Event), (∀ t ∈ moves P events, DeliversNewest t) →
      ∀ s ∈ visited P events, DrawsSelected s := by
  intro h
  exact absurd (h flatWorld staleHeatmap (by decide +kernel)) (by decide +kernel)

theorem draws_selected_fresh :
    (moves flatWorld freshHeatmap).length = 6 ∧
      ((∀ s ∈ visited flatWorld freshHeatmap, DrawsSelected s) ↔
        ∀ t ∈ moves flatWorld freshHeatmap, SwitchesFresh t) :=
  ⟨by decide +kernel, draws_selected_iff flatWorld freshHeatmap (by decide +kernel)⟩

end PriceMap.Android
