import PriceMap.IOS.Markers

/-!
# iOS — what is selected and what is tapped

Which source the user has selected is stored twice: `isCrime` decides what the
handlers do, `toggleDataControl` is what the user sees. A tap on a marker looks
at neither, only at the radius of the last update.

* `selection_displayed_iff` — the two agree as long as no place is picked while
  the crimes are selected.
* `taps_safe_iff` — no tap traps as long as no crimes are drawn below 1 km.
-/

namespace PriceMap.IOS

open MapViewController

-- ---------------------------------------------------------------------------
-- The selected source
-- ---------------------------------------------------------------------------

/-- The source that the control displays. -/
def MapViewController.displayed (s : MapViewController) : Source :=
  if s.toggleDataControl = 1 then .crime else .property

def SelectionDisplayed (s : MapViewController) : Prop :=
  s.isCrime = true ↔ s.toggleDataControl = 1

/-- A refresh fetches, and the view toggle draws, the source that the control
displays. -/
def UsesDisplayed (t : Move) : Prop :=
  match t.event with
  | .refreshTapped _ => ∃ completion,
      t.post.mainQueue = t.pre.mainQueue ++ [.emptyArrays completion] ∧
        completion.source = t.pre.displayed
  | .toggleViewTapped 0 => t.post.mainQueue = t.pre.mainQueue ++ [shows t.pre.displayed]
  | .toggleViewTapped _ => t.post.heatmapLayer.weightedData = t.pre.listOf t.pre.displayed
  | _ => True

variable {s s' : MapViewController} {e : Event}

/-- What leaves the controls alone keeps them displayed. -/
theorem SelectionDisplayed.of_same (h : SelectionDisplayed s) (hSame : SameControls s s') :
    SelectionDisplayed s' := by
  rw [SelectionDisplayed, hSame.isCrime, hSame.toggleDataControl]
  exact h

/-- Displayed, the selected source is the one on the control. -/
theorem SelectionDisplayed.selected (h : SelectionDisplayed s) : s.selected = s.displayed := by
  cases hCrime : s.isCrime with
  | true => rw [MapViewController.selected, displayed, hCrime, if_pos rfl, if_pos (h.mp hCrime)]
  | false =>
    have hOther : s.toggleDataControl ≠ 1 := fun hOne => by
      rw [h.mpr hOne] at hCrime
      cases hCrime
    rw [MapViewController.selected, displayed, hCrime, if_neg hOther]
    rfl

/-- Only a picked place moves the control without `isCrime`. -/
theorem selectionDisplayed_step (h : SelectionDisplayed s) (hStep : s.step e = some s') :
    SelectionDisplayed s' ↔ ∀ place, e = .didPick place → s.isCrime = false := by
  cases step_stepped hStep with
  | refreshTapped view => exact iff_of_true h (by simp)
  | toProperty view hMoved => simp [SelectionDisplayed, restarted, async]
  | toCrime view hMoved => simp [SelectionDisplayed, restarted, async]
  | didPick place => simp [SelectionDisplayed, restarted, async]
  | toMarkers hMoved => exact iff_of_true h (by simp)
  | toHeatmap hMoved => exact iff_of_true h (by simp)
  | located location hFirst =>
    exact iff_of_true (h.of_same (sameControls_located location)) (by simp)
  | relocated location hSent => exact iff_of_true h (by simp)
  | answered r reply records =>
    exact iff_of_true (h.of_same (sameControls_answered r records)) (by simp)
  | failed r => exact iff_of_true (h.of_same (sameControls_failed r)) (by simp)
  | unanswered r => exact iff_of_true (h.of_same (sameControls_unanswered r)) (by simp)
  | ran block rest => exact iff_of_true (h.of_same (sameControls_run block rest)) (by simp)

/-- A step uses what is displayed before it. -/
theorem usesDisplayed_step (h : SelectionDisplayed s) (hStep : s.step e = some s') :
    UsesDisplayed ⟨s, e, s'⟩ := by
  have hSource : ∀ source view, (fetchOf view false source).source = source := by
    intro source view
    cases source <;> rfl
  cases step_stepped hStep with
  | refreshTapped view =>
    refine ⟨fetchOf view false s.selected, rfl, ?_⟩
    rw [hSource, h.selected]
  | toMarkers hMoved =>
    show s.mainQueue ++ [shows s.selected] = _
    rw [h.selected]
  | toHeatmap hMoved =>
    show s.listOf s.selected = _
    rw [h.selected]
  | _ => exact trivial

/-- The control starts at what is selected. -/
theorem selectionDisplayed_viewDidLoad (mapView : GMSMapView) :
    SelectionDisplayed (viewDidLoad mapView) :=
  ⟨nofun, nofun⟩

/-- **The control displays the selected source, unless a place is picked under
the crimes.** -/
theorem selection_displayed_iff (mapView : GMSMapView) (events : List Event) :
    ((∀ s ∈ visited mapView events, SelectionDisplayed s) ∧
        ∀ t ∈ moves mapView events, UsesDisplayed t) ↔
      ∀ t ∈ moves mapView events, ∀ place, t.event = .didPick place → t.pre.isCrime = false := by
  have hVisited : (∀ s ∈ visited mapView events, SelectionDisplayed s) ↔
      ∀ t ∈ moves mapView events, ∀ place, t.event = .didPick place → t.pre.isCrime = false :=
    Lib.forall_states_iff (fun _ _ _ => selectionDisplayed_step)
      (selectionDisplayed_viewDidLoad mapView)
  rw [← hVisited]
  refine ⟨And.left, fun h => ⟨h, ?_⟩⟩
  exact Lib.forall_transitions_of_states
    (fun _ _ _ hPre hStep _ => usesDisplayed_step hPre hStep) h

-- ---------------------------------------------------------------------------
-- A place picked under the crimes
-- ---------------------------------------------------------------------------

instance : DecidablePred SelectionDisplayed := fun _ => inferInstanceAs (Decidable (_ ↔ _))

/-- The user looks at the crimes and then picks a place: the control goes back
to the properties, `isCrime` stays. -/
def pickUnderCrime : List Event := [.toggleDataTapped 1 (viewAt 0), .didPick ⟨0, 0⟩]

/-- A place is picked while crimes are selected. -/
theorem selection_displayed_fails :
    ¬ ∀ (mapView : GMSMapView) (events : List Event),
      (∀ s ∈ visited mapView events, SelectionDisplayed s) ∧
        ∀ t ∈ moves mapView events, UsesDisplayed t := by
  intro h
  exact absurd (h ⟨true⟩ pickUnderCrime).1 (by decide +kernel)

-- ---------------------------------------------------------------------------
-- Taps
-- ---------------------------------------------------------------------------

/-- A forced cast of an object of another class. -/
inductive Trap where
  | couldNotCast
  deriving DecidableEq, Repr

/-- `sender as! PlaceMarker`, of which only `postCodeName` is used. -/
def Marker.postCodeName : Marker → Except Trap (Option String)
  | .PlaceMarker postCode => .ok postCode.postcode
  | .CrimeMarker _ => .error .couldNotCast

structure PropertyTableViewController where
  postCode : String
  deriving DecidableEq, Repr

structure Segue where
  identifier : Option String
  destination : PropertyTableViewController
  deriving DecidableEq, Repr

/-- `prepare(for:sender:)`. -/
def prepare (segue : Segue) (sender : Marker) : Except Trap Segue :=
  if segue.identifier = some "showListPrices" then do
    let postCodeName ← sender.postCodeName
    match postCodeName with
    | some postCode => return { segue with destination := { postCode := postCode } }
    | none => return segue
  else return segue

/-- `performSegue(withIdentifier:sender:)`, with a new destination. -/
def performSegue (identifier : String) (sender : Marker) : Except Trap Segue :=
  prepare ⟨some identifier, { postCode := "" }⟩ sender

/-- `mapView(_:didTap:)`, with the segue it performs. -/
def MapViewController.didTap (marker : Marker) (s : MapViewController) :
    Except Trap (Option Segue) :=
  if s.currentRadius < 1 then (performSegue "showListPrices" marker).map some else .ok none

/-- A tap traps only on a crime close to the ground. -/
theorem didTap_ok_iff (marker : Marker) :
    (∃ segue, s.didTap marker = .ok segue) ↔
      ∀ crime, marker = .CrimeMarker crime → 1 ≤ s.currentRadius := by
  unfold didTap
  split
  · next hRadius =>
    cases marker with
    | PlaceMarker postCode =>
      refine iff_of_true ?_ nofun
      cases hName : postCode.postcode <;>
        exact ⟨_, by simp only [performSegue, prepare, Marker.postCodeName, hName]; rfl⟩
    | CrimeMarker crime =>
      refine iff_of_false ?_ fun h => absurd (h crime rfl) (not_le.mpr hRadius)
      rintro ⟨segue, hSegue⟩
      cases hSegue
  · next hRadius => exact iff_of_true ⟨none, rfl⟩ fun _ _ => not_lt.mp hRadius

/-- Every marker on the map can be tapped. -/
def TapsSafe (s : MapViewController) : Prop :=
  ∀ marker ∈ s.markers, ∃ segue, s.didTap marker = .ok segue

/-- All taps are safe if no crime is shown close to the ground. -/
theorem tapsSafe_iff :
    TapsSafe s ↔ ∀ crime, .CrimeMarker crime ∈ s.markers → 1 ≤ s.currentRadius := by
  refine ⟨fun h crime hCrime => ?_, fun h marker hMarker => (didTap_ok_iff marker).mpr ?_⟩
  · exact (didTap_ok_iff _).mp (h _ hCrime) crime rfl
  · rintro crime rfl
    exact h crime hMarker

/-- The next block draws crimes while the last update was for less than 1 km. -/
def DrawsCrimesClose (t : Move) : Prop :=
  t.event = .runMain ∧ ∃ block ∈ t.pre.mainQueue.head?,
    (block = .drawCrimes ∨ block = .showCrimes) ∧ t.pre.crimes ≠ [] ∧ t.pre.currentRadius < 1

/-- Only blocks draw. -/
theorem not_drawsCrimesClose {t : Move} (h : t.event ≠ .runMain) : ¬ DrawsCrimesClose t :=
  fun hDraws => h hDraws.1

/-- Taps depend on the markers and the radius. -/
theorem TapsSafe.of_same (h : TapsSafe s) (hMarkers : s'.markers = s.markers)
    (hRadius : s'.currentRadius = s.currentRadius) : TapsSafe s' := by
  rw [tapsSafe_iff] at h ⊢
  rw [hMarkers, hRadius]
  exact h

/-- Without markers there is nothing to tap. -/
theorem tapsSafe_of_nil (h : s.markers = []) : TapsSafe s := by
  intro marker hMarker
  rw [h] at hMarker
  cases hMarker

/-- Two blocks draw crimes. -/
theorem crime_mem_draws {block : Block} {crime : Crime} :
    .CrimeMarker crime ∈ block.draws s ↔
      (block = .drawCrimes ∨ block = .showCrimes) ∧ crime ∈ s.crimes := by
  cases block <;> simp [Block.draws, shown]

/-- A block that draws crimes while the radius is below 1 km. -/
theorem drawsCrimesClose_iff {block : Block} {rest : List Block}
    (hQueue : s.mainQueue = block :: rest) :
    DrawsCrimesClose ⟨s, .runMain, s'⟩ ↔
      (block = .drawCrimes ∨ block = .showCrimes) ∧ s.crimes ≠ [] ∧ s.currentRadius < 1 := by
  simp [DrawsCrimesClose, hQueue]

/-- A block of the main queue leaves the markers safe, or draws crimes. -/
theorem tapsSafe_run (h : TapsSafe s) {block : Block} {rest : List Block}
    (hQueue : s.mainQueue = block :: rest) :
    TapsSafe (run block { s with mainQueue := rest }) ↔
      ¬ DrawsCrimesClose ⟨s, .runMain, run block { s with mainQueue := rest }⟩ := by
  rw [drawsCrimesClose_iff hQueue]
  by_cases hSource : block.source = none
  · cases block with
    | emptyArrays completion => exact iff_of_true (tapsSafe_of_nil rfl) (by simp)
    | _ => cases hSource
  · have hMarkers := (drawn_run (s := { s with mainQueue := rest }) hSource).markers
    have hRadius := (sameControls_run (s := s) block rest).currentRadius
    rw [tapsSafe_iff] at h
    rw [tapsSafe_iff, hMarkers, hRadius]
    refine ⟨?_, ?_⟩
    · rintro hSafe ⟨hBlock, hCrimes, hClose⟩
      obtain ⟨crime, hCrime⟩ := List.exists_mem_of_ne_nil _ hCrimes
      have hDrawn : Marker.CrimeMarker crime ∈ block.draws { s with mainQueue := rest } :=
        crime_mem_draws.mpr ⟨hBlock, hCrime⟩
      exact absurd (hSafe crime (List.mem_append_right _ hDrawn)) (not_le.mpr hClose)
    · intro hNot crime hCrime
      rcases List.mem_append.mp hCrime with hOld | hDrawn
      · exact h crime hOld
      · obtain ⟨hBlock, hMem⟩ := crime_mem_draws.mp hDrawn
        refine not_lt.mp fun hClose => hNot ⟨hBlock, ?_, hClose⟩
        exact List.ne_nil_of_mem hMem

/-- Every update clears the map, so only a drawn crime makes taps unsafe. -/
theorem tapsSafe_step (h : TapsSafe s) (hStep : s.step e = some s') :
    TapsSafe s' ↔ ¬ DrawsCrimesClose ⟨s, e, s'⟩ := by
  cases step_stepped hStep with
  | refreshTapped view => exact iff_of_true (tapsSafe_of_nil rfl) (not_drawsCrimesClose nofun)
  | toProperty view hMoved => exact iff_of_true (tapsSafe_of_nil rfl) (not_drawsCrimesClose nofun)
  | toCrime view hMoved => exact iff_of_true (tapsSafe_of_nil rfl) (not_drawsCrimesClose nofun)
  | didPick place => exact iff_of_true (tapsSafe_of_nil rfl) (not_drawsCrimesClose nofun)
  | toMarkers hMoved => exact iff_of_true (h.of_same rfl rfl) (not_drawsCrimesClose nofun)
  | toHeatmap hMoved => exact iff_of_true (tapsSafe_of_nil rfl) (not_drawsCrimesClose nofun)
  | located location hFirst => exact iff_of_true (h.of_same rfl rfl) (not_drawsCrimesClose nofun)
  | relocated location hSent => exact iff_of_true h (not_drawsCrimesClose nofun)
  | answered r reply records =>
    have hRadius := (sameControls_answered (s := s) r records).currentRadius
    exact iff_of_true (h.of_same (markers_answered r records) hRadius) (not_drawsCrimesClose nofun)
  | failed r => exact iff_of_true (h.of_same rfl rfl) (not_drawsCrimesClose nofun)
  | unanswered r => exact iff_of_true (h.of_same rfl rfl) (not_drawsCrimesClose nofun)
  | ran block rest hQueue => exact tapsSafe_run h hQueue

/-- **A tap never traps, unless crimes are drawn below 1 km.** In all states of
a run every marker on the map can be tapped if and only if no block of the run
draws crimes while the last update was for less than 1 km. -/
theorem taps_safe_iff (mapView : GMSMapView) (events : List Event) :
    (∀ s ∈ visited mapView events, ∀ marker ∈ s.markers, ∃ segue, s.didTap marker = .ok segue) ↔
      ∀ t ∈ moves mapView events, ¬ DrawsCrimesClose t :=
  Lib.forall_states_iff (fun _ _ _ => tapsSafe_step) (tapsSafe_of_nil rfl)

instance decidableOk {ε α : Type} : (result : Except ε α) → Decidable (∃ a, result = .ok a)
  | .ok a => isTrue ⟨a, rfl⟩
  | .error _ => isFalse nofun

/-- The user looks at the crimes around, on a map 200 m wide. -/
def crimesAround : List Event :=
  [.toggleDataTapped 1 (viewAt 0), .runMain,
    .completed ⟨0, .getCrimeData 0 0 true⟩ (replyWith [crimeAt]), .runMain]

/-- Crimes are drawn, then a place close to the ground is picked. -/
theorem taps_safe_fails :
    ¬ ∀ (mapView : GMSMapView) (events : List Event), ∀ s ∈ visited mapView events,
      ∀ marker ∈ s.markers, ∃ segue, s.didTap marker = .ok segue := by
  intro h
  exact absurd (h ⟨true⟩ crimesAround) (by decide +kernel)

end PriceMap.IOS
