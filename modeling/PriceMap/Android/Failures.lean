import PriceMap.Android.Requests

/-!
# Android — the automatic switch after a failure

`onResponseError` presses the source button: it neither knows which source
failed nor whether the other one has just failed too.

* `failure_leads_away_iff` — the switch leads away from the source that failed
  exactly when that source is still the selected one.
* `auto_switches_iff` — while the user does nothing there are as many automatic
  switches as failures.
* `auto_switches_unbounded` — and nothing but a success stops them.
-/

namespace PriceMap.Android

open Screen

variable {P : Platform} {s s' : Screen} {m : GoogleMap} {c : ClusterManager} {e : Event}

-- ---------------------------------------------------------------------------
-- Where the switch leads
-- ---------------------------------------------------------------------------

def Kind.other : Kind → Kind
  | .ServerConnection => .PoliceDataConnection
  | .PoliceDataConnection => .ServerConnection

/-- There are two sources. -/
theorem Kind.other_ne_iff (k k' : Kind) : k.other ≠ k' ↔ k' = k := by
  cases k <;> cases k' <;> simp [Kind.other]

/-- A switch selects the other source. -/
theorem selected_switched : (s.switched P m).selected = s.selected.other := by
  show (if (!s.activity.crimeMapEnabled) = true then _ else _) = _
  unfold Screen.selected
  cases s.activity.crimeMapEnabled <;> rfl

/-- After handling a failure, the selected source is not the one that failed. -/
def LeadsAway (t : Move) : Prop :=
  ∀ r ∈ t.event.failure, t.post.selected ≠ r.connection.kind

def SelectedFails (t : Move) : Prop :=
  ∀ r ∈ t.event.failure, r.connection.kind = t.pre.selected

/-- A failure selects the other source, whichever failed. -/
theorem effect_failure_selected {r : MarkerRequest} (h : Effect P m s e s') (hr : r ∈ e.failure) :
    s'.selected = s.selected.other := by
  obtain ⟨-, message, rfl⟩ := effect_failure h hr
  exact selected_switched

/-- **The switch leads away from the failed source if and only if that source
is still selected.** A late failure of the other source leads back to it. -/
theorem failure_leads_away_iff (P : Platform) (events : List Event) :
    (∀ t ∈ moves P events, LeadsAway t) ↔ ∀ t ∈ moves P events, SelectedFails t := by
  refine forall₂_congr fun t ht => forall₂_congr fun r hr => ?_
  obtain ⟨m, c, -, hEffect⟩ := effect_of_move ht (touches_of_failure hr)
  rw [effect_failure_selected hEffect hr]
  exact Kind.other_ne_iff _ _

instance : DecidablePred LeadsAway := fun _ => inferInstanceAs (Decidable (∀ _ ∈ _, _))

/-- The user has moved on to the police source when the backend request of the
first screen fails. -/
def lateFailure : List Event :=
  openMap ++ [.sourceClicked, .markerError firstRequest]

/-- The failure of a request that the user has switched away from. -/
theorem failure_leads_away_fails :
    ¬ ∀ (P : Platform) (events : List Event), ∀ t ∈ moves P events, LeadsAway t := by
  intro h
  exact absurd (h flatWorld lateFailure) (by decide +kernel)

-- ---------------------------------------------------------------------------
-- How often it switches
-- ---------------------------------------------------------------------------

/-- Camera moves and stops, the source button, the heatmap switch, a search. -/
def Event.byUser : Event → Bool
  | .cameraMoved .. | .cameraIdle | .sourceClicked | .heatmapChecked _ | .placePicked _ => true
  | _ => false

/-- The selected source changes, and not because of the user. -/
def autoSwitches (t : Move) : Bool := !t.event.byUser && t.post.selected != t.pre.selected

def fails (t : Move) : Bool := t.event.failure.isSome

/-- A stretch of a run in which the user does nothing: between two actions, before
the first or after the last. -/
structure UserFree (ts stretch : List Move) : Prop where
  part : stretch <:+: ts
  free : ∀ t ∈ stretch, t.event.byUser = false

/-- Only the user and failures switch. -/
theorem effect_selected (h : Effect P m s e s') (hUser : e.byUser = false)
    (hFail : e.failure = none) : s'.selected = s.selected := by
  cases h with
  | quiet _ hSame => rw [Screen.selected, Screen.selected, hSame.crimeMapEnabled]
  | answered _ _ =>
    rw [Screen.selected, sameMarkers_displayed.crimeMapEnabled]
    rfl
  | malformed _ hParse => simp [Event.failure, hParse] at hFail
  | failed _ => simp [Event.failure] at hFail
  | idle _ => rfl
  | requested _ => rfl
  | clicked => simp [Event.byUser] at hUser
  | checked _ => simp [Event.byUser] at hUser

/-- A failure is no user action. -/
theorem byUser_of_failure {r : MarkerRequest} (hr : r ∈ e.failure) : e.byUser = false := by
  cases e <;> simp_all [Event.failure, Event.byUser]

/-- A screen without a map has nothing to switch, and its events change
nothing that is selected. -/
theorem selected_of_onCreate (h : onCreate.step P e = some s') :
    s'.selected = onCreate.selected := by
  rcases step_onCreate h with ⟨-, rfl⟩ | ⟨position, region, -, rfl⟩ <;> rfl

/-- A step switches by itself exactly if it delivers a failure. -/
theorem autoSwitches_eq_fails (hs : Started s) (hStep : s.step P e = some s') :
    autoSwitches ⟨s, e, s'⟩ = fails ⟨s, e, s'⟩ := by
  unfold autoSwitches fails
  cases hFail : e.failure with
  | some r =>
    have hr : r ∈ e.failure := hFail
    rcases hs with rfl | ⟨m, c, hReady⟩
    · rcases step_onCreate hStep with ⟨rfl, -⟩ | ⟨position, region, rfl, -⟩ <;>
        simp [Event.failure] at hFail
    · have hOther := effect_failure_selected (step_ready hReady hStep).2 hr
      rw [byUser_of_failure hr, hOther]
      cases s.selected <;> rfl
  | none =>
    cases hUser : e.byUser with
    | true => rfl
    | false =>
      have hSame : s'.selected = s.selected := by
        rcases hs with rfl | ⟨m, c, hReady⟩
        · exact selected_of_onCreate hStep
        · exact effect_selected (step_ready hReady hStep).2 hUser hFail
      simp [hSame]

/-- Every stretch of a run has as many automatic switches as failures. -/
theorem countP_autoSwitches {events : List Event} {stretch : List Move}
    (hPart : stretch <:+: moves P events) :
    stretch.countP autoSwitches = stretch.countP fails := by
  refine List.countP_congr fun t ht => ?_
  obtain ⟨hStarted, hStep⟩ := step_of_move (hPart.subset ht)
  rw [autoSwitches_eq_fails hStarted hStep]

/-- **At most one automatic switch while the user does nothing, if and only if at
most one marker request fails meanwhile.** -/
theorem auto_switches_iff (P : Platform) (events : List Event) :
    (∀ stretch, UserFree (moves P events) stretch → stretch.countP autoSwitches ≤ 1) ↔
      ∀ stretch, UserFree (moves P events) stretch → stretch.countP fails ≤ 1 := by
  refine forall₂_congr fun stretch hFree => ?_
  rw [countP_autoSwitches hFree.part]

/-- Both sources are down, and after the first camera stop the user does nothing. -/
def bothFail : List Event :=
  openMap ++ [.markerError firstRequest, .markerError firstCrimeRequest]

/-- Two switches after the last action of the user. -/
theorem auto_switches_fails :
    ¬ ∀ (P : Platform) (events : List Event) (stretch : List Move),
      UserFree (moves P events) stretch → stretch.countP autoSwitches ≤ 1 := by
  intro h
  have hFree : UserFree (moves flatWorld bothFail) ((moves flatWorld bothFail).drop 2) :=
    ⟨(List.drop_suffix 2 _).isInfix, by decide +kernel⟩
  exact absurd (h flatWorld bothFail _ hFree) (by decide +kernel)

-- ---------------------------------------------------------------------------
-- Nothing but a success stops it
-- ---------------------------------------------------------------------------

def Waiting (s : Screen) : Prop := ∃ r ∈ s.volley.markers, s.volley.newest = some r

/-- A switch waits for its request. -/
theorem waiting_switched : Waiting (s.switched P m) := by
  refine ⟨nextRequest P m (s.sourceSet m), ?_, newest_requested⟩
  show _ ∈ ((s.sourceSet m).requested P m).volley.markers
  rw [markers_requested]
  exact Lib.mem_supersede.mpr (Or.inr rfl)

/-- **The loop has no bound.** From any screen that waits for its newest
request, any number of automatic switches can follow one another without the
user doing anything. -/
theorem auto_switches_unbounded (P : Platform) (n : ℕ) :
    ∀ {s : Screen} {m : GoogleMap} {c : ClusterManager}, Ready s m c → Waiting s →
      ∃ events, (Lib.transitions (Screen.step P) s events).length = n ∧
        ∀ t ∈ Lib.transitions (Screen.step P) s events, autoSwitches t = true := by
  induction n with
  | zero =>
    intro s m c _ _
    exact ⟨[], rfl, by simp⟩
  | succ n ih =>
    intro s m c hReady ⟨r, hr, _⟩
    have hStep : s.step P (.markerError r) = some ((s.failed r notReachable).switched P m) := by
      rw [step, if_pos (by simpa [enabled] using hr), handle_ready hReady]
      rfl
    obtain ⟨events, hLength, hAuto⟩ := ih
      (s := (s.failed r notReachable).switched P m) ⟨rfl, rfl⟩ waiting_switched
    refine ⟨.markerError r :: events, ?_, ?_⟩
    · rw [Lib.transitions_cons_some hStep, List.length_cons, hLength]
    · rw [Lib.transitions_cons_some hStep]
      intro t ht
      rcases List.mem_cons.mp ht with rfl | ht
      · rw [autoSwitches_eq_fails (Or.inr ⟨m, c, hReady⟩) hStep]
        rfl
      · exact hAuto t ht

end PriceMap.Android
