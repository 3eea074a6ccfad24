import PriceMap.Clusters.Partition
import PriceMap.Clusters.Renderer
import Mathlib.Algebra.Order.Floor.Semiring

/-!
# Clusters — the manager

`GMUClusterManager` of the vendored map utilities: one algorithm, one renderer,
and a map whose camera it observes. A camera at another integral zoom asks for
new clusters, and so does `clearItems`; such a request waits in a block, which
does nothing if a newer request has been made. `addItems` and `removeItem` ask
for nothing: whoever calls them calls `cluster`.

* `clusters_settle` — no assertion fails in a run, stale requests do nothing, and
  once the blocks have run, in whatever order, what is rendered are the clusters
  of the items at the zoom of the camera.
* `items_shown_once` — in every state, an item is in one marker at most.
-/

namespace PriceMap.Clusters

open Lib GMUDefaultClusterRenderer

variable {α P K : Type*} [DecidableEq α] [Field K] [LinearOrder K] [FloorSemiring K]

structure GMUClusterManager (α P K : Type*) where
  algorithm : GMUNonHierarchicalDistanceBasedAlgorithm α K
  renderer : GMUDefaultClusterRenderer α P K
  /-- the camera of the map -/
  camera : Camera P K
  previousCamera : Camera P K
  clusterRequestCount : ℕ
  /-- the requests whose blocks have yet to run, by their numbers -/
  waiting : List ℕ

/-- What happens to a manager. -/
inductive ManagerEvent (α P K : Type*) where
  | items (call : ItemsCall α)
  | cluster
  | cameraChanged (camera : Camera P K)
  /-- the block of a request runs -/
  | requestRuns (requestNumber : ℕ)
  /-- the first block of `clearMarkersAnimated:` runs -/
  | animationEnds

def integralZoom (camera : Camera P K) : ℕ := ⌊camera.zoom + 0.5⌋₊

namespace GMUClusterManager

def initWithMap (camera : Camera P K) (renderer : GMUDefaultClusterRenderer α P K) :
    GMUClusterManager α P K where
  algorithm := .init
  renderer
  camera
  previousCamera := camera
  clusterRequestCount := 0
  waiting := []

variable (g : Geometry α P K) (s : GMUClusterManager α P K)

/-- `cluster`; `none` if an assertion of the algorithm fails. -/
def cluster : Option (GMUClusterManager α P K) :=
  (s.algorithm.clustersAtZoom g (integralZoom s.camera)).map fun clusters =>
    { s with
      renderer := s.renderer.renderClusters g.position s.camera clusters
      previousCamera := s.camera }

def requestCluster : GMUClusterManager α P K :=
  { s with
    clusterRequestCount := s.clusterRequestCount + 1
    waiting := s.waiting ++ [s.clusterRequestCount + 1] }

/-- `addItems:`, `removeItem:` and `clearItems`. -/
def itemsCall (call : ItemsCall α) : Option (GMUClusterManager α P K) :=
  (s.algorithm.step g call).map fun algorithm =>
    match call with
    | .clearItems => { s with algorithm }.requestCluster
    | _ => { s with algorithm }

/-- `observeValueForKeyPath:`, on the camera. -/
def cameraChanged (camera : Camera P K) : GMUClusterManager α P K :=
  if integralZoom s.previousCamera = integralZoom camera then
    { s with camera, renderer := s.renderer.update g.position camera }
  else { s with camera }.requestCluster

/-- The block of a request: "Ignore if there are newer requests." -/
def requestRuns (requestNumber : ℕ) : Option (GMUClusterManager α P K) :=
  let s' := { s with waiting := s.waiting.erase requestNumber }
  if requestNumber = s.clusterRequestCount then s'.cluster g else some s'

/-- `none` if the event cannot happen now, or if an assertion fails. -/
def step : ManagerEvent α P K → Option (GMUClusterManager α P K)
  | .items call => s.itemsCall g call
  | .cluster => s.cluster g
  | .cameraChanged camera => some (s.cameraChanged g camera)
  | .requestRuns requestNumber =>
    if requestNumber ∈ s.waiting then s.requestRuns g requestNumber else none
  | .animationEnds =>
    if s.renderer.leaving = [] then none
    else some { s with renderer := s.renderer.clearMarkers }

omit [DecidableEq α] [Field K] [LinearOrder K] [FloorSemiring K] in
/-- Blocks run that have been dispatched and have not run yet. -/
def Enabled : ManagerEvent α P K → Prop
  | .requestRuns requestNumber => requestNumber ∈ s.waiting
  | .animationEnds => s.renderer.leaving ≠ []
  | .items _ | .cluster | .cameraChanged _ => True

end GMUClusterManager

open GMUClusterManager

-- ---------------------------------------------------------------------------
-- What is kept
-- ---------------------------------------------------------------------------

/-- Whether items have come or gone that no clustering has seen yet, and none
has been asked for. -/
def unclusteredAfter (unclustered : Bool)
    (t : Transition (GMUClusterManager α P K) (ManagerEvent α P K)) : Bool :=
  match t.event with
  | .items (.addItems _) => true
  | .items (.removeItem _) => true
  | .cluster => false
  | .requestRuns requestNumber =>
    if requestNumber = t.pre.clusterRequestCount then false else unclustered
  | _ => unclustered

def unclustered (g : Geometry α P K) (s : GMUClusterManager α P K)
    (events : List (ManagerEvent α P K)) : Bool :=
  (transitions (step g) s events).foldl unclusteredAfter false

/-- What is added is on the map, and new. -/
def ManagerAddsNew (g : Geometry α P K)
    (t : Transition (GMUClusterManager α P K) (ManagerEvent α P K)) : Prop :=
  ∀ call, t.event = .items call → AddsNew g ⟨t.pre.algorithm, call, t.post.algorithm⟩

/-- Every event can happen when its turn comes, and what is added is new. -/
def Orderly (g : Geometry α P K) : GMUClusterManager α P K → List (ManagerEvent α P K) → Prop
  | _, [] => True
  | s, e :: rest => s.Enabled e ∧ ∀ s', s.step g e = some s' →
      ManagerAddsNew g ⟨s, e, s'⟩ ∧ Orderly g s' rest

variable (g : Geometry α P K)

/-- Nothing is left to do: what is rendered belongs to the camera and the items. -/
structure Settled (unclustered : Bool) (s : GMUClusterManager α P K) : Prop where
  zoom : integralZoom s.previousCamera = integralZoom s.camera
  inView : s.renderer.InView g.position s.camera
  clusters : unclustered = false → ∃ centers,
    IsClustering g (integralZoom s.camera) s.algorithm.items centers s.renderer.clusters

/-- A manager is settled, or the block of its newest request has yet to run. -/
structure Managed (unclustered : Bool) (s : GMUClusterManager α P K) : Prop where
  stored : Stored g s.algorithm
  drawn : s.renderer.Drawn
  once : (s.renderer.clusters.flatMap GMUStaticCluster.items).Nodup
  settled : s.clusterRequestCount ∈ s.waiting ∨ Settled g unclustered s

variable {g} {s s' : GMUClusterManager α P K} {late : Bool} {camera : Camera P K}

omit [DecidableEq α] in
/-- A new manager is settled, with nothing to show. -/
theorem managed_initWithMap (animatesClusters : Bool) :
    Managed g false (initWithMap camera (.initWithMapView animatesClusters)) := by
  refine ⟨stored_init, drawn_start rfl rfl, List.nodup_nil, Or.inr ⟨rfl, ?_, fun _ => ⟨[], ?_⟩⟩⟩
  · intro i cluster hAt
    cases hAt
  · refine ⟨fun c hc => ?_, .nil, rfl, .nil, fun i cluster hAt => ?_⟩
    · cases hc
    · cases hAt

/-- **A clustering** does not fail, and settles the manager. -/
theorem exists_cluster [IsStrictOrderedRing K] (h : Stored g s.algorithm) :
    ∃ s', s.cluster g = some s' ∧ Managed g false s' ∧ Settled g false s' ∧
      s'.algorithm = s.algorithm ∧ s'.camera = s.camera ∧ s'.waiting = s.waiting := by
  obtain ⟨clusters, centers, hFound, hClusters⟩ := h.clustersAtZoom (integralZoom s.camera)
  obtain ⟨hDrawn, hSame, hView⟩ := renderClusters_spec g.position s.camera s.renderer clusters
  have hSettled : Settled g false { s with
      renderer := s.renderer.renderClusters g.position s.camera clusters
      previousCamera := s.camera } := by
    refine ⟨rfl, hView, fun _ => ⟨centers, ?_⟩⟩
    rw [hSame]
    exact hClusters
  refine ⟨_, congrArg (Option.map _) hFound, ⟨h, hDrawn, ?_, Or.inr hSettled⟩, hSettled, rfl, rfl,
    rfl⟩
  show ((s.renderer.renderClusters g.position s.camera clusters).clusters.flatMap _).Nodup
  rw [hSame]
  exact hClusters.partition.nodup_iff.mpr h.nodup

omit [DecidableEq α] in
/-- A request for clustering is pending from then on. -/
theorem managed_requestCluster (hStored : Stored g s.algorithm) (hDrawn : s.renderer.Drawn)
    (hOnce : (s.renderer.clusters.flatMap GMUStaticCluster.items).Nodup) :
    Managed g late s.requestCluster :=
  ⟨hStored, hDrawn, hOnce, Or.inl (List.mem_append_right _ (List.mem_singleton_self _))⟩

/-- Items that come or go leave what is drawn. -/
theorem Managed.itemsCall (h : Managed g late s) {call : ItemsCall α}
    (hStep : s.itemsCall g call = some s')
    (hNew : AddsNew g ⟨s.algorithm, call, s'.algorithm⟩) :
    Managed g (unclusteredAfter late ⟨s, .items call, s'⟩) s' := by
  rw [GMUClusterManager.itemsCall] at hStep
  obtain ⟨algorithm, hCall, hNext⟩ := Option.map_eq_some_iff.mp hStep
  have hAlgorithm : s'.algorithm = algorithm := by
    rw [← hNext]
    cases call <;> rfl
  have hStored := h.stored.step hCall (hAlgorithm ▸ hNew)
  have hUnseen : Managed g true { s with algorithm } := by
    refine ⟨hStored, h.drawn, h.once, h.settled.imp_right fun hSettled => ?_⟩
    exact ⟨hSettled.zoom, hSettled.inView, fun hSeen => absurd hSeen (by decide)⟩
  cases call with
  | addItems items => exact hNext ▸ hUnseen
  | removeItem item => exact hNext ▸ hUnseen
  | clearItems => exact hNext ▸ managed_requestCluster hStored h.drawn h.once

omit [DecidableEq α] in
/-- The camera asks for a clustering where it needs one. -/
theorem Managed.cameraChanged (h : Managed g late s) (camera : Camera P K) :
    Managed g late (s.cameraChanged g camera) := by
  unfold GMUClusterManager.cameraChanged
  split_ifs with hZoom
  · obtain ⟨hDrawn, hSame, hView⟩ := update_spec g.position camera h.drawn
    refine ⟨h.stored, hDrawn, ?_, h.settled.imp_right fun hSettled => ⟨hZoom, hView, ?_⟩⟩
    · show ((s.renderer.update g.position camera).clusters.flatMap _).Nodup
      rw [hSame]
      exact h.once
    · show late = false → ∃ centers, IsClustering g (integralZoom camera) _ _
        (s.renderer.update g.position camera).clusters
      rw [hSame, ← hZoom, hSettled.zoom]
      exact hSettled.clusters
  · exact managed_requestCluster h.stored h.drawn h.once

/-- **A block runs**: only that of the newest request changes what is rendered. -/
theorem Managed.requestRuns [IsStrictOrderedRing K] (h : Managed g late s) (requestNumber : ℕ) :
    ∃ s', s.requestRuns g requestNumber = some s' ∧
      Managed g (if requestNumber = s.clusterRequestCount then false else late) s' ∧
      s'.algorithm = s.algorithm ∧ s'.camera = s.camera ∧
      s'.waiting = s.waiting.erase requestNumber := by
  unfold GMUClusterManager.requestRuns
  split_ifs with hNewest
  · obtain ⟨s', hCluster, hManaged, -, hAlgorithm, hCamera, hWaiting⟩ :=
      exists_cluster (s := { s with waiting := s.waiting.erase requestNumber }) h.stored
    exact ⟨s', hCluster, hManaged, hAlgorithm, hCamera, hWaiting⟩
  · refine ⟨_, rfl, ⟨h.stored, h.drawn, h.once, ?_⟩, rfl, rfl, rfl⟩
    refine h.settled.imp (List.mem_erase_of_ne (Ne.symm hNewest)).mpr fun hSettled => ?_
    exact ⟨hSettled.zoom, hSettled.inView, hSettled.clusters⟩

/-- **No assertion fails**: what can happen does. -/
theorem Managed.exists_step [IsStrictOrderedRing K] (h : Managed g late s)
    {e : ManagerEvent α P K} (hEnabled : s.Enabled e) : ∃ s', s.step g e = some s' := by
  cases e with
  | items call => cases call <;> exact ⟨_, rfl⟩
  | cluster =>
    obtain ⟨s', hCluster, -⟩ := exists_cluster h.stored
    exact ⟨s', hCluster⟩
  | cameraChanged camera => exact ⟨_, rfl⟩
  | requestRuns requestNumber =>
    obtain ⟨s', hRuns, -⟩ := h.requestRuns requestNumber
    exact ⟨s', (if_pos hEnabled).trans hRuns⟩
  | animationEnds => exact ⟨_, if_neg hEnabled⟩

/-- **One step.** -/
theorem Managed.step [IsStrictOrderedRing K] (h : Managed g late s) {e : ManagerEvent α P K}
    (hStep : s.step g e = some s') (hNew : ManagerAddsNew g ⟨s, e, s'⟩) :
    Managed g (unclusteredAfter late ⟨s, e, s'⟩) s' := by
  cases e with
  | items call => exact h.itemsCall hStep (hNew call rfl)
  | cluster =>
    obtain ⟨next, hCluster, hManaged, -⟩ := exists_cluster h.stored
    obtain rfl := Option.some.inj (hCluster.symm.trans hStep)
    exact hManaged
  | cameraChanged camera =>
    obtain rfl := Option.some.inj hStep
    exact h.cameraChanged camera
  | requestRuns requestNumber =>
    rw [GMUClusterManager.step] at hStep
    split_ifs at hStep
    obtain ⟨next, hRuns, hManaged, -⟩ := h.requestRuns requestNumber
    obtain rfl := Option.some.inj (hRuns.symm.trans hStep)
    exact hManaged
  | animationEnds =>
    rw [GMUClusterManager.step] at hStep
    split_ifs at hStep
    obtain rfl := Option.some.inj hStep
    refine ⟨h.stored, h.drawn, h.once, h.settled.imp_right fun hSettled => ?_⟩
    exact ⟨hSettled.zoom, hSettled.inView, hSettled.clusters⟩

/-- What the steps keep, the run keeps. -/
theorem Managed.run [IsStrictOrderedRing K] (h : Managed g late s)
    (events : List (ManagerEvent α P K))
    (hRun : events.foldlM (GMUClusterManager.step g) s = some s')
    (hNew : ∀ t ∈ transitions (GMUClusterManager.step g) s events, ManagerAddsNew g t) :
    Managed g
      ((transitions (GMUClusterManager.step g) s events).foldl unclusteredAfter late) s' := by
  induction events generalizing s late with
  | nil =>
    cases hRun
    exact h
  | cons e rest ih =>
    rw [List.foldlM_cons] at hRun
    obtain ⟨next, hStep, hRest⟩ := Option.bind_eq_some_iff.mp hRun
    rw [transitions_cons_some hStep] at hNew ⊢
    exact ih (h.step hStep (hNew _ (List.mem_cons_self ..))) hRest fun t ht =>
      hNew t (List.mem_cons_of_mem _ ht)

/-- A run whose events can happen does not fail. -/
theorem Managed.exists_run [IsStrictOrderedRing K] (h : Managed g late s)
    (events : List (ManagerEvent α P K)) (hOrderly : Orderly g s events) :
    ∃ s', events.foldlM (GMUClusterManager.step g) s = some s' ∧
      ∀ t ∈ transitions (GMUClusterManager.step g) s events, ManagerAddsNew g t := by
  induction events generalizing s late with
  | nil => exact ⟨s, rfl, nofun⟩
  | cons e rest ih =>
    obtain ⟨hEnabled, hNext⟩ := hOrderly
    obtain ⟨next, hStep⟩ := h.exists_step hEnabled
    obtain ⟨hNew, hRest⟩ := hNext next hStep
    obtain ⟨s', hRun, hAll⟩ := ih (h.step hStep hNew) hRest
    refine ⟨s', (foldlM_cons_some hStep).trans hRun, ?_⟩
    rw [transitions_cons_some hStep]
    rintro t (_ | ⟨_, ht⟩)
    · exact hNew
    · exact hAll t ht

/-- The blocks that wait, in any order. -/
theorem Managed.requestsRun [IsStrictOrderedRing K] (h : Managed g false s) {order : List ℕ}
    (hOrder : order.Perm s.waiting) :
    ∃ s', (order.map ManagerEvent.requestRuns).foldlM (GMUClusterManager.step g) s = some s' ∧
      Managed g false s' ∧ s'.algorithm = s.algorithm ∧ s'.camera = s.camera ∧ s'.waiting = [] := by
  induction order generalizing s with
  | nil => exact ⟨s, rfl, h, rfl, rfl, hOrder.nil_eq.symm⟩
  | cons requestNumber rest ih =>
    obtain ⟨hMem, hRest⟩ := List.cons_perm_iff_perm_erase.mp hOrder
    obtain ⟨next, hRuns, hManaged, hAlgorithm, hCamera, hWaiting⟩ := h.requestRuns requestNumber
    rw [ite_self] at hManaged
    obtain ⟨s', hFold, hManaged', hAlgorithm', hCamera', hDone⟩ := ih hManaged (hWaiting ▸ hRest)
    refine ⟨s', ?_, hManaged', hAlgorithm'.trans hAlgorithm, hCamera'.trans hCamera, hDone⟩
    rw [List.map_cons, List.foldlM_cons, GMUClusterManager.step, if_pos hMem, hRuns]
    exact hFold

-- ---------------------------------------------------------------------------
-- Every run
-- ---------------------------------------------------------------------------

variable (g) in
/-- **The map settles**: no assertion fails, a block does nothing if its request
is not the newest one, and once the blocks that wait have run, in any order, the
clusters are those of the items at the zoom of the camera, and every cluster in
view is rendered. -/
theorem clusters_settle [IsStrictOrderedRing K] (animatesClusters : Bool)
    (events : List (ManagerEvent α P K))
    (hOrderly : Orderly g (initWithMap camera (.initWithMapView animatesClusters)) events) :
    ∃ s, events.foldlM (GMUClusterManager.step g)
        (initWithMap camera (.initWithMapView animatesClusters)) = some s ∧
      (∀ requestNumber ∈ s.waiting, requestNumber ≠ s.clusterRequestCount →
        s.step g (.requestRuns requestNumber) =
          some { s with waiting := s.waiting.erase requestNumber }) ∧
      (unclustered g (initWithMap camera (.initWithMapView animatesClusters)) events = false →
        ∀ order : List ℕ, order.Perm s.waiting → ∃ s' centers,
          (order.map ManagerEvent.requestRuns).foldlM (GMUClusterManager.step g) s = some s' ∧
          s'.algorithm = s.algorithm ∧ s'.camera = s.camera ∧
          IsClustering g (integralZoom s.camera) s.algorithm.items centers s'.renderer.clusters ∧
          s'.renderer.Drawn ∧ s'.renderer.InView g.position s.camera) := by
  have hInit : Managed g false (initWithMap camera (.initWithMapView animatesClusters)) :=
    managed_initWithMap animatesClusters
  obtain ⟨s, hRun, hNew⟩ := hInit.exists_run events hOrderly
  have hManaged := hInit.run events hRun hNew
  refine ⟨s, hRun, fun requestNumber hMem hStale => ?_, fun hSeen order hOrder => ?_⟩
  · rw [GMUClusterManager.step, if_pos hMem, GMUClusterManager.requestRuns, if_neg hStale]
  · rw [← unclustered, hSeen] at hManaged
    obtain ⟨s', hFold, hManaged', hAlgorithm, hCamera, hDone⟩ := hManaged.requestsRun hOrder
    have hSettled : Settled g false s' := by
      refine hManaged'.settled.resolve_left ?_
      rw [hDone]
      exact List.not_mem_nil
    obtain ⟨centers, hClusters⟩ := hSettled.clusters rfl
    have hView := hSettled.inView
    rw [hAlgorithm, hCamera] at hClusters
    rw [hCamera] at hView
    exact ⟨s', centers, hFold, hAlgorithm, hCamera, hClusters, hManaged'.drawn, hView⟩

/-- The whole map, from a zoom. -/
def zoomedTo {P : Type*} (zoom : ℝ) : Camera P ℝ := { zoom, visible := fun _ => true }

/-- Two items, and a camera that comes closer. -/
noncomputable def equatorVisit : List (ManagerEvent ℕ (ℝ × ℝ) ℝ) :=
  [.items (.addItems [10, 20]), .cluster, .cameraChanged (zoomedTo 8)]

/-- The two points are new and on the map. -/
theorem addsNew_equator :
    AddsNew equator ⟨.init, .addItems [10, 20], .addItems equator .init [10, 20]⟩ := by
  rintro items ⟨⟩
  simp [GMUNonHierarchicalDistanceBasedAlgorithm.init, world_equator]

/-- The visit runs what waits and adds what is new. -/
theorem equatorVisit_orderly :
    Orderly equator (initWithMap (zoomedTo 3) (.initWithMapView true)) equatorVisit := by
  refine ⟨trivial, fun s hAdded => ⟨?_, trivial, fun _ _ => ⟨nofun, trivial, fun _ _ =>
    ⟨nofun, trivial⟩⟩⟩⟩
  obtain rfl := Option.some.inj hAdded
  rintro call ⟨⟩
  exact addsNew_equator

/-- What the visit ends in. -/
theorem equatorVisit_runs :
    ∃ s, equatorVisit.foldlM (GMUClusterManager.step equator)
        (initWithMap (zoomedTo 3) (.initWithMapView true)) = some s ∧
      unclustered equator (initWithMap (zoomedTo 3) (.initWithMapView true)) equatorVisit = false ∧
      (∀ t ∈ transitions (GMUClusterManager.step equator)
        (initWithMap (zoomedTo 3) (.initWithMapView true)) equatorVisit,
        ManagerAddsNew equator t) ∧
      s.algorithm.items = [10, 20] ∧ integralZoom s.camera = 8 := by
  have hZoom : integralZoom (zoomedTo 3 : Camera (ℝ × ℝ) ℝ) = 3 ∧
      integralZoom (zoomedTo 8 : Camera (ℝ × ℝ) ℝ) = 8 := by
    simp only [integralZoom, zoomedTo]
    constructor <;> rw [Nat.floor_eq_iff (by norm_num)] <;> norm_num
  have hStored := stored_init.step rfl addsNew_equator
  obtain ⟨s, hCluster, -, hSettled, hAlgorithm, hCamera, -⟩ := exists_cluster (s :=
    { (initWithMap (zoomedTo 3) (.initWithMapView true) : GMUClusterManager ℕ (ℝ × ℝ) ℝ) with
      algorithm := .addItems equator .init [10, 20] }) hStored
  have hFirst : GMUClusterManager.step equator (initWithMap (zoomedTo 3) (.initWithMapView true))
      (.items (.addItems [10, 20])) = some _ := rfl
  have hLast : GMUClusterManager.step equator s (.cameraChanged (zoomedTo 8)) =
      some { s with camera := zoomedTo 8 }.requestCluster := by
    rw [GMUClusterManager.step, GMUClusterManager.cameraChanged, if_neg]
    rw [hSettled.zoom, hCamera, hZoom.2]
    exact ne_of_eq_of_ne hZoom.1 (by decide)
  have hRun : transitions (GMUClusterManager.step equator) _ equatorVisit = _ :=
    (transitions_cons_some hFirst).trans (congrArg _ ((transitions_cons_some hCluster).trans
      (congrArg _ (transitions_cons_some hLast))))
  refine ⟨{ s with camera := zoomedTo 8 }.requestCluster, ?_, ?_, ?_, ?_, hZoom.2⟩
  · exact (foldlM_cons_some hFirst).trans ((foldlM_cons_some hCluster).trans
      (foldlM_cons_some hLast))
  · rw [unclustered, hRun]
    rfl
  · rw [hRun]
    intro t ht
    simp only [transitions_nil, List.mem_cons, List.not_mem_nil, or_false] at ht
    rcases ht with rfl | rfl | rfl
    · rintro call ⟨⟩
      exact addsNew_equator
    · rintro call ⟨⟩
    · rintro call ⟨⟩
  · show s.algorithm.items = _
    rw [hAlgorithm]
    rfl

theorem clusters_settle_equatorVisit :
    ∃ s s' centers, equatorVisit.foldlM (GMUClusterManager.step equator)
        (initWithMap (zoomedTo 3) (.initWithMapView true)) = some s ∧
      (s.waiting.map ManagerEvent.requestRuns).foldlM (GMUClusterManager.step equator) s = some s' ∧
      IsClustering equator 8 [10, 20] centers s'.renderer.clusters := by
  obtain ⟨s, hRun, hSeen, -, hItems, hZoom⟩ := equatorVisit_runs
  obtain ⟨s₁, hRun₁, -, hSettles⟩ := clusters_settle equator true equatorVisit equatorVisit_orderly
  obtain rfl : s = s₁ := Option.some.inj (hRun.symm.trans hRun₁)
  obtain ⟨s', centers, hFold, -, -, hClusters, -⟩ := hSettles hSeen _ (.refl _)
  rw [hItems, hZoom] at hClusters
  exact ⟨s, s', centers, hRun, hFold, hClusters⟩

variable (g) in
/-- **In every state**, an item is in one marker at most, and a marker stands for
items that one of the clusters has. -/
theorem items_shown_once [IsStrictOrderedRing K] (animatesClusters : Bool)
    (events : List (ManagerEvent α P K))
    (hRun : events.foldlM (GMUClusterManager.step g)
      (initWithMap camera (.initWithMapView animatesClusters)) = some s)
    (hNew : ∀ t ∈ transitions (GMUClusterManager.step g)
      (initWithMap camera (.initWithMapView animatesClusters)) events, ManagerAddsNew g t) :
    (s.renderer.markers.flatMap GMSMarker.items).Nodup ∧
      s.renderer.markers.flatMap GMSMarker.items ⊆
        s.renderer.clusters.flatMap GMUStaticCluster.items := by
  have hManaged := (managed_initWithMap animatesClusters).run events hRun hNew
  have hSubperm := hManaged.drawn.items_subperm
  obtain ⟨items, hPerm, hSublist⟩ := hManaged.drawn.items_subperm
  exact ⟨hPerm.nodup_iff.mp (hManaged.once.sublist hSublist), hSubperm.subset⟩

theorem items_shown_once_equatorVisit :
    ∃ s, equatorVisit.foldlM (GMUClusterManager.step equator)
        (initWithMap (zoomedTo 3) (.initWithMapView true)) = some s ∧
      (s.renderer.markers.flatMap GMSMarker.items).Nodup := by
  obtain ⟨s, hRun, -, hNew, -⟩ := equatorVisit_runs
  exact ⟨s, hRun, (items_shown_once equator true equatorVisit hRun hNew).1⟩

end PriceMap.Clusters
